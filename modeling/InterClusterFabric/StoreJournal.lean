import InterClusterFabric.StoreCompaction

/-! A log under way: framed records and perhaps the beginning of one more, which an interrupted append
left behind. Whatever opens the store finds the term that the last record of a term announced. -/
namespace InterClusterFabric.StoreJournal
open CoreStatus CoreIds CoreTime CoreHash CoreBytes ModelRecords ModelRegistry StoreMutation StoreWal
open StoreSnapshot StoreDurable StoreRecovery StoreCompaction LibraryChecked LibraryReader LibraryLayout

/-! Scanning. -/

/-- An intact record is found after any other, or is out of order there. -/
lemma scanHead_after (previous : Option Sequence) {bytes rest : Bytes} {record : LogRecord}
    (h : scanHead none bytes = .intact record rest) :
    scanHead previous bytes = .unordered ∨ scanHead previous bytes = .intact record rest := by
  have hsplit := scanHead_intact h
  by_cases hlater : ∀ p ∈ previous, p < record.sequence
  · right
    rw [hsplit.2]
    exact scanHead_frame ⟨hsplit.1.known, hsplit.1.bounded, hlater⟩ rest
  · left
    unfold scanHead at h ⊢
    obtain ⟨hne, h⟩ := of_ite_intact (by simp) h
    obtain ⟨hheader, h⟩ := of_ite_intact (by simp [torn]) h
    obtain ⟨hcrc, h⟩ := of_ite_intact (by simp [torn]) h
    obtain ⟨hkind, h⟩ := of_ite_intact (by simp [torn]) h
    obtain ⟨hflags, h⟩ := of_ite_intact (by simp [torn]) h
    obtain ⟨hbound, h⟩ := of_ite_intact (by simp [torn]) h
    obtain ⟨-, h⟩ := of_ite_intact (by simp) h
    obtain ⟨-, h⟩ := of_ite_intact (by simp [torn]) h
    obtain ⟨-, h⟩ := of_ite_intact (by simp [torn]) h
    obtain ⟨-, h⟩ := of_ite_intact (by simp [torn]) h
    obtain ⟨-, h⟩ := of_ite_intact (by simp [torn]) h
    rw [Head.intact.injEq] at h
    have hunordered : ∃ p ∈ previous, ¬p < (⟨UInt64.ofNat (uintAt (bytes.take recordHeaderSize) 8 8)⟩ : Sequence) := by
      rw [← h.1] at hlater
      simpa using hlater
    rw [if_neg hne, if_neg hheader, if_neg hcrc, if_neg hkind, if_neg hflags, if_neg hbound, if_pos hunordered]

/-- What an interrupted append leaves of a record. -/
def Torn (tail : Bytes) : Prop :=
  ∃ record n, Appendable none record ∧ n < (frameRecord record).length ∧ tail = (frameRecord record).take n

lemma torn_nil : Torn [] := by
  refine ⟨⟨.snapshotMarker, ⟨0⟩, ⟨0⟩, []⟩, 0, ⟨rfl, Nat.zero_le _, by simp⟩, ?_, by simp⟩
  simp [frameRecord_length]

/-- The beginning of a record is no record. -/
lemma Torn.not_intact {tail rest : Bytes} {previous : Option Sequence} {found : LogRecord} (h : Torn tail) :
    scanHead previous tail ≠ .intact found rest := by
  intro hintact
  obtain ⟨record, n, hrecord, hn, rfl⟩ := h
  obtain ⟨hfound, hprefix⟩ := scanHead_intact hintact
  have hwhole : frameRecord record ++ [] = frameRecord found ++ (rest ++ (frameRecord record).drop n) := by
    rw [← List.append_assoc, ← hprefix, List.append_nil, List.take_append_drop]
  have hleft := scanHead_frame hrecord []
  rw [hwhole, scanHead_frame ⟨hfound.known, hfound.bounded, by simp⟩, Head.intact.injEq] at hleft
  have hnone : (frameRecord record).drop n = [] := (List.append_eq_nil_iff.mp hleft.2).2
  rw [List.drop_eq_nil_iff] at hnone
  omega

/-- What a scan of framed records and a torn tail has found if it succeeds: the records, and nothing of the tail. -/
structure Found {ρ : Type} (visitor : ρ → LogRecord → Result ρ) (records : List LogRecord) (tail : Bytes)
    (scan out : Scan ρ) : Prop where
  visited : visitAll visitor scan.state records = .ok out.state
  last : out.lastSequence = lastOf scan.lastSequence records
  offset : out.offset = scan.offset + (frames records).length
  tail : out.incident = none → tail = []

lemma scanRecords_torn {ρ : Type} {visitor : ρ → LogRecord → Result ρ} {maxRecords fuel : ℕ}
    {records : List LogRecord} {tail : Bytes} {scan out : Scan ρ} (hfuel : records.length < fuel)
    (hframed : ∀ record ∈ records, Appendable none record) (htail : Torn tail)
    (h : scanRecords visitor maxRecords fuel (frames records ++ tail) scan = .ok out) :
    Found visitor records tail scan out := by
  induction records generalizing scan fuel with
  | nil =>
    obtain ⟨fuel, rfl⟩ : ∃ n, fuel = n + 1 := ⟨fuel - 1, by simp at hfuel; omega⟩
    rw [scanRecords] at h
    split at h
    · rename_i hhead
      cases h
      exact ⟨rfl, rfl, by simp [frames], fun _ => by simpa [frames] using scanHead_clean hhead⟩
    · cases h
      exact ⟨rfl, rfl, by simp [frames], by simp⟩
    · cases h
    · rename_i hhead
      exact absurd hhead htail.not_intact
  | cons record rest ih =>
    obtain ⟨fuel, rfl⟩ : ∃ n, fuel = n + 1 := ⟨fuel - 1, by simp at hfuel; omega⟩
    have hframes : frames (record :: rest) ++ tail = frameRecord record ++ (frames rest ++ tail) := by
      simp [frames]
    rw [scanRecords, hframes] at h
    have hfirst := scanHead_after scan.lastSequence (scanHead_frame (hframed record (by simp)) (frames rest ++ tail))
    rcases hfirst with hhead | hhead
    · rw [hhead] at h
      cases h
    · rw [hhead] at h
      obtain ⟨state, hvisit, h⟩ := bind_eq_ok.mp h
      obtain ⟨-, h⟩ := rejectIf_bind_eq_ok.mp h
      have hrest := ih (by simp at hfuel; omega) (fun r hr => hframed r (by simp [hr])) h
      refine ⟨?_, hrest.last, ?_, hrest.tail⟩
      · rw [visitAll, putAll_cons_ok hvisit]
        exact hrest.visited
      · rw [hrest.offset]
        simp only [frames, List.flatMap_cons, List.length_append, frameRecord_length, recordHeaderSize,
          recordTrailerSize]
        omega

lemma scanLog_torn {ρ : Type} {visitor : ρ → LogRecord → Result ρ} {maxRecords : ℕ} {header tail : Bytes}
    {records : List LogRecord} {state : ρ} {out : Scan ρ} (hheader : ValidHeader header)
    (hframed : ∀ record ∈ records, Appendable none record) (htail : Torn tail)
    (h : scanLog visitor maxRecords (header ++ (frames records ++ tail)) state = .ok out) :
    Found visitor records tail { state } out := by
  obtain ⟨-, h⟩ := rejectIf_bind_eq_ok.mp h
  obtain ⟨⟨⟩, -, h⟩ := bind_eq_ok.mp h
  rw [drop_eq rfl hheader.length] at h
  refine scanRecords_torn ?_ hframed htail h
  have hlength := length_le_frames records
  rw [List.length_append, List.length_append, hheader.length, walHeaderSize]
  omega

/-! The term. -/

/-- The log holds these records and then a torn tail; if all of them can be read, they settle on the term,
from the term of the snapshot and from the term itself. -/
structure Bears (term : Term) (files : Files) (records : List LogRecord) (tail : Bytes) : Prop where
  log : ∃ header, ValidHeader header ∧ files.wal = some (header ++ (frames records ++ tail))
  framed : ∀ record ∈ records, Appendable none record
  torn : Torn tail
  settled : (∀ record ∈ records, Readable record) → termAfter term records = term ∧
    ∀ base, StoreDurable.loadState none files = .ok base → termAfter base.storeMeta.term records = term

section Bears

variable {term : Term} {files : Files} {records : List LogRecord} {tail : Bytes}

lemma appendable_of_mem {previous : Option Sequence} {records : List LogRecord} (h : AppendableAll previous records) :
    ∀ record ∈ records, Appendable none record := by
  induction records generalizing previous with
  | nil => simp
  | cons record rest ih =>
    intro r hr
    rcases List.mem_cons.mp hr with rfl | hmem
    · exact ⟨h.1.known, h.1.bounded, by simp⟩
    · exact ih h.2 r hmem

/-- An opened store bears the term it has recovered. -/
lemma bears_of_open {options : Options} {stream : IncarnationId} {faults : Faults} {opened : Opened}
    (h : openStore options stream faults files = .ok opened) :
    ∃ records, Bears opened.recovery.storeMeta.term opened.files records [] := by
  obtain ⟨-, header, records, base, last, hopen⟩ := openStore_ok h
  obtain ⟨-, -, hlast⟩ := visitAll_ok hopen.visited
  have hterm : termAfter base.storeMeta.term records = opened.recovery.storeMeta.term := by
    rw [hopen.term, hlast]
  refine ⟨records, ⟨header, hopen.log.valid, by rw [hopen.left]; simp⟩, appendable_of_mem hopen.log.appendable, torn_nil,
    fun _ => ⟨by rw [← hterm, termAfter_again], fun base' hbase' => ?_⟩⟩
  have hsnapshot : opened.files.snapshot = files.snapshot := by rw [hopen.left]
  obtain ⟨base'', hbase'', -, hmeta⟩ := loadState_wal hsnapshot hopen.loaded
  rw [hbase', Except.ok.injEq] at hbase''
  rw [hbase'', hmeta, hterm]

/-- Whatever opens a log of framed records and a torn tail has visited the records, over the snapshot. -/
lemma openStore_visits {files : Files} {records : List LogRecord} {header tail : Bytes} {options : Options}
    {stream : IncarnationId} {faults : Faults} {opened : Opened} (hheader : ValidHeader header)
    (hwal : files.wal = some (header ++ (frames records ++ tail)))
    (hframed : ∀ record ∈ records, Appendable none record) (htail : Torn tail)
    (hopen : openStore options stream faults files = .ok opened) :
    ∃ base last, StoreDurable.loadState none files = .ok base ∧ visitAll Recovery.visit base records = .ok last ∧
      opened.recovery.registry = last.registry ∧ opened.recovery.storeMeta.term = last.storeMeta.term := by
  obtain ⟨-, hopen⟩ := rejectIf_bind_eq_ok.mp hopen
  obtain ⟨⟨⟩, -, hopen⟩ := bind_eq_ok.mp hopen
  obtain ⟨base, hbase, hopen⟩ := bind_eq_ok.mp hopen
  obtain ⟨log, hlog, hopen⟩ := bind_eq_ok.mp hopen
  cases hopen
  rw [hwal] at hlog
  obtain ⟨scan, hscan, hlog⟩ := bind_eq_ok.mp hlog
  refine ⟨base, scan.state, loadState_none hbase, (scanLog_torn hheader hframed htail hscan).visited, ?_⟩
  cases hincident : scan.incident with
  | none =>
    simp only [hincident] at hlog
    cases hlog
    exact ⟨rfl, rfl⟩
  | some incident =>
    simp only [hincident] at hlog
    obtain ⟨⟨⟩, -, hlog⟩ := bind_eq_ok.mp hlog
    cases hlog
    exact ⟨rfl, rfl⟩

/-- Whatever opens the store finds the term. -/
lemma Bears.recovered (h : Bears term files records tail) {options : Options} {stream : IncarnationId}
    {faults : Faults} {opened : Opened} (hopen : openStore options stream faults files = .ok opened) :
    opened.recovery.storeMeta.term = term := by
  obtain ⟨header, hheader, hwal⟩ := h.log
  obtain ⟨base, last, hbase, hvisit, -, hlast⟩ := openStore_visits hheader hwal h.framed h.torn hopen
  obtain ⟨hread, -, hterm⟩ := visitAll_ok hvisit
  rw [hlast, hterm]
  exact (h.settled hread).2 base hbase

/-- The files with more bytes at the end of the log. -/
def extended (files : Files) (bytes : Bytes) : Files := { files with wal := some (files.wal.getD [] ++ bytes) }

lemma Bears.log_extended (h : Bears term files records tail) (bytes : Bytes) :
    ∃ header, ValidHeader header ∧ (extended files bytes).wal = some (header ++ (frames records ++ (tail ++ bytes))) := by
  obtain ⟨header, hheader, hwal⟩ := h.log
  exact ⟨header, hheader, by simp [extended, hwal]⟩

lemma Bears.extended_nil (h : Bears term files records tail) : extended files [] = files := by
  obtain ⟨header, -, hwal⟩ := h.log
  exact Files.ext rfl (by simp [extended, hwal])

/-- The term a record leaves: the one it announces, if it can be read, or the one there was. -/
def Leaves (term next : Term) (record : LogRecord) : Prop :=
  (Readable record → termOf record = some next) ∨ termOf record = none ∧ next = term

/-- A record has been appended. -/
lemma Bears.append (h : Bears term files records []) {record : LogRecord} {next : Term}
    (hrecord : Appendable none record) (hleaves : Leaves term next record) :
    Bears next (extended files (frameRecord record)) (records ++ [record]) [] where
  log := by
    obtain ⟨header, hheader, hwal⟩ := h.log_extended (frameRecord record)
    exact ⟨header, hheader, by rw [hwal]; simp [frames]⟩
  framed r hr := by
    rcases List.mem_append.mp hr with hmem | hmem
    · exact h.framed r hmem
    · rw [List.mem_singleton.mp hmem]
      exact hrecord
  torn := torn_nil
  settled hread := by
    have hstep (t : Term) : termAfter t (records ++ [record]) = (termOf record).getD (termAfter t records) := by
      simp [termAfter]
    obtain ⟨hsame, hbase⟩ := h.settled fun r hr => hread r (by simp [hr])
    rcases hleaves with hterm | ⟨hnone, rfl⟩
    · have hsome := hterm (hread record (by simp))
      exact ⟨by rw [hstep, hsome, Option.getD_some], fun base _ => by rw [hstep, hsome, Option.getD_some]⟩
    · refine ⟨by rw [hstep, hnone, Option.getD_none, hsame], fun base hload => ?_⟩
      rw [hstep, hnone, Option.getD_none]
      have hsnapshot : files.snapshot = (extended files (frameRecord record)).snapshot := rfl
      obtain ⟨base', hload', -, hmeta⟩ := loadState_wal hsnapshot hload
      rw [← hmeta]
      exact hbase base' hload'

/-- Only the beginning of a record has been appended. -/
lemma Bears.tear (h : Bears term files records []) {record : LogRecord} (hrecord : Appendable none record) {n : ℕ}
    (hn : n < (frameRecord record).length) :
    Bears term (extended files ((frameRecord record).take n)) records ((frameRecord record).take n) where
  log := by
    obtain ⟨header, hheader, hwal⟩ := h.log_extended ((frameRecord record).take n)
    exact ⟨header, hheader, by rw [hwal]; simp⟩
  framed := h.framed
  torn := ⟨record, n, hrecord, hn, rfl⟩
  settled hread := by
    obtain ⟨hsame, hbase⟩ := h.settled hread
    refine ⟨hsame, fun base hload => ?_⟩
    have hsnapshot : files.snapshot = (extended files ((frameRecord record).take n)).snapshot := rfl
    obtain ⟨base', hload', -, hmeta⟩ := loadState_wal hsnapshot hload
    rw [← hmeta]
    exact hbase base' hload'

/-- A snapshot that can be read again holds the term it was given. -/
lemma snapshot_term {registry : Registry} {storeMeta : StoreMeta} {bytes : Bytes} {base : Recovery}
    (hencode : encodeSnapshot storeMeta registry = .ok bytes) (hfiles : files.snapshot = some bytes)
    (hload : StoreDurable.loadState none files = .ok base) : base.storeMeta.term = storeMeta.term := by
  rw [StoreDurable.loadState, hfiles] at hload
  obtain ⟨⟨⟩, -, hload⟩ := bind_eq_ok.mp hload
  obtain ⟨snapshot, hsnapshot, hload⟩ := bind_eq_ok.mp hload
  cases hload
  rw [loadSnapshot_encode hencode, decodeSnapshot_encode hencode] at hsnapshot
  obtain ⟨⟨decoded, rest⟩, -, hsnapshot⟩ := bind_eq_ok.mp hsnapshot
  obtain ⟨-, hsnapshot⟩ := rejectIf_bind_eq_ok.mp hsnapshot
  cases hsnapshot
  exact restored_term storeMeta decoded

/-- The snapshot has been replaced, and the log has not. -/
lemma Bears.save (h : Bears term files records tail) {registry : Registry} {storeMeta : StoreMeta} {bytes : Bytes}
    (hencode : encodeSnapshot storeMeta registry = .ok bytes) (hterm : storeMeta.term = term) :
    Bears term { files with snapshot := some bytes } records tail where
  log := h.log
  framed := h.framed
  torn := h.torn
  settled hread := by
    obtain ⟨hsame, -⟩ := h.settled hread
    refine ⟨hsame, fun base hload => ?_⟩
    rw [snapshot_term hencode rfl hload, hterm, hsame]

/-- Both files have been replaced. -/
lemma bears_reset {registry : Registry} {storeMeta : StoreMeta} {bytes : Bytes} (stream : IncarnationId)
    (hencode : encodeSnapshot storeMeta registry = .ok bytes) (hterm : storeMeta.term = term) :
    Bears term { snapshot := some bytes, wal := some (makeHeader stream ⟨0⟩) } [] [] where
  log := ⟨makeHeader stream ⟨0⟩, makeHeader_valid stream ⟨0⟩, by simp [frames]⟩
  framed := by simp
  torn := torn_nil
  settled _ := ⟨rfl, fun base hload => (snapshot_term hencode rfl hload).trans hterm⟩

end Bears

/-! The operations of the store. -/

/-- Whatever is read for a mutation is of its kind. -/
lemma decodeRecord_kind {m m' : Mutation} {rest : Bytes} (h : decodeRecord.run (encodeMutation m) = .ok (m', rest)) :
    m'.kind = m.kind := by
  obtain ⟨⟨first, rest'⟩, hfirst, hlast⟩ := bind_eq_ok.mp h
  have hsame : m' = first := by
    obtain ⟨⟨⟨⟩, _⟩, -, hlast⟩ := bind_eq_ok.mp hlast
    cases hlast
    rfl
  have hwhole : decodeMutation.run (encodeMutation m ++ []) = .ok (first, rest') := by
    rw [List.append_nil]
    exact hfirst
  rw [hsame]
  exact decodeMutation_kind hwhole

/-- A mutation other than that of a term announces none. -/
lemma leaves_mutation {term : Term} {m : Mutation} (hkind : m.kind ≠ .metaSet) (sequence : Sequence)
    (writtenAt : Timestamp) : Leaves term term ⟨.mutation, sequence, writtenAt, encodeMutation m⟩ := by
  refine .inr ⟨?_, rfl⟩
  simp only [termOf]
  cases hdecode : decodeRecord.run (encodeMutation m) with
  | error e => rfl
  | ok p =>
    obtain ⟨m', rest⟩ := p
    have hsame := decodeRecord_kind hdecode
    cases m' with
    | metaSet term incarnation => exact absurd hsame.symm hkind
    | _ => rfl

/-- The mutation of a term announces it, if it can be read. -/
lemma leaves_term (term next : Term) (incarnation : IncarnationId) (sequence : Sequence) (writtenAt : Timestamp) :
    Leaves term next ⟨.mutation, sequence, writtenAt, encodeMutation (.metaSet next incarnation)⟩ := by
  refine .inl fun hread => ?_
  have hdecodes := decodeRecord_encode (m := .metaSet next incarnation) trivial
  by_cases hloggable : (Mutation.metaSet next incarnation).Loggable
  · simp only [termOf, hdecodes.1 hloggable]
    rfl
  · obtain ⟨e, he⟩ := hdecodes.2 hloggable
    obtain ⟨m, rest, hok⟩ := hread
    rw [he] at hok
    cases hok

lemma leaves_incident (term : Term) (sequence : Sequence) (writtenAt : Timestamp) (text : Bytes) :
    Leaves term term ⟨.incident, sequence, writtenAt, text⟩ := .inr ⟨rfl, rfl⟩

section Operations

variable {term next : Term} {files : Files} {records : List LogRecord} (store : DurableStore)

lemma admits_appendable {wal : Wal} {kind : RecordKind} {payload : Bytes} (h : wal.admits kind payload = .ok ())
    (sequence : Sequence) (writtenAt : Timestamp) : Appendable none ⟨kind, sequence, writtenAt, payload⟩ := by
  simp only [Wal.admits, rejectIf_bind_eq_ok] at h
  obtain ⟨hknown, hbounded, -⟩ := h
  exact ⟨by simpa using hknown, not_lt.mp hbounded, by simp⟩

/-- What becomes of the files when a record is written: nothing, the beginning of the record, or all of it. -/
lemma Bears.write (h : Bears term files records []) (kind : RecordKind) (writtenAt : Timestamp) (payload : Bytes)
    (fault : AppendFault) (hleaves : Leaves term next ⟨kind, store.nextSequence, writtenAt, payload⟩) :
    ((∃ sequence, (store.write files kind writtenAt payload fault).result = .ok sequence) ∧
      ∃ records', Bears next (store.write files kind writtenAt payload fault).files records' []) ∨
    (∃ status, (store.write files kind writtenAt payload fault).result = .error status) ∧
      ((∃ records', Bears next (store.write files kind writtenAt payload fault).files records' []) ∨
        ∃ records' tail, Bears term (store.write files kind writtenAt payload fault).files records' tail ∧
          ((∀ kept status, fault = some (kept, status) → kept = 0) → tail = [])) := by
  unfold DurableStore.write
  cases hadmits : store.wal.admits kind payload with
  | error status => exact .inr ⟨⟨status, rfl⟩, .inr ⟨records, [], h, fun _ => rfl⟩⟩
  | ok u =>
    have hrecord := admits_appendable hadmits store.nextSequence writtenAt
    cases fault with
    | none => exact .inl ⟨⟨_, rfl⟩, _, h.append hrecord hleaves⟩
    | some fault =>
      obtain ⟨kept, status⟩ := fault
      refine .inr ⟨⟨status, rfl⟩, ?_⟩
      by_cases hshort : kept < (frameRecord ⟨kind, store.nextSequence, writtenAt, payload⟩).length
      · refine .inr ⟨records, _, h.tear hrecord hshort, fun hnothing => ?_⟩
        rw [hnothing kept status rfl, List.take_zero]
      · refine .inl ⟨records ++ [⟨kind, store.nextSequence, writtenAt, payload⟩], ?_⟩
        have hall := h.append hrecord hleaves
        rw [extended] at hall
        dsimp only
        rw [List.take_of_length_le (not_lt.mp hshort)]
        exact hall

/-- A write that fails at once leaves the files alone. -/
lemma Bears.write_nothing {tail : Bytes} (h : Bears term files records tail) (kind : RecordKind)
    (writtenAt : Timestamp) (payload : Bytes) (status : Status) :
    (∃ status', (store.write files kind writtenAt payload (some (0, status))).result = .error status') ∧
      (store.write files kind writtenAt payload (some (0, status))).files = files := by
  unfold DurableStore.write
  cases store.wal.admits kind payload with
  | error status' => exact ⟨⟨status', rfl⟩, rfl⟩
  | ok u =>
    refine ⟨⟨status, rfl⟩, ?_⟩
    dsimp only
    rw [List.take_zero]
    exact h.extended_nil

/-- However far a compaction gets, the term stays. -/
lemma Bears.compact {tail : Bytes} (h : Bears term files records tail) (registry : Registry) {storeMeta : StoreMeta}
    (hterm : storeMeta.term = term) (writtenAt : Timestamp) (stream : IncarnationId) (save reset : Option Status) :
    ∃ records' tail', Bears term (store.compact files registry storeMeta writtenAt stream save reset).files
      records' tail' ∧ (tail = [] → tail' = []) := by
  unfold DurableStore.compact
  cases hencode : encodeSnapshot (store.effectiveMeta registry storeMeta writtenAt) registry with
  | error status => exact ⟨records, tail, h, id⟩
  | ok bytes =>
    have hmeta := (effectiveMeta_term store registry storeMeta writtenAt).trans hterm
    cases save with
    | some status => exact ⟨records, tail, h, id⟩
    | none =>
      cases reset with
      | some status => exact ⟨records, tail, h.save hencode hmeta, id⟩
      | none => exact ⟨[], [], bears_reset stream hencode hmeta, fun _ => rfl⟩

lemma compact_nothing (registry : Registry) (storeMeta : StoreMeta) (writtenAt : Timestamp) (stream : IncarnationId)
    (status : Status) (reset : Option Status) :
    (store.compact files registry storeMeta writtenAt stream (some status) reset).files = files := by
  unfold DurableStore.compact
  cases encodeSnapshot (store.effectiveMeta registry storeMeta writtenAt) registry <;> rfl

end Operations

end InterClusterFabric.StoreJournal
