import InterClusterFabric.LibraryTrace
import InterClusterFabric.StoreLatest

/-! The history of a store directory: openings, appends, compactions and closings in any order. The sequence counter
is rebuilt from the log alone, so it is as good as what the log still says. -/
namespace InterClusterFabric.StoreHistory
open CoreStatus CoreIds CoreTime CoreHash CoreBytes ModelRecords ModelRegistry StoreMutation StoreWal StoreDurable
open StoreSnapshot StoreJournal StoreLatest LibraryChecked LibraryReader LibraryLayout LibraryTrace

/-- A directory, the store that is open on it, and the sequence numbers returned by its appends so far. -/
structure History where
  files : Files := {}
  store : Option DurableStore := none
  returned : List Sequence := []

inductive Event
  | openStore (options : Options) (stream : IncarnationId) (faults : Faults)
  | append (mutation : Mutation) (writtenAt : Timestamp) (fault : AppendFault)
  | appendMeta (storeMeta : StoreMeta) (writtenAt : Timestamp) (fault : AppendFault)
  | appendIncident (text : Bytes) (writtenAt : Timestamp) (fault : AppendFault)
  | compact (registry : Registry) (storeMeta : StoreMeta) (writtenAt : Timestamp) (stream : IncarnationId)
      (saveFault resetFault : Option Status)
  | close

namespace History

/-- What an append leaves behind. -/
def after (history : History) (written : Written Sequence) : History where
  files := written.files
  store := some written.store
  returned := match written.result with
    | .ok sequence => history.returned ++ [sequence]
    | .error _ => history.returned

/-- One event; an operation without an open store does nothing, and neither does an opening that fails. -/
def step (history : History) (event : Event) : History :=
  match event, history.store with
  | .openStore options stream faults, _ =>
    match StoreDurable.openStore options stream faults history.files with
    | .ok opened => { history with files := opened.files, store := some opened.store }
    | .error _ => history
  | .close, _ => { history with store := none }
  | _, none => history
  | .append mutation writtenAt fault, some store =>
    history.after (store.append history.files mutation writtenAt fault)
  | .appendMeta storeMeta writtenAt fault, some store =>
    history.after (store.appendMeta history.files storeMeta writtenAt fault)
  | .appendIncident text writtenAt fault, some store =>
    history.after (store.appendIncident history.files text writtenAt fault)
  | .compact registry storeMeta writtenAt stream saveFault resetFault, some store =>
    let written := store.compact history.files registry storeMeta writtenAt stream saveFault resetFault
    { history with files := written.files, store := some written.store }

variable {history : History}

lemma step_open {options : Options} {stream : IncarnationId} {faults : Faults} {opened : Opened}
    (h : StoreDurable.openStore options stream faults history.files = .ok opened) :
    history.step (.openStore options stream faults) =
      { history with files := opened.files, store := some opened.store } := by
  simp only [step, h]

lemma step_incident {store : DurableStore} (h : history.store = some store) (text : Bytes) (writtenAt : Timestamp)
    (fault : AppendFault) : history.step (.appendIncident text writtenAt fault) =
      history.after (store.appendIncident history.files text writtenAt fault) := by
  simp only [step, h]

lemma step_compact {store : DurableStore} (h : history.store = some store) (registry : Registry)
    (storeMeta : StoreMeta) (writtenAt : Timestamp) (stream : IncarnationId) (saveFault resetFault : Option Status) :
    history.step (.compact registry storeMeta writtenAt stream saveFault resetFault) =
      let written := store.compact history.files registry storeMeta writtenAt stream saveFault resetFault
      { history with files := written.files, store := some written.store } := by
  simp only [step, h]

end History

/-- The record that an append is to write, and how the writing ends. -/
def Event.written : Event → Option (RecordKind × Timestamp × Bytes × AppendFault)
  | .append mutation writtenAt fault => some (.mutation, writtenAt, encodeMutation mutation, fault)
  | .appendMeta storeMeta writtenAt fault =>
    some (.mutation, writtenAt, encodeMutation (.metaSet storeMeta.term storeMeta.incarnation), fault)
  | .appendIncident text writtenAt fault =>
    if Limits.maxStoreRecordPayload < text.length then none else some (.incident, writtenAt, text, fault)
  | _ => none

/-- An opening reports at least what was returned before. -/
def Reports (history : History) (event : Event) : Prop :=
  ∀ options stream faults opened, event = .openStore options stream faults →
    StoreDurable.openStore options stream faults history.files = .ok opened →
    ∀ sequence ∈ history.returned, sequence ≤ opened.recovery.storeMeta.sequence

/-- The log still begins with a record that can be read. -/
def BeginsWithRecord (files : Files) : Prop :=
  ∃ file record rest, files.wal = some file ∧ scanHead none (file.drop walHeaderSize) = .intact record rest

/-- Once a sequence number was returned, the log is not opened empty; and whatever is appended is put behind whole
records, by a store whose counter has room. -/
structure Sound (history : History) (event : Event) : Prop where
  opening : ∀ options stream faults, event = .openStore options stream faults → history.returned ≠ [] →
    BeginsWithRecord history.files
  writing : ∀ store ∈ history.store, ∀ kind writtenAt payload fault,
    event.written = some (kind, writtenAt, payload, fault) → store.wal.admits kind payload = .ok () →
    (∀ status, fault ≠ some (0, status)) →
    (∃ entries, Holds history.files entries) ∧ store.wal.lastSequence < store.nextSequence

/-! The log. -/

/-- Framed records and a torn tail are read in one way only. -/
lemma framed_unique {entries entries' : List LogRecord} {tail : Bytes} (hframed : ∀ e ∈ entries, Appendable none e)
    (hframed' : ∀ e ∈ entries', Appendable none e) (htail : Torn tail)
    (heq : frames entries ++ tail = frames entries') : entries = entries' ∧ tail = [] := by
  have hcons (e : LogRecord) (es : List LogRecord) (rest : Bytes) :
      frames (e :: es) ++ rest = frameRecord e ++ (frames es ++ rest) := by simp [frames]
  induction entries generalizing entries' with
  | nil =>
    cases entries' with
    | nil => exact ⟨rfl, by simpa [frames] using heq⟩
    | cons e' es' =>
      have hhead := scanHead_frame (hframed' e' List.mem_cons_self) (frames es')
      have htailEq : tail = frameRecord e' ++ frames es' := by simpa [frames] using heq
      rw [← htailEq] at hhead
      exact absurd hhead htail.not_intact
  | cons e es ih =>
    have hhead := scanHead_frame (hframed e List.mem_cons_self) (frames es ++ tail)
    rw [← hcons, heq] at hhead
    cases entries' with
    | nil => simp [frames, scanHead] at hhead
    | cons e' es' =>
      have hhead' := scanHead_frame (hframed' e' List.mem_cons_self) (frames es' ++ [])
      rw [← hcons, List.append_nil, hhead, Head.intact.injEq] at hhead'
      obtain ⟨rfl, hrest⟩ := hhead'
      rw [List.append_nil] at hrest
      obtain ⟨rfl, hnil⟩ := ih (fun r hr => hframed r (List.mem_cons_of_mem _ hr))
        (fun r hr => hframed' r (List.mem_cons_of_mem _ hr)) hrest
      exact ⟨rfl, hnil⟩

/-- What an opening of an existing log file leaves. -/
lemma openLog_some {stream : IncarnationId} {fault : Option Status} {recovery : Recovery} {file : Bytes}
    {log : OpenedLog} (h : openLog stream fault recovery (some file) = .ok log) :
    ∃ scan, scanLog Recovery.visit Limits.maxStoreRecords file recovery = .ok scan ∧
      log.wal.lastSequence = scan.lastSequence.getD ⟨0⟩ ∧
      log.recovery.wal.lastSequence = scan.lastSequence.getD ⟨0⟩ ∧
      (scan.incident = none ∧ log.file = file ∨ log.file = file.take scan.offset) := by
  obtain ⟨scan, hscan, h⟩ := bind_eq_ok.mp h
  refine ⟨scan, hscan, ?_⟩
  cases hincident : scan.incident with
  | none =>
    simp only [hincident] at h
    cases h
    exact ⟨rfl, rfl, .inl ⟨rfl, rfl⟩⟩
  | some incident =>
    simp only [hincident] at h
    obtain ⟨⟨⟩, -, h⟩ := bind_eq_ok.mp h
    cases h
    exact ⟨rfl, rfl, .inr rfl⟩

/-- What is left of the log by an opening, and what the store and the report know of it. -/
lemma openStore_log {options : Options} {stream : IncarnationId} {faults : Faults} {files : Files} {opened : Opened}
    (h : StoreDurable.openStore options stream faults files = .ok opened) :
    ∃ base log, openLog stream faults.log base files.wal = .ok log ∧ opened.files.wal = some log.file ∧
      opened.store.wal = log.wal ∧ opened.recovery.storeMeta.sequence = log.recovery.wal.lastSequence := by
  obtain ⟨-, h⟩ := rejectIf_bind_eq_ok.mp h
  obtain ⟨⟨⟩, -, h⟩ := bind_eq_ok.mp h
  obtain ⟨base, -, h⟩ := bind_eq_ok.mp h
  obtain ⟨log, hlog, h⟩ := bind_eq_ok.mp h
  cases h
  exact ⟨base, log, hlog, rfl, rfl, rfl⟩

/-! Runs. -/

/-- The sequence numbers were returned in increasing order, and neither the last record of the log nor the store is
behind them. -/
structure Kept (history : History) (entries : List LogRecord) (tail : Bytes) : Prop where
  log : ∃ header, ValidHeader header ∧ history.files.wal = some (header ++ (frames entries ++ tail))
  framed : ∀ entry ∈ entries, Appendable none entry
  torn : Torn tail
  recorded : ∀ last ∈ lastOf none entries, ∀ sequence ∈ history.returned, sequence ≤ last
  handled : ∀ store ∈ history.store, ∀ sequence ∈ history.returned, sequence ≤ store.wal.lastSequence
  increasing : history.returned.Pairwise (· < ·)

/-- Before the first opening nothing was returned. -/
def Untouched (history : History) : Prop := history.returned = [] ∧ history.store = none

section Steps

variable {history : History} {entries : List LogRecord} {tail : Bytes}

lemma lastOf_eq_none {entries : List LogRecord} (h : lastOf none entries = none) : entries = [] := by
  induction entries using List.reverseRecOn with
  | nil => rfl
  | append_singleton entries entry _ => simp at h

/-- An opening of a log of which nothing was returned yet. -/
lemma kept_first {options : Options} {stream : IncarnationId} {faults : Faults} {opened : Opened}
    (hnone : history.returned = [])
    (h : StoreDurable.openStore options stream faults history.files = .ok opened) :
    ∃ entries, Kept { history with files := opened.files, store := some opened.store } entries [] := by
  obtain ⟨base, log, hlog, hwal, -, -⟩ := openStore_log h
  have hkept (entries : List LogRecord) (header : Bytes) (hheader : ValidHeader header)
      (hframed : ∀ entry ∈ entries, Appendable none entry) (hfile : log.file = header ++ frames entries) :
      Kept { history with files := opened.files, store := some opened.store } entries [] :=
    ⟨⟨header, hheader, by simp only [hwal, hfile, List.append_nil]⟩, hframed, torn_nil, by simp [hnone],
      by simp [hnone], by simp [hnone]⟩
  cases hfile : history.files.wal with
  | none =>
    rw [hfile] at hlog
    obtain ⟨⟨⟩, -, hlog⟩ := bind_eq_ok.mp hlog
    cases hlog
    exact ⟨[], hkept [] _ (makeHeader_valid stream ⟨0⟩) (by simp) (by simp [frames])⟩
  | some file =>
    rw [hfile] at hlog
    obtain ⟨scan, hscan, -, -, hleft⟩ := openLog_some hlog
    obtain ⟨header, records, tail, hheader, rfl, hrecords, -, -, -, -, hoffset, htail⟩ := scanLog_sound hscan
    refine ⟨records, hkept records header hheader (appendable_of_mem hrecords) ?_⟩
    rcases hleft with ⟨hincident, hleft⟩ | hleft
    · rw [hleft, htail hincident, List.append_nil]
    · rw [hleft]
      exact take_eq (List.append_assoc _ _ _).symm (by rw [List.length_append, hheader.length, hoffset])

/-- A log of which a record can be read is opened with a counter that is not behind. -/
lemma Kept.opening (h : Kept history entries tail) {options : Options} {stream : IncarnationId} {faults : Faults}
    {opened : Opened} (hbegins : history.returned ≠ [] → BeginsWithRecord history.files)
    (hopen : StoreDurable.openStore options stream faults history.files = .ok opened) :
    Kept { history with files := opened.files, store := some opened.store } entries [] ∧
      ∀ sequence ∈ history.returned, sequence ≤ opened.recovery.storeMeta.sequence := by
  obtain ⟨header, hheader, hwal⟩ := h.log
  obtain ⟨base, log, hlog, hfile, hhandle, hreport⟩ := openStore_log hopen
  rw [hwal] at hlog
  obtain ⟨scan, hscan, hlast, hlast', hleft⟩ := openLog_some hlog
  have hfound := StoreJournal.scanLog_torn hheader h.framed h.torn hscan
  have hcovers : ∀ sequence ∈ history.returned, sequence ≤ scan.lastSequence.getD ⟨0⟩ := by
    intro sequence hsequence
    rw [hfound.last]
    cases hlastOf : lastOf none entries with
    | some last => exact h.recorded last hlastOf sequence hsequence
    | none =>
      -- then the log begins with its torn tail, which is no record
      obtain ⟨file, record, rest, hfile', hintact⟩ := hbegins (List.ne_nil_of_mem hsequence)
      rw [hwal, Option.some.injEq] at hfile'
      rw [← hfile', lastOf_eq_none hlastOf, drop_eq rfl hheader.length] at hintact
      exact absurd (by simpa [frames] using hintact) h.torn.not_intact
  have hlogFile : log.file = header ++ frames entries := by
    rcases hleft with ⟨hincident, hleft⟩ | hleft
    · rw [hleft, hfound.tail hincident, List.append_nil]
    · rw [hleft, hfound.offset]
      exact take_eq (List.append_assoc _ _ _).symm (by rw [List.length_append, hheader.length])
  refine ⟨⟨⟨header, hheader, by simp only [hfile, hlogFile, List.append_nil]⟩, h.framed, torn_nil, h.recorded, ?_,
    h.increasing⟩, ?_⟩
  · rintro store ⟨⟩ sequence hsequence
    rw [hhandle, hlast]
    exact hcovers sequence hsequence
  · rw [hreport, hlast']
    exact hcovers

/-- A record that is written whole is the last one of the log. -/
lemma Kept.wrote {store : DurableStore} (h : Kept history entries []) (hstore : history.store = some store)
    {record : LogRecord} (hrecord : Appendable none record) (hlast : store.wal.lastSequence < record.sequence)
    (store' : DurableStore) {returned : List Sequence}
    (hreturned : returned = history.returned ∧ store'.wal.lastSequence = store.wal.lastSequence ∨
      returned = history.returned ++ [record.sequence] ∧ store'.wal.lastSequence = record.sequence) :
    Kept ⟨extended history.files (frameRecord record), some store', returned⟩ (entries ++ [record]) [] := by
  obtain ⟨header, hheader, hwal⟩ := h.log
  have hbefore : ∀ sequence ∈ history.returned, sequence < record.sequence := fun sequence hsequence =>
    Counter.lt_of_le_of_lt (h.handled store hstore sequence hsequence) hlast
  have hreturned' : ∀ sequence ∈ returned, sequence ∈ history.returned ∨ sequence = record.sequence := by
    intro sequence hsequence
    rcases hreturned with ⟨rfl, -⟩ | ⟨rfl, -⟩
    · exact .inl hsequence
    · simpa using hsequence
  have hle : ∀ sequence ∈ returned, sequence ≤ record.sequence := by
    intro sequence hsequence
    rcases hreturned' sequence hsequence with hold | rfl
    · exact Counter.le_of_lt (hbefore sequence hold)
    · exact Counter.le_iff.mpr le_rfl
  refine ⟨⟨header, hheader, by simp [extended, hwal, frames]⟩, ?_, torn_nil, ?_, ?_, ?_⟩
  · intro entry hentry
    rcases List.mem_append.mp hentry with hmem | hmem
    · exact h.framed entry hmem
    · rw [List.mem_singleton.mp hmem]
      exact hrecord
  · intro last hlastOf
    rw [lastOf_append, Option.mem_some_iff] at hlastOf
    rw [← hlastOf]
    exact hle
  · rintro _ ⟨⟩ sequence hsequence
    rcases hreturned with ⟨rfl, hsame⟩ | ⟨rfl, hnew⟩
    · rw [hsame]
      exact h.handled store hstore sequence hsequence
    · rw [hnew]
      exact hle sequence hsequence
  · rcases hreturned with ⟨rfl, -⟩ | ⟨rfl, -⟩
    · exact h.increasing
    · refine List.pairwise_append.mpr ⟨h.increasing, List.pairwise_singleton _ _, fun a ha b hb => ?_⟩
      rw [List.mem_singleton.mp hb]
      exact hbefore a ha

/-- A record that is begun and not finished leaves a torn tail. -/
lemma Kept.tore (h : Kept history entries []) {record : LogRecord} (hrecord : Appendable none record) {n : ℕ}
    (hn : n < (frameRecord record).length) :
    Kept { history with files := extended history.files ((frameRecord record).take n) } entries
      ((frameRecord record).take n) := by
  obtain ⟨header, hheader, hwal⟩ := h.log
  exact ⟨⟨header, hheader, by simp [extended, hwal]⟩, h.framed, ⟨record, n, hrecord, hn, rfl⟩, h.recorded, h.handled,
    h.increasing⟩

/-- A log that consists of whole records has no tail. -/
lemma Kept.whole (h : Kept history entries tail) (hholds : ∃ entries, Holds history.files entries) : tail = [] := by
  obtain ⟨entries', hheld⟩ := hholds
  obtain ⟨header, hheader, hwal⟩ := h.log
  obtain ⟨header', hheader', hwal'⟩ := hheld.log
  rw [hwal, Option.some.injEq] at hwal'
  obtain ⟨-, hbody⟩ := List.append_inj hwal' (by rw [hheader.length, hheader'.length])
  exact (framed_unique h.framed hheld.framed h.torn hbody).2

/-- The handle does not say more or less than before. -/
lemma Kept.handle {store store' : DurableStore} (h : Kept history entries tail) (hstore : history.store = some store)
    (hlast : store'.wal.lastSequence = store.wal.lastSequence) {files : Files} (hwal : files.wal = history.files.wal) :
    Kept ⟨files, some store', history.returned⟩ entries tail := by
  obtain ⟨header, hheader, hfile⟩ := h.log
  refine ⟨⟨header, hheader, hwal.trans hfile⟩, h.framed, h.torn, h.recorded, ?_, h.increasing⟩
  rintro _ ⟨⟩ sequence hsequence
  rw [hlast]
  exact h.handled store hstore sequence hsequence

lemma Kept.write {store : DurableStore} (h : Kept history entries tail) (hstore : history.store = some store)
    (kind : RecordKind) (writtenAt : Timestamp) (payload : Bytes) (fault : AppendFault)
    (hsound : store.wal.admits kind payload = .ok () → (∀ status, fault ≠ some (0, status)) →
      (∃ entries, Holds history.files entries) ∧ store.wal.lastSequence < store.nextSequence) :
    ∃ entries' tail', Kept (history.after (store.write history.files kind writtenAt payload fault)) entries' tail' := by
  unfold DurableStore.write
  cases hadmits : store.wal.admits kind payload with
  | error status => exact ⟨entries, tail, h.handle hstore rfl rfl⟩
  | ok _ =>
    set record : LogRecord := ⟨kind, store.nextSequence, writtenAt, payload⟩
    have hrecord : Appendable none record := admits_appendable hadmits store.nextSequence writtenAt
    cases fault with
    | none =>
      obtain ⟨hwhole, hroom⟩ := hsound hadmits (by simp)
      obtain rfl := h.whole hwhole
      exact ⟨entries ++ [record], [], h.wrote hstore hrecord hroom _ (.inr ⟨rfl, rfl⟩)⟩
    | some fault =>
      obtain ⟨kept, status⟩ := fault
      by_cases hnothing : kept = 0
      · subst hnothing
        obtain ⟨header, -, hwal⟩ := h.log
        exact ⟨entries, tail, h.handle hstore rfl (by simp [hwal])⟩
      · obtain ⟨hwhole, hroom⟩ := hsound hadmits (by simp [hnothing])
        obtain rfl := h.whole hwhole
        by_cases hshort : kept < (frameRecord record).length
        · exact ⟨entries, _, (h.tore hrecord hshort).handle hstore rfl rfl⟩
        · -- the record is there, though its number is not returned
          have hwrote := h.wrote hstore hrecord hroom store (.inl ⟨rfl, rfl⟩)
          refine ⟨entries ++ [record], [], ?_⟩
          simp only [History.after, List.take_of_length_le (not_lt.mp hshort)]
          exact hwrote

lemma Kept.compact {store : DurableStore} (h : Kept history entries tail) (hstore : history.store = some store)
    (registry : Registry) (storeMeta : StoreMeta) (writtenAt : Timestamp) (stream : IncarnationId)
    (saveFault resetFault : Option Status) :
    ∃ entries' tail', Kept (history.step (.compact registry storeMeta writtenAt stream saveFault resetFault))
      entries' tail' := by
  simp only [History.step, hstore, DurableStore.compact]
  cases encodeSnapshot (store.effectiveMeta registry storeMeta writtenAt) registry with
  | error status => exact ⟨entries, tail, h.handle hstore rfl rfl⟩
  | ok bytes =>
    cases saveFault with
    | some status => exact ⟨entries, tail, h.handle hstore rfl rfl⟩
    | none =>
      cases resetFault with
      | some status => exact ⟨entries, tail, h.handle hstore rfl rfl⟩
      | none =>
        -- the log is bare; only the handle still knows the last sequence number
        refine ⟨[], [], ⟨makeHeader stream ⟨0⟩, makeHeader_valid stream ⟨0⟩, by simp [frames]⟩, by simp, torn_nil,
          by simp [lastOf], ?_, h.increasing⟩
        rintro _ ⟨⟩ sequence hsequence
        exact h.handled store hstore sequence hsequence

/-- Every sound step of an open history. -/
lemma Kept.step {event : Event} (h : Kept history entries tail) (hsound : Sound history event) :
    ∃ entries' tail', Kept (history.step event) entries' tail' := by
  cases event with
  | openStore options stream faults =>
    simp only [History.step]
    cases hopen : StoreDurable.openStore options stream faults history.files with
    | error status => exact ⟨entries, tail, h⟩
    | ok opened => exact ⟨entries, [], (h.opening (hsound.opening options stream faults rfl) hopen).1⟩
  | close => exact ⟨entries, tail, h.log, h.framed, h.torn, h.recorded, by simp [History.step], h.increasing⟩
  | compact registry storeMeta writtenAt stream saveFault resetFault =>
    cases hstore : history.store with
    | none => exact ⟨entries, tail, by simpa only [History.step, hstore] using h⟩
    | some store => exact h.compact hstore registry storeMeta writtenAt stream saveFault resetFault
  | append mutation writtenAt fault =>
    cases hstore : history.store with
    | none => exact ⟨entries, tail, by simpa only [History.step, hstore] using h⟩
    | some store =>
      simp only [History.step, hstore]
      exact h.write hstore _ _ _ _ (hsound.writing store hstore _ _ _ _ rfl)
  | appendMeta storeMeta writtenAt fault =>
    cases hstore : history.store with
    | none => exact ⟨entries, tail, by simpa only [History.step, hstore] using h⟩
    | some store =>
      simp only [History.step, hstore]
      exact h.write hstore _ _ _ _ (hsound.writing store hstore _ _ _ _ rfl)
  | appendIncident text writtenAt fault =>
    cases hstore : history.store with
    | none => exact ⟨entries, tail, by simpa only [History.step, hstore] using h⟩
    | some store =>
      simp only [History.step, hstore, DurableStore.appendIncident]
      by_cases hlong : Limits.maxStoreRecordPayload < text.length
      · rw [if_pos hlong]
        exact ⟨entries, tail, h.handle hstore rfl rfl⟩
      · rw [if_neg hlong]
        exact h.write hstore _ _ _ _ (hsound.writing store hstore _ _ _ _ (if_neg hlong))

/-- What holds in every state of a sound history. -/
def Good (history : History) : Prop := Untouched history ∨ ∃ entries tail, Kept history entries tail

lemma Good.step {event : Event} (h : Good history) (hsound : Sound history event) : Good (history.step event) := by
  rcases h with ⟨hnone, hclosed⟩ | ⟨entries, tail, h⟩
  · cases event with
    | openStore options stream faults =>
      simp only [History.step]
      cases hopen : StoreDurable.openStore options stream faults history.files with
      | error status => exact .inl ⟨hnone, hclosed⟩
      | ok opened =>
        obtain ⟨entries, hkept⟩ := kept_first hnone hopen
        exact .inr ⟨entries, [], hkept⟩
    | close => exact .inl ⟨hnone, rfl⟩
    | _ =>
      simp only [History.step, hclosed]
      exact .inl ⟨hnone, hclosed⟩
  · exact .inr (h.step hsound)

lemma Good.reports {event : Event} (h : Good history) (hsound : Sound history event) : Reports history event := by
  intro options stream faults opened hevent hopen sequence hsequence
  rcases h with ⟨hnone, -⟩ | ⟨entries, tail, h⟩
  · rw [hnone] at hsequence
    cases hsequence
  · exact (h.opening (hsound.opening options stream faults hevent) hopen).2 sequence hsequence

end Steps

/-- In a history in which no log is opened that was emptied after a number had been returned, and nothing is appended
behind a torn record or under the greatest number, the returned sequence numbers increase strictly, and every opening
reports at least those returned before it. -/
theorem sequences_increase {files : Files} {events : List Event}
    (hsound : EachStep History.step Sound { files } events) :
    (events.foldl History.step { files }).returned.Pairwise (· < ·) ∧
      EachStep History.step Reports { files } events := by
  have hgood (before after : List Event) (heq : events = before ++ after) :
      Good (before.foldl History.step { files }) := by
    refine foldl_invariant (.inl ⟨rfl, rfl⟩) fun first event last hbefore h => ?_
    exact h.step (hsound first event (last ++ after) (by rw [heq, hbefore]; simp))
  constructor
  · rcases hgood events [] (by simp) with ⟨hnone, -⟩ | ⟨entries, tail, h⟩
    · rw [hnone]
      exact List.Pairwise.nil
    · exact h.increasing
  · exact fun before event after heq => (hgood before (event :: after) heq).reports (hsound before event after heq)

/-! A store of one record. -/

/-- An opening of a directory. -/
def openEvent : Event := .openStore { directory := ascii "state" } ⟨0⟩ {}

/-- A record of one byte. -/
def noteEvent : Event := .appendIncident [7] ⟨0⟩ none

def noteRecord : LogRecord := ⟨.incident, ⟨1⟩, ⟨0⟩, [7]⟩

lemma noteRecord_appendable : Appendable none noteRecord := ⟨rfl, by decide, by simp⟩

/-- A store that is opened again after a record reports its number. -/
theorem reopened_note_reported :
    ([openEvent, noteEvent, openEvent].foldl History.step {}).returned.Pairwise (· < ·) ∧
      EachStep History.step Reports {} [openEvent, noteEvent, openEvent] := by
  have hnoted : ([openEvent, noteEvent].foldl History.step {}).files.wal =
      some (makeHeader ⟨0⟩ ⟨0⟩ ++ frameRecord noteRecord) := rfl
  refine @sequences_increase {} _ (.cons ?_ (.cons ?_ (.cons ?_ .nil)))
  · exact ⟨fun _ _ _ _ hreturned => absurd rfl hreturned, fun _ hnone => by cases hnone⟩
  · refine ⟨fun _ _ _ hevent => (by cases hevent), ?_⟩
    rintro store ⟨⟩ kind writtenAt payload fault - - -
    exact ⟨⟨[], ⟨_, makeHeader_valid ⟨0⟩ ⟨0⟩, rfl⟩, by simp⟩, by decide⟩
  · refine ⟨fun _ _ _ _ _ => ⟨_, noteRecord, [], hnoted, ?_⟩, ?_⟩
    · rw [drop_eq rfl (makeHeader_valid ⟨0⟩ ⟨0⟩).length, ← List.append_nil (frameRecord noteRecord)]
      exact scanHead_frame noteRecord_appendable []
    · rintro _ _ _ _ _ _ ⟨⟩

/-! A compaction and the next opening. -/

def compactEvent : Event := .compact {} {} ⟨0⟩ ⟨0⟩ none none

/-- A log that holds no record is opened with a counter at its beginning. -/
lemma openStore_bare {options : Options} {files : Files} {header : Bytes} {base : Recovery}
    (stream : IncarnationId) (hdirectory : options.directory ≠ []) (hheader : ValidHeader header)
    (hwal : files.wal = some header) (hbase : loadState none files = .ok base) :
    ∃ opened, StoreDurable.openStore options stream {} files = .ok opened ∧
      opened.recovery.storeMeta.sequence = ⟨0⟩ ∧ opened.store.nextSequence = ⟨1⟩ ∧
      opened.store.wal = ⟨walHeaderSize, 0, ⟨0⟩⟩ := by
  have hscan : scanLog Recovery.visit Limits.maxStoreRecords header base = .ok
      { state := base, records := 0, lastSequence := none, offset := walHeaderSize } := by
    have h := @scanLog_frames _ Recovery.visit Limits.maxStoreRecords [] header base hheader trivial (Nat.zero_le _)
    rwa [show frames [] = [] from rfl, List.append_nil] at h
  have hopen : ∃ log, openLog stream none base files.wal = .ok log ∧ log.recovery.wal.lastSequence = ⟨0⟩ ∧
      log.wal = ⟨walHeaderSize, 0, ⟨0⟩⟩ := by
    rw [hwal]
    refine ⟨_, bind_eq_ok.mpr ⟨_, hscan, rfl⟩, rfl, ?_⟩
    simp [hheader.length]
  obtain ⟨log, hlog, hlast, hhandle⟩ := hopen
  refine ⟨_, rejectIf_bind_eq_ok.mpr ⟨hdirectory, bind_eq_ok.mpr ⟨(), rfl, bind_eq_ok.mpr ⟨base, hbase,
    bind_eq_ok.mpr ⟨log, hlog, rfl⟩⟩⟩⟩, hlast, ?_, hhandle⟩
  simp only [hhandle]
  rfl

/-- Between a compaction and the next append an opening starts to count at the beginning again. -/
theorem compaction_forgets_sequence :
    ([openEvent, noteEvent, compactEvent, openEvent, noteEvent].foldl History.step {}).returned = [⟨1⟩, ⟨1⟩] ∧
    (∃ opened, StoreDurable.openStore { directory := ascii "state" } ⟨0⟩ {}
        ([openEvent, noteEvent, compactEvent].foldl History.step {}).files = .ok opened ∧
      ([openEvent, noteEvent, compactEvent].foldl History.step {}).returned = [⟨1⟩] ∧
      opened.recovery.storeMeta.sequence = ⟨0⟩) ∧
    ¬∀ (files : Files) (events : List Event), (events.foldl History.step { files }).returned.Pairwise (· < ·) := by
  have hthree (history : History) (a b c : Event) :
      [a, b, c].foldl History.step history = ((history.step a).step b).step c := rfl
  have hfive (history : History) (a b c d e : Event) :
      [a, b, c, d, e].foldl History.step history = ((((history.step a).step b).step c).step d).step e := rfl
  have hnoted : ∃ noted store, (History.step {} openEvent).step noteEvent = noted ∧ noted.store = some store ∧
      noted.returned = [⟨1⟩] := ⟨_, _, rfl, rfl, rfl⟩
  obtain ⟨noted, store, hnoted, hstore, hfirst⟩ := hnoted
  obtain ⟨bytes, hencode⟩ := @exists_encodeSnapshot {} (store.effectiveMeta {} {} ⟨0⟩)
    (by show _ ≤ Limits.maxStoreRecordPayload; decide)
  -- the log is bare afterwards, and so says nothing of the record that was there
  have hcompacted : ∃ history, noted.step compactEvent = history ∧
      history.files = ⟨some bytes, some (makeHeader ⟨0⟩ ⟨0⟩)⟩ ∧ history.returned = [⟨1⟩] := by
    refine ⟨_, History.step_compact hstore {} {} ⟨0⟩ ⟨0⟩ none none, ?_, hfirst⟩
    simp only [DurableStore.compact, hencode]
  obtain ⟨history, hcompact, hfiles, hreturned⟩ := hcompacted
  obtain ⟨base, hbase, -, -⟩ := @StoreCompaction.loadState_snapshot {} _ bytes history.files StoreReplay.empty_sane
    hencode (by rw [hfiles])
  obtain ⟨opened, hopen, hzero, hnext, hhandle⟩ := @openStore_bare { directory := ascii "state" } history.files _ base
    ⟨0⟩ (by decide) (makeHeader_valid ⟨0⟩ ⟨0⟩) (by rw [hfiles]) hbase
  have hagain : ((history.step openEvent).step noteEvent).returned = [⟨1⟩, ⟨1⟩] := by
    have hadmits : opened.store.wal.admits .incident [7] = .ok () := by
      rw [hhandle]
      decide
    have happend : (opened.store.appendIncident opened.files [7] ⟨0⟩ none).result = .ok ⟨1⟩ := by
      rw [DurableStore.appendIncident, if_neg (by decide), DurableStore.write, hadmits, ← hnext]
    rw [openEvent, History.step_open hopen, noteEvent, History.step_incident rfl, History.after, happend]
    exact congrArg (· ++ [⟨1⟩]) hreturned
  rw [hthree, hfive, hnoted, hcompact]
  refine ⟨hagain, ⟨opened, hopen, hreturned, hzero⟩, fun hclaim => ?_⟩
  have hpairwise := hclaim {} [openEvent, noteEvent, compactEvent, openEvent, noteEvent]
  rw [hfive, hnoted, hcompact, hagain] at hpairwise
  exact absurd hpairwise (by decide)

end InterClusterFabric.StoreHistory
