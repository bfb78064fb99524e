import InterClusterFabric.StoreJournal

/-! The last record of a key that is on disk: the last one the log puts there or, where the log says nothing of the
key, the one the snapshot holds. -/
namespace InterClusterFabric.StoreLatest
open CoreStatus CoreIds CoreTime CoreHash CoreBytes ModelRecords ModelCanonical ModelRegistry ModelRegistryLaws
open StoreMutation StoreWal StoreSnapshot StoreDurable StoreJournal LibraryChecked LibraryReader LibraryLayout

/-- The mutation that logs a record. -/
def putMutation : Record → Mutation
  | .cluster r => .clusterPut r
  | .link r => .linkPut r
  | .path r => .pathPut r
  | .policy r => .policyPut r
  | .contract r => .contractPut r
  | .grant r => .grantPut r
  | .reservation r => .reservationPut r

lemma putMutation_injective {r r' : Record} (h : putMutation r = putMutation r') : r = r' := by
  cases r <;> cases r' <;> simp_all [putMutation]

/-- An entry of the log that puts the record. -/
def Puts (r : Record) (entry : LogRecord) : Prop :=
  entry.kind = .mutation ∧ entry.payload = encodeMutation (putMutation r)

/-- An entry of the log that says something of the key. -/
def Tells (key : Key) (entry : LogRecord) : Prop := ∃ r : Record, r.key = key ∧ Puts r entry

/-- The last entry about the key puts a record with the property. -/
def LastTells (key : Key) (P : Record → Prop) (entries : List LogRecord) : Prop :=
  ∃ before entry after r, entries = before ++ entry :: after ∧ r.key = key ∧ Puts r entry ∧ P r ∧
    ∀ later ∈ after, ¬Tells key later

/-- The snapshot is that of a registry with such a record under the key. -/
def SnapshotTells (key : Key) (P : Record → Prop) (snapshot : Option Bytes) : Prop :=
  ∃ bytes storeMeta registry r, snapshot = some bytes ∧ encodeSnapshot storeMeta registry = .ok bytes ∧
    WellFormed registry ∧ find registry key = some r ∧ P r

/-- The log consists of these entries, whole and one after another. -/
structure Holds (files : Files) (entries : List LogRecord) : Prop where
  log : ∃ header, ValidHeader header ∧ files.wal = some (header ++ frames entries)
  framed : ∀ entry ∈ entries, Appendable none entry

/-- The last record of the key that is on disk has the property. -/
def Durable (key : Key) (P : Record → Prop) (files : Files) : Prop :=
  ∃ entries, Holds files entries ∧ (LastTells key P entries ∨
    (∀ entry ∈ entries, ¬Tells key entry) ∧ SnapshotTells key P files.snapshot)

/-! Encodings. -/

/-- A mutation is written with its kind before it. -/
lemma encodeMutation_inj {m m' : Mutation} (h : encodeMutation m = encodeMutation m') :
    m.kind = m'.kind ∧ m.body = m'.body := by
  have hbound (kind : MutationKind) : kind.ctorIdx < 256 ^ 2 := (kind_ctorIdx_le kind).trans_lt (by decide)
  obtain ⟨hkind, hbody⟩ := List.append_inj h (by simp [putU16])
  refine ⟨?_, hbody⟩
  have hnat := congrArg beNat hkind
  rw [putU16, putU16, beNat_beBytes (hbound _), beNat_beBytes (hbound _)] at hnat
  have hkinds := congrArg MutationKind.ofNat hnat
  rwa [MutationKind.ofNat_ctorIdx, MutationKind.ofNat_ctorIdx] at hkinds

lemma putUuid_append_inj {a b : Uuid} {rest rest' : Bytes} (h : putUuid a ++ rest = putUuid b ++ rest') : a = b := by
  obtain ⟨hid, -⟩ := List.append_inj h (by simp [putUuid])
  have hnat := congrArg beNat hid
  rw [putUuid, putUuid, beNat_beBytes (show a.toNat < 256 ^ 16 from a.isLt),
    beNat_beBytes (show b.toNat < 256 ^ 16 from b.isLt)] at hnat
  exact BitVec.eq_of_toNat_eq hnat

/-- Whatever is written like a put under the key is one. -/
def Distinct (key : Key) : Prop :=
  ∀ m r, r.key = key → encodeMutation m = encodeMutation (putMutation r) → ∃ r', r'.key = key ∧ m = putMutation r'

lemma distinct_grant (id : GrantId) : Distinct (.grant id) := by
  intro m r hkey henc
  obtain ⟨hkind, hbody⟩ := encodeMutation_inj henc
  cases r <;> simp only [Record.key, reduceCtorEq, Key.grant.injEq] at hkey
  rename_i grant
  cases m <;> simp only [putMutation, Mutation.kind, reduceCtorEq] at hkind
  rename_i other
  refine ⟨.grant other, ?_, rfl⟩
  simp only [putMutation, Mutation.body, encodeGrant, List.flatten_cons] at hbody
  rw [Record.key, ← hkey]
  have huuid := putUuid_append_inj hbody
  cases hother : other.id
  cases hgrant : grant.id
  simp_all

lemma distinct_reservation (id : ReservationId) : Distinct (.reservation id) := by
  intro m r hkey henc
  obtain ⟨hkind, hbody⟩ := encodeMutation_inj henc
  cases r <;> simp only [Record.key, reduceCtorEq, Key.reservation.injEq] at hkey
  rename_i reservation
  cases m <;> simp only [putMutation, Mutation.kind, reduceCtorEq] at hkind
  rename_i other
  refine ⟨.reservation other, ?_, rfl⟩
  simp only [putMutation, Mutation.body, encodeReservation, List.flatten_cons] at hbody
  rw [Record.key, ← hkey]
  have huuid := putUuid_append_inj hbody
  cases hother : other.id
  cases hreservation : reservation.id
  simp_all

/-! What the operations of the store do. -/

section Operations

variable {key : Key} {P Q : Record → Prop} {files : Files} {entries : List LogRecord} {entry : LogRecord}

lemma Durable.mono (h : Durable key P files) (hPQ : ∀ r, P r → Q r) : Durable key Q files := by
  obtain ⟨entries, hholds, hlast⟩ := h
  refine ⟨entries, hholds, ?_⟩
  rcases hlast with ⟨before, entry, after, r, heq, hkey, hputs, hP, hafter⟩ | ⟨hsilent, hsnapshot⟩
  · exact .inl ⟨before, entry, after, r, heq, hkey, hputs, hPQ r hP, hafter⟩
  · obtain ⟨bytes, storeMeta, registry, r, hfile, hencode, hformed, hfind, hP⟩ := hsnapshot
    exact .inr ⟨hsilent, bytes, storeMeta, registry, r, hfile, hencode, hformed, hfind, hPQ r hP⟩

/-- An entry has been appended. -/
lemma Holds.append (h : Holds files entries) (hentry : Appendable none entry) :
    Holds (extended files (frameRecord entry)) (entries ++ [entry]) where
  log := by
    obtain ⟨header, hheader, hwal⟩ := h.log
    exact ⟨header, hheader, by simp [extended, hwal, frames]⟩
  framed e he := by
    rcases List.mem_append.mp he with hmem | hmem
    · exact h.framed e hmem
    · rw [List.mem_singleton.mp hmem]
      exact hentry

/-- The entry says nothing of the key. -/
lemma Durable.append (h : Durable key P files) (hentry : Appendable none entry) (hother : ¬Tells key entry) :
    Durable key P (extended files (frameRecord entry)) := by
  obtain ⟨entries, hholds, hlast⟩ := h
  refine ⟨entries ++ [entry], hholds.append hentry, ?_⟩
  rcases hlast with ⟨before, last, after, r, heq, hkey, hputs, hP, hafter⟩ | ⟨hsilent, hsnapshot⟩
  · refine .inl ⟨before, last, after ++ [entry], r, by simp [heq], hkey, hputs, hP, fun later hlater => ?_⟩
    rcases List.mem_append.mp hlater with hmem | hmem
    · exact hafter later hmem
    · rw [List.mem_singleton.mp hmem]
      exact hother
  · refine .inr ⟨fun e he => ?_, hsnapshot⟩
    rcases List.mem_append.mp he with hmem | hmem
    · exact hsilent e hmem
    · rw [List.mem_singleton.mp hmem]
      exact hother

/-- The entry puts a record with the property. -/
lemma Holds.put (h : Holds files entries) (hentry : Appendable none entry) {r : Record} (hkey : r.key = key)
    (hputs : Puts r entry) (hP : P r) : Durable key P (extended files (frameRecord entry)) :=
  ⟨entries ++ [entry], h.append hentry, .inl ⟨entries, entry, [], r, rfl, hkey, hputs, hP, by simp⟩⟩

/-- Nothing of a record that could not be written is left behind. -/
def Clean (fault : AppendFault) : Prop := ∀ kept status, fault = some (kept, status) → kept = 0

/-- A clean write leaves the whole entry behind, or nothing. -/
lemma Holds.write (h : Holds files entries) (store : DurableStore) (kind : RecordKind) (writtenAt : Timestamp)
    (payload : Bytes) {fault : AppendFault} (hclean : Clean fault) :
    ((∃ sequence, (store.write files kind writtenAt payload fault).result = .ok sequence) ∧
      Appendable none ⟨kind, store.nextSequence, writtenAt, payload⟩ ∧
      (store.write files kind writtenAt payload fault).files =
        extended files (frameRecord ⟨kind, store.nextSequence, writtenAt, payload⟩)) ∨
    (∃ status, (store.write files kind writtenAt payload fault).result = .error status) ∧
      (store.write files kind writtenAt payload fault).files = files := by
  unfold DurableStore.write
  cases hadmits : store.wal.admits kind payload with
  | error status => exact .inr ⟨⟨status, rfl⟩, rfl⟩
  | ok u =>
    cases fault with
    | none => exact .inl ⟨⟨_, rfl⟩, admits_appendable hadmits _ _, rfl⟩
    | some fault =>
      obtain ⟨kept, status⟩ := fault
      refine .inr ⟨⟨status, rfl⟩, ?_⟩
      obtain ⟨header, -, hwal⟩ := h.log
      rw [hclean kept status rfl]
      exact Files.ext rfl (by simp [hwal])

lemma Holds.write_holds (h : Holds files entries) (store : DurableStore) (kind : RecordKind) (writtenAt : Timestamp)
    (payload : Bytes) {fault : AppendFault} (hclean : Clean fault) :
    ∃ entries', Holds (store.write files kind writtenAt payload fault).files entries' := by
  rcases h.write store kind writtenAt payload hclean with ⟨-, hentry, hfiles⟩ | ⟨-, hfiles⟩
  · rw [hfiles]
    exact ⟨_, h.append hentry⟩
  · rw [hfiles]
    exact ⟨entries, h⟩

/-- Whatever is written that says nothing else of the key keeps what is there. -/
lemma Durable.write (h : Durable key P files) (store : DurableStore) {kind : RecordKind} {writtenAt : Timestamp}
    {payload : Bytes} {fault : AppendFault} (hclean : Clean fault)
    (htells : ∀ r, r.key = key → Puts r ⟨kind, store.nextSequence, writtenAt, payload⟩ →
      ∃ r', r'.key = key ∧ Puts r' ⟨kind, store.nextSequence, writtenAt, payload⟩ ∧ P r') :
    Durable key P (store.write files kind writtenAt payload fault).files := by
  have ⟨entries, hholds, _⟩ := h
  rcases hholds.write store kind writtenAt payload hclean with ⟨-, hentry, hfiles⟩ | ⟨-, hfiles⟩
  · rw [hfiles]
    by_cases hsays : Tells key ⟨kind, store.nextSequence, writtenAt, payload⟩
    · obtain ⟨r, hkey, hputs⟩ := hsays
      obtain ⟨r', hkey', hputs', hP⟩ := htells r hkey hputs
      exact hholds.put hentry hkey' hputs' hP
    · exact h.append hentry hsays
  · rw [hfiles]
    exact h

lemma Holds.compact (h : Holds files entries) (store : DurableStore) (registry : Registry) (storeMeta : StoreMeta)
    (writtenAt : Timestamp) (stream : IncarnationId) (save reset : Option Status) :
    ∃ entries', Holds (store.compact files registry storeMeta writtenAt stream save reset).files entries' := by
  unfold DurableStore.compact
  cases encodeSnapshot (store.effectiveMeta registry storeMeta writtenAt) registry with
  | error status => exact ⟨entries, h⟩
  | ok bytes =>
    cases save with
    | some status => exact ⟨entries, h⟩
    | none =>
      cases reset with
      | some status => exact ⟨entries, h.log, h.framed⟩
      | none => exact ⟨[], ⟨makeHeader stream ⟨0⟩, makeHeader_valid stream ⟨0⟩, by simp [frames]⟩, by simp⟩

/-- However far a compaction gets, what the registry has under the key is on disk. -/
lemma Durable.compact (h : Durable key P files) (store : DurableStore) {registry : Registry}
    (hformed : WellFormed registry) {r : Record} (hfind : find registry key = some r) (hP : P r)
    (storeMeta : StoreMeta) (writtenAt : Timestamp) (stream : IncarnationId) (save reset : Option Status) :
    Durable key P (store.compact files registry storeMeta writtenAt stream save reset).files := by
  unfold DurableStore.compact
  cases hencode : encodeSnapshot (store.effectiveMeta registry storeMeta writtenAt) registry with
  | error status => exact h
  | ok bytes =>
    have hsnapshot : SnapshotTells key P (some bytes) := ⟨bytes, _, registry, r, rfl, hencode, hformed, hfind, hP⟩
    cases save with
    | some status => exact h
    | none =>
      cases reset with
      | some status =>
        obtain ⟨entries, hholds, hlast⟩ := h
        exact ⟨entries, ⟨hholds.log, hholds.framed⟩, hlast.imp_right fun hrest => ⟨hrest.1, hsnapshot⟩⟩
      | none =>
        exact ⟨[], ⟨⟨makeHeader stream ⟨0⟩, makeHeader_valid stream ⟨0⟩, by simp [frames]⟩, by simp⟩,
          .inr ⟨by simp, hsnapshot⟩⟩

end Operations

/-- A put of another key says nothing of the key. -/
lemma puts_mutation {key : Key} (hkey : Distinct key) {m : Mutation} {r : Record} {sequence : Sequence}
    {writtenAt : Timestamp} (hr : r.key = key) (h : Puts r ⟨.mutation, sequence, writtenAt, encodeMutation m⟩) :
    ∃ r', r'.key = key ∧ m = putMutation r' := hkey m r hr h.2

/-- An opened store holds a log. -/
lemma holds_of_open {options : Options} {stream : IncarnationId} {faults : Faults} {files : Files} {opened : Opened}
    (h : openStore options stream faults files = .ok opened) : ∃ entries, Holds opened.files entries := by
  obtain ⟨entries, hbears⟩ := bears_of_open h
  obtain ⟨header, hheader, hwal⟩ := hbears.log
  exact ⟨entries, ⟨header, hheader, by rw [hwal, List.append_nil]⟩, hbears.framed⟩

/-! A log read by its lengths alone. -/

/-- The payloads of framed entries. -/
def payloadsOf : ℕ → Bytes → List Bytes
  | 0, _ => []
  | _, [] => []
  | fuel + 1, bytes =>
    let length := uintAt bytes 0 4
    slice bytes recordHeaderSize length ::
      payloadsOf fuel (bytes.drop (recordHeaderSize + length + recordTrailerSize))

lemma payloadsOf_frames {entries : List LogRecord} (hframed : ∀ entry ∈ entries, Appendable none entry) {fuel : ℕ}
    (hfuel : entries.length ≤ fuel) : payloadsOf fuel (frames entries) = entries.map LogRecord.payload := by
  induction entries generalizing fuel with
  | nil => cases fuel <;> rfl
  | cons entry rest ih =>
    obtain ⟨fuel, rfl⟩ : ∃ n, fuel = n + 1 := ⟨fuel - 1, by simp at hfuel; omega⟩
    have hbound : entry.payload.length < 256 ^ 4 := lt_of_le_of_lt (hframed entry (by simp)).bounded (by decide)
    have hhead : frames (entry :: rest) = (recordFields entry ++ crcBytes (recordFields entry)) ++
        (entry.payload ++ (crcBytes (recordHead entry) ++ frames rest)) := by
      simp [frames, frameRecord, recordHead]
    have hheader := header_length entry
    have hlength : uintAt (frames (entry :: rest)) 0 4 = entry.payload.length := by
      have hfields : frames (entry :: rest) = List.flatten [beBytes 4 entry.payload.length,
          (frames (entry :: rest)).drop 4] := by
        simp [hhead, recordFields]
      exact uintAt_flatten hfields 0 rfl rfl hbound
    have hpayload : slice (frames (entry :: rest)) recordHeaderSize entry.payload.length = entry.payload :=
      slice_eq hhead hheader rfl
    have hrest : (frames (entry :: rest)).drop (recordHeaderSize + entry.payload.length + recordTrailerSize) =
        frames rest := by
      refine drop_eq (p := frameRecord entry) (by simp [frames]) ?_
      rw [frameRecord_length, recordHeaderSize, recordTrailerSize]
      omega
    have hne : frames (entry :: rest) ≠ [] := by
      intro hnil
      rw [hhead, List.append_eq_nil_iff] at hnil
      rw [hnil.1] at hheader
      cases hheader
    have hstep : payloadsOf (fuel + 1) (frames (entry :: rest)) = slice (frames (entry :: rest)) recordHeaderSize
        (uintAt (frames (entry :: rest)) 0 4) :: payloadsOf fuel ((frames (entry :: rest)).drop
          (recordHeaderSize + uintAt (frames (entry :: rest)) 0 4 + recordTrailerSize)) := by
      cases hframes : frames (entry :: rest) with
      | nil => exact absurd hframes hne
      | cons byte bytes => rfl
    rw [hstep, hlength, hpayload, hrest, ih (fun e he => hframed e (by simp [he])) (by simp at hfuel; omega)]
    rfl

/-- The payloads of a log file. -/
def payloads (files : Files) : List Bytes :=
  payloadsOf (files.wal.getD []).length ((files.wal.getD []).drop walHeaderSize)

lemma Holds.payloads {files : Files} {entries : List LogRecord} (h : Holds files entries) :
    payloads files = entries.map LogRecord.payload := by
  obtain ⟨header, hheader, hwal⟩ := h.log
  rw [StoreLatest.payloads, hwal, Option.getD_some, drop_eq rfl hheader.length]
  refine payloadsOf_frames h.framed ?_
  have hlength := length_le_frames entries
  rw [List.length_append]
  omega

/-- Without a snapshot, what is on disk of a key is among the payloads of the log. -/
lemma Durable.mem_payloads {key : Key} {P : Record → Prop} {files : Files} (h : Durable key P files)
    (hsnapshot : files.snapshot = none) :
    ∃ r, r.key = key ∧ P r ∧ encodeMutation (putMutation r) ∈ payloads files := by
  obtain ⟨entries, hholds, ⟨before, entry, after, r, heq, hkey, hputs, hP, -⟩ | ⟨-, hsnap⟩⟩ := h
  · refine ⟨r, hkey, hP, ?_⟩
    rw [hholds.payloads, ← hputs.2]
    exact List.mem_map_of_mem (by rw [heq]; simp)
  · obtain ⟨bytes, _, _, _, hfile, -⟩ := hsnap
    rw [hsnapshot] at hfile
    cases hfile

/-- The beginning of a logged grant, up to its identity. -/
def grantHead (id : GrantId) : Bytes := putU16 MutationKind.grantPut.ctorIdx ++ putUuid id.uuid

def grantStateOffset : ℕ := 194

lemma encodeGrant_head (grant : GrantRecord) :
    slice (encodeMutation (.grantPut grant)) 0 18 = grantHead grant.id ∧
      slice (encodeMutation (.grantPut grant)) grantStateOffset 1 = putU8 grant.state.ctorIdx := by
  constructor
  · refine slice_eq (p := []) (r := (encodeGrant grant).drop 16) ?_ rfl ?_
    · simp [encodeMutation, Mutation.kind, Mutation.body, grantHead, encodeGrant, putUuid]
    · simp [grantHead, putU16, putUuid]
  · -- the state follows fifteen fields of fixed width
    have hlayout : ∃ fields, encodeMutation (.grantPut grant) = List.flatten fields ∧
        fields[16]? = some (putU8 grant.state.ctorIdx) ∧
        ((fields.map List.length).take 16).sum = grantStateOffset := by
      refine ⟨putU16 MutationKind.grantPut.ctorIdx :: _, rfl, rfl, ?_⟩
      simp [putU16, putUuid, putDigest, putU64, putI64, grantStateOffset]
    obtain ⟨fields, hfields, hstate, hoffset⟩ := hlayout
    exact slice_flatten hfields 16 hstate hoffset (by simp [putU8])

end InterClusterFabric.StoreLatest
