import InterClusterFabric.StoreJournal

/-! What a store recalls of one key. As long as every record that is appended keeps a property of what the
registry has under the key, whatever opens the files finds the property there. -/
namespace InterClusterFabric.StoreRecall
open CoreStatus CoreIds CoreTime CoreHash CoreBytes ModelRecords ModelRegistry ModelRegistryLaws StoreMutation StoreWal
open StoreSnapshot StoreDurable StoreReplay StoreRecovery StoreCompaction StoreJournal LibraryChecked LibraryReader
open LibraryLayout

/-- What becomes of a registry when a log is replayed over it. -/
def replayed (registry : Registry) (records : List LogRecord) : Registry :=
  effects registry ((mutations records).map change)

lemma replayed_snoc (registry : Registry) (records : List LogRecord) (record : LogRecord) :
    replayed registry (records ++ [record]) = replayed (replayed registry records) [record] := by
  simp [replayed, effects, mutations]

/-- A replay overwrites what is under a key, or leaves it. -/
lemma find_replayed (records : List LogRecord) (key : Key) :
    (∃ found, ∀ registry, find (replayed registry records) key = found) ∨
      ∀ registry, find (replayed registry records) key = find registry key := by
  obtain ⟨written, hwritten⟩ := find_effects ((mutations records).map change)
  cases hkey : written key with
  | none => exact .inr fun registry => by rw [replayed, hwritten, hkey, Option.getD_none]
  | some found => exact .inl ⟨found, fun registry => by rw [replayed, hwritten, hkey, Option.getD_some]⟩

/-- The log holds these records and nothing else; if all of them can be read, their replay has the property
under the key, over the snapshot and over every registry that has it already. -/
structure Recalls (key : Key) (Q : Option Record → Prop) (files : Files) (records : List LogRecord) : Prop where
  log : ∃ header, ValidHeader header ∧ files.wal = some (header ++ frames records)
  framed : ∀ record ∈ records, Appendable none record
  settled : (∀ record ∈ records, Readable record) →
    (∀ registry, Q (find registry key) → Q (find (replayed registry records) key)) ∧
      ∀ base, StoreDurable.loadState none files = .ok base → Q (find (replayed base.registry records) key)

section Recalls

variable {key : Key} {Q Q' : Option Record → Prop} {files : Files} {records : List LogRecord}

/-- Opening a store visits its records. -/
lemma visitAll_replayed {base last : Recovery} (h : visitAll Recovery.visit base records = .ok last) :
    (∀ record ∈ records, Readable record) ∧ last.registry = replayed base.registry records := by
  obtain ⟨hread, hreplay, -⟩ := visitAll_ok h
  exact ⟨hread, (replay_eq_ok.mp hreplay).2.2⟩

/-- An opened store recalls what it has recovered. -/
lemma recalls_of_open {options : Options} {stream : IncarnationId} {faults : Faults} {opened : Opened}
    (h : openStore options stream faults files = .ok opened) (hfound : Q (find opened.recovery.registry key)) :
    ∃ records, Recalls key Q opened.files records := by
  obtain ⟨-, header, records, base, last, hopen⟩ := openStore_ok h
  obtain ⟨-, hlast⟩ := visitAll_replayed hopen.visited
  rw [hopen.registry, hlast] at hfound
  refine ⟨records, ⟨header, hopen.log.valid, by rw [hopen.left]⟩, appendable_of_mem hopen.log.appendable,
    fun _ => ⟨fun registry hregistry => ?_, fun base' hbase' => ?_⟩⟩
  · rcases find_replayed records key with ⟨found, hwritten⟩ | hkept
    · rw [hwritten]
      rwa [hwritten] at hfound
    · rwa [hkept]
  · have hsnapshot : opened.files.snapshot = files.snapshot := by rw [hopen.left]
    obtain ⟨base'', hbase'', hregistry, -⟩ := loadState_wal hsnapshot hopen.loaded
    rw [hbase', Except.ok.injEq] at hbase''
    rwa [hbase'', hregistry]

/-- Whatever opens the store finds what the files recall. -/
lemma Recalls.recovered (h : Recalls key Q files records) {options : Options} {stream : IncarnationId}
    {faults : Faults} {opened : Opened} (hopen : openStore options stream faults files = .ok opened) :
    Q (find opened.recovery.registry key) := by
  obtain ⟨header, hheader, hwal⟩ := h.log
  have htail : files.wal = some (header ++ (frames records ++ [])) := by rw [hwal, List.append_nil]
  obtain ⟨base, last, hbase, hvisit, hregistry, -⟩ := openStore_visits hheader htail h.framed torn_nil hopen
  obtain ⟨hread, hlast⟩ := visitAll_replayed hvisit
  rw [hregistry, hlast]
  exact (h.settled hread).2 base hbase

/-- A record takes what has the one property to what has the other. -/
def Leads (key : Key) (Q Q' : Option Record → Prop) (record : LogRecord) : Prop :=
  Readable record → ∀ registry, Q (find registry key) → Q' (find (replayed registry [record]) key)

/-- A record has been appended. -/
lemma Recalls.append (h : Recalls key Q files records) {record : LogRecord} (hrecord : Appendable none record)
    (hless : ∀ found, Q' found → Q found) (hleads : Leads key Q Q' record) :
    Recalls key Q' (extended files (frameRecord record)) (records ++ [record]) where
  log := by
    obtain ⟨header, hheader, hwal⟩ := h.log
    exact ⟨header, hheader, by simp [extended, hwal, frames]⟩
  framed r hr := by
    rcases List.mem_append.mp hr with hmem | hmem
    · exact h.framed r hmem
    · rw [List.mem_singleton.mp hmem]
      exact hrecord
  settled hread := by
    obtain ⟨hagain, hbase⟩ := h.settled fun r hr => hread r (by simp [hr])
    have hlast := hleads (hread record (by simp))
    refine ⟨fun registry hregistry => ?_, fun base hload => ?_⟩
    · rw [replayed_snoc]
      exact hlast _ (hagain registry (hless _ hregistry))
    · have hsnapshot : files.snapshot = (extended files (frameRecord record)).snapshot := rfl
      obtain ⟨base', hload', hregistry, -⟩ := loadState_wal hsnapshot hload
      rw [replayed_snoc, ← hregistry]
      exact hlast _ (hbase base' hload')

/-- A snapshot that can be read again holds the registry it was made of. -/
lemma snapshot_registry {registry : Registry} {storeMeta : StoreMeta} {bytes : Bytes} {base : Recovery}
    (hformed : WellFormed registry) (hencode : encodeSnapshot storeMeta registry = .ok bytes)
    (hfiles : files.snapshot = some bytes) (hload : StoreDurable.loadState none files = .ok base) :
    base.registry = registry := by
  rw [StoreDurable.loadState, hfiles] at hload
  obtain ⟨⟨⟩, -, hload⟩ := bind_eq_ok.mp hload
  obtain ⟨snapshot, hsnapshot, hload⟩ := bind_eq_ok.mp hload
  cases hload
  rw [loadSnapshot_encode hencode] at hsnapshot
  obtain ⟨haccept, hreject⟩ := decodeSnapshot_of_wellFormed hformed hencode
  by_cases hstorable : RegistryStorable registry
  · rw [haccept hstorable] at hsnapshot
    cases hsnapshot
    rfl
  · obtain ⟨e, he⟩ := hreject hstorable
    rw [he] at hsnapshot
    cases hsnapshot

/-- However far a compaction gets, what the registry has under the key is recalled. -/
lemma Recalls.compact (h : Recalls key Q files records) {store : DurableStore} {registry : Registry}
    (hformed : WellFormed registry) (hfound : Q (find registry key)) (storeMeta : StoreMeta) (writtenAt : Timestamp)
    (stream : IncarnationId) (save reset : Option Status) :
    ∃ records', Recalls key Q (store.compact files registry storeMeta writtenAt stream save reset).files records' := by
  unfold DurableStore.compact
  cases hencode : encodeSnapshot (store.effectiveMeta registry storeMeta writtenAt) registry with
  | error status => exact ⟨records, h⟩
  | ok bytes =>
    cases save with
    | some status => exact ⟨records, h⟩
    | none =>
      cases reset with
      | some status =>
        refine ⟨records, h.log, h.framed, fun hread => ⟨(h.settled hread).1, fun base hload => ?_⟩⟩
        rw [snapshot_registry hformed hencode rfl hload]
        exact (h.settled hread).1 registry hfound
      | none =>
        refine ⟨[], ⟨makeHeader stream ⟨0⟩, makeHeader_valid stream ⟨0⟩, by simp [frames]⟩, by simp,
          fun _ => ⟨fun _ hregistry => hregistry, fun base hload => ?_⟩⟩
        rw [snapshot_registry hformed hencode rfl hload]
        exact hfound

/-- A write to a file system that does not fail: the record is there, or it was refused and nothing is. -/
lemma Recalls.write (h : Recalls key Q files records) (store : DurableStore) (kind : RecordKind)
    (writtenAt : Timestamp) (payload : Bytes) (hless : ∀ found, Q' found → Q found)
    (hleads : Leads key Q Q' ⟨kind, store.nextSequence, writtenAt, payload⟩) :
    ((∃ sequence, (store.write files kind writtenAt payload none).result = .ok sequence) ∧
      ∃ records', Recalls key Q' (store.write files kind writtenAt payload none).files records') ∨
    (∃ status, (store.write files kind writtenAt payload none).result = .error status) ∧
      (store.write files kind writtenAt payload none).files = files := by
  unfold DurableStore.write
  cases hadmits : store.wal.admits kind payload with
  | error status => exact .inr ⟨⟨status, rfl⟩, rfl⟩
  | ok u => exact .inl ⟨⟨_, rfl⟩, _, h.append (admits_appendable hadmits store.nextSequence writtenAt) hless hleads⟩

lemma Recalls.write_same (h : Recalls key Q files records) {store : DurableStore} (kind : RecordKind)
    (writtenAt : Timestamp) (payload : Bytes) (hleads : Leads key Q Q ⟨kind, store.nextSequence, writtenAt, payload⟩) :
    ∃ records', Recalls key Q (store.write files kind writtenAt payload none).files records' := by
  rcases h.write store kind writtenAt payload (fun _ hfound => hfound) hleads with ⟨-, hsame⟩ | ⟨-, hfiles⟩
  · exact hsame
  · rw [hfiles]
    exact ⟨records, h⟩

end Recalls

/-! Records. -/

section Records

variable {key : Key} {Q Q' : Option Record → Prop} {sequence : Sequence} {writtenAt : Timestamp}

/-- A record with no mutation changes no registry. -/
lemma leads_incident (text : Bytes) : Leads key Q Q ⟨.incident, sequence, writtenAt, text⟩ :=
  fun _ _ hfound => hfound

/-- What the change of a mutation leads to, and that of whatever is read for it. -/
lemma leads_mutation {m : Mutation} (hsized : m.WellSized)
    (h : ∀ registry, Q (find registry key) → Q' (find ((change m.canonical).effect registry) key)) :
    Leads key Q Q' ⟨.mutation, sequence, writtenAt, encodeMutation m⟩ := by
  intro hread registry hfound
  obtain ⟨haccept, hreject⟩ := decodeRecord_encode hsized
  by_cases hlog : m.Loggable
  · have hmutations : mutations [⟨.mutation, sequence, writtenAt, encodeMutation m⟩] = [m.canonical] := by
      simp [mutations, mutationOf, haccept hlog, Except.toOption]
    rw [replayed, hmutations]
    exact h registry hfound
  · obtain ⟨e, he⟩ := hreject hlog
    obtain ⟨m', rest, hok⟩ := hread
    rw [he] at hok
    cases hok

/-- Whatever is made of the bytes of a mutation, it has the kind of the mutation. -/
lemma leads_of_kind {m : Mutation} (h : ∀ m', m'.kind = m.kind → ∀ registry, find ((change m').effect registry) key =
      find registry key) : Leads key Q Q ⟨.mutation, sequence, writtenAt, encodeMutation m⟩ := by
  intro hread registry hfound
  obtain ⟨m', rest, hdecode⟩ := hread
  have hmutations : mutations [⟨.mutation, sequence, writtenAt, encodeMutation m⟩] = [m'] := by
    simp [mutations, mutationOf, hdecode, Except.toOption]
  rw [replayed, hmutations]
  show Q (find ((change m').effect registry) key)
  rw [h m' (decodeRecord_kind hdecode)]
  exact hfound

end Records

end InterClusterFabric.StoreRecall
