import InterClusterFabric.StoreRecovery

/-! Compaction and crashes. A crash leaves the files as they were after the last replacement that
was completed, which is what `compact` leaves behind when the next replacement fails. -/
namespace InterClusterFabric.StoreCompaction
open CoreStatus CoreIds CoreTime CoreHash CoreBytes ModelRecords ModelCanonicalReads ModelRegistry
open ModelRegistryLaws StoreMutation StoreWal StoreSnapshot StoreDurable StoreReplay StoreRecovery
open LibraryChecked LibraryReader

/-- The registry fits the payload of one snapshot. -/
def Fits (registry : Registry) : Prop :=
  (encodeRegistry registry true).length ≤ Limits.maxStoreRecordPayload

/-- The changes that the records of a log file make. -/
def changesIn (file : Option Bytes) : List Change :=
  (mutations (recordsIn (file.getD []))).map change

/-- The term after replaying a log, whatever the term before it was: the term the log ends with. -/
lemma termAfter_again (term : Term) (records : List LogRecord) :
    termAfter (termAfter term records) records = termAfter term records := by
  have hsettles : ∀ records : List LogRecord, (∀ t, termAfter t records = t) ∨
      ∃ final, ∀ t, termAfter t records = final := by
    intro records
    induction records using List.reverseRecOn with
    | nil => exact .inl fun _ => rfl
    | append_singleton records record ih =>
      have hstep : ∀ t, termAfter t (records ++ [record]) = (termOf record).getD (termAfter t records) :=
        fun t => by simp [termAfter]
      cases hterm : termOf record with
      | some final => exact .inr ⟨final, fun t => by rw [hstep, hterm]; rfl⟩
      | none =>
        rcases ih with h | ⟨final, h⟩
        · exact .inl fun t => by rw [hstep, hterm, h]; rfl
        · exact .inr ⟨final, fun t => by rw [hstep, hterm, h]; rfl⟩
  rcases hsettles records with h | ⟨final, h⟩
  · rw [h]
  · rw [h, h]

lemma loadState_of_load {files : Files} {bytes : Bytes} {snapshot : Snapshot}
    (hfiles : files.snapshot = some bytes) (hload : loadSnapshot bytes = .ok snapshot) :
    loadState none files = .ok
      { registry := snapshot.registry, storeMeta := snapshot.storeMeta, snapshotLoaded := true } := by
  rw [loadState, hfiles]
  exact bind_eq_ok.mpr ⟨(), rfl, bind_eq_ok.mpr ⟨_, hload, rfl⟩⟩

/-- The snapshot of a sane registry is loaded again. -/
lemma loadState_snapshot {registry : Registry} {storeMeta : StoreMeta} {bytes : Bytes} {files : Files}
    (hsane : Sane registry) (hencode : encodeSnapshot storeMeta registry = .ok bytes)
    (hfiles : files.snapshot = some bytes) : ∃ base, loadState none files = .ok base ∧
      base.registry = registry ∧ base.storeMeta.term = storeMeta.term := by
  have hload : loadSnapshot bytes = .ok (restored storeMeta registry) := by
    rw [loadSnapshot_encode hencode]
    exact (decodeSnapshot_of_wellFormed hsane.formed hencode).1 hsane.storable
  exact ⟨_, loadState_of_load hfiles hload, rfl, restored_term storeMeta registry⟩

section Crash

variable {options : Options} {stream : IncarnationId} {faults : Faults} {files : Files} {opened : Opened}

/-- A recovered registry could be written and read again. -/
lemma sane_of_openStore (h : openStore options stream faults files = .ok opened) :
    Sane opened.recovery.registry := by
  obtain ⟨-, header, records, base, last, hopen⟩ := openStore_ok h
  obtain ⟨-, hreplay, -⟩ := visitAll_ok hopen.visited
  rw [hopen.registry]
  refine replay_sane (sane_of_loadState hopen.loaded) (fun m hm => ?_) hreplay
  obtain ⟨record, -, hrecord⟩ := List.mem_filterMap.mp hm
  exact mutationOf_loggable hrecord

/-- Before the first replacement, the files are those that were recovered. -/
lemma recovers_before (h : openStore options stream faults files = .ok opened) :
    Recovers options opened.files opened.recovery.registry opened.recovery.storeMeta.term := by
  obtain ⟨hdirectory, header, records, base, last, hopen⟩ := openStore_ok h
  obtain ⟨hread, hreplay, hlast⟩ := visitAll_ok hopen.visited
  have hwal : opened.files.wal = some (header ++ frames records) := by rw [hopen.left]
  have hsnapshot : opened.files.snapshot = files.snapshot := by rw [hopen.left]
  obtain ⟨base', hbase', hregistry, hmeta⟩ := loadState_wal hsnapshot hopen.loaded
  refine (recovers_iff hdirectory hwal hopen.log hbase').mpr ⟨hread, ?_, ?_⟩
  · rw [hregistry, hopen.registry]
    exact hreplay
  · rw [hmeta, hopen.term, hlast]

/-- Between the two replacements, the old log stands on top of the new snapshot. -/
lemma recovers_between_iff (h : openStore options stream faults files = .ok opened) {storeMeta : StoreMeta}
    {bytes : Bytes} (hterm : storeMeta.term = opened.recovery.storeMeta.term)
    (hencode : encodeSnapshot storeMeta opened.recovery.registry = .ok bytes) :
    Recovers options { opened.files with snapshot := some bytes } opened.recovery.registry
        opened.recovery.storeMeta.term ↔
      Quiet (changesIn opened.files.wal) ∧ Replayable opened.recovery.registry (changesIn opened.files.wal) := by
  obtain ⟨hdirectory, header, records, base, last, hopen⟩ := openStore_ok h
  obtain ⟨hread, hreplay, hlast⟩ := visitAll_ok hopen.visited
  rw [← hopen.registry] at hreplay
  rw [← hopen.term] at hlast
  have hwal : opened.files.wal = some (header ++ frames records) := by rw [hopen.left]
  have hchanges : changesIn opened.files.wal = (mutations records).map change := by
    rw [changesIn, hwal, Option.getD_some, hopen.log.recordsIn]
  set between : Files := { opened.files with snapshot := some bytes } with hfiles
  have hsnapshot : between.snapshot = some bytes := rfl
  have hwal' : between.wal = some (header ++ frames records) := hwal
  obtain ⟨base', hbase', hregistry, hmeta⟩ := loadState_snapshot (sane_of_openStore h) hencode hsnapshot
  rw [recovers_iff hdirectory hwal' hopen.log hbase', hregistry, hmeta, hchanges, ← replay_again hreplay]
  refine ⟨fun h => h.2.1, fun h => ⟨hread, h, ?_⟩⟩
  rw [hterm, hlast, termAfter_again]

/-- After both replacements, the new snapshot stands alone. -/
lemma recovers_after (h : openStore options stream faults files = .ok opened) {storeMeta : StoreMeta}
    {bytes : Bytes} (hterm : storeMeta.term = opened.recovery.storeMeta.term)
    (hencode : encodeSnapshot storeMeta opened.recovery.registry = .ok bytes) (fresh : IncarnationId) :
    Recovers options { snapshot := some bytes, wal := some (makeHeader fresh ⟨0⟩) }
      opened.recovery.registry opened.recovery.storeMeta.term := by
  set after : Files := { snapshot := some bytes, wal := some (makeHeader fresh ⟨0⟩) } with hfiles
  have hsnapshot : after.snapshot = some bytes := rfl
  obtain ⟨base', hbase', hregistry, hmeta⟩ := loadState_snapshot (sane_of_openStore h) hencode hsnapshot
  have hempty : LogFile (makeHeader fresh ⟨0⟩) (makeHeader fresh ⟨0⟩) [] :=
    ⟨makeHeader_valid fresh ⟨0⟩, trivial, Nat.zero_le _, by simp [frames]⟩
  refine (recovers_iff (openStore_ok h).1 rfl hempty hbase').mpr ⟨by simp, ?_, ?_⟩
  · rw [hregistry]
    rfl
  · rw [hmeta]
    exact hterm

lemma effectiveMeta_term (store : DurableStore) (registry : Registry) (storeMeta : StoreMeta)
    (writtenAt : Timestamp) : (store.effectiveMeta registry storeMeta writtenAt).term = storeMeta.term :=
  withDigest_term { storeMeta with sequence := store.wal.lastSequence, writtenAt } registry.digest

/-- A compaction of the recovered registry can be interrupted anywhere exactly when its snapshot
does not fit, or replaying the log over that registry extends no trail and finds all it needs. -/
theorem compact_crash_safe_iff (h : openStore options stream faults files = .ok opened)
    (storeMeta : StoreMeta) (hterm : storeMeta.term = opened.recovery.storeMeta.term) (writtenAt : Timestamp)
    (fresh : IncarnationId) :
    (∀ saveFault resetFault, Recovers options
        (opened.store.compact opened.files opened.recovery.registry storeMeta writtenAt fresh
          saveFault resetFault).files
        opened.recovery.registry opened.recovery.storeMeta.term) ↔
      (Fits opened.recovery.registry →
        Quiet (changesIn opened.files.wal) ∧
          Replayable opened.recovery.registry (changesIn opened.files.wal)) := by
  have hmeta := (effectiveMeta_term opened.store opened.recovery.registry storeMeta writtenAt).trans hterm
  cases hencode : encodeSnapshot (opened.store.effectiveMeta opened.recovery.registry storeMeta writtenAt)
      opened.recovery.registry with
  | error status =>
    -- the registry does not fit, and no file is touched
    have hfits : ¬Fits opened.recovery.registry := by
      intro hfits
      obtain ⟨bytes, hbytes⟩ := exists_encodeSnapshot _ hfits
      cases hencode.symm.trans hbytes
    simp only [DurableStore.compact, hencode, hfits, false_implies, iff_true]
    exact fun _ _ => recovers_before h
  | ok bytes =>
    have hfits : Fits opened.recovery.registry := (encodeSnapshot_eq_ok.mp hencode).1
    simp only [DurableStore.compact, hencode, hfits, forall_const, ← recovers_between_iff h hmeta hencode]
    constructor
    · intro hall
      exact hall none (some (Status.internalError "interrupted"))
    · intro hmiddle saveFault resetFault
      cases saveFault with
      | some status => exact recovers_before h
      | none =>
        cases resetFault with
        | some status => exact hmiddle
        | none => exact recovers_after h hmeta hencode fresh

end Crash

/-! A log with an audit record. -/

def stateOptions : Options := { directory := ascii "state" }

/-- An empty directory is opened, and may be compacted. -/
theorem compact_crash_safe_empty :
    ∃ opened, openStore stateOptions ⟨0⟩ {} {} = .ok opened ∧
      ∀ saveFault resetFault, Recovers stateOptions
        (opened.store.compact opened.files opened.recovery.registry {} ⟨0⟩ ⟨0⟩ saveFault resetFault).files
        opened.recovery.registry opened.recovery.storeMeta.term := by
  have hopen : ∃ opened, openStore stateOptions ⟨0⟩ {} {} = .ok opened ∧
      opened.recovery.storeMeta.term = ⟨0⟩ ∧ opened.files.wal = some (makeHeader ⟨0⟩ ⟨0⟩) := ⟨_, rfl, rfl, rfl⟩
  obtain ⟨opened, hopen, hterm, hwal⟩ := hopen
  refine ⟨opened, hopen, (compact_crash_safe_iff hopen {} hterm.symm ⟨0⟩ ⟨0⟩).mpr fun _ => ?_⟩
  have hempty : LogFile (makeHeader ⟨0⟩ ⟨0⟩) (makeHeader ⟨0⟩ ⟨0⟩) [] :=
    ⟨makeHeader_valid ⟨0⟩ ⟨0⟩, trivial, Nat.zero_le _, by simp [frames]⟩
  have hchanges : changesIn opened.files.wal = [] := by
    rw [changesIn, hwal, Option.getD_some, hempty.recordsIn]
    rfl
  rw [hchanges]
  exact ⟨by simp [Quiet], trivial⟩

/-- The first record of a trail. -/
def firstAudit : AuditRecord := { sequence := ⟨1⟩ }

def auditedRecord : LogRecord := ⟨.mutation, ⟨1⟩, ⟨0⟩, encodeMutation (.auditAppend firstAudit)⟩

/-- A directory whose log holds that record. -/
def auditedFiles : Files := { wal := some (makeHeader ⟨0⟩ ⟨0⟩ ++ frames [auditedRecord]) }

lemma auditedRecord_decodes : decodeRecord.run auditedRecord.payload = .ok (.auditAppend firstAudit, []) := by
  have hlog : (Mutation.auditAppend firstAudit).Loggable := by
    have hempty : TextOk [] := by constructor <;> decide
    exact ⟨hempty, hempty, hempty, hempty⟩
  have hsized : (Mutation.auditAppend firstAudit).WellSized := by
    simp [Mutation.WellSized, AuditSized, Sized, firstAudit]
  exact (decodeRecord_encode hsized).1 hlog

lemma auditedLog : LogFile (makeHeader ⟨0⟩ ⟨0⟩ ++ frames [auditedRecord]) (makeHeader ⟨0⟩ ⟨0⟩) [auditedRecord] := by
  refine ⟨makeHeader_valid ⟨0⟩ ⟨0⟩, ⟨⟨rfl, ?_, by simp⟩, trivial⟩, by decide, rfl⟩
  decide

/-- Between the two replacements the audit record is replayed on the trail that already holds it. -/
theorem compact_crash_audited :
    ∃ opened, openStore stateOptions ⟨0⟩ {} auditedFiles = .ok opened ∧
      ¬∀ saveFault resetFault, Recovers stateOptions
        (opened.store.compact opened.files opened.recovery.registry {} ⟨0⟩ ⟨0⟩ saveFault resetFault).files
        opened.recovery.registry opened.recovery.storeMeta.term := by
  have hvisit : visitAll Recovery.visit {} [auditedRecord] =
      .ok { registry := { audit := [firstAudit] }, mutationsApplied := 1 } := by
    simp only [visitAll, putAll, Recovery.visit, auditedRecord_decodes]
    rfl
  have hbase : loadState none auditedFiles = .ok {} := rfl
  have hwal : auditedFiles.wal = some (makeHeader ⟨0⟩ ⟨0⟩ ++ frames [auditedRecord]) := rfl
  have hdirectory : stateOptions.directory ≠ [] := by decide
  obtain ⟨opened, hopen, hregistry, hterm, hfiles⟩ :=
    openStore_of_visit ⟨0⟩ hdirectory hwal auditedLog hbase hvisit
  have hfits : Fits opened.recovery.registry := by
    rw [hregistry]
    show _ ≤ Limits.maxStoreRecordPayload
    decide
  have hmeta : (opened.store.effectiveMeta opened.recovery.registry {} ⟨0⟩).term =
      opened.recovery.storeMeta.term := by
    rw [effectiveMeta_term, hterm]
  obtain ⟨bytes, hencode⟩ :=
    exists_encodeSnapshot (opened.store.effectiveMeta opened.recovery.registry {} ⟨0⟩) hfits
  refine ⟨opened, hopen, fun hall => ?_⟩
  have hbetween := hall none (some (Status.internalError "interrupted"))
  simp only [DurableStore.compact, hencode] at hbetween
  obtain ⟨hquiet, -⟩ := (recovers_between_iff hopen hmeta hencode).mp hbetween
  refine hquiet firstAudit ?_
  rw [hfiles, changesIn, hwal, Option.getD_some, auditedLog.recordsIn]
  have hmutation : mutationOf auditedRecord = some (.auditAppend firstAudit) := by
    have hkind : auditedRecord.kind = .mutation := rfl
    simp only [mutationOf, hkind, auditedRecord_decodes]
    rfl
  simp [mutations, hmutation, change]

end InterClusterFabric.StoreCompaction
