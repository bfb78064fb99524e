import InterClusterFabric.StoreDurable
import InterClusterFabric.StoreReplay

/-! Recovery of a store: what `open` makes of the two files, in terms of the records of the log. -/
namespace InterClusterFabric.StoreRecovery
open CoreStatus CoreIds CoreTime CoreHash CoreBytes ModelRecords ModelCanonical ModelCanonicalReads
open ModelRegistry ModelRegistryLaws StoreMutation StoreWal StoreSnapshot StoreDurable StoreReplay
open LibraryChecked LibraryReader LibraryLayout

/-- A record the visitor can read. -/
def Readable (record : LogRecord) : Prop :=
  match record.kind with
  | .mutation => ∃ m rest, decodeRecord.run record.payload = .ok (m, rest)
  | .storeMeta => ∃ p rest, decodeMeta.run record.payload = .ok (p, rest)
  | .invalid => False
  | _ => True

/-- The mutation a record holds. -/
def mutationOf (record : LogRecord) : Option Mutation :=
  match record.kind with
  | .mutation => (decodeRecord.run record.payload).toOption.map Prod.fst
  | _ => none

/-- The term a record sets. -/
def termOf (record : LogRecord) : Option Term :=
  match record.kind with
  | .mutation =>
    match (decodeRecord.run record.payload).toOption with
    | some (.metaSet term _, _) => some term
    | _ => none
  | .storeMeta => (decodeMeta.run record.payload).toOption.map fun p => p.1.1
  | _ => none

def mutations (records : List LogRecord) : List Mutation := records.filterMap mutationOf

def termAfter (term : Term) (records : List LogRecord) : Term :=
  records.foldl (fun term record => (termOf record).getD term) term

/-! One record. -/

/-- A record is read back exactly when its mutation is loggable. -/
lemma decodeRecord_encode {m : Mutation} (h : m.WellSized) :
    (m.Loggable → decodeRecord.run (encodeMutation m) = .ok (m.canonical, [])) ∧
      (¬m.Loggable → ∃ e, decodeRecord.run (encodeMutation m) = .error e) := by
  have hreads := mutation_reads h
  have hrun : decodeRecord.run (encodeMutation m) = decodeMutation.run (encodeMutation m) >>= fun x =>
      (do expectEnd; return x.1 : ByteReader Mutation).run x.2 := rfl
  rw [hrun]
  constructor
  · intro hlog
    rw [hreads.run_eq hlog]
    rfl
  · intro hlog
    obtain ⟨e, he⟩ := hreads.reject hlog []
    rw [List.append_nil] at he
    exact ⟨e, by rw [he]; rfl⟩

lemma replay_ok {recovery next : Recovery} {m : Mutation} (h : recovery.replay m = .ok next) :
    applyMutation recovery.registry m = .ok next.registry ∧
      next.storeMeta.term = match m with
        | .metaSet term _ => term
        | _ => recovery.storeMeta.term := by
  cases m with
  | metaSet term incarnation =>
    cases h
    exact ⟨rfl, rfl⟩
  | _ =>
    obtain ⟨registry, happly, hnext⟩ := bind_eq_ok.mp h
    cases hnext
    exact ⟨happly, rfl⟩

lemma replay_of_apply {recovery : Recovery} {registry : Registry} {m : Mutation}
    (h : applyMutation recovery.registry m = .ok registry) : ∃ next, recovery.replay m = .ok next := by
  cases m with
  | metaSet term incarnation => exact ⟨_, rfl⟩
  | _ => exact ⟨_, bind_eq_ok.mpr ⟨registry, h, rfl⟩⟩

lemma putAll_singleton {registry r' : Registry} {m : Mutation} :
    putAll applyMutation registry [m] = .ok r' ↔ applyMutation registry m = .ok r' := by
  simp [putAll, bind_eq_ok]

lemma visit_ok {recovery next : Recovery} {record : LogRecord} (h : recovery.visit record = .ok next) :
    Readable record ∧ putAll applyMutation recovery.registry (mutationOf record).toList = .ok next.registry ∧
      next.storeMeta.term = (termOf record).getD recovery.storeMeta.term := by
  obtain ⟨kind, sequence, writtenAt, payload⟩ := record
  cases kind with
  | invalid => cases h
  | snapshotMarker =>
    cases h
    exact ⟨trivial, rfl, rfl⟩
  | incident =>
    cases h
    exact ⟨trivial, rfl, rfl⟩
  | storeMeta =>
    obtain ⟨⟨⟨term, incarnation⟩, rest⟩, hdecode, hnext⟩ := bind_eq_ok.mp h
    cases hnext
    refine ⟨⟨_, _, hdecode⟩, rfl, ?_⟩
    simp only [termOf, hdecode]
    rfl
  | mutation =>
    obtain ⟨⟨m, rest⟩, hdecode, hreplay⟩ := bind_eq_ok.mp h
    obtain ⟨happly, hterm⟩ := replay_ok hreplay
    refine ⟨⟨_, _, hdecode⟩, ?_, ?_⟩
    · simp only [mutationOf, hdecode, Except.toOption, Option.map_some, Option.toList_some]
      exact putAll_singleton.mpr happly
    · rw [hterm]
      simp only [termOf, hdecode, Except.toOption]
      cases m <;> rfl

lemma visit_of_replay {recovery : Recovery} {registry : Registry} {record : LogRecord}
    (hread : Readable record)
    (h : putAll applyMutation recovery.registry (mutationOf record).toList = .ok registry) :
    ∃ next, recovery.visit record = .ok next := by
  obtain ⟨kind, sequence, writtenAt, payload⟩ := record
  cases kind with
  | invalid => exact hread.elim
  | snapshotMarker => exact ⟨_, rfl⟩
  | incident => exact ⟨_, rfl⟩
  | storeMeta =>
    obtain ⟨p, rest, hdecode⟩ := hread
    exact ⟨_, bind_eq_ok.mpr ⟨_, hdecode, rfl⟩⟩
  | mutation =>
    obtain ⟨m, rest, hdecode⟩ := hread
    simp only [mutationOf, hdecode, Except.toOption, Option.map_some, Option.toList_some] at h
    obtain ⟨next, hnext⟩ := replay_of_apply (putAll_singleton.mp h)
    exact ⟨next, bind_eq_ok.mpr ⟨_, hdecode, hnext⟩⟩

lemma mutationOf_loggable {record : LogRecord} {m : Mutation} (h : mutationOf record = some m) :
    m.Loggable := by
  obtain ⟨kind, sequence, writtenAt, payload⟩ := record
  cases kind with
  | mutation =>
    simp only [mutationOf] at h
    cases hdecode : decodeRecord.run payload with
    | error e => simp [hdecode, Except.toOption] at h
    | ok p =>
      simp only [hdecode, Except.toOption, Option.map_some, Option.some.injEq] at h
      subst h
      have hyields : Yields decodeRecord Mutation.Loggable :=
        Yields.bind mutation_yields fun m hm => Yields.skip fun _ => Yields.pure hm
      exact hyields payload p.1 p.2 hdecode
  | _ => cases h

/-! The whole log. -/

lemma putAll_append {σ α ε : Type} {put : σ → α → Except ε σ} {acc out : σ} {xs ys : List α} :
    putAll put acc (xs ++ ys) = .ok out ↔ ∃ mid, putAll put acc xs = .ok mid ∧ putAll put mid ys = .ok out := by
  induction xs generalizing acc with
  | nil => simp
  | cons x xs ih =>
    simp only [List.cons_append, putAll, bind_eq_ok, ih]
    constructor
    · rintro ⟨next, hnext, mid, hmid, hout⟩
      exact ⟨mid, ⟨next, hnext, hmid⟩, hout⟩
    · rintro ⟨mid, ⟨next, hnext, hmid⟩, hout⟩
      exact ⟨next, hnext, mid, hmid, hout⟩

lemma mutations_cons (record : LogRecord) (records : List LogRecord) :
    mutations (record :: records) = (mutationOf record).toList ++ mutations records := by
  cases h : mutationOf record <;> simp [mutations, h]

lemma visitAll_ok {recovery next : Recovery} {records : List LogRecord}
    (h : visitAll Recovery.visit recovery records = .ok next) :
    (∀ record ∈ records, Readable record) ∧
      putAll applyMutation recovery.registry (mutations records) = .ok next.registry ∧
      next.storeMeta.term = termAfter recovery.storeMeta.term records := by
  induction records generalizing recovery with
  | nil =>
    cases h
    exact ⟨by simp, rfl, rfl⟩
  | cons record rest ih =>
    obtain ⟨mid, hmid, hrest⟩ := bind_eq_ok.mp h
    obtain ⟨hread, hregistry, hterm⟩ := visit_ok hmid
    obtain ⟨hreads, hregistries, hterms⟩ := ih hrest
    refine ⟨List.forall_mem_cons.mpr ⟨hread, hreads⟩, ?_, ?_⟩
    · rw [mutations_cons]
      exact putAll_append.mpr ⟨_, hregistry, hregistries⟩
    · rw [hterms, hterm]
      rfl

lemma visitAll_of_replay {recovery : Recovery} {registry : Registry} {records : List LogRecord}
    (hread : ∀ record ∈ records, Readable record)
    (h : putAll applyMutation recovery.registry (mutations records) = .ok registry) :
    ∃ next, visitAll Recovery.visit recovery records = .ok next := by
  induction records generalizing recovery with
  | nil => exact ⟨recovery, rfl⟩
  | cons record rest ih =>
    rw [mutations_cons] at h
    obtain ⟨mid, hmid, hrest⟩ := putAll_append.mp h
    obtain ⟨hhead, htail⟩ := List.forall_mem_cons.mp hread
    obtain ⟨next, hnext⟩ := visit_of_replay hhead hmid
    have hregistry : mid = next.registry := by
      have := (visit_ok hnext).2.1
      rw [hmid] at this
      exact Except.ok.inj this
    rw [hregistry] at hrest
    obtain ⟨final, hfinal⟩ := ih htail hrest
    exact ⟨final, bind_eq_ok.mpr ⟨next, hnext, hfinal⟩⟩

/-! Opening the two files. -/

/-- A log file without a torn tail. -/
structure LogFile (file header : Bytes) (records : List LogRecord) : Prop where
  valid : ValidHeader header
  appendable : AppendableAll none records
  bounded : records.length ≤ Limits.maxStoreRecords
  layout : file = header ++ frames records

/-- The records of a log file. -/
def recordsIn (file : Bytes) : List LogRecord :=
  match scanLog pushBack Limits.maxStoreRecords file [] with
  | .ok scan => scan.state
  | .error _ => []

lemma LogFile.recordsIn {file header : Bytes} {records : List LogRecord} (h : LogFile file header records) :
    recordsIn file = records := by
  have hvisit : visitAll pushBack [] records = .ok ([] ++ records) := putAll_pushBack [] records
  rw [StoreRecovery.recordsIn, h.layout, scanLog_frames [] h.valid h.appendable h.bounded, hvisit]
  rfl

lemma sane_of_decodeSnapshot {bytes : Bytes} {snapshot : Snapshot} (h : decodeSnapshot bytes = .ok snapshot) :
    Sane snapshot.registry := by
  simp only [decodeSnapshot, rejectIf_bind_eq_ok] at h
  obtain ⟨-, -, -, -, -, -, -, -, -, h⟩ := h
  obtain ⟨⟨registry, rest⟩, hdecode, h⟩ := bind_eq_ok.mp h
  obtain ⟨-, h⟩ := rejectIf_bind_eq_ok.mp h
  cases h
  exact registry_yields _ _ _ hdecode

/-- The fault of a read only makes it fail. -/
lemma loadState_none {fault : Option Status} {files : Files} {base : Recovery}
    (h : loadState fault files = .ok base) : loadState none files = .ok base := by
  obtain ⟨snapshot, wal⟩ := files
  cases snapshot with
  | none => exact h
  | some file =>
    cases fault with
    | none => exact h
    | some status => cases h

lemma sane_of_loadState {files : Files} {base : Recovery} (h : loadState none files = .ok base) :
    Sane base.registry := by
  obtain ⟨snapshot, wal⟩ := files
  cases snapshot with
  | none =>
    cases h
    exact empty_sane
  | some file =>
    obtain ⟨⟨⟩, -, h⟩ := bind_eq_ok.mp h
    obtain ⟨snapshot, hload, hbase⟩ := bind_eq_ok.mp h
    cases hbase
    obtain ⟨-, hdecode⟩ := rejectIf_bind_eq_ok.mp hload
    exact sane_of_decodeSnapshot hdecode

/-- The snapshot part of a recovery does not depend on the log. -/
lemma loadState_wal {files files' : Files} {base : Recovery} (hsnapshot : files'.snapshot = files.snapshot)
    (h : loadState none files = .ok base) : ∃ base', loadState none files' = .ok base' ∧
      base'.registry = base.registry ∧ base'.storeMeta = base.storeMeta := by
  obtain ⟨snapshot, wal⟩ := files
  obtain ⟨snapshot', wal'⟩ := files'
  cases hsnapshot
  cases snapshot with
  | none =>
    cases h
    exact ⟨_, rfl, rfl, rfl⟩
  | some file => exact ⟨base, h, rfl, rfl⟩

/-- What a successful `open` has read, and what it leaves behind. -/
structure Recovered (files : Files) (opened : Opened) (header : Bytes) (records : List LogRecord)
    (base last : Recovery) : Prop where
  log : LogFile (header ++ frames records) header records
  left : opened.files = { files with wal := some (header ++ frames records) }
  loaded : loadState none files = .ok base
  visited : visitAll Recovery.visit base records = .ok last
  registry : opened.recovery.registry = last.registry
  term : opened.recovery.storeMeta.term = last.storeMeta.term

lemma openStore_ok {options : Options} {stream : IncarnationId} {faults : Faults} {files : Files}
    {opened : Opened} (h : openStore options stream faults files = .ok opened) :
    options.directory ≠ [] ∧ ∃ header records base last, Recovered files opened header records base last := by
  obtain ⟨hdirectory, h⟩ := rejectIf_bind_eq_ok.mp h
  refine ⟨hdirectory, ?_⟩
  obtain ⟨⟨⟩, -, h⟩ := bind_eq_ok.mp h
  obtain ⟨base, hbase, h⟩ := bind_eq_ok.mp h
  obtain ⟨log, hlog, h⟩ := bind_eq_ok.mp h
  cases h
  have hbase := loadState_none hbase
  cases hwal : files.wal with
  | none =>
    rw [hwal] at hlog
    obtain ⟨⟨⟩, -, hlog⟩ := bind_eq_ok.mp hlog
    cases hlog
    have hfile : LogFile (makeHeader stream ⟨0⟩ ++ frames []) (makeHeader stream ⟨0⟩) [] :=
      ⟨makeHeader_valid stream ⟨0⟩, trivial, Nat.zero_le _, rfl⟩
    exact ⟨makeHeader stream ⟨0⟩, [], base, base, hfile, by simp [frames], hbase, rfl, rfl, rfl⟩
  | some file =>
    rw [hwal] at hlog
    obtain ⟨scan, hscan, hlog⟩ := bind_eq_ok.mp hlog
    obtain ⟨header, records, tail, hvalid, hfile, hrecords, hbounded, hvisit, hnumber, hlast, hoffset, htail⟩ :=
      scanLog_sound hscan
    have hlogfile : LogFile (header ++ frames records) header records := ⟨hvalid, hrecords, hbounded, rfl⟩
    cases hincident : scan.incident with
    | none =>
      simp only [hincident] at hlog
      cases hlog
      have hclean := htail hincident
      subst hclean
      rw [List.append_nil] at hfile
      exact ⟨header, records, base, scan.state, hlogfile, by simp [hfile], hbase, hvisit, rfl, rfl⟩
    | some incident =>
      simp only [hincident] at hlog
      obtain ⟨⟨⟩, -, hlog⟩ := bind_eq_ok.mp hlog
      cases hlog
      have hcut : file.take scan.offset = header ++ frames records := by
        rw [hfile, hoffset, ← hvalid.length, ← List.append_assoc]
        exact take_eq rfl (List.length_append)
      exact ⟨header, records, base, scan.state, hlogfile, by simp [hcut], hbase, hvisit, rfl, rfl⟩

/-- Without a snapshot and without a log record there is nothing to recover. -/
lemma registry_of_fresh {options : Options} {stream : IncarnationId} {faults : Faults} {files : Files}
    {opened : Opened} (h : openStore options stream faults files = .ok opened)
    (hfresh : opened.recovery.recoveredFromStore = false) : opened.recovery.registry = {} := by
  obtain ⟨-, h⟩ := rejectIf_bind_eq_ok.mp h
  obtain ⟨⟨⟩, -, h⟩ := bind_eq_ok.mp h
  obtain ⟨base, hbase, h⟩ := bind_eq_ok.mp h
  obtain ⟨log, hlog, h⟩ := bind_eq_ok.mp h
  cases h
  have hempty (hloaded : base.snapshotLoaded = false) : base.registry = {} := by
    obtain ⟨snapshot, wal⟩ := files
    cases snapshot with
    | none =>
      cases hbase
      rfl
    | some file =>
      obtain ⟨⟨⟩, -, hbase⟩ := bind_eq_ok.mp hbase
      obtain ⟨snapshot, -, hbase⟩ := bind_eq_ok.mp hbase
      cases hbase
      cases hloaded
  obtain ⟨hloaded, hrecords⟩ : log.recovery.snapshotLoaded = false ∧ log.recovery.wal.records = 0 := by
    simpa [closeRecovery] using hfresh
  -- a scan without records leaves what the snapshot gave
  have hscanned {scan : Scan Recovery} {file : Bytes}
      (hscan : scanLog Recovery.visit Limits.maxStoreRecords file base = .ok scan) (hnone : scan.records = 0) :
      scan.state = base := by
    obtain ⟨header, records, tail, -, -, -, -, hvisit, hnumber, -, -, -⟩ := scanLog_sound hscan
    rw [hnumber, List.length_eq_zero_iff] at hnone
    subst hnone
    exact (Except.ok.inj hvisit).symm
  show log.recovery.registry = {}
  cases hwal : files.wal with
  | none =>
    rw [hwal] at hlog
    obtain ⟨⟨⟩, -, hlog⟩ := bind_eq_ok.mp hlog
    cases hlog
    exact hempty hloaded
  | some file =>
    rw [hwal] at hlog
    obtain ⟨scan, hscan, hlog⟩ := bind_eq_ok.mp hlog
    cases hincident : scan.incident with
    | none =>
      simp only [hincident] at hlog
      cases hlog
      have hstate := hscanned hscan hrecords
      simp only [hstate] at hloaded ⊢
      exact hempty hloaded
    | some incident =>
      simp only [hincident] at hlog
      obtain ⟨⟨⟩, -, hlog⟩ := bind_eq_ok.mp hlog
      cases hlog
      have hstate := hscanned hscan hrecords
      simp only [hstate] at hloaded ⊢
      exact hempty hloaded

lemma openStore_of_visit {options : Options} {files : Files} {file header : Bytes} {records : List LogRecord}
    {base last : Recovery} (stream : IncarnationId) (hdirectory : options.directory ≠ [])
    (hwal : files.wal = some file) (hlog : LogFile file header records) (hbase : loadState none files = .ok base)
    (hvisit : visitAll Recovery.visit base records = .ok last) :
    ∃ opened, openStore options stream {} files = .ok opened ∧ opened.recovery.registry = last.registry ∧
      opened.recovery.storeMeta.term = last.storeMeta.term ∧ opened.files = files := by
  have hscan : scanLog Recovery.visit Limits.maxStoreRecords file base = .ok
      { state := last, records := records.length, lastSequence := lastOf none records
        offset := walHeaderSize + (frames records).length } := by
    rw [hlog.layout, scanLog_frames base hlog.valid hlog.appendable hlog.bounded, hvisit]
    rfl
  have hopen : ∃ log, openLog stream none base files.wal = .ok log ∧ log.recovery.registry = last.registry ∧
      log.recovery.storeMeta.term = last.storeMeta.term ∧ log.file = file := by
    rw [hwal]
    exact ⟨_, bind_eq_ok.mpr ⟨_, hscan, rfl⟩, rfl, rfl, rfl⟩
  obtain ⟨log, hlogOpen, hregistry, hterm, hfile⟩ := hopen
  refine ⟨_, rejectIf_bind_eq_ok.mpr ⟨hdirectory, bind_eq_ok.mpr ⟨(), rfl, bind_eq_ok.mpr ⟨base, hbase,
    bind_eq_ok.mpr ⟨log, hlogOpen, rfl⟩⟩⟩⟩, hregistry, hterm, ?_⟩
  rw [hfile]
  exact Files.ext rfl hwal.symm

lemma visit_of_openStore {options : Options} {files : Files} {file header : Bytes} {records : List LogRecord}
    {base : Recovery} {stream : IncarnationId} {opened : Opened} (hwal : files.wal = some file)
    (hlog : LogFile file header records) (hbase : loadState none files = .ok base)
    (h : openStore options stream {} files = .ok opened) :
    ∃ last, visitAll Recovery.visit base records = .ok last ∧ opened.recovery.registry = last.registry ∧
      opened.recovery.storeMeta.term = last.storeMeta.term := by
  obtain ⟨-, h⟩ := rejectIf_bind_eq_ok.mp h
  obtain ⟨⟨⟩, -, h⟩ := bind_eq_ok.mp h
  obtain ⟨base', hbase', h⟩ := bind_eq_ok.mp h
  obtain ⟨log, hlogOpen, h⟩ := bind_eq_ok.mp h
  cases h
  have heq : base' = base := Except.ok.inj (hbase'.symm.trans hbase)
  subst heq
  rw [hwal] at hlogOpen
  obtain ⟨scan, hscan, hlogOpen⟩ := bind_eq_ok.mp hlogOpen
  rw [hlog.layout, scanLog_frames _ hlog.valid hlog.appendable hlog.bounded] at hscan
  cases hvisit : visitAll Recovery.visit base' records with
  | error e =>
    rw [hvisit] at hscan
    cases hscan
  | ok last =>
    rw [hvisit] at hscan
    cases hscan
    cases hlogOpen
    exact ⟨last, rfl, rfl, rfl⟩

/-- Without faults, `open` succeeds on the files and yields the registry and the term. -/
def Recovers (options : Options) (files : Files) (registry : Registry) (term : Term) : Prop :=
  ∀ stream, ∃ opened, openStore options stream {} files = .ok opened ∧
    opened.recovery.registry = registry ∧ opened.recovery.storeMeta.term = term

/-- Recovery is the replay of the mutations of the log on the registry of the snapshot. -/
lemma recovers_iff {options : Options} {files : Files} {file header : Bytes} {records : List LogRecord}
    {base : Recovery} {registry : Registry} {term : Term} (hdirectory : options.directory ≠ [])
    (hwal : files.wal = some file) (hlog : LogFile file header records)
    (hbase : loadState none files = .ok base) :
    Recovers options files registry term ↔
      (∀ record ∈ records, Readable record) ∧
      putAll applyMutation base.registry (mutations records) = .ok registry ∧
      termAfter base.storeMeta.term records = term := by
  constructor
  · intro h
    obtain ⟨opened, hopen, rfl, rfl⟩ := h default
    obtain ⟨last, hvisit, hregistry, hterm⟩ := visit_of_openStore hwal hlog hbase hopen
    rw [hregistry, hterm]
    obtain ⟨hread, hreplay, hlast⟩ := visitAll_ok hvisit
    exact ⟨hread, hreplay, hlast.symm⟩
  · rintro ⟨hread, hreplay, rfl⟩ stream
    obtain ⟨last, hvisit⟩ := visitAll_of_replay hread hreplay
    obtain ⟨-, hreplay', hterm⟩ := visitAll_ok hvisit
    obtain ⟨opened, hopen, hregistry, hopenTerm, -⟩ :=
      openStore_of_visit stream hdirectory hwal hlog hbase hvisit
    refine ⟨opened, hopen, ?_, hopenTerm.trans hterm⟩
    rw [hregistry]
    exact Except.ok.inj (hreplay'.symm.trans hreplay)

end InterClusterFabric.StoreRecovery
