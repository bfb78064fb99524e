import InterClusterFabric.StoreSnapshot
import InterClusterFabric.StoreWal

/-! The durable store: a snapshot for the bulk of the state and a log for everything since.
Recovery loads the snapshot, then replays the log in sequence order. -/
namespace InterClusterFabric.StoreDurable
open CoreStatus CoreIds CoreTime CoreHash CoreBytes ModelRecords ModelRegistry ModelRegistryLaws
open StoreMutation StoreWal StoreSnapshot LibraryChecked LibraryReader

/-- The two files of a store directory. -/
@[ext] structure Files where
  snapshot : Option Bytes := none
  wal : Option Bytes := none
deriving Inhabited

/-- What the file system answers to the operations of `open`; `none` is success. -/
structure Faults where
  directory : Option Status := none
  load : Option Status := none
  log : Option Status := none

/-- The answer of the file system to one operation. -/
def attempt : Option Status → Result Unit
  | some status => .error status
  | none => .ok ()

structure Options where
  directory : Bytes
  compactBytes : ℕ := 4194304
  compactRecords : ℕ := 8192

structure WalRecovery where
  records : ℕ := 0
  bytes : ℕ := 0
  lastSequence : Sequence := ⟨0⟩
  truncatedTail : Bool := false
  discardedBytes : ℕ := 0
  incidents : List Bytes := []
  created : Bool := false

structure Recovery where
  registry : Registry := {}
  storeMeta : StoreMeta := {}
  wal : WalRecovery := {}
  snapshotLoaded : Bool := false
  recoveredFromStore : Bool := false
  createdFresh : Bool := false
  mutationsApplied : ℕ := 0
  incidents : List Bytes := []
deriving Inhabited

def maxIncidents : ℕ := 64

def addIncident (incidents : List Bytes) (text : Bytes) : List Bytes :=
  if incidents.length < maxIncidents then incidents ++ [text] else incidents

def decimal (n : ℕ) : Bytes := ascii (toString n)

/-- A mutation that fills its whole payload. -/
def decodeRecord : ByteReader Mutation := do
  let mutation ← decodeMutation
  expectEnd
  return mutation

/-- The payload of a metadata record; what follows it is not looked at. -/
def decodeMeta : ByteReader (Term × IncarnationId) := do
  let term ← u64
  rejectIf (Limits.maxGeneration < term)
    (Status.make .overflow (ascii "term exceeds the maximum supported value"))
  let incarnation ← uuid
  return (⟨term⟩, ⟨incarnation⟩)

namespace Recovery

def setMeta (recovery : Recovery) (term : Term) (incarnation : IncarnationId) : Recovery :=
  { recovery with storeMeta := { recovery.storeMeta with term, incarnation } }

/-- The replay of one mutation. -/
def replay (recovery : Recovery) : Mutation → Result Recovery
  | .metaSet term incarnation => .ok (recovery.setMeta term incarnation)
  | mutation => do
    let registry ← applyMutation recovery.registry mutation
    return { recovery with registry, mutationsApplied := recovery.mutationsApplied + 1 }

/-- The visitor of the log scan. -/
def visit (recovery : Recovery) (record : LogRecord) : Result Recovery :=
  match record.kind with
  | .mutation => do
    let (mutation, _) ← decodeRecord.run record.payload
    recovery.replay mutation
  | .storeMeta => do
    let ((term, incarnation), _) ← decodeMeta.run record.payload
    return recovery.setMeta term incarnation
  | .snapshotMarker => .ok recovery
  | .incident => .ok { recovery with incidents := addIncident recovery.incidents record.payload }
  | .invalid => .error (Status.invalid "log record kind is not recognised")

end Recovery

/-- The text of a cut-off tail. -/
def truncationText (incident : Bytes) (offset discarded : ℕ) : Bytes :=
  incident ++ ascii " at offset " ++ decimal offset ++ ascii "; discarded " ++ decimal discarded ++
    ascii " bytes"

/-- What is known of an opened log: the handle, what the scan recovered, and the file left behind. -/
structure OpenedLog where
  wal : Wal
  recovery : Recovery
  file : Bytes

/-- `Wal::open`. A missing file is created; a torn tail is cut off. -/
def openLog (stream : IncarnationId) (fault : Option Status) (recovery : Recovery) :
    Option Bytes → Result OpenedLog
  | none => do
    attempt fault
    return ⟨{}, { recovery with wal := { recovery.wal with created := true } }, makeHeader stream ⟨0⟩⟩
  | some file => do
    let scan ← scanLog Recovery.visit Limits.maxStoreRecords file recovery
    let last := scan.lastSequence.getD ⟨0⟩
    match scan.incident with
    | none =>
      let wal := { records := scan.records, bytes := file.length, lastSequence := last }
      return ⟨⟨file.length, scan.records, last⟩, { scan.state with wal }, file⟩
    | some incident =>
      attempt fault
      let discarded := file.length - scan.offset
      let wal := {
        records := scan.records, bytes := scan.offset, lastSequence := last, truncatedTail := true
        discardedBytes := discarded, incidents := [truncationText incident scan.offset discarded] }
      return ⟨⟨scan.offset, scan.records, last⟩, { scan.state with wal }, file.take scan.offset⟩

structure DurableStore where
  compactBytes : ℕ := 4194304
  compactRecords : ℕ := 8192
  wal : Wal := {}
  nextSequence : Sequence := ⟨1⟩
deriving Inhabited

/-- The snapshot part of a recovery. -/
def loadState (fault : Option Status) (files : Files) : Result Recovery :=
  match files.snapshot with
  | some file => do
    attempt fault
    let snapshot ← loadSnapshot file
    return { registry := snapshot.registry, storeMeta := snapshot.storeMeta, snapshotLoaded := true }
  | none => return { createdFresh := files.wal.isNone }

/-- What is settled once the log has been scanned. -/
def closeRecovery (recovery : Recovery) : Recovery :=
  let torn := recovery.wal.truncatedTail
  { recovery with
    recoveredFromStore := recovery.snapshotLoaded || decide (0 < recovery.wal.records)
    incidents :=
      if torn then recovery.wal.incidents.foldl addIncident recovery.incidents else recovery.incidents
    storeMeta := { recovery.storeMeta with
      sequence := recovery.wal.lastSequence
      writtenAt := ⟨0⟩
      truncations :=
        if torn then recovery.storeMeta.truncations + 1 else recovery.storeMeta.truncations } }

/-- A store opened on a directory: the handle, the recovered state, and the files left behind. -/
structure Opened where
  store : DurableStore
  recovery : Recovery
  files : Files
deriving Inhabited

def openStore (options : Options) (stream : IncarnationId) (faults : Faults) (files : Files) :
    Result Opened := do
  rejectIf (options.directory = []) (Status.invalid "store directory must not be empty")
  attempt faults.directory
  let recovery ← loadState faults.load files
  let log ← openLog stream faults.log recovery files.wal
  return {
    store := {
      compactBytes := options.compactBytes, compactRecords := options.compactRecords, wal := log.wal
      nextSequence := log.wal.lastSequence.increment }
    recovery := closeRecovery log.recovery
    files := { files with wal := some log.file } }

/-- How an append to the log file ends: completely, or with an error after a part of the frame. -/
abbrev AppendFault := Option (ℕ × Status)

/-- The outcome of an operation on the store, with the handle and the files it leaves behind. -/
structure Written (α : Type) where
  result : Result α
  store : DurableStore
  files : Files

namespace DurableStore

/-- `Wal::append` of a record under the next sequence number. -/
def write (store : DurableStore) (files : Files) (kind : RecordKind) (writtenAt : Timestamp)
    (payload : Bytes) (fault : AppendFault) : Written Sequence :=
  match store.wal.admits kind payload with
  | .error status => ⟨.error status, store, files⟩
  | .ok () =>
    let record : LogRecord := ⟨kind, store.nextSequence, writtenAt, payload⟩
    match fault with
    | some (kept, status) =>
      ⟨.error status, store,
        { files with wal := some (files.wal.getD [] ++ (frameRecord record).take kept) }⟩
    | none =>
      ⟨.ok store.nextSequence,
        { store with wal := store.wal.extend record, nextSequence := store.nextSequence.increment },
        { files with wal := some (files.wal.getD [] ++ frameRecord record) }⟩

def append (store : DurableStore) (files : Files) (mutation : Mutation) (writtenAt : Timestamp)
    (fault : AppendFault) : Written Sequence :=
  store.write files .mutation writtenAt (encodeMutation mutation) fault

def appendMeta (store : DurableStore) (files : Files) (storeMeta : StoreMeta) (writtenAt : Timestamp)
    (fault : AppendFault) : Written Sequence :=
  store.append files (.metaSet storeMeta.term storeMeta.incarnation) writtenAt fault

def appendIncident (store : DurableStore) (files : Files) (text : Bytes) (writtenAt : Timestamp)
    (fault : AppendFault) : Written Sequence :=
  if Limits.maxStoreRecordPayload < text.length then
    ⟨.error (Status.make .capacityExceeded (ascii "incident text exceeds the maximum record size")),
      store, files⟩
  else store.write files .incident writtenAt text fault

/-- The metadata that goes into the snapshot of a compaction. -/
def effectiveMeta (store : DurableStore) (registry : Registry) (storeMeta : StoreMeta)
    (writtenAt : Timestamp) : StoreMeta :=
  { storeMeta with sequence := store.wal.lastSequence, writtenAt, stateDigest := registry.digest }

/-- The snapshot is written first, then the log is replaced by a bare header. -/
def compact (store : DurableStore) (files : Files) (registry : Registry) (storeMeta : StoreMeta)
    (writtenAt : Timestamp) (stream : IncarnationId) (saveFault resetFault : Option Status) : Written Unit :=
  match encodeSnapshot (store.effectiveMeta registry storeMeta writtenAt) registry with
  | .error status => ⟨.error status, store, files⟩
  | .ok bytes =>
    match saveFault with
    | some status => ⟨.error status, store, files⟩
    | none =>
      match resetFault with
      | some status => ⟨.error status, store, { files with snapshot := some bytes }⟩
      | none =>
        ⟨.ok (), { store with wal := store.wal.reset },
          { snapshot := some bytes, wal := some (makeHeader stream ⟨0⟩) }⟩

def needsCompaction (store : DurableStore) : Bool :=
  store.wal.needsCompaction store.compactBytes store.compactRecords

end DurableStore

end InterClusterFabric.StoreDurable
