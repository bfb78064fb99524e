import InterClusterFabric.LibraryTrace
import InterClusterFabric.RuntimeAdmin

/-! The life of a coordinator process: how it starts on a store directory, and how it runs through
messages, lost connections and ticks in whatever order they come. -/
namespace InterClusterFabric.RuntimeRun
open CoreStatus CoreIds CoreTime CoreHash ModelRecords ModelRegistry EngineDecision RuntimeFencing
open StoreMutation WireMessages RuntimeCoordinator RuntimeHandlers RuntimeAdmin
open LibraryChecked LibraryOrdMap LibraryProgram
open LibraryTrace (foldl_invariant)
open StoreDurable hiding loadState

/-! Starting. -/

def storeOptions (config : Config) : Options where
  directory := config.stateDirectory
  compactBytes := config.compactBytes
  compactRecords := config.compactRecords

/-- The state once the store is open. -/
def loaded (s : Coordinator) (opened : Opened) : Coordinator :=
  { s with
    store := opened.store
    files := opened.files
    registry := opened.recovery.registry
    recovery := { opened.recovery with registry := {} } }

def loadState (faults : Faults) : Op Unit := do
  let s ← get
  let moment ← moment
  let opened ← Program.ofResult
    (openStore (storeOptions s.config) ⟨stamp moment.entropy⟩ faults s.files)
  modify fun s => loaded s opened

def beginMeta (s : Coordinator) : StoreMeta where
  term := s.term
  incarnation := s.incarnation
  revision := s.recovery.storeMeta.revision
  sequence := s.store.wal.lastSequence
  writtenAt := s.startedAt
  truncations := s.recovery.storeMeta.truncations
  stateDigest := s.registry.digest

def recoveryText (outcome : FenceOutcome) : Bytes :=
  ascii "recovered from store: " ++ CoreStatus.decimal outcome.grantsFenced.toNat ++
    ascii " grants fenced, " ++ CoreStatus.decimal outcome.reservationsReleased.toNat ++
    ascii " reservations released"

/-- Everything dynamic that survived the restart is fenced before anything is served, and the fenced
records are logged again. -/
def fenceRecovered : Op Unit := do
  let s ← get
  let outcome ← onRegistry (fenceRecoveredState s.startedAt (ascii "coordinator-recovery")
    s.previousIncarnation s.term)
  let moment ← moment
  onStore fun store files => store.appendIncident files (recoveryText outcome) s.startedAt moment.append
  Program.forEach (values (← get).registry.grants) fun grant => appendMutation (.grantPut grant)
  Program.forEach (values (← get).registry.reservations) fun reservation =>
    appendMutation (.reservationPut reservation)
  logClusters

/-- The process under a term and an incarnation of its own. -/
def renewed (s : Coordinator) (incarnation : Uuid) (startedAt : Timestamp) : Coordinator :=
  { s with
    previousIncarnation := s.recovery.storeMeta.incarnation
    term := s.recovery.storeMeta.term.increment
    incarnation := ⟨incarnation⟩
    startedAt }

def beginIncarnation : Op Unit := do
  let incarnation ← random
  let startedAt ← now
  modify fun s => renewed s incarnation startedAt
  -- the new term is durable before anything else happens
  let s ← get
  let moment ← moment
  onStore fun store files => store.appendMeta files (beginMeta s) startedAt moment.append
  Program.onlyIf (s.recovery.recoveredFromStore = true) fenceRecovered
  appendAudit "coordinator" "begin-incarnation" s.incarnation.toText .ok
    (ascii "term=" ++ CoreStatus.decimal s.term.value.toNat ++
      ascii (if s.recovery.recoveredFromStore then " recovered=true" else " recovered=false"))

/-- What the start of a process meets: the answers of the file system and of the listener. -/
structure Launch where
  config : Config
  moments : ℕ → Moment
  faults : Faults := {}
  listening : Option Status := none

def launched (launch : Launch) (files : Files) : Coordinator where
  config := launch.config
  moments := launch.moments
  files := files

def start (launch : Launch) : Op Unit := do
  loadState launch.faults
  beginIncarnation
  Program.ofResult (attempt launch.listening)
  compactIfNeeded

/-! Running. -/

inductive Event
  | message (connection : ℕ) (frame : Inbound)
  | disconnect (connection : ℕ) (reason : Outcome)
  | tick

def handleMessage (connection : ℕ) : Inbound → Op Unit
  | .malformed request status => do
    countFrame
    sendError connection request status.outcome status.message
  | .unsupported kind => do
    countFrame
    sendError connection 0 .unsupported
      (ascii "message type is not accepted by the coordinator: " ++ kind)
  | .hello message => onHello connection message
  | .reportCluster message => onReportCluster connection message
  | .contractConsent message => onContractConsent connection message
  | .grantPrepared message => onGrantPrepared connection message
  | .grantCommitted message => onGrantCommitted connection message
  | .grantAborted message => onGrantAborted connection message
  | .fenceAck message => onFenceAck connection message
  | .withdraw message => onWithdraw connection message
  | .statusReport message => onStatusReport connection message
  | .query message => onQuery connection message
  | .admin message => onAdmin connection message
  | .ping sequence => send connection (.pong sequence)
  | .pong => modify fun s => { s with pongsReceived := s.pongsReceived + 1 }
  | .error => modify fun s => { s with errorsReceived := s.errorsReceived + 1 }

def handle : Event → Op Unit
  | .message connection frame => handleMessage connection frame
  | .disconnect connection reason => handleDisconnect connection reason
  | .tick => tick

/-- A handler that fails keeps what it has done. -/
def step (s : Coordinator) (event : Event) : Coordinator := (handle event s).2

def run (s : Coordinator) (events : List Event) : Coordinator := events.foldl step s

/-- A process that has started successfully on some files. -/
def Started (launch : Launch) (files : Files) (s : Coordinator) : Prop :=
  start launch (launched launch files) = (.ok (), s)

lemma run_append (s : Coordinator) (before after : List Event) :
    run s (before ++ after) = run (run s before) after := List.foldl_append

/-- What holds at the start and survives every step of a run holds at its end. -/
lemma run_induction {P : Coordinator → Prop} {s : Coordinator} (hinit : P s) {events : List Event}
    (hstep : ∀ before event after, events = before ++ event :: after → P (run s before) →
      P (step (run s before) event)) : P (run s events) := foldl_invariant hinit hstep

/-- Every step of the run meets a condition on the state it begins in. -/
def EachStep (P : Coordinator → Event → Prop) (s : Coordinator) (events : List Event) : Prop :=
  ∀ before event after, events = before ++ event :: after → P (run s before) event

section EachStep

variable {P : Coordinator → Event → Prop} {s : Coordinator} {events : List Event}

lemma eachStep_of_mem (h : ∀ event ∈ events, ∀ s, P s event) : EachStep P s events := LibraryTrace.EachStep.of_mem h

lemma eachStep_cons {event : Event} (h : P s event) (hrest : EachStep P (step s event) events) :
    EachStep P s (event :: events) := LibraryTrace.EachStep.cons h hrest

lemma EachStep.init {event : Event} (h : EachStep P s (events ++ [event])) : EachStep P s events :=
  LibraryTrace.EachStep.init h

lemma EachStep.last {event : Event} (h : EachStep P s (events ++ [event])) : P (run s events) event :=
  LibraryTrace.EachStep.last h

lemma eachStep_snoc {event : Event} (h : EachStep P s events) (hlast : P (run s events) event) :
    EachStep P s (events ++ [event]) := LibraryTrace.EachStep.snoc h hlast

end EachStep

end InterClusterFabric.RuntimeRun
