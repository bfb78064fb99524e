import InterClusterFabric.RuntimeFencing
import InterClusterFabric.StoreDurable
import InterClusterFabric.WireMessages

/-! The coordinator: its state, its access to the clock, the random source, the store and the
connections, and the operations on grants and fences that the handlers share. -/
namespace InterClusterFabric.RuntimeCoordinator
open CoreStatus CoreIds CoreTime CoreHash ModelRecords ModelRegistry EngineDecision RuntimeFencing
open StoreMutation StoreDurable WireMessages LibraryChecked LibraryOrdMap LibraryProgram

structure Config where
  stateDirectory : Bytes
  domain : AuthorityDomainId
  allowAgentRegistration : Bool := true
  domainKeys : OrdMap Bytes Bytes := ∅
  defaultLease : Duration := .fromSeconds 120
  pingInterval : Duration := .fromSeconds 5
  grantFlowDeadline : Duration := .fromSeconds 10
  compactBytes : ℕ := 8388608
  compactRecords : ℕ := 16384
deriving Inhabited

structure PeerSession where
  role : PeerRole := .observer
  cluster : ClusterId := .empty
  domain : AuthorityDomainId := .empty
  token : SessionToken := ⟨0⟩
  incarnation : IncarnationId := ⟨0⟩
  generation : Generation := ⟨0⟩
  policyGeneration : PolicyGeneration := ⟨0⟩
  agentTerm : Term := ⟨0⟩
  signing : Bool := false
  helloComplete : Bool := false
  connectedAt : Timestamp := ⟨0⟩
  connectionId : ℕ := 0
deriving DecidableEq, Inhabited

structure SendTarget where
  connected : Bool := false
  connectionId : ℕ := 0
  token : SessionToken := ⟨0⟩
deriving DecidableEq, Inhabited

structure PendingGrant where
  grant : GrantId
  contract : ContractId
  prepared : PerSide Bool := ⟨false, false⟩
  targets : PerSide SendTarget := ⟨{}, {}⟩
  deadline : Timestamp := ⟨0⟩
  attempts : UInt32 := 0
deriving Inhabited

/-- What becomes of a frame handed to a connection. -/
inductive Delivery
  | absent | queued
  | failed (status : Status)

/-- What the environment answers when it is asked once. -/
structure Moment where
  now : Timestamp := ⟨0⟩
  entropy : Uuid := 0
  append : AppendFault := none
  save : Option Status := none
  reset : Option Status := none
  delivery : Delivery := .absent
deriving Inhabited

/-- The process, and what it sees and touches of the outside: the answers still to come, the files
of its store, the frames it has queued, and how many store operations have failed so far. -/
structure Coordinator where
  config : Config
  store : DurableStore := {}
  recovery : Recovery := {}
  registry : Registry := {}
  term : Term := ⟨0⟩
  incarnation : IncarnationId := ⟨0⟩
  previousIncarnation : IncarnationId := ⟨0⟩
  startedAt : Timestamp := ⟨0⟩
  sessions : OrdMap ℕ PeerSession := ∅
  pending : OrdMap GrantId PendingGrant := ∅
  commits : UInt64 := 0
  fences : UInt64 := 0
  refusals : UInt64 := 0
  revalidations : UInt64 := 0
  rejectedReplays : UInt64 := 0
  rejectedFrames : UInt64 := 0
  pongsReceived : UInt64 := 0
  errorsReceived : UInt64 := 0
  moments : ℕ → Moment
  index : ℕ := 0
  files : Files := {}
  outbox : List (ℕ × Outbound) := []
  failures : ℕ := 0

abbrev Op := Program Coordinator Status

/-- An operation on the registry alone. -/
def onRegistry {α : Type} (p : Program Registry Status α) : Op α :=
  Program.focus Coordinator.registry (fun s registry => { s with registry }) p

/-! The environment. -/

/-- The next answer of the environment. -/
def moment : Op Moment := modifyGet fun s => (s.moments s.index, { s with index := s.index + 1 })

def now : Op Timestamp := return (← moment).now

/-- The version 4 layout: the high nibble of byte 6 is 4, the high two bits of byte 8 are 10. -/
def stamp (entropy : Uuid) : Uuid :=
  (entropy &&& ~~~((0x3C003 : Uuid) <<< 62)) ||| ((0x10002 : Uuid) <<< 62)

def random : Op Uuid := return stamp (← moment).entropy

/-- An operation on the store, with its files. -/
def onStore {α : Type} (op : DurableStore → Files → Written α) : Op Unit := fun s =>
  let written := op s.store s.files
  match written.result with
  | .ok _ => (.ok (), { s with store := written.store, files := written.files })
  | .error status =>
    (.error status, { s with store := written.store, files := written.files, failures := s.failures + 1 })

def appendMutation (mutation : Mutation) : Op Unit := do
  let moment ← moment
  onStore fun store files => store.append files mutation moment.now moment.append

def virtualConnection : ℕ := 0

/-- A message to a peer that is gone is dropped. -/
def send (connection : ℕ) (message : Outbound) : Op Unit := do
  if connection = virtualConnection then pure ()
  else
    match (← moment).delivery with
    | .absent => pure ()
    | .failed status => throw status
    | .queued => modify fun s => { s with outbox := s.outbox ++ [(connection, message)] }

def sendError (connection : ℕ) (request : Uuid) (outcome : Outcome) (detail : Bytes) : Op Unit :=
  send connection (.error request outcome detail)

/-- A full trail stops growing; the state change itself has already happened. -/
def appendAudit (actor action : String) (subject : Bytes) (outcome : Outcome) (detail : Bytes) : Op Unit := do
  let now ← now
  if Limits.maxAuditRecords ≤ (← get).registry.audit.length then pure ()
  else
    onRegistry (RuntimeFencing.appendAudit now (ascii actor) (ascii action) subject outcome detail)
    Program.forEach (← get).registry.audit.getLast?.toList fun record => appendMutation (.auditAppend record)

/-- The metadata of a compaction. -/
def compactionMeta (s : Coordinator) : StoreMeta :=
  { s.recovery.storeMeta with
    term := s.term
    incarnation := s.incarnation
    revision := ⟨UInt64.ofNat (s.registry.clusters.size + s.registry.contracts.size + s.registry.grants.size)⟩
    stateDigest := s.registry.digest }

def compactIfNeeded : Op Unit := do
  let s ← get
  if s.store.needsCompaction = false then pure ()
  else
    let moment ← moment
    onStore fun store files =>
      store.compact files s.registry (compactionMeta s) moment.now ⟨stamp moment.entropy⟩ moment.save moment.reset

/-! Writing records back and logging them. -/

def writeCluster (id : ClusterId) (record : ClusterRecord) : Op Unit :=
  modify fun s => { s with registry := setCluster s.registry id record }

def writeLink (id : EdgeId) (record : LinkRecord) : Op Unit :=
  modify fun s => { s with registry := setLink s.registry id record }

def writeContract (id : ContractId) (record : ContractRecord) : Op Unit :=
  modify fun s => { s with registry := setContract s.registry id record }

def writeGrant (id : GrantId) (record : GrantRecord) : Op Unit :=
  modify fun s => { s with registry := setGrant s.registry id record }

/-- The record under a key, as it is now, is logged; the callers know that it is there. -/
def logCluster (id : ClusterId) : Op Unit := do
  Program.forEach (← get).registry.clusters[id]?.toList fun record => appendMutation (.clusterPut record)

def logClusters : Op Unit := do
  Program.forEach (values (← get).registry.clusters) fun record => appendMutation (.clusterPut record)

def logAudit (before : ℕ) : Op Unit := do
  Program.forEach ((← get).registry.audit.drop before) fun record => appendMutation (.auditAppend record)

/-! Sessions. -/

def channelKeyFor (config : Config) (domain : AuthorityDomainId) : Bytes :=
  config.domainKeys.getD domain.value []

def setSession (connection : ℕ) (f : PeerSession → PeerSession) : Op Unit :=
  modify fun s => { s with sessions := s.sessions.modify connection f }

def countReplay : Op Unit := modify fun s => { s with rejectedReplays := s.rejectedReplays + 1 }

def countRefusal : Op Unit := modify fun s => { s with refusals := s.refusals + 1 }

def countFrame : Op Unit := modify fun s => { s with rejectedFrames := s.rejectedFrames + 1 }

/-- Why a connection may not speak with that token. -/
def sessionFault (session : Option PeerSession) (token : SessionToken) : Option Status :=
  match session with
  | none => some (Status.make .unauthorized (ascii "message received before a completed handshake"))
  | some session =>
    if session.helloComplete = false then
      some (Status.make .unauthorized (ascii "message received before a completed handshake"))
    else if session.token ≠ token then
      some (Status.make .replayed (ascii "session token does not match the established session"))
    else none

/-- `require_session` and the error reply every handler gives when it fails. -/
def withSession (connection : ℕ) (token : SessionToken) (body : PeerSession → Op Unit) : Op Unit := do
  let session := (← get).sessions[connection]?
  match sessionFault session token with
  | some status =>
    countReplay
    sendError connection 0 status.outcome status.message
  | none => body (session.getD {})

def betterTarget (best : Option PeerSession) (session : PeerSession) : Option PeerSession :=
  match best with
  | none => some session
  | some current =>
    if current.connectedAt < session.connectedAt ∨
        (current.connectedAt = session.connectedAt ∧ current.connectionId < session.connectionId) then
      some session
    else some current

/-- The agent session of a cluster that connected last. -/
def targetFor (sessions : OrdMap ℕ PeerSession) (cluster : ClusterId) : SendTarget :=
  let candidates := (values sessions).filter fun session =>
    session.role == .agent && session.helloComplete && session.cluster == cluster
  match candidates.foldl betterTarget none with
  | none => {}
  | some session => { connected := true, connectionId := session.connectionId, token := session.token }

/-! Fences. -/

/-- The record an action was about is logged as it is now. -/
def logAction (fenced : List GrantId) (action : FenceAction) : Op (List GrantId) := do
  let registry := (← get).registry
  match action.target with
  | .grant =>
    match registry.grants[action.grant]? with
    | none => return fenced
    | some grant =>
      appendMutation (.grantPut grant)
      return if grant.state = .fenced then fenced ++ [grant.id] else fenced
  | .contract =>
    match registry.contracts[action.contract]? with
    | none => return fenced
    | some contract =>
      appendMutation (.contractPut contract)
      return fenced
  | .reservation =>
    match registry.reservations[action.reservation]? with
    | none => return fenced
    | some reservation =>
      appendMutation (.reservationPut reservation)
      return fenced

/-- Every connected agent is told; a failed send is not fatal. -/
def announceFence (trigger : FenceTrigger) (fenced : List GrantId) : Op Unit := do
  let s ← get
  if fenced = [] then pure ()
  else
    Program.forEach s.sessions.toList fun entry =>
      if entry.2.role = .agent ∧ entry.2.helloComplete = true then
        (send entry.1 (.fence entry.2.token s.term fenced (ascii "fenced by " ++ trigger.toText))).ignore
      else pure ()

def fencePlanApply (plan : FencePlan) (actor : String) : Op Unit := do
  if plan.actions = [] then pure ()
  else
    let before := (← get).registry.audit.length
    let now ← now
    let outcome ← onRegistry (applyFencePlan plan now (ascii actor))
    modify fun s => { s with fences := s.fences + outcome.grantsFenced }
    let fenced ← Program.foldEach plan.actions [] logAction
    logClusters
    logAudit before
    announceFence plan.trigger fenced

def fenceCluster (cluster : ClusterId) (trigger : FenceTrigger) (newIncarnation previousIncarnation : IncarnationId)
    (generation : Generation) : Op Unit := do
  let s ← get
  let plan := planFence s.registry trigger cluster newIncarnation previousIncarnation generation s.term
  fencePlanApply plan "coordinator"
  appendAudit "coordinator" "fence-cluster" cluster.value .fenced
    (ascii "trigger=" ++ trigger.toText ++ ascii " grants=" ++ CoreStatus.decimal plan.actions.length)

/-! Grants. -/

def dropPending (id : GrantId) : Op Unit := modify fun s => { s with pending := s.pending.erase id }

/-- The capacity of a grant, set aside at one party's endpoint. -/
def reserveSide (grant : GrantRecord) (now : Timestamp) (party : PartyRef) : Op Unit := do
  match (← get).registry.clusters[party.cluster]? with
  | none => throw (Status.notFound "a bound cluster is not registered")
  | some cluster =>
    match cluster.endpoints.find? fun endpoint => endpoint.id = party.endpoint with
    | none => throw (Status.notFound "a bound endpoint scope is not registered")
    | some endpoint =>
      let requested := grant.capacity.value
      if endpoint.capacity.value < requested ∨ endpoint.capacity.value - requested < endpoint.reserved.value then
        throw (Status.make .capacityExceeded (ascii "endpoint scope " ++ endpoint.id.value ++
          ascii " cannot reserve the requested capacity"))
      else
        let reserved := ⟨endpoint.reserved.value + requested⟩
        let updated := { cluster with
          endpoints := updateEndpoint party.endpoint (fun e => { e with reserved := reserved }) cluster.endpoints }
        writeCluster party.cluster updated
        let id ← random
        let reservation : ReservationRecord := {
          id := ⟨id⟩, grant := grant.id, endpoint := endpoint.id, cluster := cluster.id
          amount := grant.capacity, createdAt := now, provenance := derived now }
        onRegistry (Program.update fun registry => registry.putReservation reservation)
        appendMutation (.reservationPut reservation)
        appendMutation (.clusterPut updated)

def reserveCapacity (grant : GrantRecord) (now : Timestamp) : Op Unit := do
  match (← get).registry.contracts[grant.contract]? with
  | none => throw (Status.notFound "the grant references an unknown contract")
  | some contract => Program.forEach [contract.parties.first, contract.parties.second] (reserveSide grant now)

def abortGrant (id : GrantId) (reason : Bytes) : Op Unit := do
  match (← get).registry.grants[id]? with
  | none => dropPending id
  | some grant =>
    if grant.state = .fenced ∨ grant.state = .withdrawn then dropPending id
    else
      let aborted := { grant with state := .aborted, note := reason }
      writeGrant id aborted
      let persisted ← (appendMutation (.grantPut aborted)).attempt
      dropPending id
      Program.ofResult persisted
      appendAudit "coordinator" "abort-grant" id.toText .cancelled reason

/-- The grant as both sides have acknowledged it. -/
def committedGrant (now : Timestamp) (grant : GrantRecord) : GrantRecord :=
  { grant with
    state := .committed
    note := ascii "committed by both cluster agents"
    provenance := { grant.provenance with
      source := .derivedFromTopology, verification := .verified, observedAt := now } }

def finaliseGrant (id : GrantId) (now : Timestamp) : Op Unit := do
  match (← get).registry.grants[id]? with
  | none => throw (Status.notFound "the grant is not registered")
  | some grant =>
    if grant.state = .committed ∨ grant.state = .active then pure ()
    else if grant.bothAcknowledged = false then
      throw (Status.make .incomplete (ascii "both parties have not acknowledged the grant"))
    else
      match ← (reserveCapacity grant now).attempt with
      | .error status =>
        abortGrant id status.message
        throw status
      | .ok () =>
        -- the reservations left the grant where it was
        let committed := committedGrant now grant
        writeGrant id committed
        appendMutation (.grantPut committed)
        modify fun s => { s with commits := s.commits + 1 }
        dropPending id
        appendAudit "coordinator" "commit-grant" id.toText .ok
          (ascii "both cluster agents acknowledged the same attempt")

/-- The connected agent of one party. -/
def requireTarget (party : PartyRef) : Op SendTarget := do
  let target := targetFor (← get).sessions party.cluster
  if target.connected then return target
  else
    throw (Status.make .unreachable
      (ascii "cluster agent for " ++ party.cluster.value ++ ascii " is not connected"))

def sendPrepare (targets : PerSide SendTarget) (grant : GrantRecord) (side : Side) : Op Unit :=
  send (targets.get side).connectionId (.prepareGrant (targets.get side).token grant)

/-- `prepare_grant` on a grant of its own, or in place on the registered one. -/
def prepareGrant (inPlace : Bool) (grant : GrantRecord) : Op Unit := do
  match (← get).registry.contracts[grant.contract]? with
  | none => throw (Status.notFound "the grant references an unknown contract")
  | some contract =>
    if contract.state ≠ .consented ∧ contract.state ≠ .active then
      throw (Status.make .incomplete
        (ascii "both authority domains must consent before a grant can be prepared"))
    else
      let started ← now
      let first ← requireTarget contract.parties.first
      let second ← requireTarget contract.parties.second
      let observed ← now
      let preparing := { grant with
        state := .preparing
        provenance := { grant.provenance with
          source := .derivedFromTopology, verification := .verified, observedAt := observed } }
      Program.onlyIf (inPlace = true) (writeGrant grant.id preparing)
      appendMutation (.grantPut preparing)
      (onRegistry (Program.update fun registry => registry.putGrant preparing)).ignore
      let targets : PerSide SendTarget := ⟨first, second⟩
      modify fun s => { s with
        pending := s.pending.insert grant.id {
          grant := grant.id, contract := grant.contract, targets
          deadline := started.plus s.config.grantFlowDeadline } }
      match (← get).registry.grants[grant.id]? with
      | none => throw (Status.internalError "the grant disappeared after being stored")
      | some stored =>
        sendPrepare targets stored .first
        sendPrepare targets stored .second

def commitGrant (id : GrantId) : Op Unit := do
  let s ← get
  match s.registry.grants[id]? with
  | none => throw (Status.notFound "the grant is not registered")
  | some grant =>
    match s.pending[id]? with
    | none => throw (Status.make .indeterminate (ascii "the grant flow is no longer pending"))
    | some pending =>
      if pending.targets.first.connected = false ∨ pending.targets.second.connected = false then
        let lost := { grant with
          state := .indeterminate
          note := ascii "a cluster agent disconnected before the commit was issued" }
        writeGrant id lost
        appendMutation (.grantPut lost)
      else
        let prepared := { grant with
          state := .prepared
          note := ascii "both cluster agents prepared the same attempt" }
        writeGrant id prepared
        appendMutation (.grantPut prepared)
        send pending.targets.first.connectionId
          (.commitGrant pending.targets.first.token id grant.attempt)
        send pending.targets.second.connectionId
          (.commitGrant pending.targets.second.token id grant.attempt)

end InterClusterFabric.RuntimeCoordinator
