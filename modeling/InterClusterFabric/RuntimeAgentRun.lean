import InterClusterFabric.RuntimeAgent

/-! The life of an agent: its start on a state directory, the proposals and acknowledgements of the
coordinator, the local control surface, and the periodic re-evaluation of what it enforces. -/
namespace InterClusterFabric.RuntimeAgentRun
open CoreStatus CoreIds CoreTime CoreHash ModelRecords ModelCanonical ModelRegistry StoreMutation
open WireMessages RuntimeFencing RuntimeAgent LibraryChecked LibraryOrdMap LibraryProgram
open StoreDurable hiding loadState
open RuntimeCoordinator (virtualConnection stamp)

def random : AgentOp Uuid := return stamp (← moment).entropy

def countFrame : AgentOp Unit := modify fun a => { a with rejectedFrames := a.rejectedFrames + 1 }

def countFence : AgentOp Unit := modify fun a => { a with fences := a.fences + 1 }

/-- To a peer on any connection; a connection that is gone is no failure. -/
def sendTo (connection : ℕ) (message : Outbound) : AgentOp Unit := do
  match (← moment).delivery with
  | .absent => pure ()
  | .failed status => throw status
  | .queued => modify fun a => { a with controlOutbox := a.controlOutbox ++ [(connection, message)] }

/-- A record changed in place and logged. -/
def rewriteGrant (id : GrantId) (record : GrantRecord) : AgentOp Unit := do
  writeGrant id record
  appendMutation (.grantPut record)

/-- A pass over the recorded grants, in key order, that the first failure ends. -/
def sweepGrants {β : Type} (init : β) (visit : β → GrantId → GrantRecord → AgentOp β) : AgentOp β := do
  Program.foldEach (← get).registry.grants.keys init fun acc id => do
    match (← get).registry.grants[id]? with
    | none => return acc
    | some grant => visit acc id grant

/-! Enforcement. -/

/-- The answer of the agent to whether its side may use a grant right now. -/
def grantEnforceable (a : Agent) (now : Timestamp) (grant : GrantRecord) : Bool :=
  if grant.state ≠ .active then false
  else if a.config.requireCoordinator = false then true
  else
    match a.registry.contracts[grant.contract]?.bind (ownSide a.cluster) with
    | none => false
    | some side =>
      if grant.incarnations.get side ≠ a.incarnation ∨ grant.generations.get side ≠ a.generation ∨
          grant.policies.get side ≠ a.policyGeneration then false
      else if grant.coordinatorTerm ≠ a.coordinatorTerm then false
      else if grant.validUntil.unixNanos < now.unixNanos then false
      else if a.consentWithdrawn = true ∨ a.clusterState ≠ .active then false
      else true

/-- The states that a change of the coordinator's term takes back. -/
def restsOnTerm : GrantState → Bool
  | .active | .committed | .indeterminate | .prepared => true
  | _ => false

def fenceUnderTerm (term : Term) (fenced : ℕ) (id : GrantId) (grant : GrantRecord) : AgentOp ℕ := do
  if restsOnTerm grant.state = false ∨ grant.coordinatorTerm = term then return fenced
  else
    countFence
    rewriteGrant id { grant with
      state := .fenced
      note := ascii "the coordinator established a new authority term; this grant was not revalidated" }
    return fenced + 1

def fenceNotRevalidated (term : Term) : AgentOp Unit := do
  let fenced ← sweepGrants 0 (fenceUnderTerm term)
  Program.onlyIf (0 < fenced) do
    appendAudit "fence-term-change" (← get).incarnation.toText .fenced
      (CoreStatus.decimal fenced ++ ascii " grants fenced under the previous authority term")

def reevaluateGrant (now : Timestamp) (reason : Bytes) (id : GrantId) (grant : GrantRecord) : AgentOp Unit := do
  if grant.state ≠ .active ∧ grant.state ≠ .committed then pure ()
  else if grant.validUntil.unixNanos < now.unixNanos then
    countFence
    rewriteGrant id { grant with state := .expired, note := ascii "the lease elapsed" }
  else
    let later ← RuntimeAgent.now
    let enforceable := grantEnforceable (← get) later grant
    if grant.state = .committed ∧ enforceable = true then
      rewriteGrant id { grant with state := .active }
      modify fun a => { a with enforced := a.enforced + 1 }
    else
      Program.onlyIf (grant.state = .active ∧ enforceable = false) do
        countFence
        rewriteGrant id { grant with state := .fenced, note := reason }

def reevaluateEnforcement (reason : Bytes) : AgentOp Unit := do
  let now ← now
  sweepGrants () fun _ id grant => reevaluateGrant now reason id grant

/-! The cluster record. -/

/-- What the digest of a report covers: the record without what the registry adds to it. -/
def reportedContent (record : ClusterRecord) : ClusterRecord :=
  { record with
    revision := ⟨0⟩
    provenance := {}
    incarnationChanges := 0
    generationConflict := false
    conflictingGeneration := none
    contentDigest := 0
    lastSeen := ⟨0⟩
    consentWithdrawn := false }

def contentDigestOf (record : ClusterRecord) : Digest := sha256 (encodeCluster (reportedContent record))

/-- The endpoints as they are configured, bound to the cluster and its policy generation. -/
def declaredEndpoints (a : Agent) : List EndpointRecord :=
  sortEndpoints (a.config.endpoints.map fun endpoint =>
    { endpoint with cluster := a.cluster, policyGeneration := a.policyGeneration })

def describedCluster (a : Agent) (existing : ClusterRecord) (lastSeen observedAt : Timestamp) : ClusterRecord :=
  { existing with
    id := a.cluster
    domain := a.config.domain
    incarnation := a.incarnation
    generation := a.generation
    policyGeneration := a.policyGeneration
    state := a.clusterState
    consentWithdrawn := a.consentWithdrawn
    lastSeen
    endpoints := declaredEndpoints a
    provenance := { existing.provenance with source := .adminConfigured, verification := .verified, observedAt } }

/-- The record with its digest, under the next revision. -/
def sealedCluster (record : ClusterRecord) : ClusterRecord :=
  { record with contentDigest := contentDigestOf record, revision := record.revision.increment }

def persistCluster : AgentOp Unit := do
  let lastSeen ← now
  let observedAt ← now
  let a ← get
  let existing := a.registry.clusters[a.cluster]?.getD {}
  Program.focus Agent.registry (fun a registry => { a with registry }) (Program.update fun registry =>
    registry.putCluster (sealedCluster (describedCluster a existing lastSeen observedAt)))
  Program.forEach (← get).registry.clusters[a.cluster]?.toList fun record => appendMutation (.clusterPut record)

def reportCluster : AgentOp Unit := do
  let a ← get
  match a.registry.clusters[a.cluster]? with
  | none => throw (Status.make .internal (ascii "the agent has no local cluster record"))
  | some cluster => sendMessage (.reportCluster { session := a.coordinatorSession, cluster })

def reportIfConnected : AgentOp Unit := do
  Program.onlyIf ((← get).coordinatorConnected = true) reportCluster

/-! Proposals. -/

/-- Why the agent refuses terms that name it on this side. -/
def termsFault (a : Agent) (side : Side) (terms : ContractTerms) : Option Bytes :=
  if terms.incarnations.get side ≠ a.incarnation then
    some (ascii "the terms are bound to a superseded incarnation")
  else if terms.generations.get side ≠ a.generation then
    some (ascii "the terms are bound to a superseded generation")
  else if terms.policies.get side ≠ a.policyGeneration then
    some (ascii "the terms are bound to a superseded policy generation")
  else if a.consentWithdrawn = true then some (ascii "this cluster has withdrawn consent")
  else if a.clusterState ≠ .active then some (ascii "this cluster is not in the active state")
  else
    match a.registry.clusters[a.cluster]?.bind fun cluster =>
        cluster.endpoints.find? fun e => e.id = (terms.parties.get side).endpoint with
    | none => some (ascii "the terms name an endpoint scope this cluster does not own")
    | some endpoint =>
      if endpoint.interClusterAllowed = false ∨ endpoint.state ≠ .active then
        some (ascii "the endpoint scope does not accept inter-cluster connectivity")
      else
        match terms.validate with
        | .error status => some status.message
        | .ok () => none

def consentReply (a : Agent) (message : ProposeContractMessage) : ContractConsentMessage where
  session := a.coordinatorSession
  contract := message.contract
  termsDigest := message.terms.digest
  endpoint := ((sideAmong a.cluster message.terms.parties).map fun side =>
    (message.terms.parties.get side).endpoint).getD .empty
  incarnation := a.incarnation
  generation := a.generation
  policyGeneration := a.policyGeneration
  agentTerm := a.term

def acceptedText : Bytes := ascii "terms accepted by the cluster agent"

/-- The consent that is recorded with a contract. -/
def ownConsent (a : Agent) (side : Side) (terms : ContractTerms) (decidedAt : Timestamp) : ConsentRecord where
  cluster := a.cluster
  endpoint := (terms.parties.get side).endpoint
  incarnation := a.incarnation
  generation := a.generation
  policyGeneration := a.policyGeneration
  agentTerm := a.term
  termsDigest := terms.digest
  decision := .accepted
  decidedAt := decidedAt
  session := a.coordinatorSession
  authenticity := if a.config.channelKey = [] then .none else .sharedKeyMac
  reason := acceptedText

/-- The local record of a contract the agent consents to: what is known of the contract stays, the
terms and the own consent are replaced. -/
def agreedContract (a : Agent) (side : Side) (id : ContractId) (terms : ContractTerms)
    (createdAt updatedAt observedAt decidedAt : Timestamp) : ContractRecord :=
  let known := a.registry.contracts[id]?.getD {}
  { known with
    id
    parties := terms.parties
    capacity := terms.capacity
    leaseDuration := terms.leaseDuration
    termsDigest := terms.digest
    createdAt := if known.createdAt.unixNanos = 0 then createdAt else known.createdAt
    updatedAt
    state := .awaitingConsent
    provenance := { known.provenance with source := .agentReported, verification := .verified, observedAt }
    consents := known.consents.set side (some (ownConsent a side terms decidedAt))
    revision := known.revision.increment }

def refuseTerms (consent : ContractConsentMessage) (reason : Bytes) : AgentOp Unit := do
  countRefusal
  sendMessage (.contractConsent { consent with reason })

def acceptTerms (side : Side) (message : ProposeContractMessage) : AgentOp Unit := do
  let createdAt ← now
  let updatedAt ← now
  let observedAt ← now
  let decidedAt ← now
  let a ← get
  let contract := agreedContract a side message.contract message.terms createdAt updatedAt observedAt decidedAt
  Program.focus Agent.registry (fun a registry => { a with registry })
    (Program.update fun registry => registry.putContract contract)
  appendMutation (.contractPut contract)
  appendAudit "consent" contract.id.toText .ok
    (ascii "terms accepted and bound to this incarnation and generation")
  sendMessage (.contractConsent { consentReply a message with decision := .accepted, reason := acceptedText })

def onProposeContract (message : ProposeContractMessage) : AgentOp Unit := do
  let a ← get
  match sideAmong a.cluster message.terms.parties with
  | none => refuseTerms (consentReply a message) (ascii "the terms do not name this cluster")
  | some side =>
    match termsFault a side message.terms with
    | some reason => refuseTerms (consentReply a message) reason
    | none => acceptTerms side message

/-! Other messages of the coordinator. -/

/-- The coordinator's term is adopted, and what was not issued under it is fenced. -/
def onHelloAck (message : HelloAckMessage) : AgentOp Unit := do
  if message.outcome ≠ .ok then countRefusal
  else
    modify fun a => { a with
      coordinatorSession := message.session
      coordinatorTerm := message.coordinatorTerm
      coordinatorConnected := true }
    fenceNotRevalidated message.coordinatorTerm
    reportCluster

def onReportAck (message : ReportAckMessage) : AgentOp Unit :=
  Program.onlyIf (message.outcome ≠ .ok) countRefusal

/-- What reaches the agent over the connection to the coordinator. -/
inductive FromCoordinator
  | malformed (status : Status)
  | helloAck (message : HelloAckMessage)
  | reportAck (message : ReportAckMessage)
  | proposeContract (message : ProposeContractMessage)
  | prepareGrant (grant : GrantRecord)
  | commitGrant (grant : GrantId) (attempt : AttemptId)
  | abortGrant (grant : GrantId) (attempt : AttemptId) (reason : Bytes)
  | fence (grants : List GrantId) (reason : Bytes)
  | statusRequest
  | ping (sequence : Sequence)
  | pong
  | error
  | unsupported (kind : Bytes)

def onCoordinatorMessage (connection : ℕ) : FromCoordinator → AgentOp Unit
  | .malformed status => do
    countFrame
    throw status
  | .helloAck message => onHelloAck message
  | .reportAck message => onReportAck message
  | .proposeContract message => onProposeContract message
  | .prepareGrant grant => onPrepareGrant grant
  | .commitGrant grant attempt => onCommitGrant grant attempt
  | .abortGrant grant attempt reason => onAbortGrant grant attempt reason
  | .fence grants reason => onFence grants reason
  | .statusRequest => onStatusRequest
  | .ping sequence => sendTo connection (.pong sequence)
  | .pong => pure ()
  | .error => modify fun a => { a with errorsReceived := a.errorsReceived + 1 }
  | .unsupported kind => do
    countFrame
    sendTo connection (.error 0 .unsupported
      (ascii "message type is not accepted from the coordinator: " ++ kind))

/-- Such a message on the local control channel; a ping is answered to the coordinator. -/
def onControlMessage (connection : ℕ) : FromCoordinator → AgentOp Unit
  | .ping sequence => do sendTo (← get).coordinatorConnection (.pong sequence)
  | .pong => pure ()
  | .error => modify fun a => { a with errorsReceived := a.errorsReceived + 1 }
  | _ => do
    countFrame
    sendTo connection (.error 0 .unauthorized
      (ascii "the local control channel accepts only queries and local administration"))

/-! The connection to the coordinator. -/

/-- What an attempt to reach the coordinator meets: the last connection still in use, a failure, or a
new connection. -/
inductive Dial
  | inUse
  | failed (status : Status)
  | adopted (connection : ℕ)

def helloOf (a : Agent) : HelloMessage where
  role := .agent
  cluster := a.cluster
  domain := a.config.domain
  incarnation := a.incarnation
  generation := a.generation
  policyGeneration := a.policyGeneration
  agentTerm := a.term
  capabilities := 15
  contentDigest := (a.registry.clusters[a.cluster]?.map ClusterRecord.contentDigest).getD 0

def connectToCoordinator (dial : Dial) : AgentOp Unit := do
  if (← get).coordinatorConnected = true then pure ()
  else
    match dial with
    | .inUse => pure ()
    | .failed status => throw status
    | .adopted connection =>
      modify fun a => { a with coordinatorConnection := connection, coordinatorConnected := false }
      sendMessage (.hello (helloOf (← get)))

def handleDisconnect (connection : ℕ) : AgentOp Unit := do
  Program.onlyIf (connection = (← get).coordinatorConnection) do
    modify fun a => { a with
      coordinatorConnected := false, coordinatorConnection := 0, connectScheduled := true }

/-- A reconnect that was scheduled. -/
def reconnect (dial : Dial) : AgentOp Unit := do
  modify fun a => { a with connectScheduled := false }
  (connectToCoordinator dial).ignore

/-! The local control surface. -/

def setClusterState (state : ClusterState) : AgentOp Unit := do
  modify fun a => { a with clusterState := state }
  persistCluster
  reevaluateEnforcement (ascii "the cluster left the active state")
  reportIfConnected

def fenceSuperseded (id : GrantId) (grant : GrantRecord) : AgentOp Unit :=
  Program.onlyIf (grant.state = .active ∨ grant.state = .committed) <|
    rewriteGrant id { grant with
      state := .fenced, note := ascii "the cluster generation advanced; the grant must be reissued" }

/-- The pass over the grants compares their coordinator's term with the agent's own. -/
def bumpGeneration (reason : Bytes) : AgentOp Unit := do
  let generation ← Program.ofResult (← get).generation.next
  modify fun a => { a with generation }
  fenceNotRevalidated (← get).term
  sweepGrants () fun _ id grant => fenceSuperseded id grant
  persistCluster
  appendAudit "bump-generation" (← get).cluster.value .ok reason
  reportIfConnected

def setPolicyGeneration (generation : PolicyGeneration) : AgentOp Unit := do
  if generation < (← get).policyGeneration then
    throw (Status.make .stale (ascii "the policy generation must not move backwards"))
  else
    modify fun a => { a with policyGeneration := generation }
    persistCluster
    reevaluateEnforcement (ascii "the policy generation changed")
    reportIfConnected

def withdrawConsent (reason : Bytes) : AgentOp Unit := do
  modify fun a => { a with consentWithdrawn := true }
  persistCluster
  reevaluateEnforcement (ascii "consent withdrawn by the cluster")
  let a ← get
  Program.onlyIf (a.coordinatorConnected = true) do
    sendMessage (.withdraw {
      session := a.coordinatorSession, cluster := a.cluster, incarnation := a.incarnation
      generation := a.generation, reason })
  appendAudit "withdraw-consent" a.cluster.value .fenced reason

def restoreConsent : AgentOp Unit := do
  modify fun a => { a with consentWithdrawn := false }
  persistCluster

def fenceLocalGrant (id : GrantId) (reason : Bytes) : AgentOp Unit := do
  match (← get).registry.grants[id]? with
  | none => throw (Status.notFound "the grant is not recorded locally")
  | some grant =>
    rewriteGrant id { grant with state := .fenced, note := reason }
    countFence
    appendAudit "fence-local-grant" id.toText .fenced reason

/-- The first configured endpoint of the same identity is replaced; a new one goes to the end. -/
def declareEndpoint (endpoint : EndpointRecord) : List EndpointRecord → List EndpointRecord
  | [] => [endpoint]
  | known :: rest => if known.id = endpoint.id then endpoint :: rest else known :: declareEndpoint endpoint rest

/-- The endpoint as it is configured. -/
def stampedEndpoint (a : Agent) (endpoint : EndpointRecord) (observedAt : Timestamp) : EndpointRecord :=
  { endpoint with
    cluster := a.cluster
    policyGeneration := a.policyGeneration
    state := if endpoint.state = .unknown then .active else endpoint.state
    provenance := { endpoint.provenance with source := .adminConfigured, verification := .verified, observedAt } }

def upsertEndpoint (endpoint : EndpointRecord) : AgentOp Unit := do
  let observedAt ← now
  let a ← get
  if (a.config.endpoints.all fun known => decide (known.id ≠ endpoint.id)) = true ∧
      Limits.maxEndpointsPerCluster ≤ a.config.endpoints.length then
    throw (Status.make .capacityExceeded (ascii "the cluster declares too many endpoint scopes"))
  else
    modify fun a => { a with config := { a.config with
      endpoints := declareEndpoint (stampedEndpoint a endpoint observedAt) a.config.endpoints } }
    persistCluster
    reportIfConnected

/-- The text of an action in the answer that refuses it. -/
def actionText : AdminAction → String
  | .unspecified | .upsertCluster => "upsert-cluster"
  | .deleteCluster => "delete-cluster"
  | .setClusterState => "set-cluster-state"
  | .upsertLink => "upsert-link"
  | .setLinkState => "set-link-state"
  | .deleteLink => "delete-link"
  | .upsertPath => "upsert-path"
  | .deletePath => "delete-path"
  | .upsertPolicy => "upsert-policy"
  | .deletePolicy => "delete-policy"
  | .withdrawConsent => "withdraw-consent"
  | .restoreConsent => "restore-consent"
  | .resolveConflict => "resolve-conflict"
  | .authorizeContract => "authorize-contract"
  | .issueGrant => "issue-grant"
  | .revalidateGrant => "revalidate-grant"
  | .fenceGrant => "fence-grant"
  | .reloadStore => "reload-store"

def reasonOf (request : AdminMessage) : Bytes :=
  if request.reason = [] then ascii "operator request" else request.reason

def updateFromAdmin (request : AdminMessage) : AgentOp Unit := do
  match request.action with
  | .setClusterState => setClusterState request.clusterState
  | .withdrawConsent => withdrawConsent (reasonOf request)
  | .restoreConsent => restoreConsent
  | .fenceGrant => fenceLocalGrant request.grant (reasonOf request)
  | .upsertCluster =>
    match request.cluster with
    | none => throw (Status.invalid "upsert-cluster requires a cluster record")
    | some cluster => Program.forEach cluster.endpoints upsertEndpoint
  | .reloadStore =>
    throw (Status.make .unsupported (ascii
      "the store is opened during startup; restart the agent to reload it"))
  | action =>
    throw (Status.make .unsupported (ascii "the local control channel does not accept action '" ++
      ascii (actionText action) ++ ascii "'"))

def onAdmin (connection : ℕ) (request : AdminMessage) : AgentOp Unit := do
  let handled ← (updateFromAdmin request).attempt
  let result : AdminResultMessage := { request := request.request, viewDigest := (← get).registry.digest }
  match handled with
  | .ok () => sendTo connection (.adminResult { result with outcome := .ok })
  | .error status =>
    sendTo connection (.adminResult { result with outcome := status.outcome, detail := status.message })

/-! The periodic work. -/

def compactionMeta (a : Agent) : StoreMeta :=
  { a.recovery.storeMeta with term := a.term, incarnation := a.incarnation, stateDigest := a.registry.digest }

def compactIfNeeded : AgentOp Unit := do
  let a ← get
  Program.onlyIf (a.store.needsCompaction = true) do
    let moment ← moment
    modify fun a =>
      let written := a.store.compact a.files a.registry (compactionMeta a) moment.now ⟨stamp moment.entropy⟩
        moment.save moment.reset
      { a with store := written.store, files := written.files }

def tick (dial : Dial) : AgentOp Unit := do
  let a ← get
  Program.onlyIf (a.coordinatorConnected = false ∧ a.connectScheduled = false) do
    match ← (connectToCoordinator dial).attempt with
    | .ok () => pure ()
    | .error _ => modify fun a => { a with connectScheduled := true }
  (reevaluateEnforcement (ascii "the grant is no longer enforceable locally")).ignore
  compactIfNeeded

/-! The start. -/

def storeOptions (config : Config) : Options where
  directory := config.stateDirectory
  compactBytes := config.compactBytes
  compactRecords := config.compactRecords

/-- The state once the store is open. -/
def loaded (a : Agent) (opened : Opened) : Agent :=
  { a with
    store := opened.store
    files := opened.files
    registry := opened.recovery.registry
    recovery := { opened.recovery with registry := {} } }

def loadState (faults : Faults) : AgentOp Unit := do
  let a ← get
  let moment ← moment
  let opened ← Program.ofResult (openStore (storeOptions a.config) ⟨stamp moment.entropy⟩ faults a.files)
  modify fun a => loaded a opened

/-- The configured identity, under the next term of the agent's own. -/
def configured (a : Agent) (incarnation : Uuid) (startedAt : Timestamp) : Agent :=
  { a with
    term := a.recovery.storeMeta.term.increment
    incarnation := ⟨incarnation⟩
    generation := a.config.generation
    policyGeneration := a.config.policyGeneration
    clusterState := a.config.state
    startedAt }

/-- What the record of the last start contributes. -/
def resumed (a : Agent) (previous : ClusterRecord) : Agent :=
  { a with
    generation :=
      if a.config.generation = previous.generation then previous.generation.increment else a.config.generation
    clusterState := if previous.state = .unknown then a.config.state else previous.state
    policyGeneration :=
      if a.config.policyGeneration < previous.policyGeneration then previous.policyGeneration
      else a.config.policyGeneration
    consentWithdrawn := previous.consentWithdrawn }

def resume : AgentOp Unit := do
  let a ← get
  match a.registry.clusters[a.cluster]? with
  | none => pure ()
  | some previous =>
    if a.config.generation < previous.generation then
      throw (Status.make .stale (ascii
        "the configured generation is older than the generation recorded on disk"))
    else modify fun a => resumed a previous

def beginMeta (a : Agent) : StoreMeta where
  term := a.term
  incarnation := a.incarnation
  revision := a.recovery.storeMeta.revision
  sequence := a.store.wal.lastSequence
  writtenAt := a.startedAt
  truncations := a.recovery.storeMeta.truncations
  stateDigest := a.registry.digest

/-- An operation on the store, with its files. -/
def onStore {α : Type} (op : DurableStore → Files → Written α) : AgentOp Unit := fun a =>
  let written := op a.store a.files
  (written.result.map fun _ => (), { a with store := written.store, files := written.files })

/-- The states that a restart takes back. -/
def restsOnProcess : GrantState → Bool
  | .active | .committed | .prepared | .preparing | .indeterminate => true
  | _ => false

def fenceRecoveredGrant (id : GrantId) (grant : GrantRecord) : AgentOp Unit :=
  Program.onlyIf (restsOnProcess grant.state = true) do
    modify fun a => { a with recoveredGrantsFenced := a.recoveredGrantsFenced + 1 }
    rewriteGrant id { grant with
      state := .fenced
      note := ascii "recovered enforcement is historical until the coordinator revalidates it" }

def fenceRecovered : AgentOp Unit := do
  sweepGrants () fun _ id grant => fenceRecoveredGrant id grant
  let a ← get
  let moment ← moment
  onStore fun store files => store.appendIncident files
    (ascii "recovered from store: " ++ CoreStatus.decimal a.recoveredGrantsFenced.toNat ++
      ascii " enforcement records fenced pending revalidation") a.startedAt moment.append

def beginIncarnation : AgentOp Unit := do
  let incarnation ← random
  let startedAt ← now
  modify fun a => configured a incarnation startedAt
  resume
  let a ← get
  let moment ← moment
  onStore fun store files => store.appendMeta files (beginMeta a) startedAt moment.append
  Program.onlyIf (a.recovery.recoveredFromStore = true) fenceRecovered
  appendAudit "begin-incarnation" a.incarnation.toText .ok
    (ascii "term=" ++ CoreStatus.decimal a.term.value.toNat)

/-- What the start of an agent meets: the answers of the file system and of the listener. -/
structure Launch where
  config : Config
  moments : ℕ → RuntimeCoordinator.Moment
  faults : Faults := {}
  listening : Option Status := none

def launched (launch : Launch) (files : Files) : Agent where
  config := launch.config
  moments := launch.moments
  files := files

/-- An agent is not made without the names it answers to. -/
def checkConfig (config : Config) : Result Unit := do
  rejectIf (config.cluster.isEmpty = true) (Status.invalid "the agent requires a cluster identity")
  rejectIf (config.domain.isEmpty = true) (Status.invalid "the agent requires an authority domain identity")
  rejectIf (config.stateDirectory = []) (Status.invalid "the agent requires a state directory")

def start (launch : Launch) : AgentOp Unit := do
  Program.ofResult (checkConfig launch.config)
  loadState launch.faults
  beginIncarnation
  persistCluster
  Program.ofResult (attempt launch.listening)

/-! Running. -/

inductive Event
  | message (connection : ℕ) (frame : FromCoordinator)
  | admin (connection : ℕ) (request : AdminMessage)
  | setClusterState (state : ClusterState)
  | bumpGeneration (reason : Bytes)
  | setPolicyGeneration (generation : PolicyGeneration)
  | withdrawConsent (reason : Bytes)
  | fenceLocalGrant (grant : GrantId) (reason : Bytes)
  | upsertEndpoint (endpoint : EndpointRecord)
  | reconnect (dial : Dial)
  | retry (dial : Dial)
  | disconnect (connection : ℕ)
  | tick (dial : Dial)

def handle : Event → AgentOp Unit
  | .message connection frame => do
    if connection = (← get).coordinatorConnection then onCoordinatorMessage connection frame
    else onControlMessage connection frame
  | .admin connection request => onAdmin connection request
  | .setClusterState state => setClusterState state
  | .bumpGeneration reason => bumpGeneration reason
  | .setPolicyGeneration generation => setPolicyGeneration generation
  | .withdrawConsent reason => withdrawConsent reason
  | .fenceLocalGrant grant reason => fenceLocalGrant grant reason
  | .upsertEndpoint endpoint => upsertEndpoint endpoint
  | .reconnect dial => reconnect dial
  | .retry dial => (connectToCoordinator dial).ignore
  | .disconnect connection => handleDisconnect connection
  | .tick dial => tick dial

/-- An operation that fails keeps what it has done. -/
def step (a : Agent) (event : Event) : Agent := (handle event a).2

def run (a : Agent) (events : List Event) : Agent := events.foldl step a

/-- An agent that has started successfully on some files. -/
def Started (launch : Launch) (files : Files) (a : Agent) : Prop :=
  start launch (launched launch files) = (.ok (), a)

end InterClusterFabric.RuntimeAgentRun
