import InterClusterFabric.EngineDecide
import InterClusterFabric.RuntimeHandlers

/-! Queries, which only read, and the administrative actions of an operator. A failed action is
answered with the outcome and the message of its status. -/
namespace InterClusterFabric.RuntimeAdmin
open CoreStatus CoreIds CoreTime CoreHash ModelRecords ModelRegistry EngineDecision EngineDecide
open RuntimeFencing StoreMutation StoreDurable WireMessages RuntimeCoordinator RuntimeHandlers
open LibraryChecked LibraryOrdMap LibraryProgram

/-! Queries. -/

def coordinatorStatus (s : Coordinator) : CoordinatorStatus where
  domain := s.config.domain
  incarnation := s.incarnation
  term := s.term
  startedAt := s.startedAt
  viewDigest := s.registry.digest
  revision := s.recovery.storeMeta.revision
  recoveredFromStore := s.recovery.recoveredFromStore
  recoveredRecords := s.recovery.wal.records
  truncationsRecovered := s.recovery.storeMeta.truncations
  clusters := s.registry.clusters.size
  endpoints := ((values s.registry.clusters).map fun cluster => cluster.endpoints.length).sum
  links := s.registry.links.size
  paths := s.registry.paths.size
  contracts := s.registry.contracts.size
  grants := s.registry.grants.size
  reservations := s.registry.reservations.size
  policies := s.registry.policies.size
  audit := s.registry.audit.length
  connectedAgents := ((values s.sessions).filter fun session =>
    session.role == .agent && session.helloComplete).length
  commits := s.commits
  fences := s.fences
  refusals := s.refusals
  revalidations := s.revalidations
  rejectedReplays := s.rejectedReplays
  rejectedFrames := s.rejectedFrames

def decisionQuery (query : QueryMessage) (queriedAt : Timestamp) : DecisionQuery where
  source := query.endpoint
  target := query.endpointB
  requestedCapacity := query.capacity
  allowDegraded := query.allowDegraded
  queriedAt := queriedAt
  expectSourceGeneration := query.expectSourceGeneration
  sourceGeneration := query.sourceGeneration
  expectTargetGeneration := query.expectTargetGeneration
  targetGeneration := query.targetGeneration

def queryTrigger : ℕ → FenceTrigger
  | 1 => .clusterReincarnation
  | 2 => .clusterWithdrawal
  | 3 => .policyGenerationChange
  | 4 => .coordinatorReincarnation
  | _ => .manual

def accountingEntry (registry : Registry) (reservation : ReservationRecord) : AccountingEntry where
  grant := reservation.grant
  contract := (registry.grants[reservation.grant]?.map GrantRecord.contract).getD ⟨0⟩
  endpoint := reservation.endpoint
  cluster := reservation.cluster
  reserved := reservation.amount
  released := if reservation.released then reservation.amount else ⟨0⟩
  closed := reservation.released

/-- The answer to a query in a state, with the clock as it is read for a decision. -/
def handleQuery (s : Coordinator) (query : QueryMessage) (queriedAt viewedAt : Timestamp) :
    Result QueryResultMessage := do
  let registry := s.registry
  let result : QueryResultMessage := { request := query.request, kind := query.kind, outcome := .ok }
  let limit := if query.limit = 0 then 256 else query.limit
  match query.kind with
  | .unspecified => return result
  | .status => return { result with status := some (coordinatorStatus s) }
  | .listClusters =>
    let listed := (values registry.clusters).filter fun cluster =>
      query.cluster.isEmpty || cluster.id == query.cluster
    return { result with clusters := listed.take limit }
  | .showCluster =>
    let cluster ← orReject registry.clusters[query.cluster]? (Status.notFound "cluster is not registered")
    return { result with clusters := [cluster] }
  | .listLinks => return { result with links := (values registry.links).take limit }
  | .listPaths => return { result with paths := (values registry.paths).take limit }
  | .listPolicies => return { result with policies := (values registry.policies).take limit }
  | .listContracts => return { result with contracts := (values registry.contracts).take limit }
  | .showContract =>
    let contract ← orReject registry.contracts[query.contract]?
      (Status.notFound "contract is not registered")
    return { result with contracts := [contract] }
  | .listGrants => return { result with grants := (values registry.grants).take limit }
  | .showGrant =>
    let grant ← orReject registry.grants[query.grant]? (Status.notFound "grant is not registered")
    return { result with grants := [grant] }
  | .listReservations => return { result with reservations := (values registry.reservations).take limit }
  | .listAudit => return { result with audit := registry.audit.drop (registry.audit.length - limit) }
  | .decide =>
    let decision := decide registry (decisionQuery query queriedAt)
      { term := s.term, incarnation := s.incarnation, now := viewedAt }
    return { result with
      outcome := decision.outcome, detail := decision.detail, decision := some decision }
  | .fencePlan =>
    let cluster ← orReject registry.clusters[query.cluster]? (Status.notFound "cluster is not registered")
    return { result with fencePlan := some (planFence registry (queryTrigger query.limit) cluster.id
      cluster.incarnation cluster.incarnation cluster.generation s.term) }
  | .accounting =>
    return { result with
      accounting := ((values registry.reservations).take limit).map (accountingEntry registry) }

def onQuery (connection : ℕ) (query : QueryMessage) : Op Unit := do
  let s ← get
  let queriedAt ← now
  let viewedAt ← now
  let result :=
    match handleQuery s query queriedAt viewedAt with
    | .ok result => result
    | .error status =>
      { request := query.request, kind := query.kind, outcome := status.outcome, detail := status.message }
  send connection (.queryResult result)

/-! Contracts. -/

def proposalTerms (registry : Registry) (contract : ContractRecord) : Option ContractTerms := do
  let first ← registry.clusters[contract.parties.first.cluster]?
  let second ← registry.clusters[contract.parties.second.cluster]?
  return {
    parties := contract.parties, capacity := contract.capacity, leaseDuration := contract.leaseDuration
    proposedAt := contract.createdAt
    incarnations := ⟨first.incarnation, second.incarnation⟩
    generations := ⟨first.generation, second.generation⟩
    policies := ⟨first.policyGeneration, second.policyGeneration⟩ }

/-- The proposal to the agent of one party; whether every agent so far was connected is carried. -/
def proposeTo (contract : ContractRecord) (connected : Bool) (party : PartyRef) : Op Bool := do
  let s ← get
  let target := targetFor s.sessions party.cluster
  if target.connected = false then return false
  else
    match proposalTerms s.registry contract with
    | none => throw (Status.notFound "a contracting cluster is not registered")
    | some terms =>
      let attempt ← random
      send target.connectionId (.proposeContract {
        session := target.token, contract := contract.id, terms, attempt := ⟨attempt⟩ })
      return connected

def proposeContractToAgents (contract : ContractRecord) : Op Unit := do
  let connected ← Program.foldEach [contract.parties.first, contract.parties.second] true (proposeTo contract)
  if connected then pure ()
  else
    throw (Status.make .unreachable
      (ascii "a contracting cluster agent is not connected; the contract stays proposed"))

/-- The contract a request proposes between two clusters. -/
def proposedContract (config : Config) (request : AdminMessage) (id : Uuid) (source target : ClusterRecord)
    (createdAt : Timestamp) : ContractRecord where
  id := ⟨id⟩
  parties := ⟨⟨source.id, request.endpoint, source.domain⟩, ⟨target.id, request.endpointB, target.domain⟩⟩
  capacity := if request.capacity.value = 0 then ⟨1⟩ else request.capacity
  leaseDuration := if request.leaseDuration.isZero then config.defaultLease else request.leaseDuration
  state := .proposed
  createdAt := createdAt
  updatedAt := createdAt
  provenance := { source := .adminConfigured, verification := .verified, observedAt := createdAt }

def contractTerms (contract : ContractRecord) (source target : ClusterRecord) : ContractTerms where
  parties := contract.parties
  capacity := contract.capacity
  leaseDuration := contract.leaseDuration
  proposedAt := contract.createdAt
  incarnations := ⟨source.incarnation, target.incarnation⟩
  generations := ⟨source.generation, target.generation⟩
  policies := ⟨source.policyGeneration, target.policyGeneration⟩

def applyContractProposal (request : AdminMessage) : Op AdminResultMessage := do
  let s ← get
  if request.clusterId.isEmpty = true ∨ request.endpoint.isEmpty = true ∨ request.clusterB.isEmpty = true ∨
      request.endpointB.isEmpty = true then
    throw (Status.invalid "a contract requires two clusters and two endpoint scopes")
  else
    match s.registry.clusters[request.clusterId]?, s.registry.clusters[request.clusterB]? with
    | some source, some target =>
      let id ← random
      let createdAt ← now
      let contract := proposedContract s.config request id source target createdAt
      let terms := contractTerms contract source target
      Program.ofResult terms.validate
      let contract := { contract with termsDigest := terms.digest }
      onRegistry (Program.update fun registry => registry.putContract contract)
      appendMutation (.contractPut contract)
      appendAudit "operator" "propose-contract" contract.id.toText .ok (ascii "two-sided consent requested")
      proposeContractToAgents contract
      return {
        outcome := .ok, contract := contract.id
        detail := ascii "contract " ++ contract.id.toText ++ ascii " proposed to both authority domains" }
    | _, _ =>
      throw (Status.notFound "both clusters must be registered before a contract can be proposed")

/-! Grants. -/

/-- The grant a request issues under a contract, bound to the two clusters as they are now. -/
def issuedGrant (s : Coordinator) (id attempt : Uuid) (contract : ContractRecord) (capacity : CapacityUnits)
    (first second : ClusterRecord) (issuedAt : Timestamp) : GrantRecord where
  id := ⟨id⟩
  contract := contract.id
  termsDigest := contract.termsDigest
  coordinatorTerm := s.term
  coordinator := s.incarnation
  attempt := ⟨attempt⟩
  capacity := capacity
  issuedAt := issuedAt
  validUntil := issuedAt.plus contract.leaseDuration
  state := .preparing
  incarnations := ⟨first.incarnation, second.incarnation⟩
  generations := ⟨first.generation, second.generation⟩
  policies := ⟨first.policyGeneration, second.policyGeneration⟩

def applyGrantIssue (request : AdminMessage) : Op AdminResultMessage := do
  let s ← get
  match s.registry.contracts[request.contract]? with
  | none => throw (Status.notFound "the contract is not registered")
  | some contract =>
    if contract.state ≠ .consented ∧ contract.state ≠ .active then
      throw (Status.make .incomplete
        (ascii "both authority domains must consent before a grant can be issued"))
    else
      let id ← random
      let attempt ← random
      let capacity := if request.capacity.value = 0 then contract.capacity else request.capacity
      if contract.capacity < capacity then
        throw (Status.make .capacityExceeded (ascii "the requested capacity exceeds the contract capacity"))
      else
        let issuedAt ← now
        match s.registry.clusters[contract.parties.first.cluster]?,
            s.registry.clusters[contract.parties.second.cluster]? with
        | some first, some second =>
          let grant := issuedGrant s id attempt contract capacity first second issuedAt
          onRegistry (Program.update fun registry => registry.putGrant grant)
          prepareGrant false grant
          return {
            outcome := .ok, contract := grant.contract, grant := grant.id
            detail := ascii "grant " ++ grant.id.toText ++ ascii " is being prepared on both sides" }
        | _, _ => throw (Status.notFound "a contracting cluster is not registered")

/-- The first writes of a revalidation, which stay even if the rest of it fails. -/
def reattempted (s : Coordinator) (attempt : Uuid) (issuedAt : Timestamp) (grant : GrantRecord) :
    GrantRecord :=
  { grant with
    attempt := ⟨attempt⟩, coordinatorTerm := s.term, coordinator := s.incarnation, issuedAt }

def revalidating (contract : ContractRecord) (grant : GrantRecord) : GrantRecord :=
  { grant with
    validUntil := grant.issuedAt.plus contract.leaseDuration
    acknowledged := ⟨false, false⟩
    state := .preparing
    note := ascii "revalidation requested after a superseding change" }

def applyGrantRevalidation (request : AdminMessage) : Op AdminResultMessage := do
  let s ← get
  match s.registry.grants[request.grant]? with
  | none => throw (Status.notFound "the grant is not registered")
  | some grant =>
    if grant.state = .fenced then
      throw (Status.make .fenced (ascii "a fenced grant is never revived; issue a new grant instead"))
    else
      let attempt ← random
      let issuedAt ← now
      let grant := reattempted s attempt issuedAt grant
      writeGrant request.grant grant
      match s.registry.contracts[grant.contract]? with
      | none => throw (Status.notFound "the grant references an unknown contract")
      | some contract =>
        let grant := revalidating contract grant
        writeGrant request.grant grant
        prepareGrant true grant
        return {
          outcome := .ok, contract := grant.contract, grant := grant.id
          detail := ascii "grant revalidation started with a fresh attempt identifier" }

def applyGrantFence (request : AdminMessage) : Op AdminResultMessage := do
  let s ← get
  match s.registry.grants[request.grant]? with
  | none => throw (Status.notFound "the grant is not registered")
  | some grant =>
    fencePlanApply (grantsPlan s.registry .grantRevocation .grantFenced s.term [grant.id]) "operator"
    return { outcome := .ok }

/-! Clusters. -/

def applyConsentChange (request : AdminMessage) (withdraw : Bool) : Op AdminResultMessage := do
  match (← get).registry.clusters[request.clusterId]? with
  | none => throw (Status.notFound "the cluster is not registered")
  | some cluster =>
    writeCluster request.clusterId { cluster with consentWithdrawn := withdraw }
    Program.onlyIf (withdraw = true) (fenceCluster cluster.id .clusterWithdrawal cluster.incarnation
      cluster.incarnation cluster.generation)
    logCluster request.clusterId
    appendAudit "operator" (if withdraw then "withdraw-consent" else "restore-consent")
      request.clusterId.value .ok request.reason
    return {
      outcome := .ok
      detail := ascii (if withdraw then "consent withdrawn and dependent grants fenced" else "consent restored") }

def applyConflictResolution (request : AdminMessage) : Op AdminResultMessage := do
  match (← get).registry.clusters[request.clusterId]? with
  | none => throw (Status.notFound "the cluster is not registered")
  | some cluster =>
    if cluster.generationConflict = false then
      throw (Status.invalid "the cluster has no unresolved generation conflict")
    else if request.generation ≤ cluster.generation then
      throw (Status.invalid "the resolving generation must be greater than the conflicting generation")
    else
      writeCluster request.clusterId { cluster with
        generationConflict := false, conflictingGeneration := none, generation := request.generation }
      fenceCluster cluster.id .manual cluster.incarnation cluster.incarnation request.generation
      logCluster request.clusterId
      appendAudit "operator" "resolve-conflict" request.clusterId.value .ok request.reason
      return {
        outcome := .ok
        detail := ascii "generation conflict resolved at generation " ++
          CoreStatus.decimal request.generation.value.toNat }

/-- The provenance an operator's record is stored with. -/
def configured (provenance : Provenance) (source : EvidenceSource) (observedAt : Timestamp) : Provenance :=
  { provenance with source, verification := .verified, observedAt }

def upsertCluster (request : AdminMessage) : Op AdminResultMessage := do
  match request.cluster with
  | none => throw (Status.invalid "upsert-cluster requires a cluster record")
  | some record =>
    let s ← get
    let observedAt ← now
    let record := { record with
      domain := if record.domain.isEmpty then s.config.domain else record.domain
      revision := ⟨UInt64.ofNat (s.registry.clusters.size + s.registry.contracts.size)⟩
      provenance := configured record.provenance .adminConfigured observedAt }
    onRegistry (Program.update fun registry => registry.putCluster record)
    logCluster record.id
    appendAudit "operator" "upsert-cluster" record.id.value .ok (ascii "administrative record")
    return { outcome := .ok }

/-- The erase mutation carries the identity only; every other field of its record is the default. -/
def deleteCluster (request : AdminMessage) : Op AdminResultMessage := do
  onRegistry (Program.update fun registry => registry.eraseCluster request.clusterId)
  appendMutation (.clusterErase { id := request.clusterId })
  return { outcome := .ok }

def setClusterState (request : AdminMessage) : Op AdminResultMessage := do
  match (← get).registry.clusters[request.clusterId]? with
  | none => throw (Status.notFound "the cluster is not registered")
  | some cluster =>
    writeCluster request.clusterId { cluster with state := request.clusterState }
    Program.onlyIf (request.clusterState = .retired) (fenceCluster cluster.id .manual cluster.incarnation
      cluster.incarnation cluster.generation)
    logCluster request.clusterId
    return { outcome := .ok }

/-! Topology. -/

def recomputePaths : Op Unit := modify fun s => { s with registry := s.registry.recomputePathStates }

def upsertLink (request : AdminMessage) : Op AdminResultMessage := do
  match request.link with
  | none => throw (Status.invalid "upsert-link requires a link record")
  | some record =>
    let s ← get
    let observedAt ← now
    if linkKindSupported record.kind = false then
      throw (Status.unsupported
        (ascii "link kind is not supported by this runtime: " ++ linkKindSupportNote record.kind))
    else
      let record := { record with
        revision := ⟨UInt64.ofNat s.registry.links.size⟩
        provenance := configured record.provenance .adminConfigured observedAt
        state := if record.state = .unknown ∧ record.kind = .syntheticModel then .up else record.state }
      onRegistry (Program.update fun registry => registry.putLink record)
      appendMutation (.linkPut record)
      recomputePaths
      appendAudit "operator" "upsert-link" record.id.value .ok (linkKindSupportNote record.kind)
      return { outcome := .ok }

def setLinkState (request : AdminMessage) : Op AdminResultMessage := do
  match (← get).registry.links[request.edge]? with
  | none => throw (Status.notFound "the link is not registered")
  | some link =>
    let observedAt ← now
    let updated := { link with
      state := request.linkState, provenance := { link.provenance with observedAt } }
    writeLink request.edge updated
    appendMutation (.linkPut updated)
    recomputePaths
    Program.forEach (values (← get).registry.paths) fun path => appendMutation (.pathPut path)
    return { outcome := .ok }

def deleteLink (request : AdminMessage) : Op AdminResultMessage := do
  onRegistry (Program.update fun registry => registry.eraseLink request.edge)
  appendMutation (.linkErase { id := request.edge })
  return { outcome := .ok }

def upsertPath (request : AdminMessage) : Op AdminResultMessage := do
  match request.path with
  | none => throw (Status.invalid "upsert-path requires a path record")
  | some record =>
    let s ← get
    let observedAt ← now
    let record := { record with
      revision := ⟨UInt64.ofNat s.registry.paths.size⟩
      provenance := configured record.provenance .derivedFromTopology observedAt }
    onRegistry (Program.update fun registry => registry.putPath record)
    recomputePaths
    Program.forEach (← get).registry.paths[record.id]?.toList fun path => appendMutation (.pathPut path)
    return { outcome := .ok }

/-- The name of an edge, taken as the name of a path. -/
def pathOfEdge (edge : EdgeId) : PathId := ⟨edge.value, edge.accepted⟩

def deletePath (request : AdminMessage) : Op AdminResultMessage := do
  onRegistry (Program.update fun registry => registry.erasePath (pathOfEdge request.edge))
  appendMutation (.pathErase { id := pathOfEdge request.edge })
  return { outcome := .ok }

/-! Policies. -/

def upsertPolicy (request : AdminMessage) : Op AdminResultMessage := do
  match request.policy with
  | none => throw (Status.invalid "upsert-policy requires a policy rule")
  | some rule =>
    let s ← get
    let observedAt ← now
    let rule := { rule with
      owner := if rule.owner.isEmpty then s.config.domain else rule.owner
      revision := ⟨UInt64.ofNat s.registry.policies.size⟩
      provenance := configured rule.provenance .adminConfigured observedAt }
    onRegistry (Program.update fun registry => registry.putPolicy rule)
    appendMutation (.policyPut rule)
    -- the policy generation is what the consents were bound to
    Program.forEach [rule.clusterA, rule.clusterB] fun cluster =>
      Program.onlyIf (cluster.isEmpty = false)
        (fenceCluster cluster .policyGenerationChange ⟨0⟩ ⟨0⟩ ⟨0⟩)
    appendAudit "operator" "upsert-policy" rule.id .ok
      (ascii (if rule.allow then "allow rule" else "refuse rule"))
    return { outcome := .ok }

def deletePolicy (request : AdminMessage) : Op AdminResultMessage := do
  onRegistry (Program.update fun registry => registry.erasePolicy request.policyId)
  appendMutation (.policyErase { id := request.policyId })
  return { outcome := .ok }

/-! Dispatch. -/

def handleAdmin (request : AdminMessage) : Op AdminResultMessage :=
  match request.action with
  | .unspecified => return { outcome := .ok }
  | .upsertCluster => upsertCluster request
  | .deleteCluster => deleteCluster request
  | .setClusterState => setClusterState request
  | .upsertLink => upsertLink request
  | .setLinkState => setLinkState request
  | .deleteLink => deleteLink request
  | .upsertPath => upsertPath request
  | .deletePath => deletePath request
  | .upsertPolicy => upsertPolicy request
  | .deletePolicy => deletePolicy request
  | .withdrawConsent => applyConsentChange request true
  | .restoreConsent => applyConsentChange request false
  | .resolveConflict => applyConflictResolution request
  | .authorizeContract => applyContractProposal request
  | .issueGrant => applyGrantIssue request
  | .revalidateGrant => applyGrantRevalidation request
  | .fenceGrant => applyGrantFence request
  | .reloadStore => throw (Status.unsupported
      (ascii "the store is opened once during startup; restart the coordinator to reload it"))

/-- The result of a handled action, and of a failed one. -/
def adminResult (request : AdminMessage) (digest : Digest) : Result AdminResultMessage → AdminResultMessage
  | .ok result => { result with request := request.request, viewDigest := digest }
  | .error status => {
      request := request.request, outcome := status.outcome, detail := status.message, viewDigest := digest }

/-- An agent may not administer; anyone else may, with or without a session. -/
def mayAdminister (s : Coordinator) (connection : ℕ) : Bool :=
  (s.sessions[connection]?.map fun session => session.role != .agent).getD true

def onAdmin (connection : ℕ) (request : AdminMessage) : Op Unit := do
  if mayAdminister (← get) connection = false then
    countReplay
    sendError connection request.request .unauthorized
      (ascii "an agent session may not perform coordinator administration")
  else
    let handled ← (handleAdmin request).attempt
    let digest := (← get).registry.digest
    send connection (.adminResult (adminResult request digest handled))

end InterClusterFabric.RuntimeAdmin
