import InterClusterFabric.RuntimeCoordinator

/-! What the coordinator does with the messages of an agent, with a lost connection and with a tick
of its timer. -/
namespace InterClusterFabric.RuntimeHandlers
open CoreStatus CoreIds CoreTime CoreHash ModelRecords ModelRegistry EngineDecision RuntimeFencing
open StoreMutation StoreDurable WireMessages RuntimeCoordinator LibraryOrdMap LibraryProgram

/-! Handshakes. -/

def refuseHello (connection : ℕ) (ack : HelloAckMessage) (outcome : Outcome) (detail : Bytes) : Op Unit := do
  countRefusal
  send connection (.helloAck { ack with outcome, detail })

/-- The grants that are fenced, whoever fenced them. -/
def fencedGrants (registry : Registry) : List GrantId :=
  (registry.grants.toList.filter fun entry => entry.2.state == .fenced).map Prod.fst

/-- The end of an accepted agent handshake: the session, the acknowledgement, the fenced grants and
a request for the state the agent enforces. -/
def welcomeAgent (connection : ℕ) (request : HelloMessage) (ack : HelloAckMessage) (signing : Bool)
    (fenced : List GrantId) (detail : Bytes) : Op Unit := do
  let token ← random
  let connectedAt ← now
  let session : PeerSession := {
    role := .agent, cluster := request.cluster, domain := request.domain
    incarnation := request.incarnation, generation := request.generation
    policyGeneration := request.policyGeneration, agentTerm := request.agentTerm, token := ⟨token⟩
    helloComplete := true, connectedAt, connectionId := connection, signing }
  let registry := (← get).registry
  let conflict := (registry.clusters[request.cluster]?.map ClusterRecord.generationConflict).getD false
  modify fun s => { s with sessions := s.sessions.insert connection session }
  send connection (.helloAck { ack with
    session := ⟨token⟩
    outcome := if conflict then .conflicting else .ok
    detail := if conflict then
      ascii "the cluster has an unresolved generation conflict; resolve it before reconnecting" else detail
    viewDigest := registry.digest
    revalidate := fenced })
  Program.onlyIf (fenced ≠ []) (send connection (.fence ⟨token⟩ ack.coordinatorTerm fenced
    (ascii "cluster reincarnation or policy change fenced these grants")))
  let query ← random
  send connection (.statusRequest ⟨token⟩ query)

/-- The record an agent registers itself with. -/
def registeredCluster (request : HelloMessage) (lastSeen observedAt : Timestamp) : ClusterRecord where
  id := request.cluster
  domain := request.domain
  incarnation := request.incarnation
  generation := request.generation
  policyGeneration := request.policyGeneration
  state := .unknown
  lastSeen := lastSeen
  contentDigest := request.contentDigest
  provenance := {
    source := .agentReported, verification := .verified, observedAt, evidenceDigest := request.contentDigest }

def registerAgent (connection : ℕ) (request : HelloMessage) (ack : HelloAckMessage) (signing : Bool) :
    Op Unit := do
  if (← get).config.allowAgentRegistration = false then
    refuseHello connection ack .notFound
      (ascii "cluster identity is not registered and agent-driven registration is disabled")
  else
    let lastSeen ← now
    let observedAt ← now
    let record := registeredCluster request lastSeen observedAt
    match ← (onRegistry (Program.update fun registry => registry.putCluster record)).attempt with
    | .error status => refuseHello connection ack status.outcome status.message
    | .ok () =>
      logCluster request.cluster
      appendAudit "coordinator" "register-cluster" request.cluster.value .ok
        (ascii "cluster identity registered from an agent handshake")
      welcomeAgent connection request ack signing [] []

/-- The cluster under the incarnation its agent now presents. -/
def reincarnated (request : HelloMessage) (lastSeen observedAt : Timestamp) (cluster : ClusterRecord) :
    ClusterRecord :=
  { cluster with
    incarnation := request.incarnation
    generation := request.generation
    -- the old digest would make the next report look like a same-generation conflict
    contentDigest := request.contentDigest
    generationConflict := false
    conflictingGeneration := none
    lastSeen := lastSeen
    incarnationChanges := cluster.incarnationChanges + 1
    provenance := { cluster.provenance with source := .agentReported, verification := .verified, observedAt } }

def reincarnateAgent (connection : ℕ) (request : HelloMessage) (ack : HelloAckMessage) (signing : Bool)
    (cluster : ClusterRecord) : Op Unit := do
  let lastSeen ← now
  let observedAt ← now
  writeCluster request.cluster (reincarnated request lastSeen observedAt cluster)
  fenceCluster request.cluster .clusterReincarnation request.incarnation cluster.incarnation request.generation
  let fenced := fencedGrants (← get).registry
  logCluster request.cluster
  welcomeAgent connection request ack signing fenced
    (ascii "cluster reincarnation recorded; dependent grants were fenced")

def advancePolicy (connection : ℕ) (request : HelloMessage) (ack : HelloAckMessage) (signing : Bool)
    (cluster : ClusterRecord) : Op Unit := do
  let lastSeen ← now
  writeCluster request.cluster { cluster with policyGeneration := request.policyGeneration, lastSeen }
  fenceCluster request.cluster .policyGenerationChange cluster.incarnation cluster.incarnation cluster.generation
  logCluster request.cluster
  welcomeAgent connection request ack signing []
    (ascii "bind policy generation changed; dependent grants were fenced")

def returningAgent (connection : ℕ) (request : HelloMessage) (ack : HelloAckMessage) (signing : Bool)
    (cluster : ClusterRecord) : Op Unit := do
  if cluster.domain ≠ request.domain then
    refuseHello connection ack .refused (ascii "the cluster is governed by a different authority domain")
  else if request.generation < cluster.generation then
    countRefusal
    appendAudit "coordinator" "reject-stale-handshake" request.cluster.value .stale
      (ascii "older generation presented")
    send connection (.helloAck { ack with
      outcome := .stale
      detail := ascii "the agent presents a generation older than the authoritative one" })
  else if request.incarnation ≠ cluster.incarnation then
    if request.generation = cluster.generation then
      refuseHello connection ack .stale
        (ascii "a new incarnation must present a generation greater than the recorded one")
    else reincarnateAgent connection request ack signing cluster
  else if request.policyGeneration ≠ cluster.policyGeneration then
    if request.policyGeneration < cluster.policyGeneration then
      refuseHello connection ack .stale
        (ascii "the agent presents a policy generation older than the authoritative one")
    else advancePolicy connection request ack signing cluster
  else
    let lastSeen ← now
    writeCluster request.cluster { cluster with lastSeen }
    welcomeAgent connection request ack signing [] (ascii "handshake accepted")

def welcomeObserver (connection : ℕ) (request : HelloMessage) (ack : HelloAckMessage) (signing : Bool) :
    Op Unit := do
  let token ← random
  let connectedAt ← now
  let session : PeerSession := {
    role := .observer, domain := request.domain, token := ⟨token⟩, helloComplete := true, connectedAt
    connectionId := connection, signing }
  modify fun s => { s with sessions := s.sessions.insert connection session }
  send connection (.helloAck { ack with
    session := ⟨token⟩, outcome := .ok, detail := ascii "observer session established" })

def onHello (connection : ℕ) (request : HelloMessage) : Op Unit := do
  let s ← get
  let ack : HelloAckMessage := {
    coordinator := s.incarnation, coordinatorTerm := s.term, viewDigest := s.registry.digest }
  let negotiated := min request.protocolMax protocolVersionMax
  if negotiated < max request.protocolMin protocolVersionMin then
    refuseHello connection ack .unsupported (ascii "no protocol version is supported by both peers")
  else
    let ack := { ack with negotiatedVersion := negotiated }
    let signing := channelKeyFor s.config request.domain ≠ []
    if request.role = .observer then welcomeObserver connection request ack signing
    else if request.cluster.isEmpty = true then
      refuseHello connection ack .invalid (ascii "an agent handshake must name a cluster identity")
    else if request.domain.isEmpty = true then
      refuseHello connection ack .invalid (ascii "an agent handshake must name an authority domain")
    else if request.capabilities &&& capabilityTwoSidedConsent = 0 then
      refuseHello connection ack .unsupported (ascii "the agent does not declare two-sided consent support")
    else
      match s.registry.clusters[request.cluster]? with
      | none => registerAgent connection request ack signing
      | some cluster => returningAgent connection request ack signing cluster

/-! Cluster reports. -/

/-- Two contents claim one generation: never a silent last writer wins. -/
def reportConflict (connection : ℕ) (ack : ReportAckMessage) (cluster incoming : ClusterRecord) : Op Unit := do
  writeCluster incoming.id { cluster with
    generationConflict := true, conflictingGeneration := some incoming.generation }
  setSession connection fun session => { session with generation := incoming.generation }
  fenceCluster cluster.id .manual cluster.incarnation cluster.incarnation cluster.generation
  logCluster incoming.id
  appendAudit "coordinator" "generation-conflict" cluster.id.value .conflicting
    (ascii "two reports claim the same generation with different contents")
  send connection (.reportAck { ack with
    outcome := .conflicting
    detail := ascii "a different content already claims this generation; an operator must resolve the conflict"
    viewDigest := (← get).registry.digest })

/-- The record of an accepted report. What the agent says of its endpoints is taken over whole. -/
def reportedCluster (cluster incoming : ClusterRecord) (token : SessionToken) (observedAt : Timestamp) :
    ClusterRecord :=
  { incoming with
    domain := cluster.domain
    revision := cluster.revision.increment
    provenance := { incoming.provenance with
      source := .agentReported, verification := .verified, observedAt
      evidenceDigest := incoming.contentDigest, session := token }
    incarnationChanges := cluster.incarnationChanges
    generationConflict := false }

def acceptReport (connection : ℕ) (ack : ReportAckMessage) (token : SessionToken)
    (cluster incoming : ClusterRecord) : Op Unit := do
  let observedAt ← now
  let record := reportedCluster cluster incoming token observedAt
  match ← (onRegistry (Program.update fun registry => registry.putCluster record)).attempt with
  | .error status => sendError connection 0 status.outcome status.message
  | .ok () =>
    setSession connection fun session => { session with
      generation := incoming.generation, policyGeneration := incoming.policyGeneration }
    logCluster incoming.id
    Program.onlyIf (incoming.policyGeneration ≠ cluster.policyGeneration)
      (fenceCluster incoming.id .policyGenerationChange incoming.incarnation incoming.incarnation
        incoming.generation)
    modify fun s => { s with registry := s.registry.recomputePathStates }
    let digest := (← get).registry.digest
    appendAudit "agent" "report-cluster" incoming.id.value .ok
      (ascii "generation=" ++ CoreStatus.decimal incoming.generation.value.toNat)
    send connection (.reportAck { ack with
      outcome := .ok, detail := ascii "cluster state accepted", revision := record.revision
      viewDigest := digest })

def refuseReport (connection : ℕ) (ack : ReportAckMessage) (detail : String) : Op Unit := do
  countRefusal
  send connection (.reportAck { ack with outcome := .stale, detail := ascii detail })

def onReportCluster (connection : ℕ) (message : ReportClusterMessage) : Op Unit :=
  withSession connection message.session fun session => do
    let s ← get
    let incoming := message.cluster
    if session.role ≠ .agent then
      sendError connection 0 .unauthorized (ascii "only an agent may report cluster state")
    else if incoming.id ≠ session.cluster then
      sendError connection 0 .unauthorized (ascii "the report names a cluster this session does not own")
    else
      match s.registry.clusters[session.cluster]? with
      | none => sendError connection 0 .notFound (ascii "the cluster is not registered")
      | some cluster =>
        let ack : ReportAckMessage := {
          session := session.token, viewDigest := s.registry.digest, revision := cluster.revision }
        if incoming.generation < cluster.generation then
          refuseReport connection ack "the report carries a superseded generation"
        else if incoming.incarnation ≠ cluster.incarnation then
          refuseReport connection ack
            "the report was produced by an incarnation that is not the current one"
        else if ¬cluster.policyGeneration < incoming.policyGeneration ∧
            incoming.generation = cluster.generation ∧ incoming.contentDigest ≠ 0 ∧
            cluster.contentDigest ≠ 0 ∧ incoming.contentDigest ≠ cluster.contentDigest then
          reportConflict connection ack cluster incoming
        else if incoming.policyGeneration < cluster.policyGeneration then
          refuseReport connection ack "the report carries a superseded policy generation"
        else acceptReport connection ack session.token cluster incoming

/-! Consents. -/

def consentRecord (session : PeerSession) (message : ContractConsentMessage) (decidedAt : Timestamp) :
    ConsentRecord where
  cluster := session.cluster
  endpoint := message.endpoint
  incarnation := message.incarnation
  generation := message.generation
  policyGeneration := message.policyGeneration
  agentTerm := message.agentTerm
  termsDigest := message.termsDigest
  decision := message.decision
  decidedAt := decidedAt
  session := session.token
  authenticity := if session.signing then .sharedKeyMac else .none
  reason := message.reason

/-- The same consent again, which moves nothing. -/
def repeats (existing : Option ConsentRecord) (record : ConsentRecord) : Bool :=
  match existing with
  | none => false
  | some existing =>
    existing.decision == record.decision && existing.termsDigest == record.termsDigest &&
      existing.generation == record.generation

def consented (contract : ContractRecord) (side : Side) (record : ConsentRecord) (updatedAt : Timestamp) :
    ContractRecord :=
  let updated := { contract with
    consents := contract.consents.set side (some record), updatedAt, revision := contract.revision.increment }
  { updated with
    state :=
      if record.decision = .refused then .refused
      else if updated.bothConsented then .consented
      else .awaitingConsent }

def onContractConsent (connection : ℕ) (message : ContractConsentMessage) : Op Unit :=
  withSession connection message.session fun session => do
    if session.role ≠ .agent then
      sendError connection 0 .unauthorized (ascii "only an agent may consent to a contract")
    else
      match (← get).registry.contracts[message.contract]? with
      | none => sendError connection 0 .notFound (ascii "the contract is not registered")
      | some contract =>
        match contract.sideOf session.cluster with
        | none => sendError connection 0 .unauthorized (ascii "the contract does not name this cluster")
        | some side =>
          if message.termsDigest ≠ contract.termsDigest then
            appendAudit "agent" "consent-mismatch" contract.id.toText .conflicting
              (ascii "the consent covers different terms than the contract")
            sendError connection 0 .conflicting
              (ascii "the consent does not cover the terms held for this contract")
          else if message.endpoint ≠ (contract.parties.get side).endpoint then
            sendError connection 0 .invalid (ascii "the consent names an endpoint this party does not own")
          else if message.incarnation ≠ session.incarnation ∨ message.generation ≠ session.generation then
            countReplay
            sendError connection 0 .stale
              (ascii "the consent was produced by a superseded incarnation or generation")
          else
            let decidedAt ← now
            let record := consentRecord session message decidedAt
            if repeats (contract.consents.get side) record then pure ()
            else
              let updatedAt ← now
              let updated := consented contract side record updatedAt
              writeContract message.contract updated
              appendMutation (.contractPut updated)
              appendAudit "agent" "contract-consent" contract.id.toText .ok
                (ascii "decision=" ++ record.decision.toText)

/-! Grant acknowledgements. -/

/-- The checks `on_grant_prepared` and `on_grant_committed` share: the grant, its contract, the side
of the speaker, the attempt, and the incarnation and generation the grant is bound to. -/
def withGrant (connection : ℕ) (session : PeerSession) (id : GrantId) (attempt : AttemptId)
    (body : GrantRecord → Side → Op Unit) : Op Unit := do
  let registry := (← get).registry
  match registry.grants[id]? with
  | none => sendError connection 0 .notFound (ascii "the grant is not registered")
  | some grant =>
    match registry.contracts[grant.contract]? with
    | none => sendError connection 0 .notFound (ascii "the grant references an unknown contract")
    | some contract =>
      match contract.sideOf session.cluster with
      | none => sendError connection 0 .unauthorized (ascii "the grant does not involve this cluster")
      | some side =>
        if attempt ≠ grant.attempt then
          countReplay
          sendError connection 0 .replayed (ascii "the acknowledgement names a different attempt")
        else if grant.incarnations.get side ≠ session.incarnation ∨
            grant.generations.get side ≠ session.generation then
          countReplay
          sendError connection 0 .stale
            (ascii "the acknowledgement comes from a superseded incarnation or generation")
        else body grant side

def onGrantPrepared (connection : ℕ) (message : GrantPreparedMessage) : Op Unit :=
  withSession connection message.session fun session =>
    withGrant connection session message.grant message.attempt fun grant side => do
      if grant.state ≠ .preparing ∧ grant.state ≠ .prepared then
        sendError connection 0 .conflicting
          (ascii "the grant is no longer accepting prepare acknowledgements")
      else if message.accepted = false then
        abortGrant grant.id message.detail
        appendAudit "agent" "refuse-grant" grant.id.toText .refused message.detail
      else
        match (← get).pending[grant.id]? with
        | none => sendError connection 0 .indeterminate (ascii "the grant flow is not tracked")
        | some pending =>
          let prepared := pending.prepared.set side true
          modify fun s => { s with pending := s.pending.insert grant.id { pending with prepared } }
          writeGrant message.grant { grant with
            enforcementDigest := grant.enforcementDigest.set side message.enforcementDigest }
          Program.onlyIf (prepared.first = true ∧ prepared.second = true) (commitGrant grant.id)

/-- The grant once a side has acknowledged it. -/
def acknowledge (grant : GrantRecord) (side : Side) (digest : Digest) : GrantRecord :=
  { grant with
    acknowledged := grant.acknowledged.set side true
    enforcementDigest := grant.enforcementDigest.set side digest }

def onGrantCommitted (connection : ℕ) (message : GrantCommittedMessage) : Op Unit :=
  withSession connection message.session fun session =>
    withGrant connection session message.grant message.attempt fun grant side => do
      if message.installed = false then
        abortGrant grant.id message.detail
        appendAudit "agent" "refuse-commit" grant.id.toText .refused message.detail
      else
        let acknowledged := acknowledge grant side message.enforcementDigest
        writeGrant message.grant acknowledged
        appendMutation (.grantPut acknowledged)
        if acknowledged.bothAcknowledged then
          let now ← now
          finaliseGrant grant.id now
        else pure ()

def onGrantAborted (connection : ℕ) (message : GrantAbortedMessage) : Op Unit :=
  withSession connection message.session fun _ => abortGrant message.grant message.reason

def onFenceAck (connection : ℕ) (message : FenceAckMessage) : Op Unit :=
  withSession connection message.session fun session =>
    Program.forEach message.results fun result =>
      appendAudit "agent" "fence-ack" (ascii "grant=" ++ result.grant.toText) result.outcome
        (ascii "cluster=" ++ session.cluster.value)

/-! Withdrawals. -/

def onWithdraw (connection : ℕ) (message : WithdrawMessage) : Op Unit :=
  withSession connection message.session fun session => do
    if session.role ≠ .agent ∨ message.cluster ≠ session.cluster then
      sendError connection 0 .unauthorized (ascii "the withdrawal does not match this session")
    else
      match (← get).registry.clusters[session.cluster]? with
      | none => sendError connection 0 .notFound (ascii "the cluster is not registered")
      | some cluster =>
        if message.incarnation ≠ cluster.incarnation ∨ message.generation < cluster.generation then
          countReplay
          sendError connection 0 .stale (ascii "the withdrawal comes from a superseded incarnation")
        else
          let lastSeen ← now
          writeCluster session.cluster { cluster with consentWithdrawn := true, lastSeen }
          fenceCluster cluster.id .clusterWithdrawal cluster.incarnation cluster.incarnation cluster.generation
          logCluster session.cluster
          let fenced := (fencedGrants (← get).registry).length
          appendAudit "agent" "withdraw-consent" session.cluster.value .fenced
            (ascii "the cluster withdrew consent; dependent grants were fenced")
          send connection (.withdrawAck {
            session := session.token, outcome := .ok, fencedGrants := fenced, detail := message.reason })

/-! Status reports. -/

def installed (state : GrantState) : Bool := state == .committed || state == .active

/-- One grant against what its agent reports to enforce; the grants to fence are collected. -/
def reconcile (session : PeerSession) (report : StatusReportMessage) (fence : List GrantId) (id : GrantId) :
    Op (List GrantId) := do
  let registry := (← get).registry
  match registry.grants[id]? with
  | none => return fence
  | some grant =>
    match registry.contracts[grant.contract]? with
    | none => return fence
    | some contract =>
      match contract.sideOf session.cluster with
      | none => return fence
      | some side =>
        let reported := (report.grants.find? fun entry => entry.grant = grant.id).filter fun entry =>
          installed entry.state
        match reported with
        | some entry =>
          if entry.attempt ≠ grant.attempt then return fence ++ [grant.id]
          else if grant.incarnations.get side ≠ session.incarnation ∨
              grant.generations.get side ≠ session.generation then
            return fence ++ [grant.id]
          else if grant.acknowledged.get side then return fence
          else
            let acknowledged := acknowledge grant side entry.enforcementDigest
            writeGrant id acknowledged
            appendMutation (.grantPut acknowledged)
            return fence
        | none =>
          if grant.usableState then
            -- not usable until the agent installs it again
            let lost := { grant with
              state := .indeterminate
              note := ascii "the cluster agent does not report an installed enforcement for this grant" }
            writeGrant id lost
            appendMutation (.grantPut lost)
            return fence ++ [grant.id]
          else return fence

/-- A plan against some grants and their unreleased reservations. -/
def grantsPlan (registry : Registry) (trigger : FenceTrigger) (reason : ReasonCode) (term : Term)
    (grants : List GrantId) : FencePlan where
  trigger := trigger
  term := term
  viewDigest := registry.digest
  actions :=
    (grants.map fun id =>
      { target := .grant, grant := id
        contract := (registry.grants[id]?.map GrantRecord.contract).getD ⟨0⟩, reason }) ++
    ((values registry.reservations).filter fun reservation =>
        !reservation.released && grants.contains reservation.grant).map fun reservation =>
      { target := .reservation, grant := reservation.grant, reservation := reservation.id, reason }

/-- An indeterminate grant that both sides enforce is committed after all. -/
def finaliseInstalled (id : GrantId) : Op Unit := do
  match (← get).registry.grants[id]? with
  | none => pure ()
  | some grant =>
    if grant.state ≠ .indeterminate ∨ grant.bothAcknowledged = false then pure ()
    else
      let now ← now
      finaliseGrant id now

def onStatusReport (connection : ℕ) (message : StatusReportMessage) : Op Unit :=
  withSession connection message.session fun session => do
    modify fun s => { s with revalidations := s.revalidations + 1 }
    let fence ← Program.foldEach (← get).registry.grants.keys [] (reconcile session message)
    let s ← get
    Program.onlyIf (fence ≠ []) (fencePlanApply
      (grantsPlan s.registry .grantRevocation .grantNeedsRevalidation s.term fence) "coordinator")
    Program.forEach (← get).registry.grants.keys finaliseInstalled

/-! Lost connections. -/

def disconnectTarget (connection : ℕ) (target : SendTarget) : SendTarget :=
  if target.connectionId = connection then { target with connected := false, connectionId := 0 } else target

def disconnectPending (connection : ℕ) (pending : PendingGrant) : PendingGrant :=
  { pending with
    targets := ⟨disconnectTarget connection pending.targets.first,
      disconnectTarget connection pending.targets.second⟩ }

/-- A flow that waited for the lost agent is unresolved until a status exchange. -/
def suspendGrant (cluster : ClusterId) (id : GrantId) : Op Unit := do
  let registry := (← get).registry
  match registry.grants[id]? with
  | none => pure ()
  | some grant =>
    if grant.state ≠ .preparing ∧ grant.state ≠ .prepared then pure ()
    else
      match registry.contracts[grant.contract]? with
      | none => pure ()
      | some contract =>
        if contract.parties.first.cluster ≠ cluster ∧ contract.parties.second.cluster ≠ cluster then pure ()
        else
          let lost := { grant with
            state := .indeterminate
            note := ascii "the cluster agent disconnected before the commit acknowledgement" }
          writeGrant id lost
          (appendMutation (.grantPut lost)).ignore

/-- Input the framing layer refused never reaches a handler, so it is counted here. -/
def refusedInput : Outcome → Bool
  | .invalid | .corrupt | .unauthorized | .incompatible | .replayed => true
  | _ => false

def handleDisconnect (connection : ℕ) (reason : Outcome) : Op Unit := do
  Program.onlyIf (refusedInput reason = true) countFrame
  match (← get).sessions[connection]? with
  | none => pure ()
  | some session =>
    modify fun s => { s with sessions := s.sessions.erase connection }
    if session.cluster.isEmpty = true then pure ()
    else
      modify fun s => { s with pending := s.pending.map fun _ => disconnectPending connection }
      Program.forEach (← get).registry.grants.keys (suspendGrant session.cluster)

/-! Housekeeping. -/

/-- The grants whose validity has elapsed while they were usable. -/
def expiredGrants (registry : Registry) (now : Timestamp) : List GrantId :=
  ((values registry.grants).filter fun grant => grant.usableState && decide (grant.validUntil < now)).map
    GrantRecord.id

def expireGrant (id : GrantId) : Op Unit := do
  match (← get).registry.grants[id]? with
  | none => pure ()
  | some grant =>
    let expired := { grant with state := .expired }
    writeGrant id expired
    (appendMutation (.grantPut expired)).ignore

/-- The actions against expired grants name no contract. -/
def expiryPlan (registry : Registry) (term : Term) (grants : List GrantId) : FencePlan :=
  let plan := grantsPlan registry .grantExpiry .grantExpired term grants
  { plan with
    actions := plan.actions.map fun action =>
      if action.target = .grant then { action with contract := ⟨0⟩ } else action }

def expireGrants : Op Unit := do
  let now ← now
  let s ← get
  let expired := expiredGrants s.registry now
  if expired = [] then pure ()
  else
    (fencePlanApply (expiryPlan s.registry s.term expired) "coordinator").ignore
    Program.forEach expired expireGrant

/-- A lost target is replaced once the agent is back. -/
def refreshTarget (s : Coordinator) (contract : Option ContractRecord) (side : Side) (target : SendTarget) :
    SendTarget :=
  if target.connected then target
  else
    match contract with
    | none => target
    | some contract =>
      let fresh := targetFor s.sessions (contract.parties.get side).cluster
      if fresh.connected then fresh else target

def refreshPending (s : Coordinator) (pending : PendingGrant) : PendingGrant :=
  let contract := s.registry.grants[pending.grant]?.bind fun grant => s.registry.contracts[grant.contract]?
  { pending with
    targets := ⟨refreshTarget s contract .first pending.targets.first,
      refreshTarget s contract .second pending.targets.second⟩ }

def timedOut (now : Timestamp) (pending : PendingGrant) : Bool :=
  decide (pending.deadline < now) || decide (Limits.maxRevalidateAttempts ≤ pending.attempts.toUInt64)

/-- The prepare request again, to the sides that have not answered. -/
def resendPrepare (id : GrantId) : Op Unit := do
  let s ← get
  match s.pending[id]? with
  | none => pure ()
  | some pending =>
    match s.registry.grants[pending.grant]? with
    | none => pure ()
    | some grant =>
      if grant.state ≠ .preparing then pure ()
      else
        Program.forEach [Side.first, Side.second] fun side =>
          if (pending.targets.get side).connected = false ∨ pending.prepared.get side = true then pure ()
          else (sendPrepare pending.targets grant side).ignore

def retryPendingFlows : Op Unit := do
  let now ← now
  let s ← get
  let refreshed := s.pending.map fun _ => refreshPending s
  let late := (values refreshed).filter (timedOut now)
  modify fun s => { s with
    pending := refreshed.map fun _ pending =>
      if timedOut now pending then pending else { pending with attempts := pending.attempts + 1 } }
  Program.forEach (late.map PendingGrant.grant) fun id =>
    (abortGrant id (ascii "the grant flow did not complete within its deadline")).ignore
  Program.forEach (← get).pending.keys resendPrepare

def pingAgent (now : Timestamp) (entry : ℕ × PeerSession) : Op Unit :=
  if entry.2.role = .agent ∧ entry.2.helloComplete = true then
    (send entry.1 (.ping ⟨UInt64.ofNat entry.1⟩ now)).ignore
  else pure ()

def tick : Op Unit := do
  expireGrants
  retryPendingFlows
  compactIfNeeded.ignore
  let now ← now
  let s ← get
  Program.onlyIf (0 < s.config.pingInterval.nanos) (Program.forEach s.sessions.toList (pingAgent now))

end InterClusterFabric.RuntimeHandlers
