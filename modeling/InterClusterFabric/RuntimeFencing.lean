import InterClusterFabric.EngineDecision
import InterClusterFabric.LibraryProgram

/-! Fence plans and their application. A plan is a description; applying it is what withdraws
authority and returns reserved capacity. A failed action keeps what the actions before it did. -/
namespace InterClusterFabric.RuntimeFencing
open CoreStatus CoreIds CoreTime CoreHash ModelRecords ModelRegistry EngineDecision
open LibraryOrdMap LibraryProgram

/-! Writing back a record that was looked up. -/

section Write

variable (registry : Registry)

def setCluster (id : ClusterId) (record : ClusterRecord) : Registry :=
  { registry with clusters := registry.clusters.insert id record }

def setLink (id : EdgeId) (record : LinkRecord) : Registry :=
  { registry with links := registry.links.insert id record }

def setContract (id : ContractId) (record : ContractRecord) : Registry :=
  { registry with contracts := registry.contracts.insert id record }

def setGrant (id : GrantId) (record : GrantRecord) : Registry :=
  { registry with grants := registry.grants.insert id record }

def setReservation (id : ReservationId) (record : ReservationRecord) : Registry :=
  { registry with reservations := registry.reservations.insert id record }

end Write

/-! The audit trail. -/

/-- The next record of the trail; every text is cut to its bound. -/
def auditRecord (registry : Registry) (now : Timestamp) (actor action subject : Bytes) (outcome : Outcome)
    (detail : Bytes) : AuditRecord where
  sequence := (registry.audit.getLast?.map Registry.nextSequence).getD ⟨1⟩
  recordedAt := now
  actor := actor.take 64
  action := action.take 64
  subject := subject.take 128
  outcome := outcome
  detail := detail.take Limits.maxStringField

def appendAudit (now : Timestamp) (actor action subject : Bytes) (outcome : Outcome) (detail : Bytes) :
    Program Registry Status Unit :=
  Program.update fun registry =>
    registry.appendAudit (auditRecord registry now actor action subject outcome detail)

/-! Planning. -/

/-- The reason a plan gives for each grant. -/
def grantReason : FenceTrigger → ReasonCode
  | .clusterReincarnation => .incarnationMismatch
  | .clusterWithdrawal => .clusterConsentWithdrawn
  | .policyGenerationChange => .policyGenerationStale
  | .coordinatorReincarnation => .grantTermMismatch
  | .grantRevocation => .grantFenced
  | .linkFailure => .pathDown
  | .grantExpiry => .grantExpired
  | .manual => .grantFenced

/-- A grant that still holds or may still gain authority. -/
def livesOn (grant : GrantRecord) : Bool :=
  grant.usableState || grant.state == .prepared || grant.state == .preparing ||
    grant.state == .indeterminate

/-- The unreleased reservations of a grant, in key order. -/
def openReservations (registry : Registry) (grant : GrantId) : List ReservationRecord :=
  (values registry.reservations).filter fun reservation =>
    reservation.grant == grant && !reservation.released

/-- The actions against one grant of a contract. -/
def planGrant (registry : Registry) (contract : ContractRecord) (reason : ReasonCode)
    (grant : GrantRecord) : List FenceAction :=
  (if livesOn grant then
    [{ target := .grant, grant := grant.id, contract := contract.id, reason }] else []) ++
  (openReservations registry grant.id).map fun reservation =>
    { target := .reservation, grant := grant.id, contract := contract.id
      reservation := reservation.id, reason }

/-- The actions against a contract of the cluster. -/
def planContract (registry : Registry) (reason : ReasonCode) (contract : ContractRecord) :
    List FenceAction :=
  let grants := (values registry.grants).filter fun grant => grant.contract == contract.id
  grants.flatMap (planGrant registry contract reason) ++
    if grants.any livesOn && contract.state != .withdrawn then
      [{ target := .contract, contract := contract.id, reason }] else []

/-- The loop over the contracts stops once the plan is past its bound. -/
def planContracts (registry : Registry) (cluster : ClusterId) (reason : ReasonCode) :
    List ContractRecord → List FenceAction → List FenceAction
  | [], actions => actions
  | contract :: rest, actions =>
    if contract.sideOf cluster = none then planContracts registry cluster reason rest actions
    else
      let actions := actions ++ planContract registry reason contract
      if Limits.maxFencePlanEntries < actions.length then actions
      else planContracts registry cluster reason rest actions

def planFence (registry : Registry) (trigger : FenceTrigger) (cluster : ClusterId)
    (newIncarnation previousIncarnation : IncarnationId) (newGeneration : Generation) (term : Term) :
    FencePlan where
  trigger := trigger
  cluster := cluster
  incarnation := newIncarnation
  previousIncarnation := previousIncarnation
  generation := newGeneration
  term := term
  viewDigest := registry.digest
  actions := planContracts registry cluster (grantReason trigger) (values registry.contracts) []
  detail := ascii "fence plan for " ++ trigger.toText ++ ascii " affecting cluster " ++ cluster.value

/-! Application. -/

structure FenceOutcome where
  grantsFenced : UInt64 := 0
  contractsFenced : UInt64 := 0
  reservationsReleased : UInt64 := 0
  capacityReleased : UInt64 := 0
  alreadyFenced : UInt64 := 0
deriving Inhabited

namespace FenceOutcome

def skip (outcome : FenceOutcome) : FenceOutcome :=
  { outcome with alreadyFenced := outcome.alreadyFenced + 1 }

def countGrant (outcome : FenceOutcome) : FenceOutcome :=
  { outcome with grantsFenced := outcome.grantsFenced + 1 }

def countContract (outcome : FenceOutcome) : FenceOutcome :=
  { outcome with contractsFenced := outcome.contractsFenced + 1 }

def countRelease (outcome : FenceOutcome) (amount : CapacityUnits) : FenceOutcome :=
  { outcome with
    reservationsReleased := outcome.reservationsReleased + 1
    capacityReleased := outcome.capacityReleased + amount.value }

end FenceOutcome

/-- What the runtime itself has established. -/
def derived (now : Timestamp) : Provenance where
  source := .derivedFromTopology
  verification := .verified
  observedAt := now

def released (reservation : ReservationRecord) (now : Timestamp) : ReservationRecord :=
  { reservation with released := true, releasedAt := now, provenance := derived now }

/-- The capacity of a reservation taken off an endpoint, never below zero. -/
def returnCapacity (amount : CapacityUnits) (now : Timestamp) (endpoint : EndpointRecord) : EndpointRecord :=
  { endpoint with
    reserved := if amount ≤ endpoint.reserved then ⟨endpoint.reserved.value - amount.value⟩ else ⟨0⟩
    provenance := { endpoint.provenance with observedAt := now } }

/-- The update of the first endpoint of that identity. -/
def updateEndpoint (id : EndpointId) (f : EndpointRecord → EndpointRecord) :
    List EndpointRecord → List EndpointRecord
  | [] => []
  | endpoint :: rest =>
    if endpoint.id = id then f endpoint :: rest else endpoint :: updateEndpoint id f rest

/-- The capacity goes back to the endpoint of that identity in every cluster that declares one. -/
def returnToClusters (registry : Registry) (reservation : ReservationRecord) (now : Timestamp) : Registry :=
  { registry with
    clusters := registry.clusters.map fun _ cluster =>
      { cluster with
        endpoints :=
          updateEndpoint reservation.endpoint (returnCapacity reservation.amount now) cluster.endpoints } }

def releaseReservation (registry : Registry) (reservation : ReservationRecord) (now : Timestamp)
    (outcome : FenceOutcome) : FenceOutcome × Registry :=
  if reservation.released then (outcome.skip, registry)
  else
    let registry :=
      if reservation.id ∈ registry.reservations then
        setReservation registry reservation.id (released reservation now)
      else registry
    (outcome.countRelease reservation.amount, returnToClusters registry reservation now)

def fencedGrant (trigger : FenceTrigger) (now : Timestamp) (grant : GrantRecord) : GrantRecord :=
  { grant with
    state := .fenced
    note := ascii "fenced by " ++ trigger.toText
    provenance := derived now
    revision := grant.revision.increment }

def fencedContract (trigger : FenceTrigger) (now : Timestamp) (contract : ContractRecord) : ContractRecord :=
  { contract with
    state := if trigger = .clusterWithdrawal then .withdrawn else .fenced
    updatedAt := now
    revision := contract.revision.increment }

section Apply

variable (trigger : FenceTrigger) (now : Timestamp) (actor : Bytes) (outcome : FenceOutcome)

def fenceGrantAction (id : GrantId) : Program Registry Status FenceOutcome := do
  match (← get).grants[id]? with
  | none => return outcome.skip
  | some grant =>
    if grant.state = .fenced ∨ grant.state = .aborted ∨ grant.state = .withdrawn then return outcome.skip
    else
      modify fun registry => setGrant registry id (fencedGrant trigger now grant)
      appendAudit now actor (ascii "fence-grant") (ascii "grant=" ++ grant.id.toText) .fenced trigger.toText
      return outcome.countGrant

def fenceContractAction (id : ContractId) : Program Registry Status FenceOutcome := do
  match (← get).contracts[id]? with
  | none => return outcome
  | some contract =>
    if contract.state = .withdrawn ∨ contract.state = .fenced then return outcome.skip
    else
      modify fun registry => setContract registry id (fencedContract trigger now contract)
      appendAudit now actor (ascii "fence-contract") (ascii "contract=" ++ contract.id.toText) .fenced
        trigger.toText
      return outcome.countContract

def releaseAction (id : ReservationId) : Program Registry Status FenceOutcome := do
  match (← get).reservations[id]? with
  | none => return outcome.skip
  | some reservation =>
    modifyGet fun registry => releaseReservation registry reservation now outcome

end Apply

def fenceAction (trigger : FenceTrigger) (now : Timestamp) (actor : Bytes) (outcome : FenceOutcome)
    (action : FenceAction) : Program Registry Status FenceOutcome :=
  match action.target with
  | .grant => fenceGrantAction trigger now actor outcome action.grant
  | .contract => fenceContractAction trigger now actor outcome action.contract
  | .reservation => releaseAction now outcome action.reservation

def applyFencePlan (plan : FencePlan) (now : Timestamp) (actor : Bytes) :
    Program Registry Status FenceOutcome :=
  Program.foldEach plan.actions {} (fenceAction plan.trigger now actor)

/-- A grant that recovery leaves alone. -/
def isTerminal (state : GrantState) : Bool :=
  state == .fenced || state == .aborted || state == .expired || state == .withdrawn

def recoveryPlan (registry : Registry) (previousIncarnation : IncarnationId) (term : Term) : FencePlan where
  trigger := .coordinatorReincarnation
  previousIncarnation := previousIncarnation
  term := term
  viewDigest := registry.digest
  actions :=
    (((values registry.grants).filter fun grant => !isTerminal grant.state).map fun grant =>
      { target := .grant, grant := grant.id, contract := grant.contract
        reason := .evidenceRecoveredFromStore }) ++
    ((values registry.reservations).filter fun reservation => !reservation.released).map fun reservation =>
      { target := .reservation, grant := reservation.grant, reservation := reservation.id
        reason := .evidenceRecoveredFromStore }
  detail := ascii "dynamic evidence recovered from the store is historical and is fenced until revalidated"

def fenceRecoveredState (now : Timestamp) (actor : Bytes) (previousIncarnation : IncarnationId)
    (term : Term) : Program Registry Status FenceOutcome := do
  let registry ← get
  applyFencePlan (recoveryPlan registry previousIncarnation term) now actor

end InterClusterFabric.RuntimeFencing
