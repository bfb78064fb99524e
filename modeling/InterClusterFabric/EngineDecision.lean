import InterClusterFabric.ModelPolicy

/-! Queries, decisions and fence plans, as values. -/
namespace InterClusterFabric.EngineDecision
open CoreStatus CoreIds CoreTime CoreHash ModelRecords

inductive ReasonCode
  | none | endpointsAreIdentical | sourceEndpointNotRegistered | targetEndpointNotRegistered
  | sourceEndpointSuspended | targetEndpointSuspended | sourceEndpointRefused | targetEndpointRefused
  | resourceUnknown | resourceUnsupported | resourceUnreachable | resourcePartitioned
  | policyAllowed | policyRefused | policyMissingAllow | policyStaleGeneration
  | clusterUnknown | clusterSuspended | clusterDraining | clusterRetired
  | clusterGenerationConflict | clusterConsentWithdrawn
  | incarnationMismatch | generationStale | policyGenerationStale
  | noContract | contractNotConsented | contractRefused | contractWithdrawn | contractExpired
  | contractFenced | consentMismatch | consentUnauthenticated
  | noGrant | grantNotCommitted | grantNotAcknowledged | grantIndeterminate | grantFenced
  | grantExpired | grantTermMismatch | grantNeedsRevalidation | grantCapacityExceeded
  | pathAbsent | pathUnsupported | pathDown | pathDegraded | pathNotPermittedDegraded
  | linkUnsupported | linkDown | linkDegraded | linkUnknown | capacityExhausted
  | evidenceUnverified | evidenceRecoveredFromStore | evidenceIncomplete
  | authorityRequired | authoritySatisfied
deriving DecidableEq, Repr, Inhabited

structure DecisionQuery where
  source : EndpointId
  target : EndpointId
  requestedCapacity : CapacityUnits := ⟨0⟩
  queriedAt : Timestamp := ⟨0⟩
  allowDegraded : Bool := false
  expectSourceGeneration : Bool := false
  sourceGeneration : Generation := ⟨0⟩
  expectTargetGeneration : Bool := false
  targetGeneration : Generation := ⟨0⟩

structure EngineView where
  term : Term
  incarnation : IncarnationId
  now : Timestamp := ⟨0⟩

structure Decision where
  outcome : Outcome := .indeterminate
  reasons : List ReasonCode := []
  contract : ContractId := ⟨0⟩
  grant : GrantId := ⟨0⟩
  authorities : PerSide AuthorityDomainId := ⟨.empty, .empty⟩
  term : Term := ⟨0⟩
  coordinator : IncarnationId := ⟨0⟩
  termsDigest : Digest := 0
  viewDigest : Digest := 0
  capacity : CapacityUnits := ⟨0⟩
  paths : List PathId := []
  edges : List EdgeId := []
  degraded : Bool := false
  decidedAt : Timestamp := ⟨0⟩
  detail : Bytes := []
deriving Inhabited

namespace Decision

def authorized (decision : Decision) : Bool := decision.outcome.isAuthorized

/-- Reasons are bounded and never repeated. -/
def addReason (decision : Decision) (code : ReasonCode) : Decision :=
  if Limits.maxDecisionReasons ≤ decision.reasons.length ∨ code ∈ decision.reasons then decision
  else { decision with reasons := decision.reasons ++ [code] }

def finish (decision : Decision) (outcome : Outcome) (detail : Bytes) : Decision :=
  { decision with outcome, detail }

end Decision

/-- Why a check fails: the reasons it adds to the decision and the status it returns. -/
structure Refusal where
  reasons : List ReasonCode
  status : Status

def refusal (reasons : List ReasonCode) (outcome : Outcome) (message : String) : Refusal :=
  ⟨reasons, Status.make outcome (ascii message)⟩

/-- The decision returned when a check fails. -/
def Decision.refuse (decision : Decision) (r : Refusal) : Decision :=
  (r.reasons.foldl Decision.addReason decision).finish r.status.outcome r.status.message

inductive FenceTrigger
  | manual | clusterReincarnation | clusterWithdrawal | policyGenerationChange
  | coordinatorReincarnation | grantRevocation | linkFailure | grantExpiry
deriving DecidableEq, Repr, Inhabited

def FenceTrigger.toText : FenceTrigger → Bytes
  | manual => ascii "MANUAL"
  | clusterReincarnation => ascii "CLUSTER_REINCARNATION"
  | clusterWithdrawal => ascii "CLUSTER_WITHDRAWAL"
  | policyGenerationChange => ascii "POLICY_GENERATION_CHANGE"
  | coordinatorReincarnation => ascii "COORDINATOR_REINCARNATION"
  | grantRevocation => ascii "GRANT_REVOCATION"
  | linkFailure => ascii "LINK_FAILURE"
  | grantExpiry => ascii "GRANT_EXPIRY"

inductive FenceTarget
  | grant | contract | reservation
deriving DecidableEq, Repr, Inhabited

structure FenceAction where
  target : FenceTarget := .grant
  grant : GrantId := ⟨0⟩
  contract : ContractId := ⟨0⟩
  reservation : ReservationId := ⟨0⟩
  reason : ReasonCode := .none
deriving DecidableEq, Inhabited

structure FencePlan where
  trigger : FenceTrigger := .manual
  cluster : ClusterId := .empty
  incarnation : IncarnationId := ⟨0⟩
  previousIncarnation : IncarnationId := ⟨0⟩
  generation : Generation := ⟨0⟩
  term : Term := ⟨0⟩
  viewDigest : Digest := 0
  actions : List FenceAction := []
  detail : Bytes := []

end InterClusterFabric.EngineDecision
