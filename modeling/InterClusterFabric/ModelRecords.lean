import InterClusterFabric.CoreHash
import InterClusterFabric.CoreIds
import InterClusterFabric.CoreTime

/-! The authoritative records: clusters and endpoints, links and paths, policy rules, two-sided
contracts, grants, reservations and the audit trail. Defaults are those of the source's
constructors: everything starts unknown, unverified or refused. -/
namespace InterClusterFabric.ModelRecords
open CoreStatus CoreIds CoreTime CoreHash

inductive ClusterState
  | unknown | active | suspended | draining | retired
deriving DecidableEq, Repr, Inhabited

inductive EndpointState
  | unknown | active | suspended | draining | retired
deriving DecidableEq, Repr, Inhabited

/-- Optical interconnects are declared but not driven by the runtime. -/
inductive LinkKind
  | unknown | loopbackTcp | syntheticModel | opticalInterconnect
deriving DecidableEq, Repr, Inhabited

inductive LinkState
  | unknown | up | degraded | down | unsupported
deriving DecidableEq, Repr, Inhabited

inductive PathState
  | unknown | up | degraded | down
deriving DecidableEq, Repr, Inhabited

inductive ContractState
  | proposed | awaitingConsent | consented | active | refused | withdrawn | expired | fenced
deriving DecidableEq, Repr, Inhabited

inductive GrantState
  | preparing | prepared | committed | active | indeterminate | aborted | fenced | expired | withdrawn
deriving DecidableEq, Repr, Inhabited

inductive ConsentDecision
  | accepted | refused
deriving DecidableEq, Repr, Inhabited

inductive EvidenceSource
  | unspecified | adminConfigured | agentReported | derivedFromTopology | recoveredFromStore | synthetic
deriving DecidableEq, Repr, Inhabited

inductive VerificationState
  | unverified | verified | failed | notApplicable | unsupported
deriving DecidableEq, Repr, Inhabited

inductive TransportAuthenticity
  | none | sharedKeyMac
deriving DecidableEq, Repr, Inhabited

def GrantState.toText : GrantState → Bytes
  | preparing => ascii "PREPARING"
  | prepared => ascii "PREPARED"
  | committed => ascii "COMMITTED"
  | active => ascii "ACTIVE"
  | indeterminate => ascii "INDETERMINATE"
  | aborted => ascii "ABORTED"
  | fenced => ascii "FENCED"
  | expired => ascii "EXPIRED"
  | withdrawn => ascii "WITHDRAWN"

def ConsentDecision.toText : ConsentDecision → Bytes
  | accepted => ascii "ACCEPTED"
  | refused => ascii "REFUSED"

def linkKindSupported : LinkKind → Bool
  | .loopbackTcp | .syntheticModel => true
  | _ => false

def linkKindSupportNote : LinkKind → Bytes
  | .loopbackTcp => ascii "real framed transport over a real TCP socket"
  | .syntheticModel => ascii "SYNTHETIC: declared topology, no transport is driven or observed"
  | .opticalInterconnect => ascii "UNSUPPORTED: this runtime owns no optical hardware control path"
  | .unknown => ascii "UNKNOWN: no evidence describes this link"

/-- The two parties of a contract, and what a record keeps for each of them. -/
inductive Side
  | first | second
deriving DecidableEq, Repr, Inhabited

def Side.other : Side → Side
  | first => second
  | second => first

@[ext] structure PerSide (α : Type) where
  first : α
  second : α
deriving DecidableEq, Repr, Inhabited

namespace PerSide

variable {α β : Type}

def get (p : PerSide α) : Side → α
  | .first => p.first
  | .second => p.second

def set (p : PerSide α) (side : Side) (x : α) : PerSide α :=
  match side with
  | .first => { p with first := x }
  | .second => { p with second := x }

@[simp] lemma get_set (p : PerSide α) (side side' : Side) (x : α) :
    (p.set side x).get side' = if side' = side then x else p.get side' := by
  cases side <;> cases side' <;> rfl

lemma set_get (p : PerSide α) (side : Side) : p.set side (p.get side) = p := by
  cases side <;> rfl

end PerSide

structure Provenance where
  source : EvidenceSource := .unspecified
  verification : VerificationState := .unverified
  observedAt : Timestamp := ⟨0⟩
  revision : Revision := ⟨0⟩
  session : SessionToken := ⟨0⟩
  evidenceDigest : Digest := 0
deriving DecidableEq, Repr, Inhabited

structure EndpointRecord where
  id : EndpointId := .empty
  cluster : ClusterId := .empty
  scope : ScopeName := .empty
  capacity : CapacityUnits := ⟨0⟩
  reserved : CapacityUnits := ⟨0⟩
  policyGeneration : PolicyGeneration := ⟨0⟩
  state : EndpointState := .unknown
  interClusterAllowed : Bool := false
  permitsDegraded : Bool := false
  provenance : Provenance := {}
deriving DecidableEq, Inhabited

structure ClusterRecord where
  id : ClusterId := .empty
  domain : AuthorityDomainId := .empty
  incarnation : IncarnationId := ⟨0⟩
  generation : Generation := ⟨0⟩
  policyGeneration : PolicyGeneration := ⟨0⟩
  state : ClusterState := .unknown
  consentWithdrawn : Bool := false
  lastSeen : Timestamp := ⟨0⟩
  endpoints : List EndpointRecord := []
  contentDigest : Digest := 0
  generationConflict : Bool := false
  conflictingGeneration : Option Generation := none
  revision : Revision := ⟨0⟩
  provenance : Provenance := {}
  incarnationChanges : UInt64 := 0
deriving DecidableEq, Inhabited

structure LinkRecord where
  id : EdgeId := .empty
  a : EndpointId := .empty
  b : EndpointId := .empty
  kind : LinkKind := .unknown
  state : LinkState := .unknown
  capacity : CapacityUnits := ⟨0⟩
  reserved : CapacityUnits := ⟨0⟩
  latencyMicros : UInt32 := 0
  revision : Revision := ⟨0⟩
  provenance : Provenance := {}
deriving DecidableEq, Inhabited

structure PathRecord where
  id : PathId := .empty
  a : EndpointId := .empty
  b : EndpointId := .empty
  hops : List EdgeId := []
  bottleneck : CapacityUnits := ⟨0⟩
  state : PathState := .unknown
  revision : Revision := ⟨0⟩
  provenance : Provenance := {}
  containsUnsupportedEdge : Bool := false
deriving DecidableEq, Inhabited

structure ConsentRecord where
  cluster : ClusterId := .empty
  endpoint : EndpointId := .empty
  incarnation : IncarnationId := ⟨0⟩
  generation : Generation := ⟨0⟩
  policyGeneration : PolicyGeneration := ⟨0⟩
  agentTerm : Term := ⟨0⟩
  termsDigest : Digest := 0
  decision : ConsentDecision := .refused
  decidedAt : Timestamp := ⟨0⟩
  session : SessionToken := ⟨0⟩
  authenticity : TransportAuthenticity := .none
  reason : Bytes := []
deriving DecidableEq, Inhabited

structure PartyRef where
  cluster : ClusterId := .empty
  endpoint : EndpointId := .empty
  domain : AuthorityDomainId := .empty
deriving DecidableEq, Inhabited

structure ContractRecord where
  id : ContractId := ⟨0⟩
  parties : PerSide PartyRef := ⟨{}, {}⟩
  capacity : CapacityUnits := ⟨0⟩
  leaseDuration : Duration := ⟨0⟩
  termsDigest : Digest := 0
  state : ContractState := .proposed
  consents : PerSide (Option ConsentRecord) := ⟨none, none⟩
  createdAt : Timestamp := ⟨0⟩
  updatedAt : Timestamp := ⟨0⟩
  revision : Revision := ⟨0⟩
  provenance : Provenance := {}
deriving DecidableEq, Inhabited

structure GrantRecord where
  id : GrantId := ⟨0⟩
  contract : ContractId := ⟨0⟩
  termsDigest : Digest := 0
  coordinatorTerm : Term := ⟨0⟩
  coordinator : IncarnationId := ⟨0⟩
  attempt : AttemptId := ⟨0⟩
  incarnations : PerSide IncarnationId := ⟨⟨0⟩, ⟨0⟩⟩
  generations : PerSide Generation := ⟨⟨0⟩, ⟨0⟩⟩
  policies : PerSide PolicyGeneration := ⟨⟨0⟩, ⟨0⟩⟩
  capacity : CapacityUnits := ⟨0⟩
  issuedAt : Timestamp := ⟨0⟩
  validUntil : Timestamp := ⟨0⟩
  state : GrantState := .preparing
  acknowledged : PerSide Bool := ⟨false, false⟩
  enforcementDigest : PerSide Digest := ⟨0, 0⟩
  revalidateAttempts : UInt64 := 0
  note : Bytes := []
  revision : Revision := ⟨0⟩
  provenance : Provenance := {}
deriving DecidableEq, Inhabited

structure ReservationRecord where
  id : ReservationId := ⟨0⟩
  grant : GrantId := ⟨0⟩
  endpoint : EndpointId := .empty
  cluster : ClusterId := .empty
  amount : CapacityUnits := ⟨0⟩
  released : Bool := false
  createdAt : Timestamp := ⟨0⟩
  releasedAt : Timestamp := ⟨0⟩
  revision : Revision := ⟨0⟩
  provenance : Provenance := {}
deriving DecidableEq, Inhabited

structure AuditRecord where
  sequence : Sequence := ⟨0⟩
  recordedAt : Timestamp := ⟨0⟩
  actor : Bytes := []
  action : Bytes := []
  subject : Bytes := []
  outcome : Outcome := .ok
  detail : Bytes := []
deriving DecidableEq, Inhabited

structure PolicyRule where
  id : Bytes := []
  owner : AuthorityDomainId := .empty
  clusterA : ClusterId := .empty
  clusterB : ClusterId := .empty
  endpointA : EndpointId := .empty
  endpointB : EndpointId := .empty
  generation : PolicyGeneration := ⟨0⟩
  allow : Bool := false
  allowDegraded : Bool := false
  maxCapacity : CapacityUnits := ⟨0⟩
  revision : Revision := ⟨0⟩
  provenance : Provenance := {}
deriving DecidableEq, Inhabited

/-- The first party of that cluster. -/
def sideOf (parties : PerSide PartyRef) (cluster : ClusterId) : Option Side :=
  if parties.first.cluster = cluster then some .first
  else if parties.second.cluster = cluster then some .second
  else none

namespace ContractRecord

def sideOf (contract : ContractRecord) (cluster : ClusterId) : Option Side :=
  ModelRecords.sideOf contract.parties cluster

def accepted : Option ConsentRecord → Bool
  | some consent => consent.decision == .accepted
  | none => false

def bothConsented (contract : ContractRecord) : Bool :=
  accepted contract.consents.first && accepted contract.consents.second

/-- The contract joins the two endpoints, in either direction. -/
def joins (contract : ContractRecord) (source target : EndpointId) : Bool :=
  (contract.parties.first.endpoint == source && contract.parties.second.endpoint == target) ||
    (contract.parties.first.endpoint == target && contract.parties.second.endpoint == source)

end ContractRecord

def PathRecord.joins (path : PathRecord) (source target : EndpointId) : Bool :=
  (path.a == source && path.b == target) || (path.a == target && path.b == source)

namespace GrantRecord

def bothAcknowledged (grant : GrantRecord) : Bool := grant.acknowledged.first && grant.acknowledged.second

def usableState (grant : GrantRecord) : Bool := grant.state == .committed || grant.state == .active

end GrantRecord

namespace PolicyRule

/-- An empty match field is a wildcard. -/
def matchesPair (rule : PolicyRule) (a b : ClusterId) (ea eb : EndpointId) : Bool :=
  (rule.clusterA.isEmpty || rule.clusterA == a) && (rule.clusterB.isEmpty || rule.clusterB == b) &&
    (rule.endpointA.isEmpty || rule.endpointA == ea) && (rule.endpointB.isEmpty || rule.endpointB == eb)

end PolicyRule

end InterClusterFabric.ModelRecords
