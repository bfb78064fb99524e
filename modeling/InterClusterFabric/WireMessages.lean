import InterClusterFabric.EngineDecision

/-! The messages of the coordinator protocol, as the decoders hand them over and the encoders take
them, and the contract terms a proposal carries. An enumeration starts at zero on the wire, which no
enumerator of the source has but which its decoder accepts. -/
namespace InterClusterFabric.WireMessages
open CoreStatus CoreIds CoreTime CoreHash CoreBytes ModelRecords ModelCanonical EngineDecision
open LibraryChecked

inductive PeerRole
  | unspecified | agent | observer
deriving DecidableEq, Repr, Inhabited

inductive QueryKind
  | unspecified | status | listClusters | showCluster | listLinks | listPaths | listPolicies
  | listContracts | showContract | listGrants | showGrant | listReservations | listAudit | decide
  | fencePlan | accounting
deriving DecidableEq, Repr, Inhabited

inductive AdminAction
  | unspecified | upsertCluster | deleteCluster | setClusterState | upsertLink | setLinkState | deleteLink
  | upsertPath | deletePath | upsertPolicy | deletePolicy | withdrawConsent | restoreConsent
  | resolveConflict | authorizeContract | issueGrant | revalidateGrant | fenceGrant | reloadStore
deriving DecidableEq, Repr, Inhabited

def protocolVersionMin : ℕ := 1
def protocolVersionMax : ℕ := 1

def capabilityTwoSidedConsent : UInt32 := 8

/-! Contract terms. -/

/-- What both sides consent to; a consent binds the digest of this encoding. -/
structure ContractTerms where
  parties : PerSide PartyRef
  capacity : CapacityUnits
  leaseDuration : Duration
  incarnations : PerSide IncarnationId
  generations : PerSide Generation
  policies : PerSide PolicyGeneration
  proposedAt : Timestamp
deriving Inhabited

namespace ContractTerms

def encodeParty (party : PartyRef) : Bytes :=
  putBlob party.cluster.value ++ putBlob party.endpoint.value ++ putBlob party.domain.value

def encodeTerms (terms : ContractTerms) : Bytes := List.flatten [
  encodeParty terms.parties.first, encodeParty terms.parties.second,
  putU64 terms.capacity.value,
  putI64 terms.leaseDuration.nanos,
  putUuid terms.incarnations.first.uuid, putUuid terms.incarnations.second.uuid,
  putU64 terms.generations.first.value, putU64 terms.generations.second.value,
  putU64 terms.policies.first.value, putU64 terms.policies.second.value,
  putI64 terms.proposedAt.unixNanos]

def digest (terms : ContractTerms) : Digest := sha256 terms.encodeTerms

def validate (terms : ContractTerms) : Result Unit := do
  let first := terms.parties.first
  let second := terms.parties.second
  rejectIf (first.cluster.isEmpty = true ∨ second.cluster.isEmpty = true)
    (Status.invalid "contract terms require two cluster identities")
  rejectIf (first.cluster = second.cluster)
    (Status.invalid "contract terms must join two distinct clusters")
  rejectIf (first.endpoint.isEmpty = true ∨ second.endpoint.isEmpty = true)
    (Status.invalid "contract terms require two endpoint scopes")
  rejectIf (first.domain.isEmpty = true ∨ second.domain.isEmpty = true)
    (Status.invalid "contract terms require two authority domains")
  rejectIf (Limits.maxCapacity < terms.capacity.value)
    (Status.make .overflow (ascii "contract capacity exceeds the maximum supported value"))
  rejectIf (terms.leaseDuration.isNegative = true ∨ Limits.maxDurationNanos < terms.leaseDuration.nanos.toUInt64)
    (Status.invalid "contract lease duration is out of range")
  -- a single domain cannot provide two-sided consent on its own
  rejectIf (first.domain = second.domain) (Status.make .unsupported (ascii
    "both endpoints are governed by one authority domain: two-sided consent is not available"))

end ContractTerms

/-! From a peer. -/

structure HelloMessage where
  role : PeerRole := .agent
  cluster : ClusterId := .empty
  domain : AuthorityDomainId := .empty
  incarnation : IncarnationId := ⟨0⟩
  generation : Generation := ⟨0⟩
  policyGeneration : PolicyGeneration := ⟨0⟩
  agentTerm : Term := ⟨0⟩
  protocolMin : ℕ := protocolVersionMin
  protocolMax : ℕ := protocolVersionMax
  capabilities : UInt32 := 0
  contentDigest : Digest := 0

structure ReportClusterMessage where
  session : SessionToken
  cluster : ClusterRecord

structure ContractConsentMessage where
  session : SessionToken
  contract : ContractId
  termsDigest : Digest
  decision : ConsentDecision := .refused
  endpoint : EndpointId
  incarnation : IncarnationId
  generation : Generation
  policyGeneration : PolicyGeneration
  agentTerm : Term
  reason : Bytes := []

structure GrantPreparedMessage where
  session : SessionToken
  grant : GrantId
  attempt : AttemptId
  accepted : Bool := false
  enforcementDigest : Digest := 0
  detail : Bytes := []

structure GrantCommittedMessage where
  session : SessionToken
  grant : GrantId
  attempt : AttemptId
  installed : Bool := false
  enforcementDigest : Digest := 0
  detail : Bytes := []

structure GrantAbortedMessage where
  session : SessionToken
  grant : GrantId
  attempt : AttemptId
  reason : Bytes := []

structure FenceResult where
  grant : GrantId
  outcome : Outcome := .internal

structure FenceAckMessage where
  session : SessionToken
  results : List FenceResult

structure WithdrawMessage where
  session : SessionToken
  cluster : ClusterId
  incarnation : IncarnationId
  generation : Generation
  reason : Bytes := []

structure GrantStatusEntry where
  grant : GrantId
  attempt : AttemptId
  state : GrantState := .aborted
  enforcementDigest : Digest := 0

structure StatusReportMessage where
  session : SessionToken
  grants : List GrantStatusEntry

structure QueryMessage where
  request : Uuid := 0
  kind : QueryKind := .status
  cluster : ClusterId := .empty
  endpoint : EndpointId := .empty
  endpointB : EndpointId := .empty
  contract : ContractId := ⟨0⟩
  grant : GrantId := ⟨0⟩
  capacity : CapacityUnits := ⟨0⟩
  allowDegraded : Bool := false
  limit : ℕ := 0
  expectSourceGeneration : Bool := false
  sourceGeneration : Generation := ⟨0⟩
  expectTargetGeneration : Bool := false
  targetGeneration : Generation := ⟨0⟩

structure AdminMessage where
  request : Uuid := 0
  action : AdminAction := .upsertCluster
  cluster : Option ClusterRecord := none
  link : Option LinkRecord := none
  path : Option PathRecord := none
  policy : Option PolicyRule := none
  clusterId : ClusterId := .empty
  clusterB : ClusterId := .empty
  endpoint : EndpointId := .empty
  endpointB : EndpointId := .empty
  contract : ContractId := ⟨0⟩
  grant : GrantId := ⟨0⟩
  edge : EdgeId := .empty
  policyId : Bytes := []
  generation : Generation := ⟨0⟩
  clusterState : ClusterState := .unknown
  linkState : LinkState := .unknown
  capacity : CapacityUnits := ⟨0⟩
  leaseDuration : Duration := ⟨0⟩
  reason : Bytes := []

/-- A frame that reached the coordinator: a decoded message, one the decoder refused, with the
request it names if it got that far, or one of a type the coordinator does not accept. -/
inductive Inbound
  | malformed (request : Uuid) (status : Status)
  | unsupported (kind : Bytes)
  | hello (message : HelloMessage)
  | reportCluster (message : ReportClusterMessage)
  | contractConsent (message : ContractConsentMessage)
  | grantPrepared (message : GrantPreparedMessage)
  | grantCommitted (message : GrantCommittedMessage)
  | grantAborted (message : GrantAbortedMessage)
  | fenceAck (message : FenceAckMessage)
  | withdraw (message : WithdrawMessage)
  | statusReport (message : StatusReportMessage)
  | query (message : QueryMessage)
  | admin (message : AdminMessage)
  | ping (sequence : Sequence)
  | pong
  | error

/-! To a peer. -/

structure HelloAckMessage where
  session : SessionToken := ⟨0⟩
  coordinator : IncarnationId
  coordinatorTerm : Term
  outcome : Outcome := .internal
  negotiatedVersion : ℕ := 0
  viewDigest : Digest
  revalidate : List GrantId := []
  detail : Bytes := []

structure ReportAckMessage where
  session : SessionToken
  outcome : Outcome := .internal
  revision : Revision
  viewDigest : Digest
  detail : Bytes := []

structure ProposeContractMessage where
  session : SessionToken
  contract : ContractId
  terms : ContractTerms
  attempt : AttemptId

structure WithdrawAckMessage where
  session : SessionToken
  outcome : Outcome := .internal
  fencedGrants : ℕ := 0
  detail : Bytes := []

structure AccountingEntry where
  grant : GrantId := ⟨0⟩
  contract : ContractId := ⟨0⟩
  endpoint : EndpointId := .empty
  cluster : ClusterId := .empty
  reserved : CapacityUnits := ⟨0⟩
  released : CapacityUnits := ⟨0⟩
  closed : Bool := false

structure CoordinatorStatus where
  domain : AuthorityDomainId
  incarnation : IncarnationId
  term : Term
  startedAt : Timestamp
  viewDigest : Digest
  revision : Revision
  recoveredFromStore : Bool
  recoveredRecords : ℕ
  truncationsRecovered : UInt64
  clusters : ℕ
  endpoints : ℕ
  links : ℕ
  paths : ℕ
  contracts : ℕ
  grants : ℕ
  reservations : ℕ
  policies : ℕ
  audit : ℕ
  connectedAgents : ℕ
  commits : UInt64
  fences : UInt64
  refusals : UInt64
  revalidations : UInt64
  rejectedReplays : UInt64
  rejectedFrames : UInt64

structure QueryResultMessage where
  request : Uuid := 0
  kind : QueryKind := .status
  outcome : Outcome := .internal
  detail : Bytes := []
  clusters : List ClusterRecord := []
  links : List LinkRecord := []
  paths : List PathRecord := []
  policies : List PolicyRule := []
  contracts : List ContractRecord := []
  grants : List GrantRecord := []
  reservations : List ReservationRecord := []
  audit : List AuditRecord := []
  accounting : List AccountingEntry := []
  decision : Option Decision := none
  fencePlan : Option FencePlan := none
  status : Option CoordinatorStatus := none

structure AdminResultMessage where
  request : Uuid := 0
  outcome : Outcome := .internal
  detail : Bytes := []
  viewDigest : Digest := 0
  contract : ContractId := ⟨0⟩
  grant : GrantId := ⟨0⟩

inductive Outbound
  | helloAck (message : HelloAckMessage)
  | reportAck (message : ReportAckMessage)
  | proposeContract (message : ProposeContractMessage)
  | prepareGrant (session : SessionToken) (grant : GrantRecord)
  | commitGrant (session : SessionToken) (grant : GrantId) (attempt : AttemptId)
  | abortGrant (session : SessionToken) (grant : GrantId) (attempt : AttemptId) (reason : Bytes)
  | fence (session : SessionToken) (coordinatorTerm : Term) (grants : List GrantId) (reason : Bytes)
  | withdrawAck (message : WithdrawAckMessage)
  | statusRequest (session : SessionToken) (request : Uuid)
  | queryResult (message : QueryResultMessage)
  | adminResult (message : AdminResultMessage)
  | ping (sequence : Sequence) (sentAt : Timestamp)
  | pong (sequence : Sequence)
  | error (request : Uuid) (outcome : Outcome) (detail : Bytes)

end InterClusterFabric.WireMessages
