import InterClusterFabric.WireRecords

/-! The message codecs. An encoder writes the fields one after another; the decoder of the same type reads them back in
that order, checks each against its bound, and refuses whatever is left over. -/
namespace InterClusterFabric.WireCodec
open CoreStatus CoreIds CoreTime CoreHash CoreBytes LibraryChecked LibraryReader LibraryStable
open ModelRecords ModelCanonical EngineDecision WireRecords
open WireMessages (PeerRole QueryKind AdminAction ContractTerms ReportClusterMessage ContractConsentMessage
  GrantAbortedMessage FenceResult FenceAckMessage WithdrawMessage HelloAckMessage ReportAckMessage
  ProposeContractMessage WithdrawAckMessage AccountingEntry AdminMessage)

def maxQueryResults : ℕ := 4096

/-! The messages whose handlers do not read every field, with all of them. -/

structure HelloMessage extends WireMessages.HelloMessage where
  startedAt : Timestamp := ⟨0⟩

structure RefuseMessage where
  outcome : Outcome := .internal
  detail : Bytes := []

structure PingMessage where
  sequence : Sequence := ⟨0⟩
  sentAt : Timestamp := ⟨0⟩

structure PongMessage where
  sequence : Sequence := ⟨0⟩

structure PrepareGrantMessage where
  session : SessionToken
  grant : GrantRecord

structure GrantPreparedMessage extends WireMessages.GrantPreparedMessage where
  agentTerm : Term := ⟨0⟩

structure CommitGrantMessage where
  session : SessionToken
  grant : GrantId
  attempt : AttemptId

structure GrantCommittedMessage extends WireMessages.GrantCommittedMessage where
  agentTerm : Term := ⟨0⟩

structure AbortGrantMessage where
  session : SessionToken
  grant : GrantId
  attempt : AttemptId
  reason : Bytes := []

structure FenceMessage where
  session : SessionToken
  coordinatorTerm : Term
  grants : List GrantId
  reason : Bytes := []

structure StatusRequestMessage where
  session : SessionToken
  request : Uuid

structure GrantStatusEntry extends WireMessages.GrantStatusEntry where
  agentTerm : Term := ⟨0⟩

structure StatusReportMessage where
  session : SessionToken
  request : Uuid
  cluster : ClusterId
  incarnation : IncarnationId
  generation : Generation
  policyGeneration : PolicyGeneration
  agentTerm : Term
  grants : List GrantStatusEntry

structure QueryMessage extends WireMessages.QueryMessage where
  clusterB : ClusterId := .empty
  edge : EdgeId := .empty
  policyId : Bytes := []
  queriedAt : Timestamp := ⟨0⟩

structure QueryResultMessage where
  request : Uuid := 0
  kind : QueryKind := .status
  outcome : Outcome := .internal
  detail : Bytes := []
  clusters : List ClusterRecord := []
  links : List LinkRecord := []
  paths : List PathRecord := []
  policies : List PolicyRule := []
  contracts : List ContractRecord := []
  grants : List GrantRecord := []
  reservations : List ReservationRecord := []
  audit : List AuditRecord := []
  accounting : List AccountingEntry := []
  decision : Option Decision := none
  fencePlan : Option FencePlan := none
  status : Option CoordinatorStatus := none

structure AdminResultMessage extends WireMessages.AdminResultMessage where
  revision : Revision := ⟨0⟩

structure ErrorMessage where
  request : Uuid := 0
  outcome : Outcome := .internal
  detail : Bytes := []

inductive Message
  | hello (message : HelloMessage)
  | helloAck (message : HelloAckMessage)
  | refuse (message : RefuseMessage)
  | ping (message : PingMessage)
  | pong (message : PongMessage)
  | reportCluster (message : ReportClusterMessage)
  | reportAck (message : ReportAckMessage)
  | proposeContract (message : ProposeContractMessage)
  | contractConsent (message : ContractConsentMessage)
  | prepareGrant (message : PrepareGrantMessage)
  | grantPrepared (message : GrantPreparedMessage)
  | commitGrant (message : CommitGrantMessage)
  | grantCommitted (message : GrantCommittedMessage)
  | abortGrant (message : AbortGrantMessage)
  | grantAborted (message : GrantAbortedMessage)
  | fence (message : FenceMessage)
  | fenceAck (message : FenceAckMessage)
  | withdraw (message : WithdrawMessage)
  | withdrawAck (message : WithdrawAckMessage)
  | statusRequest (message : StatusRequestMessage)
  | statusReport (message : StatusReportMessage)
  | query (message : QueryMessage)
  | queryResult (message : QueryResultMessage)
  | admin (message : AdminMessage)
  | adminResult (message : AdminResultMessage)
  | error (message : ErrorMessage)

/-! Encoders. -/

/-- A text that is too long is not written at all, and nobody looks at the status that says so. -/
def putText (text : Bytes) : Bytes := if Limits.maxStringField < text.length then [] else putBlob text

def encodeOptional {α : Type} (encode : α → Bytes) : Option α → Bytes
  | none => putBoolean false
  | some record => putBoolean true ++ encode record

def encodeHello (message : HelloMessage) : Bytes := List.flatten [
  putU8 message.role.ctorIdx,
  putBlob message.cluster.value,
  putBlob message.domain.value,
  putUuid message.incarnation.uuid,
  putU64 message.generation.value,
  putU64 message.policyGeneration.value,
  putU64 message.agentTerm.value,
  putU16 message.protocolMin,
  putU16 message.protocolMax,
  putU32 message.capabilities,
  putDigest message.contentDigest,
  putI64 message.startedAt.unixNanos]

def encodeHelloAck (message : HelloAckMessage) : Bytes := List.flatten [
  putUuid message.session.uuid,
  putUuid message.coordinator.uuid,
  putU64 message.coordinatorTerm.value,
  putU16 message.outcome.ctorIdx,
  putU16 message.negotiatedVersion,
  putDigest message.viewDigest,
  encodeList (fun grant => putUuid grant.uuid) message.revalidate,
  putText message.detail]

def encodeRefuse (message : RefuseMessage) : Bytes := List.flatten [
  putU16 message.outcome.ctorIdx,
  putText message.detail]

def encodePing (message : PingMessage) : Bytes := List.flatten [
  putU64 message.sequence.value,
  putI64 message.sentAt.unixNanos]

def encodePong (message : PongMessage) : Bytes := putU64 message.sequence.value

def encodeReportCluster (message : ReportClusterMessage) : Bytes := List.flatten [
  putUuid message.session.uuid,
  encodeCluster message.cluster]

def encodeReportAck (message : ReportAckMessage) : Bytes := List.flatten [
  putUuid message.session.uuid,
  putU16 message.outcome.ctorIdx,
  putU64 message.revision.value,
  putDigest message.viewDigest,
  putText message.detail]

def encodeProposeContract (message : ProposeContractMessage) : Bytes := List.flatten [
  putUuid message.session.uuid,
  putUuid message.contract.uuid,
  message.terms.encodeTerms,
  putUuid message.attempt.uuid]

def encodeContractConsent (message : ContractConsentMessage) : Bytes := List.flatten [
  putUuid message.session.uuid,
  putUuid message.contract.uuid,
  putDigest message.termsDigest,
  putU8 message.decision.ctorIdx,
  putBlob message.endpoint.value,
  putUuid message.incarnation.uuid,
  putU64 message.generation.value,
  putU64 message.policyGeneration.value,
  putU64 message.agentTerm.value,
  putText message.reason]

def encodePrepareGrant (message : PrepareGrantMessage) : Bytes := List.flatten [
  putUuid message.session.uuid,
  encodeGrant message.grant]

def encodeGrantPrepared (message : GrantPreparedMessage) : Bytes := List.flatten [
  putUuid message.session.uuid,
  putUuid message.grant.uuid,
  putUuid message.attempt.uuid,
  putBoolean message.accepted,
  putU64 message.agentTerm.value,
  putDigest message.enforcementDigest,
  putText message.detail]

def encodeCommitGrant (message : CommitGrantMessage) : Bytes := List.flatten [
  putUuid message.session.uuid,
  putUuid message.grant.uuid,
  putUuid message.attempt.uuid]

def encodeGrantCommitted (message : GrantCommittedMessage) : Bytes := List.flatten [
  putUuid message.session.uuid,
  putUuid message.grant.uuid,
  putUuid message.attempt.uuid,
  putBoolean message.installed,
  putU64 message.agentTerm.value,
  putDigest message.enforcementDigest,
  putText message.detail]

def encodeAbortGrant (message : AbortGrantMessage) : Bytes := List.flatten [
  putUuid message.session.uuid,
  putUuid message.grant.uuid,
  putUuid message.attempt.uuid,
  putText message.reason]

def encodeGrantAborted (message : GrantAbortedMessage) : Bytes := List.flatten [
  putUuid message.session.uuid,
  putUuid message.grant.uuid,
  putUuid message.attempt.uuid,
  putText message.reason]

def encodeFence (message : FenceMessage) : Bytes := List.flatten [
  putUuid message.session.uuid,
  putU64 message.coordinatorTerm.value,
  encodeList (fun grant => putUuid grant.uuid) message.grants,
  putText message.reason]

def encodeFenceResult (result : FenceResult) : Bytes := List.flatten [
  putUuid result.grant.uuid,
  putU16 result.outcome.ctorIdx]

def encodeFenceAck (message : FenceAckMessage) : Bytes := List.flatten [
  putUuid message.session.uuid,
  encodeList encodeFenceResult message.results]

def encodeWithdraw (message : WithdrawMessage) : Bytes := List.flatten [
  putUuid message.session.uuid,
  putBlob message.cluster.value,
  putUuid message.incarnation.uuid,
  putU64 message.generation.value,
  putText message.reason]

def encodeWithdrawAck (message : WithdrawAckMessage) : Bytes := List.flatten [
  putUuid message.session.uuid,
  putU16 message.outcome.ctorIdx,
  putSize message.fencedGrants,
  putText message.detail]

def encodeStatusRequest (message : StatusRequestMessage) : Bytes := List.flatten [
  putUuid message.session.uuid,
  putUuid message.request]

def encodeGrantStatus (entry : GrantStatusEntry) : Bytes := List.flatten [
  putUuid entry.grant.uuid,
  putUuid entry.attempt.uuid,
  putU8 entry.state.ctorIdx,
  putU64 entry.agentTerm.value,
  putDigest entry.enforcementDigest]

def encodeStatusReport (message : StatusReportMessage) : Bytes := List.flatten [
  putUuid message.session.uuid,
  putUuid message.request,
  putBlob message.cluster.value,
  putUuid message.incarnation.uuid,
  putU64 message.generation.value,
  putU64 message.policyGeneration.value,
  putU64 message.agentTerm.value,
  encodeList encodeGrantStatus message.grants]

def encodeQuery (message : QueryMessage) : Bytes := List.flatten [
  putUuid message.request,
  putU8 message.kind.ctorIdx,
  putBlob message.cluster.value,
  putBlob message.clusterB.value,
  putBlob message.endpoint.value,
  putBlob message.endpointB.value,
  putUuid message.contract.uuid,
  putUuid message.grant.uuid,
  putBlob message.edge.value,
  putText message.policyId,
  putU64 message.capacity.value,
  putBoolean message.allowDegraded,
  putU32 (UInt32.ofNat message.limit),
  putBoolean message.expectSourceGeneration,
  putU64 message.sourceGeneration.value,
  putBoolean message.expectTargetGeneration,
  putU64 message.targetGeneration.value,
  putI64 message.queriedAt.unixNanos]

/-- Only the content that the kind of the query asks for is written. -/
def encodeContent (message : QueryResultMessage) : Bytes :=
  match message.kind with
  | .unspecified => []
  | .status => encodeOptional encodeStatus message.status
  | .listClusters | .showCluster => encodeList encodeCluster message.clusters
  | .listLinks => encodeList encodeLink message.links
  | .listPaths => encodeList encodePath message.paths
  | .listPolicies => encodeList encodePolicy message.policies
  | .listContracts | .showContract => encodeList encodeContract message.contracts
  | .listGrants | .showGrant => encodeList encodeGrant message.grants
  | .listReservations => encodeList encodeReservation message.reservations
  | .listAudit => encodeList encodeAudit message.audit
  | .decide => encodeOptional encodeDecision message.decision
  | .fencePlan => encodeOptional encodeFencePlan message.fencePlan
  | .accounting => encodeList encodeAccounting message.accounting

def encodeQueryResult (message : QueryResultMessage) : Bytes := List.flatten [
  putUuid message.request,
  putU8 message.kind.ctorIdx,
  putU16 message.outcome.ctorIdx,
  putText message.detail,
  encodeContent message]

def encodeAdmin (message : AdminMessage) : Bytes := List.flatten [
  putUuid message.request,
  putU8 message.action.ctorIdx,
  encodeOptional encodeCluster message.cluster,
  encodeOptional encodeLink message.link,
  encodeOptional encodePath message.path,
  encodeOptional encodePolicy message.policy,
  putBlob message.clusterId.value,
  putBlob message.clusterB.value,
  putBlob message.endpoint.value,
  putBlob message.endpointB.value,
  putUuid message.contract.uuid,
  putUuid message.grant.uuid,
  putBlob message.edge.value,
  putText message.policyId,
  putU64 message.generation.value,
  putU8 message.clusterState.ctorIdx,
  putU8 message.linkState.ctorIdx,
  putU64 message.capacity.value,
  putI64 message.leaseDuration.nanos,
  putText message.reason]

def encodeAdminResult (message : AdminResultMessage) : Bytes := List.flatten [
  putUuid message.request,
  putU16 message.outcome.ctorIdx,
  putText message.detail,
  putDigest message.viewDigest,
  putU64 message.revision.value,
  putUuid message.contract.uuid,
  putUuid message.grant.uuid]

def encodeError (message : ErrorMessage) : Bytes := List.flatten [
  putUuid message.request,
  putU16 message.outcome.ctorIdx,
  putText message.detail]

def encodeMessage : Message → Bytes
  | .hello message => encodeHello message
  | .helloAck message => encodeHelloAck message
  | .refuse message => encodeRefuse message
  | .ping message => encodePing message
  | .pong message => encodePong message
  | .reportCluster message => encodeReportCluster message
  | .reportAck message => encodeReportAck message
  | .proposeContract message => encodeProposeContract message
  | .contractConsent message => encodeContractConsent message
  | .prepareGrant message => encodePrepareGrant message
  | .grantPrepared message => encodeGrantPrepared message
  | .commitGrant message => encodeCommitGrant message
  | .grantCommitted message => encodeGrantCommitted message
  | .abortGrant message => encodeAbortGrant message
  | .grantAborted message => encodeGrantAborted message
  | .fence message => encodeFence message
  | .fenceAck message => encodeFenceAck message
  | .withdraw message => encodeWithdraw message
  | .withdrawAck message => encodeWithdrawAck message
  | .statusRequest message => encodeStatusRequest message
  | .statusReport message => encodeStatusReport message
  | .query message => encodeQuery message
  | .queryResult message => encodeQueryResult message
  | .admin message => encodeAdmin message
  | .adminResult message => encodeAdminResult message
  | .error message => encodeError message

/-! Decoders. `read` gathers the fields, `decode` then checks the end. -/

def toEnd {α : Type} (read : ByteReader α) : ByteReader α := do
  let message ← read
  expectEnd
  return message

def readOutcome : ByteReader Outcome :=
  codeWord Outcome.ofNat Outcome.internal.ctorIdx "outcome value is out of range"

def decodeOptional {α : Type} (decode : ByteReader α) : ByteReader (Option α) := do
  let present ← boolean
  if present then some <$> decode else return none

def readGrantId : ByteReader GrantId := StrongUuid.mk <$> uuid

def readHello : ByteReader HelloMessage := do
  let role ← decodeEnum8 PeerRole.ofNat 2
  let cluster ← decodeOptionalName .cluster Limits.maxNameLength
  let domain ← decodeOptionalName .authorityDomain Limits.maxNameLength
  let incarnation ← uuid
  let generation ← decodeCounter Limits.maxGeneration
  let policy ← decodeCounter Limits.maxGeneration
  let term ← decodeCounter Limits.maxGeneration
  let protocolMin ← u16
  let protocolMax ← u16
  rejectIf (protocolMax < protocolMin) (Status.invalid "peer declared an inverted protocol version range")
  let capabilities ← u32
  let contentDigest ← digest
  let started ← i64
  return { role, cluster, domain, incarnation := ⟨incarnation⟩, generation := ⟨generation⟩,
           policyGeneration := ⟨policy⟩, agentTerm := ⟨term⟩, protocolMin, protocolMax, capabilities, contentDigest,
           startedAt := ⟨started⟩ }

def readHelloAck : ByteReader HelloAckMessage := do
  let session ← uuid
  let coordinator ← uuid
  let term ← decodeCounter Limits.maxGeneration
  let outcome ← readOutcome
  let negotiatedVersion ← u16
  let viewDigest ← digest
  let revalidate ← decodeList readGrantId Limits.maxGrants
  let detail ← decodeText
  return { session := ⟨session⟩, coordinator := ⟨coordinator⟩, coordinatorTerm := ⟨term⟩, outcome, negotiatedVersion,
           viewDigest, revalidate, detail }

def readRefuse : ByteReader RefuseMessage := do
  let outcome ← readOutcome
  let detail ← decodeText
  return { outcome, detail }

def readPing : ByteReader PingMessage := do
  let sequence ← decodeCounter Limits.maxGeneration
  let sent ← i64
  return { sequence := ⟨sequence⟩, sentAt := ⟨sent⟩ }

def readPong : ByteReader PongMessage := do
  let sequence ← decodeCounter Limits.maxGeneration
  return { sequence := ⟨sequence⟩ }

def readReportCluster : ByteReader ReportClusterMessage := do
  let session ← uuid
  let cluster ← decodeCluster
  return { session := ⟨session⟩, cluster }

def readReportAck : ByteReader ReportAckMessage := do
  let session ← uuid
  let outcome ← readOutcome
  let revision ← decodeCounter Limits.maxGeneration
  let viewDigest ← digest
  let detail ← decodeText
  return { session := ⟨session⟩, outcome, revision := ⟨revision⟩, viewDigest, detail }

def readProposeContract : ByteReader ProposeContractMessage := do
  let session ← uuid
  let contract ← uuid
  let terms ← decodeTerms
  let attempt ← uuid
  return { session := ⟨session⟩, contract := ⟨contract⟩, terms, attempt := ⟨attempt⟩ }

def readContractConsent : ByteReader ContractConsentMessage := do
  let session ← uuid
  let contract ← uuid
  let termsDigest ← digest
  let decision ← decodeEnum8 ConsentDecision.ofNat 1
  let endpoint ← decodeName .endpoint Limits.maxNameLength
  let incarnation ← uuid
  let generation ← decodeCounter Limits.maxGeneration
  let policy ← decodeCounter Limits.maxGeneration
  let term ← decodeCounter Limits.maxGeneration
  let reason ← decodeText
  return { session := ⟨session⟩, contract := ⟨contract⟩, termsDigest, decision, endpoint, incarnation := ⟨incarnation⟩,
           generation := ⟨generation⟩, policyGeneration := ⟨policy⟩, agentTerm := ⟨term⟩, reason }

def readPrepareGrant : ByteReader PrepareGrantMessage := do
  let session ← uuid
  let grant ← decodeGrant
  return { session := ⟨session⟩, grant }

def readGrantPrepared : ByteReader GrantPreparedMessage := do
  let session ← uuid
  let grant ← uuid
  let attempt ← uuid
  let accepted ← boolean
  let term ← decodeCounter Limits.maxGeneration
  let enforcementDigest ← digest
  let detail ← decodeText
  return { session := ⟨session⟩, grant := ⟨grant⟩, attempt := ⟨attempt⟩, accepted, agentTerm := ⟨term⟩,
           enforcementDigest, detail }

def readCommitGrant : ByteReader CommitGrantMessage := do
  let session ← uuid
  let grant ← uuid
  let attempt ← uuid
  return { session := ⟨session⟩, grant := ⟨grant⟩, attempt := ⟨attempt⟩ }

def readGrantCommitted : ByteReader GrantCommittedMessage := do
  let session ← uuid
  let grant ← uuid
  let attempt ← uuid
  let installed ← boolean
  let term ← decodeCounter Limits.maxGeneration
  let enforcementDigest ← digest
  let detail ← decodeText
  return { session := ⟨session⟩, grant := ⟨grant⟩, attempt := ⟨attempt⟩, installed, agentTerm := ⟨term⟩,
           enforcementDigest, detail }

def readAbortGrant : ByteReader AbortGrantMessage := do
  let session ← uuid
  let grant ← uuid
  let attempt ← uuid
  let reason ← decodeText
  return { session := ⟨session⟩, grant := ⟨grant⟩, attempt := ⟨attempt⟩, reason }

def readGrantAborted : ByteReader GrantAbortedMessage := do
  let session ← uuid
  let grant ← uuid
  let attempt ← uuid
  let reason ← decodeText
  return { session := ⟨session⟩, grant := ⟨grant⟩, attempt := ⟨attempt⟩, reason }

def readFence : ByteReader FenceMessage := do
  let session ← uuid
  let term ← decodeCounter Limits.maxGeneration
  let grants ← decodeList readGrantId Limits.maxGrants
  let reason ← decodeText
  return { session := ⟨session⟩, coordinatorTerm := ⟨term⟩, grants, reason }

def readFenceResult : ByteReader FenceResult := do
  let grant ← uuid
  let outcome ← readOutcome
  return { grant := ⟨grant⟩, outcome }

def readFenceAck : ByteReader FenceAckMessage := do
  let session ← uuid
  let results ← decodeList readFenceResult Limits.maxGrants
  return { session := ⟨session⟩, results }

def readWithdraw : ByteReader WithdrawMessage := do
  let session ← uuid
  let cluster ← decodeName .cluster Limits.maxNameLength
  let incarnation ← uuid
  let generation ← decodeCounter Limits.maxGeneration
  let reason ← decodeText
  return { session := ⟨session⟩, cluster, incarnation := ⟨incarnation⟩, generation := ⟨generation⟩, reason }

def readWithdrawAck : ByteReader WithdrawAckMessage := do
  let session ← uuid
  let outcome ← readOutcome
  let fencedGrants ← size
  let detail ← decodeText
  return { session := ⟨session⟩, outcome, fencedGrants, detail }

def readStatusRequest : ByteReader StatusRequestMessage := do
  let session ← uuid
  let request ← uuid
  return { session := ⟨session⟩, request }

def readGrantStatus : ByteReader GrantStatusEntry := do
  let grant ← uuid
  let attempt ← uuid
  let state ← decodeEnum8 GrantState.ofNat 8
  let term ← decodeCounter Limits.maxGeneration
  let enforcementDigest ← digest
  return { grant := ⟨grant⟩, attempt := ⟨attempt⟩, state, agentTerm := ⟨term⟩, enforcementDigest }

def readStatusReport : ByteReader StatusReportMessage := do
  let session ← uuid
  let request ← uuid
  let cluster ← decodeName .cluster Limits.maxNameLength
  let incarnation ← uuid
  let generation ← decodeCounter Limits.maxGeneration
  let policy ← decodeCounter Limits.maxGeneration
  let term ← decodeCounter Limits.maxGeneration
  let grants ← decodeList readGrantStatus Limits.maxGrants
  return { session := ⟨session⟩, request, cluster, incarnation := ⟨incarnation⟩, generation := ⟨generation⟩,
           policyGeneration := ⟨policy⟩, agentTerm := ⟨term⟩, grants }

def readLimit : ByteReader ℕ := do
  let limit ← u32
  rejectIf (maxQueryResults < limit.toNat) (Status.invalid "query result limit exceeds the maximum")
  return limit.toNat

def readQuery : ByteReader QueryMessage := do
  let request ← uuid
  let kind ← decodeEnum8 QueryKind.ofNat QueryKind.accounting.ctorIdx
  let cluster ← decodeOptionalName .cluster Limits.maxNameLength
  let clusterB ← decodeOptionalName .cluster Limits.maxNameLength
  let endpoint ← decodeOptionalName .endpoint Limits.maxNameLength
  let endpointB ← decodeOptionalName .endpoint Limits.maxNameLength
  let contract ← uuid
  let grant ← uuid
  let edge ← decodeOptionalName .edge Limits.maxNameLength
  let policyId ← decodeText
  let capacity ← decodeCounter Limits.maxCapacity
  let allowDegraded ← boolean
  let limit ← readLimit
  let expectSourceGeneration ← boolean
  let sourceGeneration ← decodeCounter Limits.maxGeneration
  let expectTargetGeneration ← boolean
  let targetGeneration ← decodeCounter Limits.maxGeneration
  let queriedAt ← i64
  return { request, kind, cluster, clusterB, endpoint, endpointB, contract := ⟨contract⟩, grant := ⟨grant⟩, edge,
           policyId, capacity := ⟨capacity⟩, allowDegraded, limit, expectSourceGeneration,
           sourceGeneration := ⟨sourceGeneration⟩, expectTargetGeneration,
           targetGeneration := ⟨targetGeneration⟩, queriedAt := ⟨queriedAt⟩ }

def readContent (message : QueryResultMessage) : ByteReader QueryResultMessage :=
  match message.kind with
  | .unspecified => return message
  | .status => (fun status => { message with status }) <$> decodeOptional decodeStatus
  | .listClusters | .showCluster =>
    (fun clusters => { message with clusters }) <$> decodeList decodeCluster Limits.maxClusters
  | .listLinks => (fun links => { message with links }) <$> decodeList decodeLink Limits.maxEdges
  | .listPaths => (fun paths => { message with paths }) <$> decodeList decodePath Limits.maxPaths
  | .listPolicies => (fun policies => { message with policies }) <$> decodeList decodePolicy Limits.maxPolicyRules
  | .listContracts | .showContract =>
    (fun contracts => { message with contracts }) <$> decodeList decodeContract Limits.maxContracts
  | .listGrants | .showGrant => (fun grants => { message with grants }) <$> decodeList decodeGrant Limits.maxGrants
  | .listReservations =>
    (fun reservations => { message with reservations }) <$> decodeList decodeReservation Limits.maxReservations
  | .listAudit => (fun audit => { message with audit }) <$> decodeList decodeAudit Limits.maxAuditRecords
  | .decide => (fun decision => { message with decision }) <$> decodeOptional decodeDecision
  | .fencePlan => (fun fencePlan => { message with fencePlan }) <$> decodeOptional decodeFencePlan
  | .accounting =>
    (fun accounting => { message with accounting }) <$> decodeList decodeAccounting Limits.maxReservations

def readQueryResult : ByteReader QueryResultMessage := do
  let request ← uuid
  let kind ← decodeEnum8 QueryKind.ofNat QueryKind.accounting.ctorIdx
  let outcome ← readOutcome
  let detail ← decodeText
  readContent { request, kind, outcome, detail }

def readAdmin : ByteReader AdminMessage := do
  let request ← uuid
  let action ← decodeEnum8 AdminAction.ofNat AdminAction.reloadStore.ctorIdx
  let cluster ← decodeOptional decodeCluster
  let link ← decodeOptional decodeLink
  let path ← decodeOptional decodePath
  let policy ← decodeOptional decodePolicy
  let clusterId ← decodeOptionalName .cluster Limits.maxNameLength
  let clusterB ← decodeOptionalName .cluster Limits.maxNameLength
  let endpoint ← decodeOptionalName .endpoint Limits.maxNameLength
  let endpointB ← decodeOptionalName .endpoint Limits.maxNameLength
  let contract ← uuid
  let grant ← uuid
  let edge ← decodeOptionalName .edge Limits.maxNameLength
  let policyId ← decodeText
  let generation ← decodeCounter Limits.maxGeneration
  let clusterState ← decodeEnum8 ClusterState.ofNat 4
  let linkState ← decodeEnum8 LinkState.ofNat 4
  let capacity ← decodeCounter Limits.maxCapacity
  let lease ← leaseDuration "lease duration is out of range"
  let reason ← decodeText
  return { request, action, cluster, link, path, policy, clusterId, clusterB, endpoint, endpointB,
           contract := ⟨contract⟩, grant := ⟨grant⟩, edge, policyId, generation := ⟨generation⟩, clusterState,
           linkState, capacity := ⟨capacity⟩, leaseDuration := ⟨lease⟩, reason }

def readAdminResult : ByteReader AdminResultMessage := do
  let request ← uuid
  let outcome ← readOutcome
  let detail ← decodeText
  let viewDigest ← digest
  let revision ← decodeCounter Limits.maxGeneration
  let contract ← uuid
  let grant ← uuid
  return { request, outcome, detail, viewDigest, revision := ⟨revision⟩, contract := ⟨contract⟩, grant := ⟨grant⟩ }

def readError : ByteReader ErrorMessage := do
  let request ← uuid
  let outcome ← readOutcome
  let detail ← decodeText
  return { request, outcome, detail }

def decodeHello : ByteReader HelloMessage := toEnd readHello
def decodeHelloAck : ByteReader HelloAckMessage := toEnd readHelloAck
def decodeRefuse : ByteReader RefuseMessage := toEnd readRefuse
def decodePing : ByteReader PingMessage := toEnd readPing
def decodePong : ByteReader PongMessage := toEnd readPong
def decodeReportCluster : ByteReader ReportClusterMessage := toEnd readReportCluster
def decodeReportAck : ByteReader ReportAckMessage := toEnd readReportAck
def decodeProposeContract : ByteReader ProposeContractMessage := toEnd readProposeContract
def decodeContractConsent : ByteReader ContractConsentMessage := toEnd readContractConsent
def decodePrepareGrant : ByteReader PrepareGrantMessage := toEnd readPrepareGrant
def decodeGrantPrepared : ByteReader GrantPreparedMessage := toEnd readGrantPrepared
def decodeCommitGrant : ByteReader CommitGrantMessage := toEnd readCommitGrant
def decodeGrantCommitted : ByteReader GrantCommittedMessage := toEnd readGrantCommitted
def decodeAbortGrant : ByteReader AbortGrantMessage := toEnd readAbortGrant
def decodeGrantAborted : ByteReader GrantAbortedMessage := toEnd readGrantAborted
def decodeFence : ByteReader FenceMessage := toEnd readFence
def decodeFenceAck : ByteReader FenceAckMessage := toEnd readFenceAck
def decodeWithdraw : ByteReader WithdrawMessage := toEnd readWithdraw
def decodeWithdrawAck : ByteReader WithdrawAckMessage := toEnd readWithdrawAck
def decodeStatusRequest : ByteReader StatusRequestMessage := toEnd readStatusRequest
def decodeStatusReport : ByteReader StatusReportMessage := toEnd readStatusReport
def decodeQuery : ByteReader QueryMessage := toEnd readQuery
def decodeQueryResult : ByteReader QueryResultMessage := toEnd readQueryResult
def decodeAdmin : ByteReader AdminMessage := toEnd readAdmin
def decodeAdminResult : ByteReader AdminResultMessage := toEnd readAdminResult
def decodeError : ByteReader ErrorMessage := toEnd readError

/-- The decoder of a message's type. -/
def decoderOf : Message → ByteReader Message
  | .hello _ => .hello <$> decodeHello
  | .helloAck _ => .helloAck <$> decodeHelloAck
  | .refuse _ => .refuse <$> decodeRefuse
  | .ping _ => .ping <$> decodePing
  | .pong _ => .pong <$> decodePong
  | .reportCluster _ => .reportCluster <$> decodeReportCluster
  | .reportAck _ => .reportAck <$> decodeReportAck
  | .proposeContract _ => .proposeContract <$> decodeProposeContract
  | .contractConsent _ => .contractConsent <$> decodeContractConsent
  | .prepareGrant _ => .prepareGrant <$> decodePrepareGrant
  | .grantPrepared _ => .grantPrepared <$> decodeGrantPrepared
  | .commitGrant _ => .commitGrant <$> decodeCommitGrant
  | .grantCommitted _ => .grantCommitted <$> decodeGrantCommitted
  | .abortGrant _ => .abortGrant <$> decodeAbortGrant
  | .grantAborted _ => .grantAborted <$> decodeGrantAborted
  | .fence _ => .fence <$> decodeFence
  | .fenceAck _ => .fenceAck <$> decodeFenceAck
  | .withdraw _ => .withdraw <$> decodeWithdraw
  | .withdrawAck _ => .withdrawAck <$> decodeWithdrawAck
  | .statusRequest _ => .statusRequest <$> decodeStatusRequest
  | .statusReport _ => .statusReport <$> decodeStatusReport
  | .query _ => .query <$> decodeQuery
  | .queryResult _ => .queryResult <$> decodeQueryResult
  | .admin _ => .admin <$> decodeAdmin
  | .adminResult _ => .adminResult <$> decodeAdminResult
  | .error _ => .error <$> decodeError

end InterClusterFabric.WireCodec
