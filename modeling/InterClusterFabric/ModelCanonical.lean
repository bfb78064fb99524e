import InterClusterFabric.CoreBytes
import InterClusterFabric.ModelRecords

/-! The canonical record encodings, used for digests, snapshots and the log. The encoders write
whatever they are given; the decoders check bounds and identities. `Storable` says of a record that
its own decoder accepts it. -/
namespace InterClusterFabric.ModelCanonical
open CoreStatus CoreIds CoreTime CoreHash CoreBytes LibraryChecked LibraryReader ModelRecords

/-! Encoders. -/

def encodeProvenance (provenance : Provenance) : Bytes := List.flatten [
  putU8 provenance.source.ctorIdx,
  putU8 provenance.verification.ctorIdx,
  putI64 provenance.observedAt.unixNanos,
  putU64 provenance.revision.value,
  putUuid provenance.session.uuid,
  putDigest provenance.evidenceDigest]

def encodeEndpoint (record : EndpointRecord) : Bytes := List.flatten [
  putBlob record.id.value,
  putBlob record.cluster.value,
  putBlob record.scope.value,
  putU64 record.capacity.value,
  putU64 record.reserved.value,
  putU64 record.policyGeneration.value,
  putU8 record.state.ctorIdx,
  putBoolean record.interClusterAllowed,
  putBoolean record.permitsDegraded,
  encodeProvenance record.provenance]

def encodeConsent (consent : ConsentRecord) : Bytes := List.flatten [
  putBlob consent.cluster.value,
  putBlob consent.endpoint.value,
  putUuid consent.incarnation.uuid,
  putU64 consent.generation.value,
  putU64 consent.policyGeneration.value,
  putU64 consent.agentTerm.value,
  putDigest consent.termsDigest,
  putU8 consent.decision.ctorIdx,
  putI64 consent.decidedAt.unixNanos,
  putUuid consent.session.uuid,
  putU8 consent.authenticity.ctorIdx,
  putBlob consent.reason]

def encodeCluster (record : ClusterRecord) : Bytes := List.flatten [
  putBlob record.id.value,
  putBlob record.domain.value,
  putUuid record.incarnation.uuid,
  putU64 record.generation.value,
  putU64 record.policyGeneration.value,
  putU8 record.state.ctorIdx,
  putBoolean record.consentWithdrawn,
  putI64 record.lastSeen.unixNanos,
  putCount record.endpoints.length,
  record.endpoints.flatMap encodeEndpoint,
  putDigest record.contentDigest,
  putBoolean record.generationConflict,
  putBoolean record.conflictingGeneration.isSome,
  putU64 (record.conflictingGeneration.getD ⟨0⟩).value,
  putU64 record.revision.value,
  encodeProvenance record.provenance,
  putU64 record.incarnationChanges]

def encodeLink (record : LinkRecord) : Bytes := List.flatten [
  putBlob record.id.value,
  putBlob record.a.value,
  putBlob record.b.value,
  putU16 record.kind.ctorIdx,
  putU8 record.state.ctorIdx,
  putU64 record.capacity.value,
  putU64 record.reserved.value,
  putU32 record.latencyMicros,
  putU64 record.revision.value,
  encodeProvenance record.provenance]

def encodePath (record : PathRecord) : Bytes := List.flatten [
  putBlob record.id.value,
  putBlob record.a.value,
  putBlob record.b.value,
  putCount record.hops.length,
  record.hops.flatMap fun hop => putBlob hop.value,
  putU64 record.bottleneck.value,
  putU8 record.state.ctorIdx,
  putU64 record.revision.value,
  encodeProvenance record.provenance,
  putBoolean record.containsUnsupportedEdge]

def encodePolicy (record : PolicyRule) : Bytes := List.flatten [
  putBlob record.id,
  putBlob record.owner.value,
  putBlob record.clusterA.value,
  putBlob record.clusterB.value,
  putBlob record.endpointA.value,
  putBlob record.endpointB.value,
  putU64 record.generation.value,
  putBoolean record.allow,
  putBoolean record.allowDegraded,
  putU64 record.maxCapacity.value,
  putU64 record.revision.value,
  encodeProvenance record.provenance]

def encodeParty (party : PartyRef) : Bytes := List.flatten [
  putBlob party.cluster.value,
  putBlob party.endpoint.value,
  putBlob party.domain.value]

def encodeOptionalConsent : Option ConsentRecord → Bytes
  | none => putBoolean false
  | some consent => putBoolean true ++ encodeConsent consent

def encodeContract (record : ContractRecord) : Bytes := List.flatten [
  putUuid record.id.uuid,
  encodeParty record.parties.first,
  encodeParty record.parties.second,
  putU64 record.capacity.value,
  putI64 record.leaseDuration.nanos,
  putDigest record.termsDigest,
  putU8 record.state.ctorIdx,
  encodeOptionalConsent record.consents.first,
  encodeOptionalConsent record.consents.second,
  putI64 record.createdAt.unixNanos,
  putI64 record.updatedAt.unixNanos,
  putU64 record.revision.value,
  encodeProvenance record.provenance]

def encodeGrant (record : GrantRecord) : Bytes := List.flatten [
  putUuid record.id.uuid,
  putUuid record.contract.uuid,
  putDigest record.termsDigest,
  putU64 record.coordinatorTerm.value,
  putUuid record.coordinator.uuid,
  putUuid record.attempt.uuid,
  putUuid record.incarnations.first.uuid,
  putU64 record.generations.first.value,
  putU64 record.policies.first.value,
  putUuid record.incarnations.second.uuid,
  putU64 record.generations.second.value,
  putU64 record.policies.second.value,
  putU64 record.capacity.value,
  putI64 record.issuedAt.unixNanos,
  putI64 record.validUntil.unixNanos,
  putU8 record.state.ctorIdx,
  putBoolean record.acknowledged.first,
  putDigest record.enforcementDigest.first,
  putBoolean record.acknowledged.second,
  putDigest record.enforcementDigest.second,
  putU64 record.revalidateAttempts,
  putBlob record.note,
  putU64 record.revision.value,
  encodeProvenance record.provenance]

def encodeReservation (record : ReservationRecord) : Bytes := List.flatten [
  putUuid record.id.uuid,
  putUuid record.grant.uuid,
  putBlob record.endpoint.value,
  putBlob record.cluster.value,
  putU64 record.amount.value,
  putBoolean record.released,
  putI64 record.createdAt.unixNanos,
  putI64 record.releasedAt.unixNanos,
  putU64 record.revision.value,
  encodeProvenance record.provenance]

def encodeAudit (record : AuditRecord) : Bytes := List.flatten [
  putU64 record.sequence.value,
  putI64 record.recordedAt.unixNanos,
  putBlob record.actor,
  putBlob record.action,
  putBlob record.subject,
  putU16 record.outcome.ctorIdx,
  putBlob record.detail]

/-! Decoders. -/

def decodeProvenance : ByteReader Provenance := do
  let source ← decodeEnum8 EvidenceSource.ofNat 5
  let verification ← decodeEnum8 VerificationState.ofNat 4
  let observed ← i64
  let revision ← decodeCounter Limits.maxGeneration
  let session ← uuid
  let evidenceDigest ← digest
  return ⟨source, verification, ⟨observed⟩, ⟨revision⟩, ⟨session⟩, evidenceDigest⟩

def decodeEndpoint : ByteReader EndpointRecord := do
  let id ← decodeName .endpoint Limits.maxNameLength
  let cluster ← decodeName .cluster Limits.maxNameLength
  let scope ← decodeName .scope Limits.maxScopeLength
  let capacity ← decodeCounter Limits.maxCapacity
  let reserved ← decodeCounter Limits.maxCapacity
  let policy ← decodeCounter Limits.maxGeneration
  let state ← decodeEnum8 EndpointState.ofNat 4
  let allowed ← boolean
  let degraded ← boolean
  let provenance ← decodeProvenance
  return ⟨id, cluster, scope, ⟨capacity⟩, ⟨reserved⟩, ⟨policy⟩, state, allowed, degraded, provenance⟩

def decodeConsent : ByteReader ConsentRecord := do
  let cluster ← decodeName .cluster Limits.maxNameLength
  let endpoint ← decodeName .endpoint Limits.maxNameLength
  let incarnation ← uuid
  let generation ← decodeCounter Limits.maxGeneration
  let policy ← decodeCounter Limits.maxGeneration
  let term ← decodeCounter Limits.maxGeneration
  let termsDigest ← digest
  let decision ← decodeEnum8 ConsentDecision.ofNat 1
  let decidedAt ← i64
  let session ← uuid
  let authenticity ← decodeEnum8 TransportAuthenticity.ofNat 1
  let reason ← decodeText
  return ⟨cluster, endpoint, ⟨incarnation⟩, ⟨generation⟩, ⟨policy⟩, ⟨term⟩, termsDigest, decision,
    ⟨decidedAt⟩, ⟨session⟩, authenticity, reason⟩

def endpointLe (a b : EndpointRecord) : Prop := compare a.id b.id ≠ .gt

instance : DecidableRel endpointLe := fun a b => inferInstanceAs (Decidable (compare a.id b.id ≠ .gt))

/-- Endpoints in the order of their identities. -/
def sortEndpoints (endpoints : List EndpointRecord) : List EndpointRecord :=
  endpoints.insertionSort endpointLe

def hasAdjacentDuplicate : List EndpointRecord → Bool
  | a :: b :: rest => a.id == b.id || hasAdjacentDuplicate (b :: rest)
  | _ => false

def pushBack {α : Type} (acc : List α) (x : α) : Result (List α) := .ok (acc ++ [x])

def decodeCluster : ByteReader ClusterRecord := do
  let id ← decodeName .cluster Limits.maxNameLength
  let domain ← decodeName .authorityDomain Limits.maxNameLength
  let incarnation ← uuid
  let generation ← decodeCounter Limits.maxGeneration
  let policy ← decodeCounter Limits.maxGeneration
  let state ← decodeEnum8 ClusterState.ofNat 4
  let withdrawn ← boolean
  let lastSeen ← i64
  let endpointCount ← count Limits.maxEndpointsPerCluster
  let read ← readFold decodeEndpoint pushBack endpointCount []
  rejectIf (hasAdjacentDuplicate (sortEndpoints read) = true)
    (Status.invalid "cluster record contains a duplicate endpoint identity")
  let content ← digest
  let conflict ← boolean
  let hasConflictGeneration ← boolean
  let conflictGeneration ← decodeCounter Limits.maxGeneration
  let revision ← decodeCounter Limits.maxGeneration
  let provenance ← decodeProvenance
  let incarnationChanges ← decodeCounter Limits.maxGeneration
  return ⟨id, domain, ⟨incarnation⟩, ⟨generation⟩, ⟨policy⟩, state, withdrawn, ⟨lastSeen⟩,
    sortEndpoints read, content, conflict,
    if hasConflictGeneration then some ⟨conflictGeneration⟩ else none, ⟨revision⟩, provenance,
    incarnationChanges⟩

def decodeLink : ByteReader LinkRecord := do
  let id ← decodeName .edge Limits.maxNameLength
  let a ← decodeName .endpoint Limits.maxNameLength
  let b ← decodeName .endpoint Limits.maxNameLength
  let kind ← decodeEnum16 LinkKind.ofNat 3
  let state ← decodeEnum8 LinkState.ofNat 4
  let capacity ← decodeCounter Limits.maxCapacity
  let reserved ← decodeCounter Limits.maxCapacity
  let latency ← u32
  let revision ← decodeCounter Limits.maxGeneration
  let provenance ← decodeProvenance
  return ⟨id, a, b, kind, state, ⟨capacity⟩, ⟨reserved⟩, latency, ⟨revision⟩, provenance⟩

def decodePath : ByteReader PathRecord := do
  let id ← decodeName .path Limits.maxNameLength
  let a ← decodeName .endpoint Limits.maxNameLength
  let b ← decodeName .endpoint Limits.maxNameLength
  let hopCount ← count Limits.maxPathHops
  let hops ← readFold (decodeName .edge Limits.maxNameLength) pushBack hopCount []
  let bottleneck ← decodeCounter Limits.maxCapacity
  let state ← decodeEnum8 PathState.ofNat 3
  let revision ← decodeCounter Limits.maxGeneration
  let provenance ← decodeProvenance
  let unsupported ← boolean
  return ⟨id, a, b, hops, ⟨bottleneck⟩, state, ⟨revision⟩, provenance, unsupported⟩

/-- A match field may be empty: the rule then covers everything there. -/
def decodeOptionalName (tag : NameTag) (maxLength : ℕ) : ByteReader (Name tag) := do
  let text ← blob maxLength
  if text = [] then return .empty else liftM (Name.parse tag text)

def decodePolicy : ByteReader PolicyRule := do
  let id ← decodeText
  rejectIf (id = [] ∨ Limits.maxNameLength < id.length)
    (Status.invalid "policy rule identity has an invalid length")
  let owner ← decodeName .authorityDomain Limits.maxNameLength
  let clusterA ← decodeOptionalName .cluster Limits.maxNameLength
  let clusterB ← decodeOptionalName .cluster Limits.maxNameLength
  let endpointA ← decodeOptionalName .endpoint Limits.maxNameLength
  let endpointB ← decodeOptionalName .endpoint Limits.maxNameLength
  let generation ← decodeCounter Limits.maxGeneration
  let allow ← boolean
  let degraded ← boolean
  let maxCapacity ← decodeCounter Limits.maxCapacity
  let revision ← decodeCounter Limits.maxGeneration
  let provenance ← decodeProvenance
  return ⟨id, owner, clusterA, clusterB, endpointA, endpointB, ⟨generation⟩, allow, degraded,
    ⟨maxCapacity⟩, ⟨revision⟩, provenance⟩

def decodeParty : ByteReader PartyRef := do
  let cluster ← decodeName .cluster Limits.maxNameLength
  let endpoint ← decodeName .endpoint Limits.maxNameLength
  let domain ← decodeName .authorityDomain Limits.maxNameLength
  return ⟨cluster, endpoint, domain⟩

def decodeOptionalConsent : ByteReader (Option ConsentRecord) := do
  let present ← boolean
  if present then some <$> decodeConsent else return none

/-- Leases are between nothing and a year. -/
def leaseInRange (nanos : Int64) : Prop := 0 ≤ nanos ∧ nanos.toUInt64 ≤ Limits.maxDurationNanos

instance (nanos : Int64) : Decidable (leaseInRange nanos) :=
  inferInstanceAs (Decidable (0 ≤ nanos ∧ nanos.toUInt64 ≤ Limits.maxDurationNanos))

def decodeContract : ByteReader ContractRecord := do
  let id ← uuid
  let first ← decodeParty
  let second ← decodeParty
  rejectIf (first.cluster = second.cluster)
    (Status.invalid "a contract must join two distinct cluster identities")
  let capacity ← decodeCounter Limits.maxCapacity
  let lease ← i64
  rejectIf (¬leaseInRange lease) (Status.invalid "contract lease duration is out of range")
  let terms ← digest
  let state ← decodeEnum8 ContractState.ofNat 7
  let firstConsent ← decodeOptionalConsent
  let secondConsent ← decodeOptionalConsent
  let created ← i64
  let updated ← i64
  let revision ← decodeCounter Limits.maxGeneration
  let provenance ← decodeProvenance
  return ⟨⟨id⟩, ⟨first, second⟩, ⟨capacity⟩, ⟨lease⟩, terms, state, ⟨firstConsent, secondConsent⟩,
    ⟨created⟩, ⟨updated⟩, ⟨revision⟩, provenance⟩

def decodeGrant : ByteReader GrantRecord := do
  let id ← uuid
  let contract ← uuid
  let terms ← digest
  let term ← decodeCounter Limits.maxGeneration
  let coordinator ← uuid
  let attempt ← uuid
  let incarnation0 ← uuid
  let generation0 ← decodeCounter Limits.maxGeneration
  let policy0 ← decodeCounter Limits.maxGeneration
  let incarnation1 ← uuid
  let generation1 ← decodeCounter Limits.maxGeneration
  let policy1 ← decodeCounter Limits.maxGeneration
  let capacity ← decodeCounter Limits.maxCapacity
  let issued ← i64
  let validUntil ← i64
  let state ← decodeEnum8 GrantState.ofNat 8
  let acknowledged0 ← boolean
  let digest0 ← digest
  let acknowledged1 ← boolean
  let digest1 ← digest
  let attempts ← decodeCounter (Limits.maxRevalidateAttempts * 4096)
  let note ← decodeText
  let revision ← decodeCounter Limits.maxGeneration
  let provenance ← decodeProvenance
  return ⟨⟨id⟩, ⟨contract⟩, terms, ⟨term⟩, ⟨coordinator⟩, ⟨attempt⟩, ⟨⟨incarnation0⟩, ⟨incarnation1⟩⟩,
    ⟨⟨generation0⟩, ⟨generation1⟩⟩, ⟨⟨policy0⟩, ⟨policy1⟩⟩, ⟨capacity⟩, ⟨issued⟩, ⟨validUntil⟩, state,
    ⟨acknowledged0, acknowledged1⟩, ⟨digest0, digest1⟩, attempts, note, ⟨revision⟩, provenance⟩

def decodeReservation : ByteReader ReservationRecord := do
  let id ← uuid
  let grant ← uuid
  let endpoint ← decodeName .endpoint Limits.maxNameLength
  let cluster ← decodeName .cluster Limits.maxNameLength
  let amount ← decodeCounter Limits.maxCapacity
  let released ← boolean
  let created ← i64
  let releasedAt ← i64
  let revision ← decodeCounter Limits.maxGeneration
  let provenance ← decodeProvenance
  return ⟨⟨id⟩, ⟨grant⟩, endpoint, cluster, ⟨amount⟩, released, ⟨created⟩, ⟨releasedAt⟩, ⟨revision⟩,
    provenance⟩

def decodeAudit : ByteReader AuditRecord := do
  let sequence ← u64
  let recordedAt ← i64
  let actor ← decodeText
  let action ← decodeText
  let subject ← decodeText
  let outcome ← u16
  rejectIf (Outcome.internal.ctorIdx < outcome) (Status.invalid "audit outcome is out of range")
  let detail ← decodeText
  return ⟨⟨sequence⟩, ⟨recordedAt⟩, actor, action, subject, Outcome.ofNat outcome, detail⟩

end InterClusterFabric.ModelCanonical
