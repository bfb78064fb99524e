import InterClusterFabric.ModelCanonicalReads
import InterClusterFabric.ModelRegistry

/-! Persisted state mutations: what the log holds, and how recovery replays it. -/
namespace InterClusterFabric.StoreMutation
open CoreStatus CoreIds CoreTime CoreHash CoreBytes ModelRecords ModelCanonical ModelCanonicalReads
open ModelRegistry LibraryChecked LibraryReader

inductive MutationKind
  | invalid | clusterPut | clusterErase | linkPut | linkErase | pathPut | pathErase | policyPut
  | policyErase | contractPut | contractErase | grantPut | grantErase | reservationPut | auditAppend
  | metaSet
deriving DecidableEq, Repr, Inhabited

structure StoreMeta where
  term : Term := ⟨0⟩
  incarnation : IncarnationId := ⟨0⟩
  revision : Revision := ⟨0⟩
  sequence : Sequence := ⟨0⟩
  writtenAt : Timestamp := ⟨0⟩
  truncations : UInt64 := 0
  stateDigest : Digest := 0
deriving DecidableEq, Inhabited

/-- A mutation and the one record its kind uses. An erase carries a whole record, of which only the
identity matters. -/
inductive Mutation
  | invalid
  | clusterPut (cluster : ClusterRecord)
  | clusterErase (cluster : ClusterRecord)
  | linkPut (link : LinkRecord)
  | linkErase (link : LinkRecord)
  | pathPut (path : PathRecord)
  | pathErase (path : PathRecord)
  | policyPut (policy : PolicyRule)
  | policyErase (policy : PolicyRule)
  | contractPut (contract : ContractRecord)
  | contractErase (contract : ContractRecord)
  | grantPut (grant : GrantRecord)
  | grantErase (grant : GrantRecord)
  | reservationPut (reservation : ReservationRecord)
  | auditAppend (audit : AuditRecord)
  | metaSet (term : Term) (incarnation : IncarnationId)
deriving DecidableEq, Inhabited

namespace Mutation

def kind : Mutation → MutationKind
  | invalid => .invalid
  | clusterPut _ => .clusterPut
  | clusterErase _ => .clusterErase
  | linkPut _ => .linkPut
  | linkErase _ => .linkErase
  | pathPut _ => .pathPut
  | pathErase _ => .pathErase
  | policyPut _ => .policyPut
  | policyErase _ => .policyErase
  | contractPut _ => .contractPut
  | contractErase _ => .contractErase
  | grantPut _ => .grantPut
  | grantErase _ => .grantErase
  | reservationPut _ => .reservationPut
  | auditAppend _ => .auditAppend
  | metaSet _ _ => .metaSet

/-- The record behind the kind. -/
def body : Mutation → Bytes
  | invalid => []
  | clusterPut cluster | clusterErase cluster => encodeCluster cluster
  | linkPut link | linkErase link => encodeLink link
  | pathPut path | pathErase path => encodePath path
  | policyPut policy | policyErase policy => encodePolicy policy
  | contractPut contract | contractErase contract => encodeContract contract
  | grantPut grant | grantErase grant => encodeGrant grant
  | reservationPut reservation => encodeReservation reservation
  | auditAppend audit => encodeAudit audit
  | metaSet term incarnation => putU64 term.value ++ putUuid incarnation.uuid

end Mutation

def encodeMutation (mutation : Mutation) : Bytes := putU16 mutation.kind.ctorIdx ++ mutation.body

def unknownKind : Status := Status.invalid "mutation kind is not recognised"

/-- The record of a mutation whose kind has been read. -/
def decodeBody : MutationKind → ByteReader Mutation
  | .invalid => throw unknownKind
  | .clusterPut => Mutation.clusterPut <$> decodeCluster
  | .clusterErase => Mutation.clusterErase <$> decodeCluster
  | .linkPut => Mutation.linkPut <$> decodeLink
  | .linkErase => Mutation.linkErase <$> decodeLink
  | .pathPut => Mutation.pathPut <$> decodePath
  | .pathErase => Mutation.pathErase <$> decodePath
  | .policyPut => Mutation.policyPut <$> decodePolicy
  | .policyErase => Mutation.policyErase <$> decodePolicy
  | .contractPut => Mutation.contractPut <$> decodeContract
  | .contractErase => Mutation.contractErase <$> decodeContract
  | .grantPut => Mutation.grantPut <$> decodeGrant
  | .grantErase => Mutation.grantErase <$> decodeGrant
  | .reservationPut => Mutation.reservationPut <$> decodeReservation
  | .auditAppend => Mutation.auditAppend <$> decodeAudit
  | .metaSet => do
    let term ← u64
    rejectIf (Limits.maxGeneration < term)
      (Status.make .overflow (ascii "term exceeds the maximum supported value"))
    let incarnation ← uuid
    return .metaSet ⟨term⟩ ⟨incarnation⟩

def decodeMutation : ByteReader Mutation := do
  let raw ← u16
  rejectIf (MutationKind.metaSet.ctorIdx < raw) unknownKind
  decodeBody (MutationKind.ofNat raw)

/-- The checks before a mutation is applied. -/
def validateMutation (registry : Registry) : Mutation → Result Unit
  | .invalid => .error unknownKind
  | .clusterPut cluster => do
    rejectIf (cluster.id.isEmpty = true) (Status.invalid "cluster mutation requires an identity")
    rejectIf (cluster.id ∉ registry.clusters ∧ Limits.maxClusters ≤ registry.clusters.size)
      (Status.make .capacityExceeded (ascii "cluster registry is full"))
    rejectIf (Limits.maxEndpointsPerCluster < cluster.endpoints.length)
      (Status.make .capacityExceeded (ascii "cluster declares too many endpoints"))
  | .clusterErase cluster =>
    rejectIf (cluster.id.isEmpty = true) (Status.invalid "cluster erase requires an identity")
  | .linkPut link => do
    rejectIf (link.id.isEmpty = true ∨ link.a.isEmpty = true ∨ link.b.isEmpty = true)
      (Status.invalid "link mutation requires an identity and two endpoints")
    rejectIf (link.capacity < link.reserved)
      (Status.make .capacityExceeded (ascii "link reservations exceed declared capacity"))
  | .linkErase link => rejectIf (link.id.isEmpty = true) (Status.invalid "link erase requires an identity")
  | .pathPut path => do
    rejectIf (path.id.isEmpty = true ∨ path.hops = [])
      (Status.invalid "path mutation requires an identity and at least one hop")
    rejectIf (Limits.maxPathHops < path.hops.length)
      (Status.make .capacityExceeded (ascii "path declares too many hops"))
  | .pathErase path => rejectIf (path.id.isEmpty = true) (Status.invalid "path erase requires an identity")
  | .policyPut policy => rejectIf (policy.id = []) (Status.invalid "policy mutation requires an identity")
  | .policyErase policy => rejectIf (policy.id = []) (Status.invalid "policy erase requires an identity")
  | .contractPut contract =>
    rejectIf (contract.id.isNil = true) (Status.invalid "contract mutation requires an identity")
  | .contractErase contract =>
    rejectIf (contract.id.isNil = true) (Status.invalid "contract erase requires an identity")
  | .grantPut grant => do
    rejectIf (grant.id.isNil = true) (Status.invalid "grant mutation requires an identity")
    rejectIf (grant.contract ∉ registry.contracts)
      (Status.invalid "grant mutation references an unknown contract")
  | .grantErase grant =>
    rejectIf (grant.id.isNil = true) (Status.invalid "grant erase requires an identity")
  | .reservationPut reservation => do
    rejectIf (reservation.id.isNil = true) (Status.invalid "reservation mutation requires an identity")
    rejectIf (reservation.grant ∉ registry.grants)
      (Status.invalid "reservation mutation references an unknown grant")
  | .auditAppend _ => pure ()
  | .metaSet _ _ => pure ()

/-- The effect of a valid mutation. -/
def performMutation (registry : Registry) : Mutation → Result Registry
  | .invalid => .error unknownKind
  | .clusterPut cluster => registry.putCluster cluster
  | .clusterErase cluster => registry.eraseCluster cluster.id
  | .linkPut link => registry.putLink link
  | .linkErase link => registry.eraseLink link.id
  | .pathPut path => registry.putPath path
  | .pathErase path => registry.erasePath path.id
  | .policyPut policy => registry.putPolicy policy
  | .policyErase policy => registry.erasePolicy policy.id
  | .contractPut contract => registry.putContract contract
  | .contractErase contract => registry.eraseContract contract.id
  | .grantPut grant => registry.putGrant grant
  | .grantErase grant => registry.eraseGrant grant.id
  | .reservationPut reservation => registry.putReservation reservation
  | .auditAppend audit => registry.appendAudit audit
  | .metaSet _ _ => .ok registry

def applyMutation (registry : Registry) (mutation : Mutation) : Result Registry := do
  validateMutation registry mutation
  performMutation registry mutation

/-! The round trip. -/

namespace Mutation

/-- No text or list is as long as the range of its length prefix. -/
def WellSized : Mutation → Prop
  | clusterPut cluster | clusterErase cluster => cluster.endpoints.length < 2 ^ 32
  | pathPut path | pathErase path => path.hops.length < 2 ^ 32
  | policyPut policy | policyErase policy => Sized policy.id
  | contractPut contract | contractErase contract => ContractSized contract
  | grantPut grant | grantErase grant => Sized grant.note
  | auditAppend audit => AuditSized audit
  | _ => True

/-- The record is within the bounds of its own decoder. -/
def Loggable : Mutation → Prop
  | invalid => False
  | clusterPut cluster | clusterErase cluster =>
    ClusterStorable cluster ∧ hasAdjacentDuplicate (sortEndpoints cluster.endpoints) = false
  | linkPut link | linkErase link => LinkStorable link
  | pathPut path | pathErase path => PathStorable path
  | policyPut policy | policyErase policy => PolicyStorable policy
  | contractPut contract | contractErase contract => ContractStorable contract
  | grantPut grant | grantErase grant => GrantStorable grant
  | reservationPut reservation => ReservationStorable reservation
  | auditAppend audit => AuditStorable audit
  | metaSet term _ => term.value ≤ Limits.maxGeneration

/-- What the decoder makes of a loggable mutation: endpoint lists come back sorted. -/
def canonical : Mutation → Mutation
  | clusterPut cluster => clusterPut { cluster with endpoints := sortEndpoints cluster.endpoints }
  | clusterErase cluster => clusterErase { cluster with endpoints := sortEndpoints cluster.endpoints }
  | m => m

end Mutation

lemma body_reads {m : Mutation} (h : m.WellSized) :
    Reads (decodeBody m.kind) m.body m.Loggable m.canonical := by
  cases m with
  | invalid => exact Reads.throw _ _ _
  | clusterPut r => exact (cluster_reads_sorted h).map _
  | clusterErase r => exact (cluster_reads_sorted h).map _
  | linkPut r => exact (link_reads r).map _
  | linkErase r => exact (link_reads r).map _
  | pathPut r => exact (path_reads h).map _
  | pathErase r => exact (path_reads h).map _
  | policyPut r => exact (policy_reads h).map _
  | policyErase r => exact (policy_reads h).map _
  | contractPut r => exact (contract_reads h).map _
  | contractErase r => exact (contract_reads h).map _
  | grantPut r => exact (grant_reads h).map _
  | grantErase r => exact (grant_reads h).map _
  | reservationPut r => exact (reservation_reads r).map _
  | auditAppend r => exact (audit_reads h).map _
  | metaSet term incarnation =>
    refine Reads.cast ((u64_reads term.value).bind ((Reads.check _ _).bind
      ((uuid_reads incarnation.uuid).bind (Reads.pure _)))) ?_ ?_
    · simp [Mutation.body]
    · simp [Mutation.Loggable]

lemma kind_ctorIdx_le (kind : MutationKind) : kind.ctorIdx ≤ MutationKind.metaSet.ctorIdx := by
  cases kind <;> decide

/-- The decoder gives a loggable mutation back and fails on any other. -/
lemma mutation_reads {m : Mutation} (h : m.WellSized) :
    Reads decodeMutation (encodeMutation m) m.Loggable m.canonical := by
  have hkind := kind_ctorIdx_le m.kind
  have hread : Reads decodeMutation (putU16 m.kind.ctorIdx ++ ([] ++ m.body))
      (True ∧ ¬MutationKind.metaSet.ctorIdx < m.kind.ctorIdx ∧ m.Loggable) m.canonical := by
    refine (u16_reads (hkind.trans_lt (by decide))).bind ((Reads.check _ _).bind ?_)
    rw [MutationKind.ofNat_ctorIdx]
    exact body_reads h
  refine hread.cast (by simp [encodeMutation]) ?_
  simp only [not_lt, hkind, true_and]

/-- What is read has the kind that was read before it. -/
lemma body_yields (kind : MutationKind) : Yields (decodeBody kind) fun m => m.kind = kind := by
  cases kind with
  | invalid => exact fun _ _ _ h => by cases h
  | metaSet => exact Yields.skip fun _ => Yields.skip fun _ => Yields.skip fun _ => Yields.pure rfl
  | _ => exact Yields.map (P := fun _ => True) (Yields.any _) fun _ _ => rfl

/-- Whatever is made of an encoded mutation is of its kind. -/
lemma decodeMutation_kind {m m' : Mutation} {rest bytes : Bytes}
    (h : decodeMutation.run (encodeMutation m ++ bytes) = .ok (m', rest)) : m'.kind = m.kind := by
  have hkind := kind_ctorIdx_le m.kind
  have hread : u16.run (putU16 m.kind.ctorIdx ++ (m.body ++ bytes)) = .ok (m.kind.ctorIdx, m.body ++ bytes) :=
    (u16_reads (hkind.trans_lt (by decide))).accept trivial _
  have hrun : decodeMutation.run (encodeMutation m ++ bytes) = u16.run (encodeMutation m ++ bytes) >>= fun x =>
      (do rejectIf (MutationKind.metaSet.ctorIdx < x.1) unknownKind
          decodeBody (MutationKind.ofNat x.1) : ByteReader Mutation).run x.2 := rfl
  rw [hrun, encodeMutation, List.append_assoc, hread] at h
  have hchecked : Yields (do
      rejectIf (MutationKind.metaSet.ctorIdx < m.kind.ctorIdx) unknownKind
      decodeBody (MutationKind.ofNat m.kind.ctorIdx) : ByteReader Mutation) fun m' => m'.kind = m.kind := by
    rw [MutationKind.ofNat_ctorIdx]
    exact Yields.skip fun _ => body_yields m.kind
  exact hchecked _ _ _ h

lemma canonical_kind (m : Mutation) : m.canonical.kind = m.kind := by cases m <;> rfl

lemma applyMutation_canonical (registry : Registry) (m : Mutation) :
    applyMutation registry m.canonical = applyMutation registry m := by
  cases m with
  | clusterPut r =>
    simp only [Mutation.canonical, applyMutation, validateMutation, performMutation, Registry.putCluster,
      sortEndpoints_idem, sortEndpoints_length]
  | _ => rfl

end InterClusterFabric.StoreMutation
