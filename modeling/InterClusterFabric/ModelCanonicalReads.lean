import InterClusterFabric.ModelCanonical

/-! When a record survives its own encoding. Each record has one lemma: its decoder, run on its
encoding, returns the record if the record is `Storable` and fails if it is not. -/
namespace InterClusterFabric.ModelCanonicalReads
open CoreStatus CoreIds CoreTime CoreHash CoreBytes LibraryReader ModelRecords ModelCanonical

/-- A text the decoder takes: bounded and well-formed UTF-8. -/
def TextOk (text : Bytes) : Prop :=
  text.length ≤ Limits.maxStringField ∧ isValidUtf8 text = true

/-- No text is as long as the range of its length prefix. -/
def Sized (text : Bytes) : Prop := text.length < 2 ^ 32

lemma TextOk.sized {text : Bytes} (h : TextOk text) : Sized text :=
  lt_of_le_of_lt h.1 (by decide)

lemma text_reads {text : Bytes} (h : Sized text) : Reads decodeText (putBlob text) (TextOk text) text :=
  blob_reads Limits.maxStringField h

def ProvenanceStorable (p : Provenance) : Prop := p.revision.value ≤ Limits.maxGeneration

lemma provenance_reads (p : Provenance) :
    Reads decodeProvenance (encodeProvenance p) (ProvenanceStorable p) p := by
  refine Reads.cast
    ((enum8_reads (EvidenceSource.ofNat_ctorIdx _) (by cases p.source <;> decide)
      (by cases p.source <;> decide)).bind <|
    (enum8_reads (VerificationState.ofNat_ctorIdx _) (by cases p.verification <;> decide)
      (by cases p.verification <;> decide)).bind <|
    (i64_reads _).bind <| (counter_reads _ _).bind <| (uuid_reads _).bind <|
    (digest_reads _).bind <| Reads.pure _) ?_ ?_
  · rfl
  · simp only [ProvenanceStorable, true_and, and_true]

def EndpointStorable (r : EndpointRecord) : Prop :=
  r.id.value ≠ [] ∧ r.cluster.value ≠ [] ∧ r.scope.value ≠ [] ∧
    r.capacity.value ≤ Limits.maxCapacity ∧ r.reserved.value ≤ Limits.maxCapacity ∧
    r.policyGeneration.value ≤ Limits.maxGeneration ∧ ProvenanceStorable r.provenance

lemma endpoint_reads (r : EndpointRecord) :
    Reads decodeEndpoint (encodeEndpoint r) (EndpointStorable r) r := by
  refine Reads.cast
    ((name_reads r.id le_rfl).bind <| (name_reads r.cluster le_rfl).bind <|
    (name_reads r.scope le_rfl).bind <| (counter_reads _ _).bind <| (counter_reads _ _).bind <|
    (counter_reads _ _).bind <|
    (enum8_reads (EndpointState.ofNat_ctorIdx _) (by cases r.state <;> decide)
      (by cases r.state <;> decide)).bind <|
    (boolean_reads _).bind <| (boolean_reads _).bind <| (provenance_reads _).bind <|
    Reads.pure _) ?_ ?_
  · rfl
  · simp only [EndpointStorable, true_and, and_true]

def ConsentStorable (r : ConsentRecord) : Prop :=
  r.cluster.value ≠ [] ∧ r.endpoint.value ≠ [] ∧ r.generation.value ≤ Limits.maxGeneration ∧
    r.policyGeneration.value ≤ Limits.maxGeneration ∧ r.agentTerm.value ≤ Limits.maxGeneration ∧
    TextOk r.reason

lemma consent_reads {r : ConsentRecord} (h : Sized r.reason) :
    Reads decodeConsent (encodeConsent r) (ConsentStorable r) r := by
  refine Reads.cast
    ((name_reads r.cluster le_rfl).bind <| (name_reads r.endpoint le_rfl).bind <|
    (uuid_reads _).bind <| (counter_reads _ _).bind <| (counter_reads _ _).bind <|
    (counter_reads _ _).bind <| (digest_reads _).bind <|
    (enum8_reads (ConsentDecision.ofNat_ctorIdx _) (by cases r.decision <;> decide)
      (by cases r.decision <;> decide)).bind <|
    (i64_reads _).bind <| (uuid_reads _).bind <|
    (enum8_reads (TransportAuthenticity.ofNat_ctorIdx _) (by cases r.authenticity <;> decide)
      (by cases r.authenticity <;> decide)).bind <|
    (text_reads h).bind <| Reads.pure _) ?_ ?_
  · rfl
  · simp only [ConsentStorable, true_and, and_true]

/-! Endpoint lists. -/

/-- Strictly ordered by identity, hence without duplicates. -/
def EndpointsOrdered (endpoints : List EndpointRecord) : Prop :=
  endpoints.Pairwise fun a b => compare a.id b.id = .lt

lemma sortEndpoints_of_ordered {endpoints : List EndpointRecord} (h : EndpointsOrdered endpoints) :
    sortEndpoints endpoints = endpoints := by
  refine List.Pairwise.insertionSort_eq (h.imp fun {a b} hab => ?_)
  simp [endpointLe, hab]

lemma hasAdjacentDuplicate_of_ordered {endpoints : List EndpointRecord}
    (h : EndpointsOrdered endpoints) : hasAdjacentDuplicate endpoints = false := by
  induction endpoints with
  | nil => rfl
  | cons a rest ih =>
    obtain ⟨hhead, htail⟩ := List.pairwise_cons.mp h
    cases rest with
    | nil => rfl
    | cons b rest =>
      have hne : a.id ≠ b.id := by
        intro heq
        have hlt := hhead b (by simp)
        rw [heq, Std.ReflOrd.compare_self] at hlt
        cases hlt
      simp [hasAdjacentDuplicate, hne, ih htail]

instance : IsTrans EndpointRecord endpointLe where
  trans _ _ _ hab hbc := Ordering.isLE_iff_ne_gt.mp (Std.TransCmp.isLE_trans
    (Ordering.isLE_iff_ne_gt.mpr hab) (Ordering.isLE_iff_ne_gt.mpr hbc))

instance : Std.Total endpointLe where
  total a b := by
    unfold endpointLe
    rw [show compare b.id a.id = (compare a.id b.id).swap from Std.OrientedCmp.eq_swap]
    cases compare a.id b.id <;> simp

lemma sortEndpoints_pairwise (endpoints : List EndpointRecord) :
    (sortEndpoints endpoints).Pairwise endpointLe :=
  List.pairwise_insertionSort _ _

lemma sortEndpoints_idem (endpoints : List EndpointRecord) :
    sortEndpoints (sortEndpoints endpoints) = sortEndpoints endpoints :=
  List.Pairwise.insertionSort_eq (sortEndpoints_pairwise endpoints)

@[simp] lemma sortEndpoints_length (endpoints : List EndpointRecord) :
    (sortEndpoints endpoints).length = endpoints.length :=
  List.length_insertionSort _ _

/-- A sorted list without equal neighbours is strictly ordered. -/
lemma ordered_of_sorted {endpoints : List EndpointRecord} (hsorted : endpoints.Pairwise endpointLe)
    (hdup : hasAdjacentDuplicate endpoints = false) : EndpointsOrdered endpoints := by
  induction endpoints with
  | nil => exact List.Pairwise.nil
  | cons a rest ih =>
    obtain ⟨hhead, htail⟩ := List.pairwise_cons.mp hsorted
    cases rest with
    | nil => simp [EndpointsOrdered]
    | cons b rest =>
      simp only [hasAdjacentDuplicate, Bool.or_eq_false_iff, beq_eq_false_iff_ne] at hdup
      have hrest := ih htail hdup.2
      have hab : compare a.id b.id = .lt := by
        have hle := hhead b (by simp)
        cases hcmp : compare a.id b.id with
        | lt => rfl
        | eq => exact absurd (Std.LawfulEqOrd.eq_of_compare hcmp) hdup.1
        | gt => exact absurd hcmp hle
      refine List.pairwise_cons.mpr ⟨fun c hc => ?_, hrest⟩
      rcases List.mem_cons.mp hc with rfl | hc
      · exact hab
      · exact Std.TransCmp.lt_trans hab ((List.pairwise_cons.mp hrest).1 c hc)

lemma putAll_pushBack {α : Type} (acc xs : List α) : putAll pushBack acc xs = .ok (acc ++ xs) := by
  induction xs generalizing acc with
  | nil => simp
  | cons x xs ih => rw [putAll_cons_ok rfl, ih, List.append_assoc, List.singleton_append]

def ClusterStorable (r : ClusterRecord) : Prop :=
  r.id.value ≠ [] ∧ r.domain.value ≠ [] ∧ r.generation.value ≤ Limits.maxGeneration ∧
    r.policyGeneration.value ≤ Limits.maxGeneration ∧
    r.endpoints.length ≤ Limits.maxEndpointsPerCluster ∧
    (∀ endpoint ∈ r.endpoints, EndpointStorable endpoint) ∧
    (r.conflictingGeneration.getD ⟨0⟩).value ≤ Limits.maxGeneration ∧
    r.revision.value ≤ Limits.maxGeneration ∧ ProvenanceStorable r.provenance ∧
    r.incarnationChanges ≤ Limits.maxGeneration

/-- The decoder sorts the endpoints; it refuses two of one identity. -/
lemma cluster_reads_sorted {r : ClusterRecord} (hsize : r.endpoints.length < 2 ^ 32) :
    Reads decodeCluster (encodeCluster r)
      (ClusterStorable r ∧ hasAdjacentDuplicate (sortEndpoints r.endpoints) = false)
      { r with endpoints := sortEndpoints r.endpoints } := by
  have hread : Reads decodeCluster (encodeCluster r)
      (ClusterStorable r ∧ hasAdjacentDuplicate (sortEndpoints r.endpoints) = false)
      { r with
        endpoints := sortEndpoints r.endpoints
        conflictingGeneration := if r.conflictingGeneration.isSome = true then
          some ⟨(r.conflictingGeneration.getD ⟨0⟩).value⟩ else none } := by
    refine Reads.cast
      ((name_reads r.id le_rfl).bind <| (name_reads r.domain le_rfl).bind <|
      (uuid_reads _).bind <| (counter_reads _ _).bind <| (counter_reads _ _).bind <|
      (enum8_reads (ClusterState.ofNat_ctorIdx _) (by cases r.state <;> decide)
        (by cases r.state <;> decide)).bind <|
      (boolean_reads _).bind <| (i64_reads _).bind <| (count_reads _ hsize).bind <|
      (readFold_reads r.endpoints [] r.endpoints (fun e _ => endpoint_reads e)
        (putAll_pushBack _ _)).bind <|
      (Reads.check _ _).bind <| (digest_reads _).bind <| (boolean_reads _).bind <|
      (boolean_reads _).bind <| (counter_reads _ _).bind <| (counter_reads _ _).bind <|
      (provenance_reads _).bind <| (counter_reads _ _).bind <| Reads.pure _) ?_ ?_
    · rfl
    · simp only [ClusterStorable, true_and, and_true, Bool.not_eq_true]
      constructor
      · rintro ⟨h1, h2, h3, h4, h5, h6, h7, h8, h9, h10, h11⟩
        exact ⟨⟨h1, h2, h3, h4, h5, h6, h8, h9, h10, h11⟩, h7⟩
      · rintro ⟨⟨h1, h2, h3, h4, h5, h6, h8, h9, h10, h11⟩, h7⟩
        exact ⟨h1, h2, h3, h4, h5, h6, h7, h8, h9, h10, h11⟩
  obtain ⟨id, domain, incarnation, generation, policy, state, withdrawn, lastSeen, endpoints,
    content, conflict, conflicting, revision, provenance, changes⟩ := r
  cases conflicting <;> exact hread

lemma cluster_reads {r : ClusterRecord} (hordered : EndpointsOrdered r.endpoints)
    (hsize : r.endpoints.length < 2 ^ 32) :
    Reads decodeCluster (encodeCluster r) (ClusterStorable r) r := by
  have hread := cluster_reads_sorted hsize
  rw [sortEndpoints_of_ordered hordered, hasAdjacentDuplicate_of_ordered hordered] at hread
  exact hread.congr (and_iff_left rfl)

def LinkStorable (r : LinkRecord) : Prop :=
  r.id.value ≠ [] ∧ r.a.value ≠ [] ∧ r.b.value ≠ [] ∧ r.capacity.value ≤ Limits.maxCapacity ∧
    r.reserved.value ≤ Limits.maxCapacity ∧ r.revision.value ≤ Limits.maxGeneration ∧
    ProvenanceStorable r.provenance

lemma link_reads (r : LinkRecord) : Reads decodeLink (encodeLink r) (LinkStorable r) r := by
  refine Reads.cast
    ((name_reads r.id le_rfl).bind <| (name_reads r.a le_rfl).bind <|
    (name_reads r.b le_rfl).bind <|
    (enum16_reads (LinkKind.ofNat_ctorIdx _) (by cases r.kind <;> decide)
      (by cases r.kind <;> decide)).bind <|
    (enum8_reads (LinkState.ofNat_ctorIdx _) (by cases r.state <;> decide)
      (by cases r.state <;> decide)).bind <|
    (counter_reads _ _).bind <| (counter_reads _ _).bind <| (u32_reads _).bind <|
    (counter_reads _ _).bind <| (provenance_reads _).bind <| Reads.pure _) ?_ ?_
  · rfl
  · simp only [LinkStorable, true_and, and_true]

def PathStorable (r : PathRecord) : Prop :=
  r.id.value ≠ [] ∧ r.a.value ≠ [] ∧ r.b.value ≠ [] ∧ r.hops.length ≤ Limits.maxPathHops ∧
    (∀ hop ∈ r.hops, hop.value ≠ []) ∧ r.bottleneck.value ≤ Limits.maxCapacity ∧
    r.revision.value ≤ Limits.maxGeneration ∧ ProvenanceStorable r.provenance

lemma path_reads {r : PathRecord} (hsize : r.hops.length < 2 ^ 32) :
    Reads decodePath (encodePath r) (PathStorable r) r := by
  refine Reads.cast
    ((name_reads r.id le_rfl).bind <| (name_reads r.a le_rfl).bind <|
    (name_reads r.b le_rfl).bind <| (count_reads _ hsize).bind <|
    (readFold_reads r.hops [] r.hops (fun hop _ => name_reads hop le_rfl) (putAll_pushBack _ _)).bind <|
    (counter_reads _ _).bind <|
    (enum8_reads (PathState.ofNat_ctorIdx _) (by cases r.state <;> decide)
      (by cases r.state <;> decide)).bind <|
    (counter_reads _ _).bind <| (provenance_reads _).bind <| (boolean_reads _).bind <|
    Reads.pure _) ?_ ?_
  · rfl
  · simp only [PathStorable, true_and, and_true]

lemma optionalName_reads {tag : NameTag} (name : Name tag) {maxLength : ℕ}
    (hmax : tag.maxLength ≤ maxLength) :
    Reads (decodeOptionalName tag maxLength) (putBlob name.value) True name := by
  have hlen : name.value.length ≤ maxLength := (name_length name).trans hmax
  have hsize : name.value.length < 2 ^ 32 := by
    have := name_length name
    have : tag.maxLength ≤ 192 := by cases tag <;> decide
    omega
  have hparse : Reads (if name.value = [] then pure .empty
      else liftM (Name.parse tag name.value) : ByteReader (Name tag)) [] True name := by
    by_cases h : name.value = []
    · have hname : name = .empty := Name.ext h
      simpa only [if_pos h, ← hname] using Reads.pure name
    · rw [if_neg h]
      refine Reads.lift (fun _ => ?_) (fun h' => absurd trivial h')
      rw [Name.parse, dif_pos (name.accepted.resolve_left h)]
  refine Reads.cast ((blob_reads maxLength hsize).bind hparse) (by simp) ?_
  simp [hlen, isValidUtf8_of_isAscii (name_isAscii name)]

def PolicyStorable (r : PolicyRule) : Prop :=
  TextOk r.id ∧ r.id ≠ [] ∧ r.id.length ≤ Limits.maxNameLength ∧ r.owner.value ≠ [] ∧
    r.generation.value ≤ Limits.maxGeneration ∧ r.maxCapacity.value ≤ Limits.maxCapacity ∧
    r.revision.value ≤ Limits.maxGeneration ∧ ProvenanceStorable r.provenance

lemma policy_reads {r : PolicyRule} (h : Sized r.id) :
    Reads decodePolicy (encodePolicy r) (PolicyStorable r) r := by
  refine Reads.cast
    ((text_reads h).bind <| (Reads.check _ _).bind <| (name_reads r.owner le_rfl).bind <|
    (optionalName_reads r.clusterA le_rfl).bind <| (optionalName_reads r.clusterB le_rfl).bind <|
    (optionalName_reads r.endpointA le_rfl).bind <| (optionalName_reads r.endpointB le_rfl).bind <|
    (counter_reads _ _).bind <| (boolean_reads _).bind <| (boolean_reads _).bind <|
    (counter_reads _ _).bind <| (counter_reads _ _).bind <| (provenance_reads _).bind <|
    Reads.pure _) ?_ ?_
  · rfl
  · simp only [PolicyStorable, true_and, and_true, not_or, not_lt, and_assoc, ne_eq]

def PartyStorable (r : PartyRef) : Prop :=
  r.cluster.value ≠ [] ∧ r.endpoint.value ≠ [] ∧ r.domain.value ≠ []

lemma party_reads (r : PartyRef) : Reads decodeParty (encodeParty r) (PartyStorable r) r := by
  refine Reads.cast
    ((name_reads r.cluster le_rfl).bind <| (name_reads r.endpoint le_rfl).bind <|
    (name_reads r.domain le_rfl).bind <| Reads.pure _) ?_ ?_
  · rfl
  · simp only [PartyStorable, and_true]

def OptionalConsentStorable (consent : Option ConsentRecord) : Prop :=
  ∀ r ∈ consent, ConsentStorable r

lemma optionalConsent_reads {consent : Option ConsentRecord} (h : ∀ r ∈ consent, Sized r.reason) :
    Reads decodeOptionalConsent (encodeOptionalConsent consent) (OptionalConsentStorable consent)
      consent := by
  cases consent with
  | none =>
    exact Reads.cast ((boolean_reads false).bind (Reads.pure none))
      (by simp [encodeOptionalConsent]) (by simp [OptionalConsentStorable])
  | some r =>
    exact Reads.cast ((boolean_reads true).bind ((consent_reads (h r rfl)).map some)) rfl
      (by simp [OptionalConsentStorable])

def ContractSized (r : ContractRecord) : Prop :=
  (∀ c ∈ r.consents.first, Sized c.reason) ∧ ∀ c ∈ r.consents.second, Sized c.reason

def ContractStorable (r : ContractRecord) : Prop :=
  PartyStorable r.parties.first ∧ PartyStorable r.parties.second ∧
    r.parties.first.cluster ≠ r.parties.second.cluster ∧ r.capacity.value ≤ Limits.maxCapacity ∧
    leaseInRange r.leaseDuration.nanos ∧ OptionalConsentStorable r.consents.first ∧
    OptionalConsentStorable r.consents.second ∧ r.revision.value ≤ Limits.maxGeneration ∧
    ProvenanceStorable r.provenance

lemma contract_reads {r : ContractRecord} (h : ContractSized r) :
    Reads decodeContract (encodeContract r) (ContractStorable r) r := by
  refine Reads.cast
    ((uuid_reads _).bind <| (party_reads r.parties.first).bind <|
    (party_reads r.parties.second).bind <| (Reads.check _ _).bind <| (counter_reads _ _).bind <|
    (i64_reads _).bind <| (Reads.check _ _).bind <| (digest_reads _).bind <|
    (enum8_reads (ContractState.ofNat_ctorIdx _) (by cases r.state <;> decide)
      (by cases r.state <;> decide)).bind <|
    (optionalConsent_reads h.1).bind <| (optionalConsent_reads h.2).bind <|
    (i64_reads _).bind <| (i64_reads _).bind <| (counter_reads _ _).bind <|
    (provenance_reads _).bind <| Reads.pure _) ?_ ?_
  · rfl
  · simp only [ContractStorable, true_and, and_true, not_not, ne_eq]

def GrantStorable (r : GrantRecord) : Prop :=
  r.coordinatorTerm.value ≤ Limits.maxGeneration ∧
    r.generations.first.value ≤ Limits.maxGeneration ∧ r.policies.first.value ≤ Limits.maxGeneration ∧
    r.generations.second.value ≤ Limits.maxGeneration ∧ r.policies.second.value ≤ Limits.maxGeneration ∧
    r.capacity.value ≤ Limits.maxCapacity ∧
    r.revalidateAttempts ≤ Limits.maxRevalidateAttempts * 4096 ∧ TextOk r.note ∧
    r.revision.value ≤ Limits.maxGeneration ∧ ProvenanceStorable r.provenance

lemma grant_reads {r : GrantRecord} (h : Sized r.note) :
    Reads decodeGrant (encodeGrant r) (GrantStorable r) r := by
  refine Reads.cast
    ((uuid_reads _).bind <| (uuid_reads _).bind <| (digest_reads _).bind <| (counter_reads _ _).bind <|
    (uuid_reads _).bind <| (uuid_reads _).bind <| (uuid_reads _).bind <| (counter_reads _ _).bind <|
    (counter_reads _ _).bind <| (uuid_reads _).bind <| (counter_reads _ _).bind <|
    (counter_reads _ _).bind <| (counter_reads _ _).bind <| (i64_reads _).bind <| (i64_reads _).bind <|
    (enum8_reads (GrantState.ofNat_ctorIdx _) (by cases r.state <;> decide)
      (by cases r.state <;> decide)).bind <|
    (boolean_reads _).bind <| (digest_reads _).bind <| (boolean_reads _).bind <|
    (digest_reads _).bind <| (counter_reads _ _).bind <| (text_reads h).bind <|
    (counter_reads _ _).bind <| (provenance_reads _).bind <| Reads.pure _) ?_ ?_
  · rfl
  · simp only [GrantStorable, true_and, and_true]

def ReservationStorable (r : ReservationRecord) : Prop :=
  r.endpoint.value ≠ [] ∧ r.cluster.value ≠ [] ∧ r.amount.value ≤ Limits.maxCapacity ∧
    r.revision.value ≤ Limits.maxGeneration ∧ ProvenanceStorable r.provenance

lemma reservation_reads (r : ReservationRecord) :
    Reads decodeReservation (encodeReservation r) (ReservationStorable r) r := by
  refine Reads.cast
    ((uuid_reads _).bind <| (uuid_reads _).bind <| (name_reads r.endpoint le_rfl).bind <|
    (name_reads r.cluster le_rfl).bind <| (counter_reads _ _).bind <| (boolean_reads _).bind <|
    (i64_reads _).bind <| (i64_reads _).bind <| (counter_reads _ _).bind <|
    (provenance_reads _).bind <| Reads.pure _) ?_ ?_
  · rfl
  · simp only [ReservationStorable, true_and, and_true]

def AuditSized (r : AuditRecord) : Prop :=
  Sized r.actor ∧ Sized r.action ∧ Sized r.subject ∧ Sized r.detail

def AuditStorable (r : AuditRecord) : Prop :=
  TextOk r.actor ∧ TextOk r.action ∧ TextOk r.subject ∧ TextOk r.detail

lemma outcome_ctorIdx_le (outcome : Outcome) : outcome.ctorIdx ≤ Outcome.internal.ctorIdx := by
  cases outcome <;> decide

lemma audit_reads {r : AuditRecord} (h : AuditSized r) :
    Reads decodeAudit (encodeAudit r) (AuditStorable r) r := by
  have hread : Reads decodeAudit (encodeAudit r) (AuditStorable r)
      { r with outcome := Outcome.ofNat r.outcome.ctorIdx } := by
    refine Reads.cast
      ((u64_reads _).bind <| (i64_reads _).bind <| (text_reads h.1).bind <| (text_reads h.2.1).bind <|
      (text_reads h.2.2.1).bind <|
      (u16_reads ((outcome_ctorIdx_le r.outcome).trans_lt (by decide))).bind <|
      (Reads.check _ _).bind <| (text_reads h.2.2.2).bind <| Reads.pure _) ?_ ?_
    · rfl
    · simp only [AuditStorable, true_and, and_true, not_lt, outcome_ctorIdx_le]
  rwa [Outcome.ofNat_ctorIdx] at hread

end InterClusterFabric.ModelCanonicalReads
