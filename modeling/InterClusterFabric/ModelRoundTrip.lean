import InterClusterFabric.ModelRegistryLaws

/-! A registry that was built record by record and whose fields are within the bounds of the decoders is
given back by its own encoding, so no two such registries share one. -/
namespace InterClusterFabric.ModelRoundTrip
open CoreStatus CoreIds CoreBytes ModelRecords ModelRegistry ModelCanonical ModelCanonicalReads ModelRegistryLaws
open LibraryChecked LibraryReader LibraryOrdMap

/-- The registries that `put_*` and `append_audit` lead to. -/
inductive Built : Registry → Prop
  | empty : Built {}
  | cluster {registry next : Registry} {record : ClusterRecord} (h : Built registry)
      (hput : registry.putCluster record = .ok next) : Built next
  | link {registry next : Registry} {record : LinkRecord} (h : Built registry)
      (hput : registry.putLink record = .ok next) : Built next
  | path {registry next : Registry} {record : PathRecord} (h : Built registry)
      (hput : registry.putPath record = .ok next) : Built next
  | policy {registry next : Registry} {rule : PolicyRule} (h : Built registry)
      (hput : registry.putPolicy rule = .ok next) : Built next
  | contract {registry next : Registry} {record : ContractRecord} (h : Built registry)
      (hput : registry.putContract record = .ok next) : Built next
  | grant {registry next : Registry} {record : GrantRecord} (h : Built registry)
      (hput : registry.putGrant record = .ok next) : Built next
  | reservation {registry next : Registry} {record : ReservationRecord} (h : Built registry)
      (hput : registry.putReservation record = .ok next) : Built next
  | audit {registry next : Registry} {record : AuditRecord} (h : Built registry)
      (happend : registry.appendAudit record = .ok next) : Built next

lemma Built.wellFormed {registry : Registry} (h : Built registry) : WellFormed registry := by
  induction h with
  | empty => exact empty_wellFormed
  | cluster _ hput ih => exact putCluster_wellFormed ih hput
  | link _ hput ih =>
    obtain ⟨hsound, hroom, rfl⟩ := putLink_eq_ok.mp hput
    exact store_wellFormed ih hsound hroom
  | path _ hput ih =>
    obtain ⟨hsound, hroom, rfl⟩ := putPath_eq_ok.mp hput
    exact store_wellFormed ih hsound hroom
  | policy _ hput ih =>
    obtain ⟨hsound, hroom, rfl⟩ := putPolicy_eq_ok.mp hput
    exact store_wellFormed ih hsound hroom
  | contract _ hput ih =>
    obtain ⟨hsound, hroom, rfl⟩ := putContract_eq_ok.mp hput
    exact store_wellFormed ih hsound hroom
  | grant _ hput ih =>
    obtain ⟨hsound, hroom, rfl⟩ := putGrant_eq_ok.mp hput
    exact store_wellFormed ih hsound hroom
  | reservation _ hput ih =>
    obtain ⟨hsound, hroom, rfl⟩ := putReservation_eq_ok.mp hput
    exact store_wellFormed ih hsound hroom
  | audit _ happend ih => exact appendAudit_wellFormed ih happend

/-- A text that its decoder takes is far shorter than what its length prefix can say. -/
lemma sized_of_storable {registry : Registry} (h : RegistryStorable registry) : RegistrySized registry := by
  constructor
  · intro key record hfind
    have hstorable := h.records key record hfind
    cases record with
    | contract r =>
      obtain ⟨-, -, -, -, -, hfirst, hsecond, -, -⟩ := hstorable
      exact ⟨fun c hc => (hfirst c hc).2.2.2.2.2.sized, fun c hc => (hsecond c hc).2.2.2.2.2.sized⟩
    | grant r =>
      obtain ⟨-, -, -, -, -, -, -, hnote, -, -⟩ := hstorable
      exact hnote.sized
    | _ => trivial
  · intro record hrecord
    obtain ⟨hactor, haction, hsubject, hdetail⟩ := h.audit record hrecord
    exact ⟨hactor.sized, haction.sized, hsubject.sized, hdetail.sized⟩

lemma decodeRegistry_of_storable {registry : Registry} (hformed : WellFormed registry)
    (hstorable : RegistryStorable registry) : decodeRegistry.run (encodeRegistry registry true) = .ok (registry, []) := by
  have hread := sections_read hformed (sized_of_storable hstorable)
  have hrun : decodeRegistry.run (encodeRegistry registry true) =
      decodeSections.run (encodeRegistry registry true) >>= fun x =>
        (do expectEnd; return x.1 : ByteReader Registry).run x.2 := rfl
  rw [hrun, hread.run_eq hstorable]
  rfl

/-- Decoding the encoding of a registry, audit trail included, gives the registry back, and two registries
with one encoding are the same. -/
theorem registry_round_trip (registry : Registry) (hbuilt : Built registry) (hstorable : RegistryStorable registry) :
    decodeRegistry.run (encodeRegistry registry true) = .ok (registry, []) ∧
      ∀ other, Built other → RegistryStorable other →
        encodeRegistry other true = encodeRegistry registry true → other = registry := by
  have hdecode := decodeRegistry_of_storable hbuilt.wellFormed hstorable
  refine ⟨hdecode, fun other hother hstorable' hsame => ?_⟩
  have hdecode' := decodeRegistry_of_storable hother.wellFormed hstorable'
  rw [hsame, hdecode] at hdecode'
  cases hdecode'
  rfl

/-! A cluster with an endpoint, a grant, and the record of an audit. -/

lemma alphaEp_accepted : nameAccepted .endpoint (ascii "alpha-ep") = true := by decide

lemma alpha_accepted : nameAccepted .cluster (ascii "alpha") = true := by decide

lemma domainA_accepted : nameAccepted .authorityDomain (ascii "domain-a") = true := by decide

def smallEndpoint : EndpointRecord where
  id := .ofAccepted (ascii "alpha-ep") alphaEp_accepted
  cluster := .ofAccepted (ascii "alpha") alpha_accepted
  scope := ⟨ascii "/svc", .inr (by decide)⟩
  capacity := ⟨10⟩
  reserved := ⟨4⟩

def smallCluster : ClusterRecord where
  id := .ofAccepted (ascii "alpha") alpha_accepted
  domain := .ofAccepted (ascii "domain-a") domainA_accepted
  generation := ⟨3⟩
  endpoints := [smallEndpoint]
  conflictingGeneration := some ⟨2⟩

def smallGrant : GrantRecord where
  id := ⟨9⟩
  contract := ⟨5⟩
  state := .committed
  note := ascii "committed by both cluster agents"

def smallAudit : AuditRecord where
  sequence := ⟨1⟩
  actor := ascii "coordinator"
  action := ascii "commit-grant"
  outcome := .ok

def smallRegistry : Registry :=
  { store (store {} (.cluster (sorted smallCluster))) (.grant smallGrant) with audit := [smallAudit] }

lemma smallRegistry_built : Built smallRegistry := by
  have hcluster : (Record.cluster (sorted smallCluster)).Sound := by
    refine ⟨by decide, by decide, ⟨by decide, by decide, by decide, ?_⟩⟩
    simp [EndpointsOrdered, sorted, smallCluster, sortEndpoints]
  have hgrant : (Record.grant smallGrant).Sound := ⟨by decide, by decide, by decide⟩
  have hbuilt : Built (store (store {} (.cluster (sorted smallCluster))) (.grant smallGrant)) :=
    .grant (.cluster .empty (putCluster_eq_ok.mpr ⟨hcluster, .inr (by decide +kernel), rfl⟩))
      (putGrant_eq_ok.mpr ⟨hgrant, .inr (by decide +kernel), rfl⟩)
  refine .audit hbuilt (appendAudit_eq_ok.mpr ⟨by decide +kernel, ?_, rfl⟩)
  intro last hlast
  cases hlast

lemma smallRegistry_storable : RegistryStorable smallRegistry := by
  have hclusters : values smallRegistry.clusters = [sorted smallCluster] := by decide +kernel
  have hgrants : values smallRegistry.grants = [smallGrant] := by decide +kernel
  have hprovenance : ProvenanceStorable {} := UInt64.le_iff_toNat_le.mpr (Nat.zero_le _)
  have hendpoint : ∀ endpoint ∈ (sorted smallCluster).endpoints, EndpointStorable endpoint := by
    intro endpoint hendpoint
    obtain rfl : endpoint = smallEndpoint := by simpa [sorted, sortEndpoints, smallCluster] using hendpoint
    exact ⟨by decide +kernel, by decide +kernel, by decide +kernel, by decide +kernel, by decide +kernel,
      by decide +kernel, hprovenance⟩
  constructor
  · refine forall_records.mpr ⟨?_, ?_, ?_, ?_, ?_, ?_, ?_⟩
    · rw [hclusters]
      intro v hv
      rw [List.mem_singleton] at hv
      subst hv
      exact ⟨by decide +kernel, by decide +kernel, by decide +kernel, by decide +kernel, by decide +kernel, hendpoint,
        by decide +kernel, by decide +kernel, hprovenance, by decide +kernel⟩
    · exact fun v hv => absurd hv (by simp [smallRegistry, store])
    · exact fun v hv => absurd hv (by simp [smallRegistry, store])
    · exact fun v hv => absurd hv (by simp [smallRegistry, store])
    · exact fun v hv => absurd hv (by simp [smallRegistry, store])
    · rw [hgrants]
      intro v hv
      rw [List.mem_singleton] at hv
      subst hv
      exact ⟨by decide +kernel, by decide +kernel, by decide +kernel, by decide +kernel, by decide +kernel,
        by decide +kernel, by decide +kernel, ⟨by decide +kernel, by decide +kernel⟩, by decide +kernel, hprovenance⟩
    · exact fun v hv => absurd hv (by simp [smallRegistry, store])
  · intro record hrecord
    rw [smallRegistry, List.mem_singleton] at hrecord
    subst hrecord
    exact ⟨⟨by decide +kernel, by decide +kernel⟩, ⟨by decide +kernel, by decide +kernel⟩,
      ⟨by decide +kernel, by decide +kernel⟩, ⟨by decide +kernel, by decide +kernel⟩⟩

/-- They are read back. -/
theorem registry_round_trip_small : Built smallRegistry ∧ RegistryStorable smallRegistry ∧
    decodeRegistry.run (encodeRegistry smallRegistry true) = .ok (smallRegistry, []) :=
  ⟨smallRegistry_built, smallRegistry_storable,
    (registry_round_trip smallRegistry smallRegistry_built smallRegistry_storable).1⟩

end InterClusterFabric.ModelRoundTrip
