import InterClusterFabric.EngineReference
import InterClusterFabric.ModelRegistryLaws

/-! Whose authority a decision rests on. The endpoints of a query are looked up by their names over all
clusters, while the contract that authorizes it names clusters; this module says when the two agree. -/
namespace InterClusterFabric.EngineAuthorities
open CoreStatus CoreIds CoreTime ModelRecords ModelCanonicalReads ModelRegistry ModelRegistryLaws EngineDecision
open EngineDecide EngineSoundness EngineReference LibraryChecked LibraryOrdMap

/-- The cluster declares an endpoint of that name. -/
def Declares (cluster : ClusterRecord) (id : EndpointId) : Prop := ∃ endpoint ∈ cluster.endpoints, endpoint.id = id

/-- The party's cluster is registered under the party's domain and declares the party's endpoint, and no
cluster that comes before it in the registry does. -/
structure Owned (registry : Registry) (party : PartyRef) : Prop where
  declared : ∃ cluster, registry.clusters[party.cluster]? = some cluster ∧ cluster.domain = party.domain ∧
    Declares cluster party.endpoint
  first : ∀ (key : ClusterId) cluster, registry.clusters[key]? = some cluster →
    compare key party.cluster = .lt → ¬Declares cluster party.endpoint

/-- The endpoint is found in the party's cluster, under the party's domain. -/
def FoundAt (registry : Registry) (id : EndpointId) (party : PartyRef) : Prop :=
  party.endpoint = id ∧ ∃ found, resolve registry id = some found ∧ found.2.id = party.cluster ∧
    found.2.domain = party.domain

/-- The query was decided between the two parties of the contract: each endpoint was found in the cluster
that the contract names for it, and the authorities are the domains of the two parties. -/
def DecidedByParties (registry : Registry) (query : DecisionQuery) (decision : Decision)
    (contract : ContractRecord) : Prop :=
  ∃ side, FoundAt registry query.source (contract.parties.get side) ∧
    FoundAt registry query.target (contract.parties.get side.other) ∧
    decision.authorities = ⟨(contract.parties.get side).domain, (contract.parties.get side.other).domain⟩

/-! Lookup. -/

lemma findInEndpoints_eq_none {endpoints : List EndpointRecord} (h : EndpointsOrdered endpoints) (id : EndpointId) :
    findInEndpoints endpoints id = none ↔ ¬∃ endpoint ∈ endpoints, endpoint.id = id := by
  rw [findInEndpoints_eq_find h]
  simp

section Lookup

variable {registry : Registry} (hformed : WellFormed registry)
include hformed

lemma ordered_of_find {key : ClusterId} {cluster : ClusterRecord} (h : registry.clusters[key]? = some cluster) :
    EndpointsOrdered cluster.endpoints := by
  obtain ⟨-, -, -, hsound⟩ := find_cluster hformed h
  exact hsound.ordered

lemma listsOrdered_of_wellFormed : EndpointListsOrdered registry := by
  intro cluster hcluster
  obtain ⟨key, hkey⟩ := mem_values.mp hcluster
  exact ordered_of_find hformed hkey

/-- The lookup finds the first cluster, in the order of the identities, that declares the endpoint. -/
lemma resolve_eq_some {id : EndpointId} {found : EndpointRecord × ClusterRecord} :
    resolve registry id = some found ↔
      registry.clusters[found.2.id]? = some found.2 ∧ findInEndpoints found.2.endpoints id = some found.1 ∧
      ∀ (key : ClusterId) cluster, registry.clusters[key]? = some cluster → compare key found.2.id = .lt →
        ¬Declares cluster id := by
  rw [resolve, values_findSome?_eq_some]
  constructor
  · rintro ⟨key, cluster, hfind, hhit, hfirst⟩
    obtain ⟨endpoint, hendpoint, rfl⟩ := Option.map_eq_some_iff.mp hhit
    have hid : cluster.id = key := (find_cluster hformed hfind).1
    dsimp only
    rw [hid]
    refine ⟨hfind, hendpoint, fun key' other hother hlt => ?_⟩
    have hnone := hfirst key' other hother hlt
    rw [Option.map_eq_none_iff] at hnone
    exact (findInEndpoints_eq_none (ordered_of_find hformed hother) id).mp hnone
  · rintro ⟨hfind, hhit, hfirst⟩
    refine ⟨found.2.id, found.2, hfind, by simp [hhit], fun key other hother hlt => ?_⟩
    rw [Option.map_eq_none_iff]
    exact (findInEndpoints_eq_none (ordered_of_find hformed hother) id).mpr (hfirst key other hother hlt)

lemma declares_of_resolve {id : EndpointId} {found : EndpointRecord × ClusterRecord}
    (h : resolve registry id = some found) : Declares found.2 id := by
  obtain ⟨-, hhit, -⟩ := (resolve_eq_some hformed).mp h
  obtain ⟨hmem, hid⟩ := findInEndpoints_eq_some hhit
  exact ⟨found.1, hmem, hid⟩

/-- The lookup of a party's endpoint ends at the party exactly if the party owns it. -/
lemma foundAt_iff_owned (party : PartyRef) : FoundAt registry party.endpoint party ↔ Owned registry party := by
  constructor
  · rintro ⟨-, found, hfound, hcluster, hdomain⟩
    have hdeclares := declares_of_resolve hformed hfound
    obtain ⟨hfind, -, hfirst⟩ := (resolve_eq_some hformed).mp hfound
    rw [hcluster] at hfind hfirst
    exact ⟨⟨found.2, hfind, hdomain, hdeclares⟩, hfirst⟩
  · intro h
    obtain ⟨cluster, hfind, hdomain, hdeclares⟩ := h.declared
    have hid : cluster.id = party.cluster := (find_cluster hformed hfind).1
    cases hhit : findInEndpoints cluster.endpoints party.endpoint with
    | none => exact absurd hdeclares ((findInEndpoints_eq_none (ordered_of_find hformed hfind) _).mp hhit)
    | some endpoint =>
      refine ⟨rfl, (endpoint, cluster), (resolve_eq_some hformed).mpr ⟨?_, hhit, ?_⟩, hid, hdomain⟩
      · rw [hid]
        exact hfind
      · rw [hid]
        exact h.first

end Lookup

/-! The authorities of a decision. -/

@[simp] lemma addReason_authorities (decision : Decision) (code : ReasonCode) :
    (decision.addReason code).authorities = decision.authorities := by
  unfold Decision.addReason
  split <;> rfl

lemma conclude_authorities {query : DecisionQuery} {cleared : Cleared} {trial decision : Decision}
    (h : conclude query cleared trial = .ok decision) : decision.authorities = trial.authorities := by
  unfold conclude at h
  dsimp only at h
  split at h
  · split at h
    · cases h
    · cases h
      simp [Decision.finish]
  · cases h
    rfl

/-- An authorization was given under the domains of the clusters its endpoints were found in, by a
registered contract that joins the two endpoints. -/
lemma authorities_of_authorized {registry : Registry} (hformed : WellFormed registry) {query : DecisionQuery}
    {view : EngineView} (h : (EngineDecide.decide registry query view).authorized = true) :
    ∃ source target contract, resolve registry query.source = some source ∧
      resolve registry query.target = some target ∧ query.source ≠ query.target ∧
      (EngineDecide.decide registry query view).authorities = ⟨source.2.domain, target.2.domain⟩ ∧
      registry.contracts[(EngineDecide.decide registry query view).contract]? = some contract ∧
      contract.joins query.source query.target = true := by
  have hchecked := decideChecked_of_authorized h
  simp only [decideChecked, bind_eq_ok, rejectIf_eq_ok, exists_const] at hchecked
  obtain ⟨cleared, hclear, _, trial, htrial, hconclude⟩ := hchecked
  obtain ⟨hsource, htarget, hne, _, _, _, _, _, _, _, _, hpaths, hdecision⟩ := clear_eq_ok.mp hclear
  obtain ⟨contract, hcontract, htry⟩ := tryCandidates_eq_ok htrial
  obtain ⟨-, grant, -, -, rfl⟩ := tryCandidate_eq_ok.mp htry
  obtain ⟨hregistered, hjoins⟩ := mem_candidates.mp hcontract
  obtain ⟨key, hkey⟩ := mem_values.mp hregistered
  have hid : contract.id = key := (find_contract hformed hkey).1
  have hcontractId := (conclude_eq_ok hconclude hpaths).1
  have hauthorities := conclude_authorities hconclude
  refine ⟨cleared.source, cleared.target, contract, hsource, htarget, hne, ?_, ?_, hjoins⟩
  · rw [hauthorities, hdecision]
    simp
  · rw [hcontractId]
    simpa [hid] using hkey

/-- The contract names the two endpoints on its two sides. -/
lemma side_of_joins {contract : ContractRecord} {source target : EndpointId}
    (h : contract.joins source target = true) :
    ∃ side, (contract.parties.get side).endpoint = source ∧ (contract.parties.get side.other).endpoint = target := by
  simp only [ContractRecord.joins, Bool.or_eq_true, Bool.and_eq_true, beq_iff_eq] at h
  rcases h with ⟨hfirst, hsecond⟩ | ⟨hfirst, hsecond⟩
  · exact ⟨.first, hfirst, hsecond⟩
  · exact ⟨.second, hsecond, hfirst⟩

lemma forall_other {P : Side → Prop} (side : Side) : (∀ s, P s) ↔ P side ∧ P side.other := by
  cases side with
  | first => exact forall_side
  | second => exact forall_side.trans and_comm

/-- Found under the domains of its two clusters, the decision is the parties' if both are found there. -/
lemma decidedByParties_iff {registry : Registry} (hformed : WellFormed registry) {query : DecisionQuery}
    {decision : Decision} {contract : ContractRecord} {source target : EndpointRecord × ClusterRecord}
    (hsource : resolve registry query.source = some source) (htarget : resolve registry query.target = some target)
    (hne : query.source ≠ query.target) (hauthorities : decision.authorities = ⟨source.2.domain, target.2.domain⟩)
    (hjoins : contract.joins query.source query.target = true) :
    DecidedByParties registry query decision contract ↔ ∀ side, Owned registry (contract.parties.get side) := by
  obtain ⟨side, hfirst, hsecond⟩ := side_of_joins hjoins
  rw [forall_other side]
  simp only [← foundAt_iff_owned hformed, hfirst, hsecond]
  constructor
  · rintro ⟨side', hfound, hfound', -⟩
    -- the two endpoints differ, so there is one way to match them
    have hsame : side' = side := by
      by_contra hother
      have hswap : side = side'.other := by
        cases side <;> cases side' <;> first | rfl | exact absurd rfl hother
      rw [hswap, hfound'.1] at hfirst
      exact hne hfirst.symm
    subst hsame
    exact ⟨hfound, hfound'⟩
  · rintro ⟨hfound, hfound'⟩
    refine ⟨side, hfound, hfound', ?_⟩
    obtain ⟨-, found, hresolve, -, hdomain⟩ := hfound
    obtain ⟨-, found', hresolve', -, hdomain'⟩ := hfound'
    rw [hsource, Option.some.injEq] at hresolve
    rw [htarget, Option.some.injEq] at hresolve'
    rw [hauthorities, hresolve, hresolve', hdomain, hdomain']

end InterClusterFabric.EngineAuthorities
