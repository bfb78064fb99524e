import InterClusterFabric.EngineAuthorities
import Mathlib.Data.List.Destutter

/-! What of a registry a decision looks at. Two registries that a query cannot tell apart give it the same
outcome, under the same contract, grant and authorities. -/
namespace InterClusterFabric.EngineInterference
open CoreStatus CoreIds CoreTime ModelRecords ModelRegistry ModelPolicy EngineDecision EngineDecide EngineSoundness
open EngineAuthorities LibraryChecked LibraryOrdMap

/-- The endpoint apart from what reservations are made of. -/
def unreserved (endpoint : EndpointRecord) : EndpointRecord := { endpoint with reserved := ⟨0⟩, provenance := {} }

/-- The cluster apart from what is reserved at its endpoints. -/
def bare (cluster : ClusterRecord) : ClusterRecord :=
  { cluster with endpoints := cluster.endpoints.map unreserved }

/-- Reservations leave the identity of a cluster alone. -/
lemma bare_identity {cluster other : ClusterRecord} (h : bare other = bare cluster) :
    other.domain = cluster.domain ∧ other.incarnation = cluster.incarnation ∧ other.generation = cluster.generation ∧
      other.policyGeneration = cluster.policyGeneration := by
  have hdomain : (bare other).domain = (bare cluster).domain := by rw [h]
  have hincarnation : (bare other).incarnation = (bare cluster).incarnation := by rw [h]
  have hgeneration : (bare other).generation = (bare cluster).generation := by rw [h]
  have hpolicy : (bare other).policyGeneration = (bare cluster).policyGeneration := by rw [h]
  exact ⟨hdomain, hincarnation, hgeneration, hpolicy⟩

lemma unreserved_degraded {endpoint other : EndpointRecord} (h : unreserved other = unreserved endpoint) :
    other.permitsDegraded = endpoint.permitsDegraded := by
  have hsame : (unreserved other).permitsDegraded = (unreserved endpoint).permitsDegraded := by rw [h]
  exact hsame

/-- Two decisions that say the same to whoever asked. -/
structure SameVerdict (decision other : Decision) : Prop where
  outcome : other.outcome = decision.outcome
  contract : other.contract = decision.contract
  grant : other.grant = decision.grant
  authorities : other.authorities = decision.authorities

/-- The contract stands before its parties and its grants as it did. -/
structure SameStanding (registry next : Registry) (contract : ContractRecord) : Prop where
  parties : ∀ side, next.clusters[(contract.parties.get side).cluster]?.map bare =
    registry.clusters[(contract.parties.get side).cluster]?.map bare
  grants : selectGrant next contract.id = selectGrant registry contract.id

/-- The query sees the same in both registries. -/
structure SameSight (registry next : Registry) (query : DecisionQuery) : Prop where
  source : (resolve next query.source).map (Prod.map unreserved bare) =
    (resolve registry query.source).map (Prod.map unreserved bare)
  target : (resolve next query.target).map (Prod.map unreserved bare) =
    (resolve registry query.target).map (Prod.map unreserved bare)
  policies : next.policies = registry.policies
  paths : evaluatePaths next query.source query.target = evaluatePaths registry query.source query.target
  contracts : candidates next query = candidates registry query
  standing : ∀ contract ∈ candidates registry query, SameStanding registry next contract

lemma SameStanding.symm {registry next : Registry} {contract : ContractRecord}
    (h : SameStanding registry next contract) : SameStanding next registry contract :=
  ⟨fun side => (h.parties side).symm, h.grants.symm⟩

/-! One contract. -/

section Standing

variable {registry next : Registry} {contract : ContractRecord} {query : DecisionQuery} {view : EngineView}

/-- The party's cluster, as it is in the other registry. -/
lemma SameStanding.cluster (h : SameStanding registry next contract) {side : Side} {cluster : ClusterRecord}
    (hfind : registry.clusters[(contract.parties.get side).cluster]? = some cluster) :
    ∃ other, next.clusters[(contract.parties.get side).cluster]? = some other ∧ bare other = bare cluster := by
  have hmap := h.parties side
  rw [hfind, Option.map_some] at hmap
  exact Option.map_eq_some_iff.mp hmap

lemma SameStanding.consent (h : SameStanding registry next contract) {side : Side}
    (hcurrent : ConsentCurrent registry contract side) : ConsentCurrent next contract side := by
  obtain ⟨consent, cluster, hconsent, hfind, h1, h2, h3, h4, h5, h6, h7⟩ := hcurrent
  obtain ⟨other, hother, hbare⟩ := h.cluster hfind
  obtain ⟨-, hincarnation, hgeneration, hpolicy⟩ := bare_identity hbare
  exact ⟨consent, other, hconsent, hother, h1, h2, h3, h4, by rw [hincarnation, h5], by rw [hgeneration, h6],
    by rw [hpolicy, h7]⟩

lemma SameStanding.usable (h : SameStanding registry next contract) {grant : GrantRecord}
    (husable : GrantUsable registry contract query view grant) : GrantUsable next contract query view grant := by
  refine { husable with bound := fun side => ?_ }
  obtain ⟨cluster, hfind, h1, h2, h3⟩ := husable.bound side
  obtain ⟨other, hother, hbare⟩ := h.cluster hfind
  obtain ⟨-, hincarnation, hgeneration, hpolicy⟩ := bare_identity hbare
  exact ⟨other, hother, by rw [hincarnation, h1], by rw [hgeneration, h2], by rw [hpolicy, h3]⟩

/-- A trial that succeeds in one registry succeeds in the other, with the same contract and grant. -/
lemma SameStanding.trial (h : SameStanding registry next contract) {decision trial : Decision} (other : Decision)
    (htry : tryCandidate registry query view decision contract = .ok trial) :
    trial.authorities = decision.authorities ∧
      ∃ trial', tryCandidate next query view other contract = .ok trial' ∧ trial'.contract = trial.contract ∧
        trial'.grant = trial.grant ∧ trial'.authorities = other.authorities := by
  obtain ⟨⟨hopen, hconsents⟩, grant, hselect, husable, rfl⟩ := tryCandidate_eq_ok.mp htry
  refine ⟨by simp, ?_⟩
  refine ⟨_, tryCandidate_eq_ok.mpr ⟨⟨hopen, fun side => h.consent (hconsents side)⟩, grant, ?_, h.usable husable,
    rfl⟩, ?_, ?_, ?_⟩
  · rw [h.grants, hselect]
  · simp
  · rfl
  · simp

/-- The contract that authorizes in one registry authorizes in the other. -/
lemma tryCandidates_same {decision trial : Decision} {list : List ContractRecord} {best : Option Decision}
    (other : Decision) (best' : Option Decision)
    (h : ∀ contract ∈ list, SameStanding registry next contract)
    (htry : tryCandidates registry query view decision list best = .ok trial) :
    trial.authorities = decision.authorities ∧
      ∃ trial', tryCandidates next query view other list best' = .ok trial' ∧ trial'.contract = trial.contract ∧
        trial'.grant = trial.grant ∧ trial'.authorities = other.authorities := by
  induction list generalizing best best' with
  | nil => cases best <;> cases htry
  | cons candidate rest ih =>
    have hhead := h candidate (by simp)
    rw [tryCandidates] at htry
    rw [tryCandidates]
    cases hfirst : tryCandidate registry query view decision candidate with
    | ok found =>
      rw [hfirst] at htry
      cases htry
      obtain ⟨hauthorities, trial', htrial', hsame⟩ := hhead.trial other hfirst
      rw [htrial']
      exact ⟨hauthorities, trial', rfl, hsame⟩
    | error failure =>
      rw [hfirst] at htry
      cases hother : tryCandidate next query view other candidate with
      | ok found =>
        -- it would have succeeded here too
        obtain ⟨-, found', hfound', -⟩ := hhead.symm.trial decision hother
        rw [hfirst] at hfound'
        cases hfound'
      | error failure' => exact ih _ (fun c hc => h c (by simp [hc])) htry

end Standing

/-! The whole decision. -/

lemma evaluatePolicy_bare {registry next : Registry} (hpolicies : next.policies = registry.policies)
    {source target source' target' : ClusterRecord} (hsource : bare source' = bare source)
    (htarget : bare target' = bare target) (a b : EndpointId) :
    evaluatePolicy next source' target' a b = evaluatePolicy registry source target a b := by
  have hregistry : evaluatePolicy next source' target' a b = evaluatePolicy registry source' target' a b := by
    simp only [evaluatePolicy, collectRules, hpolicies]
  calc evaluatePolicy next source' target' a b = evaluatePolicy registry source' target' a b := hregistry
    _ = evaluatePolicy registry (bare source') (bare target') a b := rfl
    _ = evaluatePolicy registry (bare source) (bare target) a b := by rw [hsource, htarget]
    _ = evaluatePolicy registry source target a b := rfl

lemma conclude_same {query : DecisionQuery} {cleared : Cleared} {trial decision : Decision} (cleared' : Cleared)
    (trial' : Decision) (h : conclude query cleared trial = .ok decision) (hpaths : cleared'.paths = cleared.paths)
    (hpolicy : cleared'.policy = cleared.policy)
    (hsource : cleared'.source.1.permitsDegraded = cleared.source.1.permitsDegraded)
    (htarget : cleared'.target.1.permitsDegraded = cleared.target.1.permitsDegraded) :
    ∃ decision', conclude query cleared' trial' = .ok decision' ∧ decision'.outcome = decision.outcome ∧
      decision.contract = trial.contract ∧ decision.grant = trial.grant ∧
      decision'.contract = trial'.contract ∧ decision'.grant = trial'.grant := by
  unfold conclude at h ⊢
  have hpermitted : degradedPermitted query cleared'.policy cleared'.source.1 cleared'.target.1 =
      degradedPermitted query cleared.policy cleared.source.1 cleared.target.1 := by
    simp only [degradedPermitted, hpolicy, hsource, htarget]
  rw [hpermitted, hpaths]
  dsimp only at h ⊢
  split at h
  · rename_i hdegraded
    rw [if_pos hdegraded]
    split at h
    · cases h
    · rename_i hallowed
      rw [if_neg hallowed]
      cases h
      exact ⟨_, rfl, by simp [Decision.finish], by simp [Decision.finish], by simp [Decision.finish],
        by simp [Decision.finish], by simp [Decision.finish]⟩
  · rename_i hdegraded
    rw [if_neg hdegraded]
    cases h
    exact ⟨_, rfl, rfl, rfl, rfl, rfl, rfl⟩

/-- The endpoint and the cluster a lookup finds, as they are in the other registry. -/
lemma found_same {registry next : Registry} {id : EndpointId} {found : EndpointRecord × ClusterRecord}
    (h : (resolve next id).map (Prod.map unreserved bare) = (resolve registry id).map (Prod.map unreserved bare))
    (hfound : resolve registry id = some found) :
    ∃ other, resolve next id = some other ∧ unreserved other.1 = unreserved found.1 ∧ bare other.2 = bare found.2 := by
  rw [hfound, Option.map_some] at h
  obtain ⟨other, hother, hsame⟩ := Option.map_eq_some_iff.mp h
  exact ⟨other, hother, (Prod.mk.inj hsame).1, (Prod.mk.inj hsame).2⟩

/-- A query that sees the same is given the same answer. -/
lemma decide_same {registry next : Registry} {query : DecisionQuery} (h : SameSight registry next query)
    {view : EngineView} (hauthorized : (EngineDecide.decide registry query view).authorized = true) :
    SameVerdict (EngineDecide.decide registry query view) (EngineDecide.decide next query view) := by
  have hchecked := decideChecked_of_authorized hauthorized
  simp only [decideChecked, bind_eq_ok, rejectIf_eq_ok, exists_const] at hchecked
  obtain ⟨cleared, hclear, hcandidates, trial, htrial, hconclude⟩ := hchecked
  obtain ⟨hsource, htarget, hne, hsc, htc, hse, hte, hsg, htg, hpolicy, hallowed, hpaths, hdecision⟩ :=
    clear_eq_ok.mp hclear
  obtain ⟨source, hsource', hendpoint, hcluster⟩ := found_same h.source hsource
  obtain ⟨target, htarget', hendpoint', hcluster'⟩ := found_same h.target htarget
  have hpolicy' : evaluatePolicy next source.2 target.2 query.source query.target = cleared.policy := by
    rw [hpolicy]
    exact evaluatePolicy_bare h.policies hcluster hcluster' _ _
  -- what the checks read of an endpoint and of a cluster is what the bare records hold
  have hready {c c' : ClusterRecord} (hbare : bare c' = bare c) (hc : ClusterReady c) : ClusterReady c' := by
    change ClusterReady (bare c')
    rw [hbare]
    exact hc
  have hready' {e e' : EndpointRecord} (hbare : unreserved e' = unreserved e) (he : EndpointReady e) :
      EndpointReady e' := by
    change EndpointReady (unreserved e')
    rw [hbare]
    exact he
  obtain ⟨hdomain, -, hgeneration, -⟩ := bare_identity hcluster
  obtain ⟨hdomain', -, hgeneration', -⟩ := bare_identity hcluster'
  set cleared' : Cleared := ⟨({ initialDecision next view with
    authorities := ⟨source.2.domain, target.2.domain⟩ }).addReason .policyAllowed, source, target, cleared.policy,
    cleared.paths⟩ with hcleared'
  have hclear' : clear next query view = .ok cleared' := by
    refine clear_eq_ok.mpr ⟨hsource', htarget', hne, hready hcluster hsc, hready hcluster' htc,
      hready' hendpoint hse, hready' hendpoint' hte, ?_, ?_, hpolicy'.symm, hallowed, ?_, rfl⟩
    · rw [hcleared', hgeneration]
      exact hsg
    · rw [hcleared', hgeneration']
      exact htg
    · rw [h.paths, hpaths]
  obtain ⟨htrialAuthorities, trial', htrial', hcontract, hgrant, hauthorities⟩ :=
    tryCandidates_same cleared'.decision none h.standing htrial
  obtain ⟨decision', hconclude', houtcome, hc, hg, hc', hg'⟩ := conclude_same cleared' trial' hconclude
    rfl rfl (unreserved_degraded hendpoint) (unreserved_degraded hendpoint')
  have hdecide : EngineDecide.decide next query view = decision' := by
    have hchecked' : decideChecked next query view = .ok decision' := by
      simp only [decideChecked, bind_eq_ok, rejectIf_eq_ok, exists_const]
      refine ⟨cleared', hclear', ?_, trial', ?_, hconclude'⟩
      · rw [h.contracts]
        exact hcandidates
      · rw [h.contracts]
        exact htrial'
    rw [EngineDecide.decide, hchecked']
  rw [hdecide]
  refine ⟨houtcome, by rw [hc', hc, hcontract], by rw [hg', hg, hgrant], ?_⟩
  rw [conclude_authorities hconclude', conclude_authorities hconclude, hauthorities, htrialAuthorities, hdecision]
  simp [hcleared', hdomain, hdomain']

end InterClusterFabric.EngineInterference
