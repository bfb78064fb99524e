import InterClusterFabric.EngineReference

/-! What an authorization names as its evidence, and the capacity it reports. -/
namespace InterClusterFabric.EngineEvidence
open CoreStatus CoreIds ModelRecords ModelRegistry ModelPolicy EngineDecision EngineDecide
open LibraryChecked LibraryOrdMap EngineSoundness EngineReference

/-! The paths that the walk lists. -/

/-- Appending to the edges those that are not there yet. -/
def addEdges (edges : List EdgeId) (hops : List EdgeId) : List EdgeId :=
  hops.foldl (fun edges hop => if hop ∈ edges then edges else edges ++ [hop]) edges

lemma mem_addEdges {edges hops : List EdgeId} {edge : EdgeId} :
    edge ∈ addEdges edges hops ↔ edge ∈ edges ∨ edge ∈ hops := by
  induction hops generalizing edges with
  | nil => simp [addEdges]
  | cons hop rest ih =>
    have hstep : addEdges edges (hop :: rest) = addEdges (if hop ∈ edges then edges else edges ++ [hop]) rest := rfl
    rw [hstep, ih]
    by_cases hmem : hop ∈ edges
    · rw [if_pos hmem, List.mem_cons]
      constructor
      · rintro (hold | hrest)
        · exact .inl hold
        · exact .inr (.inr hrest)
      · rintro (hold | rfl | hrest)
        · exact .inl hold
        · exact .inl hmem
        · exact .inr hrest
    · rw [if_neg hmem]
      simp [or_assoc]

lemma addEdges_nodup {edges : List EdgeId} (h : edges.Nodup) (hops : List EdgeId) : (addEdges edges hops).Nodup := by
  induction hops generalizing edges with
  | nil => exact h
  | cons hop rest ih =>
    refine ih ?_
    dsimp only
    split
    · exact h
    · rename_i hmem
      exact List.nodup_append.mpr ⟨h, by simp, fun a ha b hb => by
        rw [List.mem_singleton.mp hb]
        rintro rfl
        exact hmem ha⟩

/-- The paths listed so far, out of those that were walked over. -/
structure Lists (walked listed : List PathRecord) (tally : PathTally) : Prop where
  paths : tally.paths = listed.map (·.id)
  live : ∀ path ∈ listed, path ∈ walked ∧ path.containsUnsupportedEdge = false ∧ path.state = .up
  nodup : tally.edges.Nodup
  edges : ∀ edge, edge ∈ tally.edges ↔ ∃ path ∈ listed, edge ∈ path.hops
  some : tally.sawUp = true → listed ≠ []

/-- A path that is not listed leaves the list as it was. -/
lemma Lists.skip {walked listed : List PathRecord} {tally other : PathTally} (h : Lists walked listed tally)
    (path : PathRecord) (hpaths : other.paths = tally.paths) (hedges : other.edges = tally.edges)
    (hup : other.sawUp = tally.sawUp) : Lists (walked ++ [path]) listed other where
  paths := by rw [hpaths, h.paths]
  live p hp := by
    obtain ⟨hmem, hlive⟩ := h.live p hp
    exact ⟨List.mem_append_left _ hmem, hlive⟩
  nodup := by
    rw [hedges]
    exact h.nodup
  edges edge := by rw [hedges, h.edges]
  some hsaw := h.some (by rwa [hup] at hsaw)

lemma Lists.add {walked listed : List PathRecord} {tally : PathTally} (h : Lists walked listed tally)
    (path : PathRecord) : ∃ listed', Lists (walked ++ [path]) listed' (tally.add path) := by
  unfold PathTally.add
  by_cases hedge : path.containsUnsupportedEdge = true
  · rw [if_pos hedge]
    exact ⟨listed, h.skip path rfl rfl rfl⟩
  rw [if_neg hedge]
  cases hstate : path.state with
  | unknown => exact ⟨listed, h.skip path rfl rfl rfl⟩
  | down => exact ⟨listed, h.skip path rfl rfl rfl⟩
  | degraded => exact ⟨listed, h.skip path rfl rfl rfl⟩
  | up =>
    by_cases hroom : tally.paths.length < Limits.maxDecisionPaths
    · have hrecord : ({ tally with sawUp := true } : PathTally).record path =
          { tally with sawUp := true, paths := tally.paths ++ [path.id], edges := addEdges tally.edges path.hops } :=
        if_pos hroom
      simp only [hrecord]
      refine ⟨listed ++ [path], by simp [h.paths], fun p hp => ?_, addEdges_nodup h.nodup path.hops, fun edge => ?_,
        by simp⟩
      · rcases List.mem_append.mp hp with hold | hnew
        · obtain ⟨hmem, hlive⟩ := h.live p hold
          exact ⟨List.mem_append_left _ hmem, hlive⟩
        · rw [List.mem_singleton.mp hnew]
          exact ⟨by simp, by simpa using hedge, hstate⟩
      · rw [mem_addEdges, h.edges]
        simp only [List.mem_append, List.mem_singleton, or_and_right, exists_or, exists_eq_left]
    · have hrecord : ({ tally with sawUp := true } : PathTally).record path = { tally with sawUp := true } :=
        if_neg hroom
      simp only [hrecord]
      refine ⟨listed, h.paths, fun p hp => ?_, h.nodup, h.edges, fun _ hnil => hroom ?_⟩
      · obtain ⟨hmem, hlive⟩ := h.live p hp
        exact ⟨List.mem_append_left _ hmem, hlive⟩
      · rw [h.paths, hnil]
        decide

lemma foldl_add_lists (walked : List PathRecord) : ∃ listed, Lists walked listed (walked.foldl PathTally.add {}) := by
  induction walked using List.reverseRecOn with
  | nil => exact ⟨[], rfl, by simp, List.nodup_nil, by simp, by simp⟩
  | append_singleton walked path ih =>
    obtain ⟨listed, hlisted⟩ := ih
    rw [List.foldl_append, List.foldl_cons, List.foldl_nil]
    exact hlisted.add path

/-- The state of the paths that carry an authorization. -/
def liveState : Outcome → PathState
  | .degradedAuthorized => .degraded
  | _ => .up

/-- The decision names paths that can carry what it authorizes, and their edges. -/
structure Names (registry : Registry) (query : DecisionQuery) (decision : Decision) (listed : List PathRecord) :
    Prop where
  some : listed ≠ []
  paths : decision.paths = listed.map (·.id)
  live : ∀ path ∈ listed, JoiningPath registry query.source query.target path ∧ path.state = liveState decision.outcome
  nodup : decision.edges.Nodup
  edges : ∀ edge, edge ∈ decision.edges ↔ ∃ path ∈ listed, edge ∈ path.hops

section Authorized

variable {registry : Registry} {query : DecisionQuery} {view : EngineView}

@[simp] lemma addReason_edges (decision : Decision) (code : ReasonCode) :
    (decision.addReason code).edges = decision.edges := by
  unfold Decision.addReason
  split <;> rfl

@[simp] lemma addReason_listed (decision : Decision) (code : ReasonCode) :
    (decision.addReason code).paths = decision.paths := by
  unfold Decision.addReason
  split <;> rfl

@[simp] lemma addReason_capacity (decision : Decision) (code : ReasonCode) :
    (decision.addReason code).capacity = decision.capacity := by
  unfold Decision.addReason
  split <;> rfl

/-- The verdict carries the evidence of the walk and the capacity of the trial. -/
lemma conclude_evidence {cleared : Cleared} {trial decision : Decision} (h : conclude query cleared trial = .ok decision) :
    decision.paths = cleared.paths.paths ∧ decision.edges = cleared.paths.edges ∧ decision.capacity = trial.capacity ∧
      decision.outcome = if cleared.paths.degraded then .degradedAuthorized else .ok := by
  unfold conclude at h
  simp only at h
  split at h
  · rename_i hdegraded
    split at h
    · cases h
    · cases h
      exact ⟨by simp [Decision.finish], by simp [Decision.finish], by simp [Decision.finish],
        by simp [Decision.finish, hdegraded]⟩
  · rename_i hdegraded
    cases h
    exact ⟨rfl, rfl, rfl, by simp [Decision.finish, hdegraded]⟩

/-- The parts of the chain behind an authorization. -/
lemma chain_of_authorized (h : (EngineDecide.decide registry query view).authorized = true) :
    ∃ cleared trial, clear registry query view = .ok cleared ∧
      tryCandidates registry query view cleared.decision (candidates registry query) none = .ok trial ∧
      conclude query cleared trial = .ok (EngineDecide.decide registry query view) := by
  have hchecked := decideChecked_of_authorized h
  simp only [decideChecked, bind_eq_ok, rejectIf_eq_ok, exists_const] at hchecked
  obtain ⟨cleared, hclear, -, trial, htrial, hconclude⟩ := hchecked
  exact ⟨cleared, trial, hclear, htrial, hconclude⟩

/-- The tally that the walk over the paths between two endpoints ends with. -/
def tallyPaths (registry : Registry) (source target : EndpointId) : PathTally :=
  ((values registry.paths).filter fun path => path.joins source target).foldl PathTally.add {}

/-- A successful walk hands over what it has listed, as healthy only if it saw an up path. -/
lemma evaluatePaths_tally {source target : EndpointId} {evaluation : PathEvaluation}
    (h : evaluatePaths registry source target = .ok evaluation) :
    evaluation.paths = (tallyPaths registry source target).paths ∧
      evaluation.edges = (tallyPaths registry source target).edges ∧
      (evaluation.degraded = false → (tallyPaths registry source target).sawUp = true) := by
  unfold evaluatePaths at h
  simp only at h
  split at h
  · rename_i hsaw
    cases h
    exact ⟨rfl, rfl, fun _ => hsaw⟩
  · split at h
    · cases h
      exact ⟨rfl, rfl, fun hhealthy => by cases hhealthy⟩
    · split at h
      · cases h
      · split at h <;> cases h

lemma evaluatePaths_lists {source target : EndpointId} {evaluation : PathEvaluation}
    (h : evaluatePaths registry source target = .ok evaluation) : ∃ listed : List PathRecord,
      evaluation.paths = listed.map (·.id) ∧
      (∀ path ∈ listed, JoiningPath registry source target path ∧ path.state = .up) ∧
      evaluation.edges.Nodup ∧ (∀ edge, edge ∈ evaluation.edges ↔ ∃ path ∈ listed, edge ∈ path.hops) ∧
      (evaluation.degraded = false → listed ≠ []) := by
  obtain ⟨hpaths, hedges, hhealthy⟩ := evaluatePaths_tally h
  obtain ⟨listed, hlists⟩ := foldl_add_lists ((values registry.paths).filter fun path => path.joins source target)
  refine ⟨listed, hpaths.trans hlists.paths, fun path hpath => ?_, by rw [hedges]; exact hlists.nodup,
    fun edge => ?_, fun hdegraded => hlists.some (hhealthy hdegraded)⟩
  · obtain ⟨hmem, hedge, hup⟩ := hlists.live path hpath
    obtain ⟨hregistered, hjoins⟩ := List.mem_filter.mp hmem
    exact ⟨⟨hregistered, hjoins, hedge⟩, hup⟩
  · rw [hedges]
    exact hlists.edges edge

end Authorized

/-- An authorization names its paths exactly if one of those between its endpoints is up. -/
theorem authorization_names_paths_iff (registry : Registry) (query : DecisionQuery) (view : EngineView)
    (h : (EngineDecide.decide registry query view).authorized = true) :
    (∃ listed, Names registry query (EngineDecide.decide registry query view) listed) ↔
      ∃ path, JoiningPath registry query.source query.target path ∧ path.state = .up := by
  obtain ⟨cleared, trial, hclear, -, hconclude⟩ := chain_of_authorized h
  have hpaths := (clear_eq_ok.mp hclear).2.2.2.2.2.2.2.2.2.2.2.1
  obtain ⟨hnamed, hcrossed, -, houtcome⟩ := conclude_evidence hconclude
  obtain ⟨listed, hlisted, hlive, hnodup, hedges, hsome⟩ := evaluatePaths_lists hpaths
  constructor
  · rintro ⟨other, hnames⟩
    have hne : listed ≠ [] := by
      rintro rfl
      have hempty : other.map (·.id) = [] := by rw [← hnames.paths, hnamed, hlisted, List.map_nil]
      exact hnames.some (List.map_eq_nil_iff.mp hempty)
    obtain ⟨path, hpath⟩ := List.exists_mem_of_ne_nil _ hne
    exact ⟨path, hlive path hpath⟩
  · rintro ⟨path, hjoining, hup⟩
    have hhealthy : cleared.paths.degraded = false := by
      rcases evaluatePaths_eq_ok hpaths with ⟨hhealthy, -⟩ | ⟨-, hnone, -⟩
      · exact hhealthy
      · exact absurd hup (hnone path hjoining)
    rw [hhealthy] at houtcome
    refine ⟨listed, hsome hhealthy, hnamed.trans hlisted, fun p hp => ?_, by rw [hcrossed]; exact hnodup,
      fun edge => by rw [hcrossed, hedges]⟩
    rw [houtcome]
    exact hlive p hp

/-! The sample registry, with its path in another state and with endpoints that accept a degraded one. -/

def lenientEndpoint (side : Side) : EndpointRecord := { sampleEndpoint side with permitsDegraded := true }

def lenientCluster (side : Side) : ClusterRecord := { sampleCluster side with endpoints := [lenientEndpoint side] }

def lenientPolicy (maxCapacity : CapacityUnits) (side : Side) : PolicyRule :=
  { samplePolicy side with allowDegraded := true, maxCapacity }

def lenientRegistry (state : PathState) (maxCapacity : CapacityUnits) : Registry :=
  { sampleRegistry with
    clusters := ((∅ : OrdMap ClusterId ClusterRecord).insert (sampleParty .first).cluster
      (lenientCluster .first)).insert (sampleParty .second).cluster (lenientCluster .second)
    paths := (∅ : OrdMap PathId PathRecord).insert samplePath.id { samplePath with state }
    policies := ((∅ : OrdMap Bytes PolicyRule).insert (samplePolicy .first).id
      (lenientPolicy maxCapacity .first)).insert (samplePolicy .second).id (lenientPolicy maxCapacity .second) }

def lenientQuery : DecisionQuery := { sampleQuery with allowDegraded := true }

theorem authorization_names_paths_sample :
    (EngineDecide.decide (lenientRegistry .up ⟨0⟩) lenientQuery sampleView).authorized = true ∧
      ∃ listed, Names (lenientRegistry .up ⟨0⟩) lenientQuery
        (EngineDecide.decide (lenientRegistry .up ⟨0⟩) lenientQuery sampleView) listed := by
  have hauthorized : (EngineDecide.decide (lenientRegistry .up ⟨0⟩) lenientQuery sampleView).authorized = true := by
    decide +kernel
  refine ⟨hauthorized, (authorization_names_paths_iff _ _ _ hauthorized).mpr ⟨{ samplePath with state := .up }, ?_, rfl⟩⟩
  exact ⟨by decide +kernel, by decide +kernel, rfl⟩

/-- Over a degraded path the decision authorizes and names nothing. -/
theorem degraded_authorization_names_nothing :
    (EngineDecide.decide (lenientRegistry .degraded ⟨0⟩) lenientQuery sampleView).outcome = .degradedAuthorized ∧
      ¬∃ listed, Names (lenientRegistry .degraded ⟨0⟩) lenientQuery
        (EngineDecide.decide (lenientRegistry .degraded ⟨0⟩) lenientQuery sampleView) listed := by
  refine ⟨by decide +kernel, ?_⟩
  rintro ⟨listed, hnames⟩
  have hempty : (EngineDecide.decide (lenientRegistry .degraded ⟨0⟩) lenientQuery sampleView).paths = [] := by
    decide +kernel
  rw [hnames.paths] at hempty
  exact hnames.some (List.map_eq_nil_iff.mp hempty)

/-! The capacity. -/

/-- The policy evaluation for the pair of a query. -/
def evaluatedPolicy (registry : Registry) (query : DecisionQuery) : Option PolicyEvaluation := do
  let source ← resolve registry query.source
  let target ← resolve registry query.target
  return evaluatePolicy registry source.2 target.2 query.source query.target

/-- The most recently issued grant of a contract, if contract and grant pass their checks. -/
def passingGrant (registry : Registry) (query : DecisionQuery) (view : EngineView) (contract : ContractRecord) :
    Option GrantRecord :=
  if (checkConsents registry contract).isOk = true then
    (selectGrant registry contract.id).filter fun grant =>
      (checkSelectedGrant registry contract query view grant).isOk
  else none

/-- The grant of the first contract, in the order in which they are tried, that has a passing one. -/
def chosenGrant (registry : Registry) (query : DecisionQuery) (view : EngineView) : Option GrantRecord :=
  (candidates registry query).findSome? (passingGrant registry query view)

/-- What is asked for and what is reported stay within the limit of the policy, if it sets one. -/
def WithinCeiling (registry : Registry) (query : DecisionQuery) (decision : Decision) : Prop :=
  ∃ policy, evaluatedPolicy registry query = some policy ∧ (policy.maxCapacity = ⟨0⟩ ∨
    query.requestedCapacity ≤ policy.maxCapacity ∧ decision.capacity ≤ policy.maxCapacity)

/-- The policy sets no limit, or one that the chosen grant respects. -/
def GrantWithinCeiling (registry : Registry) (query : DecisionQuery) (view : EngineView) : Prop :=
  ∃ policy, evaluatedPolicy registry query = some policy ∧ (policy.maxCapacity = ⟨0⟩ ∨
    ∃ grant, chosenGrant registry query view = some grant ∧ grant.capacity ≤ policy.maxCapacity)

section Capacity

variable {registry : Registry} {query : DecisionQuery} {view : EngineView}

lemma isOk_iff {ε α : Type} {x : Except ε α} : x.isOk = true ↔ ∃ a, x = .ok a := by
  cases x <;> simp [Except.isOk, Except.toBool]

/-- A trial that passes carries the capacity of the contract's passing grant. -/
lemma passingGrant_of_trial {decision trial : Decision} {contract : ContractRecord}
    (h : tryCandidate registry query view decision contract = .ok trial) :
    ∃ grant, passingGrant registry query view contract = some grant ∧ trial.capacity = grant.capacity ∧
      ¬grant.capacity < query.requestedCapacity := by
  obtain ⟨hconsents, grant, hselect, husable, rfl⟩ := tryCandidate_eq_ok.mp h
  have hconsents' : (checkConsents registry contract).isOk = true :=
    isOk_iff.mpr ⟨(), checkConsents_eq_ok.mpr hconsents⟩
  have hchecked : (checkSelectedGrant registry contract query view grant).isOk = true :=
    isOk_iff.mpr ⟨(), checkSelectedGrant_eq_ok.mpr husable⟩
  refine ⟨grant, ?_, rfl, husable.capacity⟩
  rw [passingGrant, if_pos hconsents', hselect]
  simp [hchecked]

/-- A contract whose trial fails has no passing grant. -/
lemma passingGrant_of_failure {decision failure : Decision} {contract : ContractRecord}
    (h : tryCandidate registry query view decision contract = .error failure) :
    passingGrant registry query view contract = none := by
  by_contra hsome
  obtain ⟨grant, hgrant⟩ := Option.ne_none_iff_exists'.mp hsome
  unfold passingGrant at hgrant
  split at hgrant
  · rename_i hconsents
    obtain ⟨u, hconsents⟩ := isOk_iff.mp hconsents
    obtain ⟨hselect, hchecked⟩ := Option.filter_eq_some_iff.mp hgrant
    obtain ⟨v, hchecked⟩ := isOk_iff.mp hchecked
    have hok : tryCandidate registry query view decision _ = .ok _ := tryCandidate_eq_ok.mpr
      ⟨checkConsents_eq_ok.mp hconsents, grant, hselect, checkSelectedGrant_eq_ok.mp hchecked, rfl⟩
    rw [h] at hok
    cases hok
  · cases hgrant

lemma chosen_of_tryCandidates {decision trial : Decision} {contracts : List ContractRecord} {best : Option Decision}
    (h : tryCandidates registry query view decision contracts best = .ok trial) :
    ∃ grant, contracts.findSome? (passingGrant registry query view) = some grant ∧ trial.capacity = grant.capacity ∧
      ¬grant.capacity < query.requestedCapacity := by
  induction contracts generalizing best with
  | nil => cases best <;> cases h
  | cons contract rest ih =>
    rw [tryCandidates] at h
    cases htry : tryCandidate registry query view decision contract with
    | ok found =>
      rw [htry] at h
      cases h
      obtain ⟨grant, hgrant, hfacts⟩ := passingGrant_of_trial htry
      exact ⟨grant, by simp [hgrant], hfacts⟩
    | error failure =>
      rw [htry] at h
      obtain ⟨grant, hgrant, hfacts⟩ := ih h
      exact ⟨grant, by simp [passingGrant_of_failure htry, hgrant], hfacts⟩

end Capacity

end InterClusterFabric.EngineEvidence
