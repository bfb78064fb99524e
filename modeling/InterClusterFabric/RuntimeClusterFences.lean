import InterClusterFabric.EngineInterference
import InterClusterFabric.RuntimeFencePlans

/-! The fences of a cluster: which contracts its plan names, and what carrying a plan out leaves alone. -/
namespace InterClusterFabric.RuntimeClusterFences
open CoreStatus CoreIds CoreTime CoreHash ModelRecords ModelRegistry ModelRegistryLaws EngineDecision
open EngineInterference RuntimeFencing RuntimeCoordinator RuntimeEdits RuntimeSteps RuntimeFencePlans LibraryChecked LibraryOrdMap
open LibraryProgram

/-! The plan. -/

/-- How many actions a contract adds to a plan. -/
def planSize (registry : Registry) (contract : ContractRecord) : ℕ := (planContract registry .none contract).length

/-- The contract is one the cluster is a party of. -/
def names (cluster : ClusterId) (contract : ContractRecord) : Bool := (contract.sideOf cluster).isSome

/-- How many actions the contracts of the cluster before this one add to a plan. -/
def entriesBefore (registry : Registry) (cluster : ClusterId) (id : ContractId) : ℕ :=
  (((values registry.contracts).filter fun c => names cluster c && compare c.id id == .lt).map
    (planSize registry)).sum

/-- Some grant of the contract still holds or may still gain authority. -/
def HasLiveGrant (registry : Registry) (id : ContractId) : Prop :=
  ∃ key grant, registry.grants[(key : GrantId)]? = some grant ∧ grant.contract = id ∧ livesOn grant = true

section Plan

variable {registry : Registry} {cluster : ClusterId} {reason : ReasonCode}

lemma planContract_length (registry : Registry) (reason : ReasonCode) (contract : ContractRecord) :
    (planContract registry reason contract).length = planSize registry contract := by
  have hgrant (grant : GrantRecord) : (planGrant registry contract reason grant).length =
      (planGrant registry contract .none grant).length := by
    simp only [planGrant, List.length_append, List.length_map]
    split <;> rfl
  simp only [planSize, planContract, List.length_append, List.length_flatMap, hgrant]
  congr 1
  split <;> rfl

/-- The plan takes the contracts of the cluster in their order, until it is past its bound. -/
lemma mem_planContracts {contracts : List ContractRecord} {actions : List FenceAction} {action : FenceAction}
    (hroom : actions.length ≤ Limits.maxFencePlanEntries) :
    action ∈ planContracts registry cluster reason contracts actions ↔
      action ∈ actions ∨ ∃ before contract after, contracts = before ++ contract :: after ∧
        names cluster contract = true ∧ action ∈ planContract registry reason contract ∧
        actions.length + ((before.filter (names cluster)).map (planSize registry)).sum ≤
          Limits.maxFencePlanEntries := by
  induction contracts generalizing actions with
  | nil => simp [planContracts]
  | cons head rest ih =>
    rw [planContracts]
    by_cases hnames : head.sideOf cluster = none
    · have hother : names cluster head = false := by simp [names, hnames]
      rw [if_pos hnames, ih hroom]
      refine or_congr_right ⟨?_, ?_⟩
      · rintro ⟨before, contract, after, rfl, hparty, hmem, hfits⟩
        exact ⟨head :: before, contract, after, rfl, hparty, hmem, by simpa [hother] using hfits⟩
      · rintro ⟨before, contract, after, hsplit, hparty, hmem, hfits⟩
        cases before with
        | nil =>
          obtain ⟨rfl, -⟩ := List.cons.inj hsplit
          rw [hother] at hparty
          cases hparty
        | cons first before =>
          obtain ⟨rfl, hrest⟩ := List.cons.inj hsplit
          exact ⟨before, contract, after, hrest, hparty, hmem, by simpa [hother] using hfits⟩
    · have hparty : names cluster head = true := by simpa [names, Option.isSome_iff_ne_none] using hnames
      have hlength : (actions ++ planContract registry reason head).length =
          actions.length + planSize registry head := by
        rw [List.length_append, planContract_length]
      rw [if_neg hnames]
      dsimp only
      split
      · rename_i hfull
        rw [hlength] at hfull
        rw [List.mem_append]
        refine or_congr_right ⟨fun hmem => ⟨[], head, rest, rfl, hparty, hmem, by simpa using hroom⟩, ?_⟩
        rintro ⟨before, contract, after, hsplit, -, hmem, hfits⟩
        cases before with
        | nil =>
          obtain ⟨rfl, -⟩ := List.cons.inj hsplit
          exact hmem
        | cons first before =>
          obtain ⟨rfl, -⟩ := List.cons.inj hsplit
          simp only [List.filter_cons, hparty, if_true, List.map_cons, List.sum_cons] at hfits
          omega
      · rename_i hfits
        rw [hlength] at hfits
        rw [ih (by omega), List.mem_append, hlength, or_assoc]
        refine or_congr_right ⟨?_, ?_⟩
        · rintro (hmem | ⟨before, contract, after, rfl, hother, hmem, hsum⟩)
          · exact ⟨[], head, rest, rfl, hparty, hmem, by simpa using hroom⟩
          · refine ⟨head :: before, contract, after, rfl, hother, hmem, ?_⟩
            simp only [List.filter_cons, hparty, if_true, List.map_cons, List.sum_cons]
            omega
        · rintro ⟨before, contract, after, hsplit, hother, hmem, hsum⟩
          cases before with
          | nil =>
            obtain ⟨rfl, -⟩ := List.cons.inj hsplit
            exact .inl hmem
          | cons first before =>
            obtain ⟨rfl, hrest⟩ := List.cons.inj hsplit
            simp only [List.filter_cons, hparty, if_true, List.map_cons, List.sum_cons] at hsum
            exact .inr ⟨before, contract, after, hrest, hother, hmem, by omega⟩

/-- What the actions against one contract name: its own live grants, their reservations, and the contract
itself if it has a live grant. -/
lemma mem_planContract {contract : ContractRecord} {action : FenceAction}
    (h : action ∈ planContract registry reason contract) :
    (action.target = .grant ∧ ∃ grant ∈ values registry.grants, grant.contract = contract.id ∧
      action.grant = grant.id) ∨
    action.target = .reservation ∨
    (action.target = .contract ∧ action.contract = contract.id ∧
      ∃ grant ∈ values registry.grants, grant.contract = contract.id ∧ livesOn grant = true) := by
  simp only [planContract, List.mem_append, List.mem_flatMap, List.mem_filter, beq_iff_eq] at h
  rcases h with ⟨grant, ⟨hmem, hcontract⟩, haction⟩ | haction
  · simp only [planGrant, List.mem_append, List.mem_map] at haction
    rcases haction with hgrant | ⟨reservation, -, rfl⟩
    · split at hgrant
      · rw [List.mem_singleton] at hgrant
        subst hgrant
        exact .inl ⟨rfl, grant, hmem, hcontract, rfl⟩
      · cases hgrant
    · exact .inr (.inl rfl)
  · split at haction
    · rename_i hlive
      rw [List.mem_singleton] at haction
      subst haction
      obtain ⟨grant, hgrant, hlives⟩ := List.any_eq_true.mp (Bool.and_eq_true_iff.mp hlive).1
      obtain ⟨hmem, hcontract⟩ := List.mem_filter.mp hgrant
      exact .inr (.inr ⟨rfl, rfl, grant, hmem, by simpa using hcontract, hlives⟩)
    · cases haction

lemma contract_mem_planContract {contract : ContractRecord} (hstate : contract.state ≠ .withdrawn)
    {grant : GrantRecord} (hmem : grant ∈ values registry.grants) (hcontract : grant.contract = contract.id)
    (hlives : livesOn grant = true) :
    ({ target := .contract, contract := contract.id, reason } : FenceAction) ∈
      planContract registry reason contract := by
  have hany : ((values registry.grants).filter fun grant => grant.contract == contract.id).any livesOn = true :=
    List.any_eq_true.mpr ⟨grant, List.mem_filter.mpr ⟨hmem, by simpa using hcontract⟩, hlives⟩
  have hlive : (((values registry.grants).filter fun grant => grant.contract == contract.id).any livesOn &&
      contract.state != .withdrawn) = true := by
    rw [hany]
    simpa using hstate
  simp only [planContract, hlive, if_true]
  simp

variable (hformed : WellFormed registry)
include hformed

/-- The plan against a cluster names only its contracts and their grants. -/
lemma planFence_names (trigger : FenceTrigger) (cluster : ClusterId) (new previous : IncarnationId)
    (generation : Generation) (term : Term) {action : FenceAction}
    (haction : action ∈ (planFence registry trigger cluster new previous generation term).actions) :
    ∃ contract, names cluster contract = true ∧ registry.contracts[contract.id]? = some contract ∧
      (action.target = .contract → action.contract = contract.id) ∧
      (action.target = .grant → ∃ grant, registry.grants[action.grant]? = some grant ∧ grant.contract = contract.id) := by
  rcases (mem_planContracts (Nat.zero_le _)).mp haction with hnone | ⟨before, contract, after, hsplit, hparty, hmem, -⟩
  · cases hnone
  obtain ⟨key, hkey⟩ := mem_values.mp (show contract ∈ values registry.contracts by rw [hsplit]; simp)
  have hid : contract.id = key := (find_contract hformed hkey).1
  rw [← hid] at hkey
  refine ⟨contract, hparty, hkey, ?_⟩
  rcases mem_planContract hmem with ⟨htarget, grant, hgrant, hof, hnamed⟩ | htarget | ⟨htarget, hcontract, -⟩
  · refine ⟨fun h => (by rw [htarget] at h; cases h), fun _ => ?_⟩
    obtain ⟨gkey, hgkey⟩ := mem_values.mp hgrant
    have hgid : grant.id = gkey := (find_grant hformed hgkey).1
    exact ⟨grant, by rw [hnamed, hgid, hgkey], hof⟩
  · exact ⟨fun h => (by rw [htarget] at h; cases h), fun h => (by rw [htarget] at h; cases h)⟩
  · exact ⟨fun _ => hcontract, fun h => (by rw [htarget] at h; cases h)⟩

lemma contracts_ordered : (values registry.contracts).Pairwise fun a b => compare a.id b.id = .lt := by
  refine values_ordered ContractRecord.id fun p hp => ?_
  exact (find_contract hformed (Std.ExtTreeMap.mem_toList_iff_getElem?_eq_some.mp hp)).1

/-- What comes before a contract in the order of the registry are the contracts with smaller identities. -/
lemma before_eq_filter {before after : List ContractRecord} {contract : ContractRecord}
    (hsplit : values registry.contracts = before ++ contract :: after) :
    before.filter (names cluster) =
      (values registry.contracts).filter fun c => names cluster c && compare c.id contract.id == .lt := by
  have hordered := contracts_ordered hformed
  rw [hsplit] at hordered ⊢
  obtain ⟨-, hlater, hacross⟩ := List.pairwise_append.mp hordered
  obtain ⟨hafter, -⟩ := List.pairwise_cons.mp hlater
  have hnone : (contract :: after).filter (fun c => names cluster c && compare c.id contract.id == .lt) = [] := by
    refine List.filter_eq_nil_iff.mpr fun c hc => ?_
    have hge : compare c.id contract.id ≠ .lt := by
      rcases List.mem_cons.mp hc with rfl | hmem
      · simp
      · simp [Std.OrientedCmp.gt_of_lt (hafter c hmem)]
    simp [hge]
  rw [List.filter_append, hnone, List.append_nil]
  refine List.filter_congr fun c hc => ?_
  simp [hacross c hc contract (by simp)]

/-- The plan against a cluster names a contract that is not withdrawn exactly if the cluster is a party, the
contract has a live grant, and the plan is not past its bound before it comes to the contract. -/
lemma planFence_names_contract (trigger : FenceTrigger) (cluster : ClusterId) (new previous : IncarnationId)
    (generation : Generation) (term : Term) {id : ContractId} {contract : ContractRecord}
    (hfind : registry.contracts[id]? = some contract) (hstate : contract.state ≠ .withdrawn) :
    (∃ action ∈ (planFence registry trigger cluster new previous generation term).actions,
        action.target = .contract ∧ action.contract = id) ↔
      names cluster contract = true ∧ HasLiveGrant registry id ∧
        entriesBefore registry cluster id ≤ Limits.maxFencePlanEntries := by
  have hid : contract.id = id := (find_contract hformed hfind).1
  have hempty : ([] : List FenceAction).length ≤ Limits.maxFencePlanEntries := Nat.zero_le _
  constructor
  · rintro ⟨action, haction, htarget, hcontract⟩
    rcases (mem_planContracts hempty).mp haction with hnone | ⟨before, other, after, hsplit, hparty, hmem, hfits⟩
    · cases hnone
    rcases mem_planContract hmem with ⟨hgrant, -⟩ | hreservation | ⟨-, hsame, grant, hgrant, hof, hlives⟩
    · rw [htarget] at hgrant
      cases hgrant
    · rw [htarget] at hreservation
      cases hreservation
    have hother : other = contract := by
      obtain ⟨key, hkey⟩ := mem_values.mp (show other ∈ values registry.contracts by rw [hsplit]; simp)
      have hkeyed : other.id = key := (find_contract hformed hkey).1
      rw [← hkeyed, ← hsame, hcontract, hfind] at hkey
      exact (Option.some.inj hkey).symm
    subst hother
    obtain ⟨key, hkey⟩ := mem_values.mp hgrant
    rw [before_eq_filter hformed hsplit, List.length_nil, Nat.zero_add, hid] at hfits
    exact ⟨hparty, ⟨key, grant, hkey, by rw [hof, hid], hlives⟩, hfits⟩
  · rintro ⟨hparty, ⟨key, grant, hkey, hof, hlives⟩, hfits⟩
    obtain ⟨before, after, hsplit⟩ := List.append_of_mem (mem_values.mpr ⟨id, hfind⟩)
    refine ⟨{ target := .contract, contract := contract.id, reason := grantReason trigger }, ?_, rfl, hid⟩
    refine (mem_planContracts hempty).mpr (.inr ⟨before, contract, after, hsplit, hparty, ?_, ?_⟩)
    · exact contract_mem_planContract hstate (mem_values.mpr ⟨key, hkey⟩) (by rw [hof, hid]) hlives
    · rw [before_eq_filter hformed hsplit, List.length_nil, Nat.zero_add, hid]
      exact hfits

end Plan

/-! What a plan leaves alone. -/

/-- What the actions of a plan may have done to a registry: they name every grant and every contract that
changed, capacity may have been returned, and nothing else has happened. -/
structure Spares (actions : List FenceAction) (registry next : Registry) : Prop where
  grants : ∀ id : GrantId, next.grants[id]? = registry.grants[id]? ∨
    (∃ g g', registry.grants[id]? = some g ∧ next.grants[id]? = some g' ∧ g'.contract = g.contract) ∧
      ∃ action ∈ actions, action.target = .grant ∧ action.grant = id
  contracts : ∀ id : ContractId, next.contracts[id]? = registry.contracts[id]? ∨
    (∃ c c', registry.contracts[id]? = some c ∧ next.contracts[id]? = some c' ∧ c'.parties = c.parties) ∧
      ∃ action ∈ actions, action.target = .contract ∧ action.contract = id
  clusters : ∀ id : ClusterId, next.clusters[id]?.map bare = registry.clusters[id]?.map bare
  topology : next.links = registry.links ∧ next.paths = registry.paths
  policies : next.policies = registry.policies

section Spares

variable {actions : List FenceAction} {registry next last : Registry}

lemma Spares.refl (registry : Registry) : Spares actions registry registry :=
  ⟨fun _ => .inl rfl, fun _ => .inl rfl, fun _ => rfl, ⟨rfl, rfl⟩, rfl⟩

lemma Spares.trans (h : Spares actions registry next) (h' : Spares actions next last) :
    Spares actions registry last where
  grants id := by
    rcases h.grants id with hsame | ⟨⟨g, g', hg, hg', hcontract⟩, haction⟩
    · rw [← hsame]
      exact h'.grants id
    · rcases h'.grants id with hsame | ⟨⟨old, g'', hold, hg'', hcontract'⟩, -⟩
      · exact .inr ⟨⟨g, g', hg, by rw [hsame, hg'], hcontract⟩, haction⟩
      · rw [hg', Option.some.injEq] at hold
        subst hold
        exact .inr ⟨⟨g, g'', hg, hg'', hcontract'.trans hcontract⟩, haction⟩
  contracts id := by
    rcases h.contracts id with hsame | ⟨⟨c, c', hc, hc', hparties⟩, haction⟩
    · rw [← hsame]
      exact h'.contracts id
    · rcases h'.contracts id with hsame | ⟨⟨old, c'', hold, hc'', hparties'⟩, -⟩
      · exact .inr ⟨⟨c, c', hc, by rw [hsame, hc'], hparties⟩, haction⟩
      · rw [hc', Option.some.injEq] at hold
        subst hold
        exact .inr ⟨⟨c, c'', hc, hc'', hparties'.trans hparties⟩, haction⟩
  clusters id := (h'.clusters id).trans (h.clusters id)
  topology := ⟨h'.topology.1.trans h.topology.1, h'.topology.2.trans h.topology.2⟩
  policies := h'.policies.trans h.policies

instance : Std.Refl (Spares actions) := ⟨Spares.refl⟩
instance : IsTrans Registry (Spares actions) := ⟨fun _ _ _ => Spares.trans⟩

lemma audit_spares {t : Timestamp} {actor action subject detail : Bytes} {result : Outcome} :
    Steps (Spares actions) (RuntimeFencing.appendAudit t actor action subject result detail) registry
      fun _ _ => True := by
  refine Steps.update fun next hok => ?_
  obtain ⟨-, -, rfl⟩ := appendAudit_eq_ok.mp hok
  exact ⟨⟨fun _ => .inl rfl, fun _ => .inl rfl, fun _ => rfl, ⟨rfl, rfl⟩, rfl⟩, trivial⟩

lemma fenceGrantAction_spares (trigger : FenceTrigger) (now : Timestamp) (actor : Bytes) (outcome : FenceOutcome)
    {id : GrantId} (haction : ∃ action ∈ actions, action.target = .grant ∧ action.grant = id) :
    Steps (Spares actions) (fenceGrantAction trigger now actor outcome id) registry fun _ _ => True := by
  refine Steps.get_bind ?_
  split
  · exact Steps.pure trivial
  rename_i grant hfind
  split
  · exact Steps.pure trivial
  refine Steps.modify_bind ⟨fun key => ?_, fun _ => .inl rfl, fun _ => rfl, ⟨rfl, rfl⟩, rfl⟩ ?_
  · rw [setGrant, getElem?_insert_eq]
    by_cases hkey : key = id
    · subst hkey
      exact .inr ⟨⟨grant, fencedGrant trigger now grant, hfind, if_pos rfl, rfl⟩, haction⟩
    · exact .inl (by rw [if_neg hkey])
  · exact Steps.bind audit_spares fun _ _ _ _ => Steps.pure trivial

lemma fenceContractAction_spares (trigger : FenceTrigger) (now : Timestamp) (actor : Bytes) (outcome : FenceOutcome)
    {id : ContractId} (haction : ∃ action ∈ actions, action.target = .contract ∧ action.contract = id) :
    Steps (Spares actions) (fenceContractAction trigger now actor outcome id) registry fun _ _ => True := by
  refine Steps.get_bind ?_
  split
  · exact Steps.pure trivial
  rename_i contract hfind
  split
  · exact Steps.pure trivial
  refine Steps.modify_bind ⟨fun _ => .inl rfl, fun key => ?_, fun _ => rfl, ⟨rfl, rfl⟩, rfl⟩ ?_
  · rw [setContract, getElem?_insert_eq]
    by_cases hkey : key = id
    · subst hkey
      exact .inr ⟨⟨contract, fencedContract trigger now contract, hfind, if_pos rfl, rfl⟩, haction⟩
    · exact .inl (by rw [if_neg hkey])
  · exact Steps.bind audit_spares fun _ _ _ _ => Steps.pure trivial

/-- Capacity is only ever reserved or returned at endpoints. -/
lemma updateEndpoint_unreserved {id : EndpointId} {f : EndpointRecord → EndpointRecord}
    (hf : ∀ e, unreserved (f e) = unreserved e) (endpoints : List EndpointRecord) :
    (updateEndpoint id f endpoints).map unreserved = endpoints.map unreserved := by
  induction endpoints with
  | nil => rfl
  | cons e rest ih =>
    rw [updateEndpoint]
    split
    · simp [hf]
    · simp [ih]

lemma releaseAction_spares (now : Timestamp) (outcome : FenceOutcome) (id : ReservationId) :
    Steps (Spares actions) (releaseAction now outcome id) registry fun _ _ => True := by
  refine Steps.get_bind ?_
  split
  · exact Steps.pure trivial
  rename_i reservation hfind
  refine ⟨?_, fun _ _ => trivial⟩
  show Spares actions registry (releaseReservation registry reservation now outcome).2
  unfold releaseReservation
  split
  · exact .refl registry
  · refine ⟨fun _ => .inl ?_, fun _ => .inl ?_, fun key => ?_, ?_, ?_⟩
    · dsimp only [returnToClusters]
      split <;> rfl
    · dsimp only [returnToClusters]
      split <;> rfl
    · have hclusters : (returnToClusters (if reservation.id ∈ registry.reservations then
          setReservation registry reservation.id (released reservation now) else registry) reservation now).clusters[key]? =
          registry.clusters[key]?.map fun cluster => { cluster with
            endpoints := updateEndpoint reservation.endpoint (returnCapacity reservation.amount now)
              cluster.endpoints } := by
        rw [returnToClusters_find]
        split <;> rfl
      rw [hclusters, Option.map_map]
      congr 1
      funext cluster
      simp only [Function.comp, bare, updateEndpoint_unreserved (f := returnCapacity reservation.amount now) fun _ => rfl]
    · dsimp only [returnToClusters]
      split <;> exact ⟨rfl, rfl⟩
    · dsimp only [returnToClusters]
      split <;> rfl

lemma applyFencePlan_spares (plan : FencePlan) (now : Timestamp) (actor : Bytes) :
    Steps (Spares plan.actions) (applyFencePlan plan now actor) registry fun _ _ => True := by
  refine Steps.foldEach (I := fun _ _ => True) trivial fun action haction outcome middle _ _ => ?_
  cases htarget : action.target with
  | grant =>
    simp only [fenceAction, htarget]
    exact fenceGrantAction_spares _ _ _ _ ⟨action, haction, htarget, rfl⟩
  | contract =>
    simp only [fenceAction, htarget]
    exact fenceContractAction_spares _ _ _ _ ⟨action, haction, htarget, rfl⟩
  | reservation =>
    simp only [fenceAction, htarget]
    exact releaseAction_spares _ _ _

end Spares

/-! Carrying out a plan. -/

/-- What a plan against a cluster has done to the registry of a process. -/
structure Fenced (plan : FencePlan) (s s' : Coordinator) : Prop where
  fences : ∃ now, Fences plan.trigger now s.registry s'.registry
  spares : Spares plan.actions s.registry s'.registry
  done : ∀ action ∈ plan.actions, Done s'.registry action

section Carried

variable {scene : Scene} {s : Coordinator}

/-- However far a plan is carried out, it changes only what its actions name. -/
lemma fencePlanApply_spares (plan : FencePlan) (actor : String) :
    Steps (fun s s' => Spares plan.actions s.registry s'.registry) (fencePlanApply plan actor) s fun _ _ => True := by
  have hrefl : Std.Refl fun s s' : Coordinator => Spares plan.actions s.registry s'.registry := ⟨fun _ => .refl _⟩
  have htrans : IsTrans Coordinator fun s s' => Spares plan.actions s.registry s'.registry :=
    ⟨fun _ _ _ => Spares.trans⟩
  have hkept {α : Type} {p : Op α} {s : Coordinator} {Q : α → Coordinator → Prop} (h : Steps Kept p s Q) :
      Steps (fun s s' => Spares plan.actions s.registry s'.registry) p s fun _ _ => True := by
    refine (h.weaken fun s' h' => ?_).mono fun _ _ _ => trivial
    rw [h'.registry]
    exact .refl _
  unfold fencePlanApply
  split
  · exact Steps.pure trivial
  refine Steps.get_bind (Steps.bind (hkept now_keeps) fun now s₁ _ _ => ?_)
  refine Steps.bind (P := fun _ _ => True) (Steps.focus (applyFencePlan_spares plan now (ascii actor)) (fun _ h => h)
    fun _ _ _ _ => trivial) fun outcome s₂ _ _ => Steps.modify_bind (.refl _) ?_
  refine Steps.bind (hkept (Steps.foldEach (I := fun _ _ => True) trivial fun _ _ _ _ _ _ => logAction_keeps _ _))
    fun fenced s₃ _ _ => ?_
  refine Steps.bind (hkept logClusters_keeps) fun _ s₄ _ _ => Steps.bind (hkept (logAudit_keeps _)) fun _ s₅ _ _ => ?_
  exact hkept (announceFence_keeps _ _)

/-- A plan that has been carried out has fenced what it names, and nothing else. -/
lemma fencePlanApply_fences (hformed : WellFormed s.registry) (plan : FencePlan) (actor : String) :
    Does scene (fencePlanApply plan actor) s fun _ s' => Fenced plan s s' := by
  unfold fencePlanApply
  split
  · rename_i hnone
    exact Steps.pure ⟨⟨⟨0⟩, .refl _⟩, .refl _, fun action haction => by rw [hnone] at haction; cases haction⟩
  refine Steps.get_bind (keeps_bind now_keeps fun now s₁ h₁ => ?_)
  have hplan : Steps (Edits scene) (applyFencePlan plan now (ascii actor)) s₁.registry fun _ next =>
      Fences plan.trigger now s₁.registry next ∧ Spares plan.actions s₁.registry next ∧
        ∀ action ∈ plan.actions, Done next action := by
    have hformed₁ : WellFormed s₁.registry := by rwa [h₁.registry]
    have hedits : Steps (Edits scene) (applyFencePlan plan now (ascii actor)) s₁.registry fun _ _ => True :=
      applyFencePlan_edits _ _ _
    have hall := ((hedits.and (applyFencePlan_fences hformed₁ plan now (ascii actor))).and
      (applyFencePlan_spares plan now (ascii actor))).weaken fun _ h => h.1.1
    exact hall.mono fun _ _ h => ⟨h.1.1.2, h.1.2, h.2.1.2⟩
  refine Steps.bind (onRegistry_does (Q := fun _ s' => Fences plan.trigger now s₁.registry s'.registry ∧
    Spares plan.actions s₁.registry s'.registry ∧ ∀ action ∈ plan.actions, Done s'.registry action) hplan
    fun _ _ h => h) fun outcome s₂ _ h₂ => ?_
  refine Steps.modify_bind within_count ?_
  refine keeps_bind (Steps.foldEach (I := fun _ _ => True) trivial fun _ _ _ _ _ _ => logAction_keeps _ _)
    fun fenced s₃ h₃ => ?_
  refine keeps_bind logClusters_keeps fun _ s₄ h₄ => keeps_bind (logAudit_keeps _) fun _ s₅ h₅ => ?_
  refine (Kept.does (announceFence_keeps _ _)).mono fun _ s₆ h₆ => ?_
  have hregistry : s₆.registry = s₂.registry := by
    rw [h₆.1.registry, h₅.registry, h₄.registry, h₃.registry]
  obtain ⟨hfences, hspares, hdone⟩ := h₂
  rw [h₁.registry] at hfences hspares
  refine ⟨⟨now, ?_⟩, ?_, ?_⟩
  · rw [hregistry]
    exact hfences
  · rw [hregistry]
    exact hspares
  · rw [hregistry]
    exact hdone

end Carried

end InterClusterFabric.RuntimeClusterFences
