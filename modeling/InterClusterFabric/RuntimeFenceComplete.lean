import InterClusterFabric.RuntimeClusterFences

/-! What the plan against a cluster covers: every grant of its contracts that holds or may gain authority and
every reservation of theirs that is not released, unless the plan is past its bound before it comes to them. -/
namespace InterClusterFabric.RuntimeFenceComplete
open CoreStatus CoreIds CoreTime ModelRecords ModelRegistry ModelRegistryLaws EngineDecision EngineSoundness
open RuntimeFencing RuntimeFencePlans RuntimeClusterFences LibraryOrdMap LibraryProgram

/-- The states in which a grant holds or may still gain authority. -/
def Held (state : GrantState) : Prop :=
  state = .preparing ∨ state = .prepared ∨ state = .committed ∨ state = .active ∨ state = .indeterminate

lemma livesOn_iff {grant : GrantRecord} : livesOn grant = true ↔ Held grant.state := by
  unfold livesOn GrantRecord.usableState Held
  cases grant.state <;> decide

/-- The grant belongs to a contract that names the cluster. -/
def Concerns (registry : Registry) (cluster : ClusterId) (grant : GrantRecord) : Prop :=
  ∃ contract, registry.contracts[grant.contract]? = some contract ∧ (contract.sideOf cluster).isSome = true

/-- The grants a fence of the cluster has to reach. -/
def GrantDue (registry : Registry) (cluster : ClusterId) (id : GrantId) : Prop :=
  ∃ grant, registry.grants[id]? = some grant ∧ Held grant.state ∧ Concerns registry cluster grant

/-- The reservations a fence of the cluster has to reach. -/
def ReservationDue (registry : Registry) (cluster : ClusterId) (id : ReservationId) : Prop :=
  ∃ reservation grant, registry.reservations[id]? = some reservation ∧ reservation.released = false ∧
    registry.grants[reservation.grant]? = some grant ∧ Concerns registry cluster grant

/-- The plan names exactly what is due, and nothing of it is left once the plan has been applied. -/
structure Complete (registry : Registry) (cluster : ClusterId) (plan : FencePlan) : Prop where
  grants : ∀ id, (∃ action ∈ plan.actions, action.target = .grant ∧ action.grant = id) ↔
    GrantDue registry cluster id
  reservations : ∀ id, (∃ action ∈ plan.actions, action.target = .reservation ∧ action.reservation = id) ↔
    ReservationDue registry cluster id
  closes : ∀ now actor outcome next, applyFencePlan plan now actor registry = (.ok outcome, next) →
    (∀ id, ¬GrantDue next cluster id) ∧ ∀ id, ¬ReservationDue next cluster id

/-- Some action of the plan is due against a grant of the contract. -/
def Burdened (registry : Registry) (contract : ContractRecord) : Prop :=
  ∃ id grant, registry.grants[(id : GrantId)]? = some grant ∧ grant.contract = contract.id ∧
    (Held grant.state ∨ ∃ key reservation, registry.reservations[(key : ReservationId)]? = some reservation ∧
      reservation.grant = id ∧ reservation.released = false)

/-- The plan against the cluster is within its bound whenever it comes to a contract with something due. -/
def PlanReaches (registry : Registry) (cluster : ClusterId) : Prop :=
  ∀ id contract, registry.contracts[(id : ContractId)]? = some contract → names cluster contract = true →
    Burdened registry contract → entriesBefore registry cluster id ≤ Limits.maxFencePlanEntries

section Plan

variable {registry : Registry} {cluster : ClusterId} {reason : ReasonCode} {contract : ContractRecord}

/-- The grants that the actions against one contract name. -/
lemma grant_mem_planContract {id : GrantId} :
    (∃ action ∈ planContract registry reason contract, action.target = .grant ∧ action.grant = id) ↔
      ∃ grant ∈ values registry.grants, grant.contract = contract.id ∧ livesOn grant = true ∧ grant.id = id := by
  constructor
  · rintro ⟨action, haction, htarget, rfl⟩
    simp only [planContract, List.mem_append, List.mem_flatMap, List.mem_filter, beq_iff_eq] at haction
    rcases haction with ⟨grant, ⟨hmem, hof⟩, haction⟩ | haction
    · simp only [planGrant, List.mem_append, List.mem_map] at haction
      rcases haction with hgrant | ⟨reservation, -, rfl⟩
      · split at hgrant
        · rename_i hlives
          rw [List.mem_singleton] at hgrant
          subst hgrant
          exact ⟨grant, hmem, hof, hlives, rfl⟩
        · cases hgrant
      · cases htarget
    · split at haction
      · rw [List.mem_singleton] at haction
        subst haction
        cases htarget
      · cases haction
  · rintro ⟨grant, hmem, hof, hlives, rfl⟩
    refine ⟨{ target := .grant, grant := grant.id, contract := contract.id, reason }, ?_, rfl, rfl⟩
    refine List.mem_append_left _ (List.mem_flatMap.mpr ⟨grant, List.mem_filter.mpr ⟨hmem, by simpa using hof⟩, ?_⟩)
    simp [planGrant, hlives]

/-- The reservations that the actions against one contract name. -/
lemma reservation_mem_planContract {id : ReservationId} :
    (∃ action ∈ planContract registry reason contract, action.target = .reservation ∧ action.reservation = id) ↔
      ∃ grant ∈ values registry.grants, grant.contract = contract.id ∧
        ∃ reservation ∈ openReservations registry grant.id, reservation.id = id := by
  constructor
  · rintro ⟨action, haction, htarget, rfl⟩
    simp only [planContract, List.mem_append, List.mem_flatMap, List.mem_filter, beq_iff_eq] at haction
    rcases haction with ⟨grant, ⟨hmem, hof⟩, haction⟩ | haction
    · simp only [planGrant, List.mem_append, List.mem_map] at haction
      rcases haction with hgrant | ⟨reservation, hopen, rfl⟩
      · split at hgrant
        · rw [List.mem_singleton] at hgrant
          subst hgrant
          cases htarget
        · cases hgrant
      · exact ⟨grant, hmem, hof, reservation, hopen, rfl⟩
    · split at haction
      · rw [List.mem_singleton] at haction
        subst haction
        cases htarget
      · cases haction
  · rintro ⟨grant, hmem, hof, reservation, hopen, rfl⟩
    refine ⟨{ target := .reservation, grant := grant.id, contract := contract.id, reservation := reservation.id, reason },
      ?_, rfl, rfl⟩
    refine List.mem_append_left _ (List.mem_flatMap.mpr ⟨grant, List.mem_filter.mpr ⟨hmem, by simpa using hof⟩, ?_⟩)
    exact List.mem_append_right _ (List.mem_map.mpr ⟨reservation, hopen, rfl⟩)

variable (hformed : WellFormed registry)
include hformed

/-- What the plan against a cluster holds is what it holds against one of the contracts it comes to. -/
lemma planFence_exists (trigger : FenceTrigger) (cluster : ClusterId) (new previous : IncarnationId)
    (generation : Generation) (term : Term) (P : FenceAction → Prop) :
    (∃ action ∈ (planFence registry trigger cluster new previous generation term).actions, P action) ↔
      ∃ id contract, registry.contracts[(id : ContractId)]? = some contract ∧ names cluster contract = true ∧
        entriesBefore registry cluster id ≤ Limits.maxFencePlanEntries ∧
        ∃ action ∈ planContract registry (grantReason trigger) contract, P action := by
  have hempty : ([] : List FenceAction).length ≤ Limits.maxFencePlanEntries := Nat.zero_le _
  constructor
  · rintro ⟨action, haction, hP⟩
    rcases (mem_planContracts hempty).mp haction with hnone | ⟨before, contract, after, hsplit, hparty, hmem, hfits⟩
    · cases hnone
    obtain ⟨id, hfind⟩ := mem_values.mp (show contract ∈ values registry.contracts by rw [hsplit]; simp)
    have hid : contract.id = id := (find_contract hformed hfind).1
    rw [before_eq_filter hformed hsplit, List.length_nil, Nat.zero_add, hid] at hfits
    exact ⟨id, contract, hfind, hparty, hfits, action, hmem, hP⟩
  · rintro ⟨id, contract, hfind, hparty, hfits, action, hmem, hP⟩
    have hid : contract.id = id := (find_contract hformed hfind).1
    obtain ⟨before, after, hsplit⟩ := List.append_of_mem (mem_values.mpr ⟨id, hfind⟩)
    refine ⟨action, (mem_planContracts hempty).mpr (.inr ⟨before, contract, after, hsplit, hparty, hmem, ?_⟩), hP⟩
    rw [before_eq_filter hformed hsplit, List.length_nil, Nat.zero_add, hid]
    exact hfits

omit hformed in
lemma mem_openReservations {id : GrantId} {reservation : ReservationRecord} :
    reservation ∈ openReservations registry id ↔
      reservation ∈ values registry.reservations ∧ reservation.grant = id ∧ reservation.released = false := by
  simp [openReservations, List.mem_filter]

variable {trigger : FenceTrigger} {new previous : IncarnationId} {generation : Generation} {term : Term}

/-- The grants the plan names are those due under the contracts it comes to. -/
lemma planFence_grants (id : GrantId) :
    (∃ action ∈ (planFence registry trigger cluster new previous generation term).actions,
      action.target = .grant ∧ action.grant = id) ↔
    ∃ grant contract, registry.grants[id]? = some grant ∧ Held grant.state ∧
      registry.contracts[grant.contract]? = some contract ∧ names cluster contract = true ∧
      entriesBefore registry cluster grant.contract ≤ Limits.maxFencePlanEntries := by
  rw [planFence_exists hformed]
  simp only [grant_mem_planContract, livesOn_iff]
  constructor
  · rintro ⟨key, contract, hfind, hparty, hfits, grant, hmem, hof, hheld, hid⟩
    obtain ⟨gkey, hgrant⟩ := mem_values.mp hmem
    have hgid : grant.id = gkey := (find_grant hformed hgrant).1
    have hcid : contract.id = key := (find_contract hformed hfind).1
    rw [← hgid, hid] at hgrant
    rw [← hcid, ← hof] at hfind hfits
    exact ⟨grant, contract, hgrant, hheld, hfind, hparty, hfits⟩
  · rintro ⟨grant, contract, hgrant, hheld, hfind, hparty, hfits⟩
    have hgid : grant.id = id := (find_grant hformed hgrant).1
    have hcid : contract.id = grant.contract := (find_contract hformed hfind).1
    exact ⟨_, contract, hfind, hparty, hfits, grant, mem_values.mpr ⟨id, hgrant⟩, hcid.symm, hheld, hgid⟩

/-- So are the reservations. -/
lemma planFence_reservations (id : ReservationId) :
    (∃ action ∈ (planFence registry trigger cluster new previous generation term).actions,
      action.target = .reservation ∧ action.reservation = id) ↔
    ∃ reservation grant contract, registry.reservations[id]? = some reservation ∧ reservation.released = false ∧
      registry.grants[reservation.grant]? = some grant ∧ registry.contracts[grant.contract]? = some contract ∧
      names cluster contract = true ∧
      entriesBefore registry cluster grant.contract ≤ Limits.maxFencePlanEntries := by
  rw [planFence_exists hformed]
  simp only [reservation_mem_planContract, mem_openReservations]
  constructor
  · rintro ⟨key, contract, hfind, hparty, hfits, grant, hmem, hof, reservation, ⟨hrmem, hheld, hopen⟩, hid⟩
    obtain ⟨gkey, hgrant⟩ := mem_values.mp hmem
    obtain ⟨rkey, hreservation⟩ := mem_values.mp hrmem
    have hgid : grant.id = gkey := (find_grant hformed hgrant).1
    have hrid : reservation.id = rkey := (find_reservation hformed hreservation).1
    have hcid : contract.id = key := (find_contract hformed hfind).1
    rw [← hrid, hid] at hreservation
    rw [← hgid, ← hheld] at hgrant
    rw [← hcid, ← hof] at hfind hfits
    exact ⟨reservation, grant, contract, hreservation, hopen, hgrant, hfind, hparty, hfits⟩
  · rintro ⟨reservation, grant, contract, hreservation, hopen, hgrant, hfind, hparty, hfits⟩
    have hgid : grant.id = reservation.grant := (find_grant hformed hgrant).1
    have hrid : reservation.id = id := (find_reservation hformed hreservation).1
    have hcid : contract.id = grant.contract := (find_contract hformed hfind).1
    exact ⟨_, contract, hfind, hparty, hfits, grant, mem_values.mpr ⟨_, hgrant⟩, hcid.symm, reservation,
      ⟨mem_values.mpr ⟨id, hreservation⟩, hgid.symm, hopen⟩, hrid⟩

end Plan

/-! Applying the plan. -/

section Closes

variable {registry next : Registry} {cluster : ClusterId} {trigger : FenceTrigger} {now : Timestamp}

/-- What concerns the cluster after a fence concerned it before. -/
lemma concerns_of_fences (h : Fences trigger now registry next) {grant : GrantRecord}
    (hconcerns : Concerns next cluster grant) : Concerns registry cluster grant := by
  obtain ⟨contract, hfind, hparty⟩ := hconcerns
  rcases h.contracts grant.contract with hsame | ⟨old, hold, -, hnext⟩
  · exact ⟨contract, by rw [← hsame, hfind], hparty⟩
  · rw [hnext] at hfind
    cases hfind
    exact ⟨old, hold, hparty⟩

/-- What is still due after a fence was due before. -/
lemma grantDue_of_fences (h : Fences trigger now registry next) {id : GrantId} (hdue : GrantDue next cluster id) :
    GrantDue registry cluster id := by
  obtain ⟨grant, hfind, hheld, hconcerns⟩ := hdue
  rcases h.grants id with hsame | ⟨old, -, -, hnext⟩
  · exact ⟨grant, by rw [← hsame, hfind], hheld, concerns_of_fences h hconcerns⟩
  · rw [hnext] at hfind
    cases hfind
    simp [Held, fencedGrant] at hheld

lemma reservationDue_of_fences (h : Fences trigger now registry next) {id : ReservationId}
    (hdue : ReservationDue next cluster id) : ReservationDue registry cluster id := by
  obtain ⟨reservation, grant, hfind, hopen, hgrant, hconcerns⟩ := hdue
  rcases h.reservations id with hsame | ⟨old, -, -, hnext⟩
  · refine ⟨reservation, ?_⟩
    rcases h.grants reservation.grant with hgsame | ⟨gold, hgold, -, hgnext⟩
    · exact ⟨grant, by rw [← hsame, hfind], hopen, by rw [← hgsame, hgrant], concerns_of_fences h hconcerns⟩
    · rw [hgnext] at hgrant
      cases hgrant
      exact ⟨gold, by rw [← hsame, hfind], hopen, hgold, concerns_of_fences h hconcerns⟩
  · rw [hnext] at hfind
    cases hfind
    cases hopen

/-- A plan that names everything due leaves nothing of it. -/
lemma closes_of_names (hformed : WellFormed registry) {plan : FencePlan}
    (hgrants : ∀ id, GrantDue registry cluster id → ∃ action ∈ plan.actions, action.target = .grant ∧ action.grant = id)
    (hreservations : ∀ id, ReservationDue registry cluster id →
      ∃ action ∈ plan.actions, action.target = .reservation ∧ action.reservation = id)
    {actor : Bytes} {outcome : FenceOutcome} (happlied : applyFencePlan plan now actor registry = (.ok outcome, next)) :
    (∀ id, ¬GrantDue next cluster id) ∧ ∀ id, ¬ReservationDue next cluster id := by
  obtain ⟨hfences, hreturns⟩ := applyFencePlan_fences hformed plan now actor
  rw [happlied] at hfences hreturns
  have hdone := hreturns outcome rfl
  constructor
  · intro id hdue
    obtain ⟨action, hmem, htarget, rfl⟩ := hgrants id (grantDue_of_fences hfences hdue)
    have hgone := hdone action hmem
    simp only [Done, htarget] at hgone
    obtain ⟨grant, hfind, hheld, -⟩ := hdue
    rcases hgone grant hfind with h | h | h <;> simp [Held, h] at hheld
  · intro id hdue
    obtain ⟨action, hmem, htarget, rfl⟩ := hreservations id (reservationDue_of_fences hfences hdue)
    have hreleased := hdone action hmem
    simp only [Done, htarget] at hreleased
    obtain ⟨reservation, -, hfind, hopen, -⟩ := hdue
    rw [hreleased reservation hfind] at hopen
    cases hopen

end Closes

section Complete

variable {registry : Registry} {cluster : ClusterId} {trigger : FenceTrigger} {new previous : IncarnationId}
  {generation : Generation} {term : Term}

/-- A plan that reaches every contract with something due is complete. -/
lemma complete_of_reaches (hformed : WellFormed registry) (h : PlanReaches registry cluster) :
    Complete registry cluster (planFence registry trigger cluster new previous generation term) := by
  have hgrants (id : GrantId) : (∃ action ∈ (planFence registry trigger cluster new previous generation term).actions,
      action.target = .grant ∧ action.grant = id) ↔ GrantDue registry cluster id := by
    rw [planFence_grants hformed]
    constructor
    · rintro ⟨grant, contract, hgrant, hheld, hfind, hparty, -⟩
      exact ⟨grant, hgrant, hheld, contract, hfind, hparty⟩
    · rintro ⟨grant, hgrant, hheld, contract, hfind, hparty⟩
      have hcid : contract.id = grant.contract := (find_contract hformed hfind).1
      exact ⟨grant, contract, hgrant, hheld, hfind, hparty,
        h grant.contract contract hfind hparty ⟨id, grant, hgrant, hcid.symm, .inl hheld⟩⟩
  have hreservations (id : ReservationId) :
      (∃ action ∈ (planFence registry trigger cluster new previous generation term).actions,
        action.target = .reservation ∧ action.reservation = id) ↔ ReservationDue registry cluster id := by
    rw [planFence_reservations hformed]
    constructor
    · rintro ⟨reservation, grant, contract, hreservation, hopen, hgrant, hfind, hparty, -⟩
      exact ⟨reservation, grant, hreservation, hopen, hgrant, contract, hfind, hparty⟩
    · rintro ⟨reservation, grant, hreservation, hopen, hgrant, contract, hfind, hparty⟩
      have hcid : contract.id = grant.contract := (find_contract hformed hfind).1
      exact ⟨reservation, grant, contract, hreservation, hopen, hgrant, hfind, hparty,
        h grant.contract contract hfind hparty
          ⟨reservation.grant, grant, hgrant, hcid.symm, .inr ⟨id, reservation, hreservation, rfl, hopen⟩⟩⟩
  refine ⟨hgrants, hreservations, fun now actor outcome next happlied => ?_⟩
  exact closes_of_names hformed (fun id => (hgrants id).mpr) (fun id => (hreservations id).mpr) happlied

/-- A plan that names everything due has come to every contract with something due. -/
lemma reaches_of_complete (hformed : WellFormed registry)
    (h : Complete registry cluster (planFence registry trigger cluster new previous generation term)) :
    PlanReaches registry cluster := by
  rintro id contract hfind hparty ⟨key, grant, hgrant, hof, hdue⟩
  have hcid : contract.id = id := (find_contract hformed hfind).1
  have hcontract : registry.contracts[grant.contract]? = some contract := by rw [hof, hcid, hfind]
  rcases hdue with hheld | ⟨rkey, reservation, hreservation, hbelongs, hopen⟩
  · have hnamed := (h.grants key).mpr ⟨grant, hgrant, hheld, contract, hcontract, hparty⟩
    obtain ⟨other, _, hother, -, -, -, hfits⟩ := (planFence_grants hformed key).mp hnamed
    obtain rfl : grant = other := Option.some.inj (hgrant.symm.trans hother)
    rwa [hof, hcid] at hfits
  · rw [← hbelongs] at hgrant
    have hnamed := (h.reservations rkey).mpr ⟨reservation, grant, hreservation, hopen, hgrant, contract, hcontract, hparty⟩
    obtain ⟨reservation', other, _, hreservation', -, hother, -, -, hfits⟩ :=
      (planFence_reservations hformed rkey).mp hnamed
    obtain rfl : reservation = reservation' := Option.some.inj (hreservation.symm.trans hreservation')
    obtain rfl : grant = other := Option.some.inj (hgrant.symm.trans hother)
    rwa [hof, hcid] at hfits

end Complete

/-- The plan against a cluster is complete exactly if it is within its bound whenever it comes to a
contract of the cluster with something due. -/
theorem planFence_complete_iff (registry : Registry) (hformed : WellFormed registry) (trigger : FenceTrigger)
    (cluster : ClusterId) (new previous : IncarnationId) (generation : Generation) (term : Term) :
    Complete registry cluster (planFence registry trigger cluster new previous generation term) ↔
      PlanReaches registry cluster :=
  ⟨reaches_of_complete hformed, complete_of_reaches hformed⟩

/-! Two contracts of the same cluster: many grants under the first, one under the second. -/

def crowdedContract (id : ContractId) : ContractRecord := { sampleContract with id }

/-- The grant under the second contract. -/
def lastGrant : GrantRecord := { sampleGrant with id := ⟨1⟩, contract := ⟨2⟩ }

def crowdId (i : ℕ) : GrantId := ⟨BitVec.ofNat 128 (i + 2)⟩

def crowdGrant (i : ℕ) : GrantRecord := { sampleGrant with id := crowdId i, contract := ⟨1⟩ }

def uncrowded : Registry :=
  store (store (store {} (.contract (crowdedContract ⟨1⟩))) (.contract (crowdedContract ⟨2⟩))) (.grant lastGrant)

def crowded : ℕ → Registry
  | 0 => uncrowded
  | n + 1 => store (crowded n) (.grant (crowdGrant n))

section Crowd

lemma crowdId_ne {i j : ℕ} (hi : i < 131072) (hj : j < 131072) (h : i ≠ j) : crowdId i ≠ crowdId j := by
  intro heq
  have hbits : BitVec.ofNat 128 (i + 2) = BitVec.ofNat 128 (j + 2) := congrArg StrongUuid.uuid heq
  have hnat := congrArg BitVec.toNat hbits
  simp only [BitVec.toNat_ofNat] at hnat
  omega

lemma crowdId_ne_last {i : ℕ} (hi : i < 131072) : crowdId i ≠ ⟨1⟩ := by
  intro heq
  have hbits : BitVec.ofNat 128 (i + 2) = BitVec.ofNat 128 1 := congrArg StrongUuid.uuid heq
  have hnat := congrArg BitVec.toNat hbits
  simp only [BitVec.toNat_ofNat] at hnat
  omega

lemma crowdId_notNil {i : ℕ} (hi : i < 131072) : (crowdId i).isNil = false := by
  have hne : BitVec.ofNat 128 (i + 2) ≠ 0 := by
    intro heq
    have hnat : (i + 2) % 2 ^ 128 = 0 := by simpa using congrArg BitVec.toNat heq
    omega
  simpa [StrongUuid.isNil, crowdId] using hne

lemma crowded_contracts (n : ℕ) : (crowded n).contracts = uncrowded.contracts := by
  induction n with
  | zero => rfl
  | succ n ih => exact ih

lemma crowded_size (n : ℕ) : (crowded n).grants.size ≤ n + 1 := by
  induction n with
  | zero => decide +kernel
  | succ n ih =>
    have hstep : (crowded (n + 1)).grants.size ≤ (crowded n).grants.size + 1 := size_insert_le_succ _ _ _
    omega

lemma uncrowded_wellFormed : WellFormed uncrowded := by
  refine store_wellFormed (store_wellFormed (store_wellFormed empty_wellFormed ?_ ?_) ?_ ?_) ?_ ?_
  · exact ⟨by decide, by decide, by decide, by decide, by decide⟩
  · exact .inr (by decide +kernel)
  · exact ⟨by decide, by decide, by decide, by decide, by decide⟩
  · exact .inr (by decide +kernel)
  · exact ⟨by decide, by decide, by decide⟩
  · exact .inr (by decide +kernel)

lemma crowded_wellFormed (n : ℕ) (hn : n < 131072) : WellFormed (crowded n) := by
  induction n with
  | zero => exact uncrowded_wellFormed
  | succ n ih =>
    have hroom : (crowded n).grants.size < Limits.maxGrants := by
      have hsize := crowded_size n
      have hmax : Limits.maxGrants = 131072 := rfl
      omega
    have hid : (crowdId n).isNil = false := crowdId_notNil (by omega)
    have hcontract : (⟨1⟩ : ContractId).isNil = false := by decide
    have hcapacity : sampleGrant.capacity.value ≤ Limits.maxCapacity := by decide
    exact store_wellFormed (ih (by omega)) ⟨hid, hcontract, hcapacity⟩ (.inr hroom)

lemma crowded_last (n : ℕ) (hn : n < 131072) : (crowded n).grants[(⟨1⟩ : GrantId)]? = some lastGrant := by
  induction n with
  | zero => decide +kernel
  | succ n ih =>
    show ((crowded n).grants.insert (crowdId n) (crowdGrant n))[(⟨1⟩ : GrantId)]? = _
    rw [getElem?_insert_eq, if_neg (crowdId_ne_last (by omega)).symm, ih (by omega)]

lemma crowded_find {i : ℕ} (n : ℕ) (hn : n < 131072) (hi : i < n) :
    (crowded n).grants[crowdId i]? = some (crowdGrant i) := by
  induction n with
  | zero => omega
  | succ n ih =>
    show ((crowded n).grants.insert (crowdId n) (crowdGrant n))[crowdId i]? = _
    rw [getElem?_insert_eq]
    by_cases h : i = n
    · subst h
      rw [if_pos rfl]
    · rw [if_neg (crowdId_ne (by omega) (by omega) h), ih (by omega) (by omega)]

/-- Each grant of the crowd is named by an action of the plan. -/
lemma crowded_planSize (n : ℕ) (hn : n < 131072) : n ≤ planSize (crowded n) (crowdedContract ⟨1⟩) := by
  have hnodup : ((List.range n).map crowdId).Nodup := by
    refine List.Nodup.map_on (fun i hi j hj heq => ?_) List.nodup_range
    rw [List.mem_range] at hi hj
    by_contra hne
    exact crowdId_ne (by omega) (by omega) hne heq
  have hsubset : (List.range n).map crowdId ⊆
      (planContract (crowded n) .none (crowdedContract ⟨1⟩)).map FenceAction.grant := by
    intro id hid
    obtain ⟨i, hi, rfl⟩ := List.mem_map.mp hid
    have hfind := crowded_find n hn (List.mem_range.mp hi)
    have hlives : livesOn (crowdGrant i) = true := livesOn_iff.mpr (.inr (.inr (.inl rfl)))
    have hnamed : ∃ action ∈ planContract (crowded n) .none (crowdedContract ⟨1⟩),
        action.target = .grant ∧ action.grant = crowdId i :=
      grant_mem_planContract.mpr ⟨crowdGrant i, mem_values.mpr ⟨crowdId i, hfind⟩, rfl, hlives, rfl⟩
    obtain ⟨action, haction, -, hgrant⟩ := hnamed
    exact List.mem_map.mpr ⟨action, haction, hgrant⟩
  have hlength := (hnodup.subperm hsubset).length_le
  simpa [planSize] using hlength

/-- The second contract comes after all of them. -/
lemma crowded_entriesBefore (n : ℕ) (hn : n < 131072) :
    n ≤ entriesBefore (crowded n) (sampleParty .first).cluster ⟨2⟩ := by
  have hbefore : ((values uncrowded.contracts).filter fun c =>
      names (sampleParty .first).cluster c && compare c.id ⟨2⟩ == .lt) = [crowdedContract ⟨1⟩] := by decide +kernel
  unfold entriesBefore
  rw [crowded_contracts, hbefore]
  simpa using crowded_planSize n hn

end Crowd

/-- With 65537 grants under the first contract the plan does not come to the second one. -/
theorem crowded_plan_incomplete : WellFormed (crowded 65537) ∧
    ¬Complete (crowded 65537) (sampleParty .first).cluster
      (planFence (crowded 65537) .manual (sampleParty .first).cluster ⟨1⟩ ⟨1⟩ ⟨1⟩ ⟨1⟩) := by
  have hformed := crowded_wellFormed 65537 (by omega)
  refine ⟨hformed, fun hcomplete => ?_⟩
  have hsecond : uncrowded.contracts[(⟨2⟩ : ContractId)]? = some (crowdedContract ⟨2⟩) := by decide +kernel
  rw [← crowded_contracts 65537] at hsecond
  have hburden : Burdened (crowded 65537) (crowdedContract ⟨2⟩) :=
    ⟨⟨1⟩, lastGrant, crowded_last 65537 (by omega), rfl, .inl (.inr (.inr (.inl rfl)))⟩
  have hfits := reaches_of_complete hformed hcomplete ⟨2⟩ _ hsecond (by decide) hburden
  have hfull := crowded_entriesBefore 65537 (by omega)
  have hmax : Limits.maxFencePlanEntries = 65536 := rfl
  omega

/-- Without the crowd it does. -/
theorem uncrowded_plan_complete : WellFormed uncrowded ∧
    Complete uncrowded (sampleParty .first).cluster
      (planFence uncrowded .manual (sampleParty .first).cluster ⟨1⟩ ⟨1⟩ ⟨1⟩ ⟨1⟩) := by
  refine ⟨uncrowded_wellFormed, (planFence_complete_iff uncrowded uncrowded_wellFormed _ _ _ _ _ _).mpr ?_⟩
  intro id contract hfind _ _
  have hall : (uncrowded.contracts.keys.all fun id =>
      decide (entriesBefore uncrowded (sampleParty .first).cluster id ≤ Limits.maxFencePlanEntries)) = true := by
    decide +kernel
  have hmem : id ∈ uncrowded.contracts.keys := Std.ExtTreeMap.mem_keys.mpr (mem_iff_isSome.mpr (by rw [hfind]; rfl))
  simpa using List.all_eq_true.mp hall id hmem

end InterClusterFabric.RuntimeFenceComplete
