import InterClusterFabric.RuntimeStepsAdmin

/-! What the application of a fence plan leaves behind, and when it goes through to its end. -/
namespace InterClusterFabric.RuntimeFencePlans
open CoreStatus CoreIds CoreTime CoreHash ModelRecords ModelRegistry ModelRegistryLaws EngineDecision
open RuntimeFencing RuntimeEdits RuntimeSteps StoreReplay LibraryChecked LibraryOrdMap LibraryProgram

/-- A grant that no fence has to touch. -/
abbrev GrantGone (state : GrantState) : Prop := state = .fenced ∨ state = .aborted ∨ state = .withdrawn

/-- A contract that no fence has to touch. -/
abbrev ContractGone (state : ContractState) : Prop := state = .withdrawn ∨ state = .fenced

/-- What an action is there for. -/
def Done (registry : Registry) (action : FenceAction) : Prop :=
  match action.target with
  | .grant => ∀ g, registry.grants[action.grant]? = some g → GrantGone g.state
  | .contract => ∀ c, registry.contracts[action.contract]? = some c → ContractGone c.state
  | .reservation => ∀ r, registry.reservations[action.reservation]? = some r → r.released = true

/-- What a plan may have done to a registry, record by record. -/
structure Fences (trigger : FenceTrigger) (now : Timestamp) (registry next : Registry) : Prop where
  grants : ∀ id : GrantId, next.grants[id]? = registry.grants[id]? ∨
    ∃ g, registry.grants[id]? = some g ∧ ¬GrantGone g.state ∧
      next.grants[id]? = some (fencedGrant trigger now g)
  contracts : ∀ id : ContractId, next.contracts[id]? = registry.contracts[id]? ∨
    ∃ c, registry.contracts[id]? = some c ∧ ¬ContractGone c.state ∧
      next.contracts[id]? = some (fencedContract trigger now c)
  reservations : ∀ id : ReservationId, next.reservations[id]? = registry.reservations[id]? ∨
    ∃ r, registry.reservations[id]? = some r ∧ r.released = false ∧
      next.reservations[id]? = some (released r now)

section Fences

variable {trigger : FenceTrigger} {now : Timestamp} {registry next last : Registry}

lemma gone_fencedContract (c : ContractRecord) : ContractGone (fencedContract trigger now c).state := by
  simp only [ContractGone, fencedContract]
  split
  · exact .inl rfl
  · exact .inr rfl

lemma Fences.refl (registry : Registry) : Fences trigger now registry registry :=
  ⟨fun _ => .inl rfl, fun _ => .inl rfl, fun _ => .inl rfl⟩

/-- A record that was touched once is not touched again. -/
lemma Fences.trans (h : Fences trigger now registry next) (h' : Fences trigger now next last) :
    Fences trigger now registry last where
  grants id := by
    rcases h.grants id with hsame | ⟨g, hfind, hopen, hnext⟩
    · rw [← hsame]
      exact h'.grants id
    · rcases h'.grants id with hsame | ⟨g', hfind', hopen', -⟩
      · exact .inr ⟨g, hfind, hopen, by rw [hsame, hnext]⟩
      · rw [hnext] at hfind'
        cases hfind'
        exact absurd (.inl rfl) hopen'
  contracts id := by
    rcases h.contracts id with hsame | ⟨c, hfind, hopen, hnext⟩
    · rw [← hsame]
      exact h'.contracts id
    · rcases h'.contracts id with hsame | ⟨c', hfind', hopen', -⟩
      · exact .inr ⟨c, hfind, hopen, by rw [hsame, hnext]⟩
      · rw [hnext] at hfind'
        cases hfind'
        exact absurd (gone_fencedContract c) hopen'
  reservations id := by
    rcases h.reservations id with hsame | ⟨r, hfind, hopen, hnext⟩
    · rw [← hsame]
      exact h'.reservations id
    · rcases h'.reservations id with hsame | ⟨r', hfind', hopen', -⟩
      · exact .inr ⟨r, hfind, hopen, by rw [hsame, hnext]⟩
      · rw [hnext] at hfind'
        cases hfind'
        cases hopen'

instance : Std.Refl (Fences trigger now) := ⟨Fences.refl⟩
instance : IsTrans Registry (Fences trigger now) := ⟨fun _ _ _ => Fences.trans⟩

/-- What is done stays done. -/
lemma Fences.done (h : Fences trigger now registry next) {action : FenceAction} (hdone : Done registry action) :
    Done next action := by
  unfold Done at hdone ⊢
  split at hdone
  · intro g hg
    rcases h.grants action.grant with hsame | ⟨g', hfind, -, hnext⟩
    · exact hdone g (by rw [← hsame, hg])
    · rw [hnext] at hg
      cases hg
      exact .inl rfl
  · intro c hc
    rcases h.contracts action.contract with hsame | ⟨c', hfind, -, hnext⟩
    · exact hdone c (by rw [← hsame, hc])
    · rw [hnext] at hc
      cases hc
      exact gone_fencedContract c'
  · intro r hr
    rcases h.reservations action.reservation with hsame | ⟨r', hfind, -, hnext⟩
    · exact hdone r (by rw [← hsame, hr])
    · rw [hnext] at hr
      cases hr
      rfl

end Fences

/-! One action. -/

section Actions

variable {trigger : FenceTrigger} {now : Timestamp} {actor : Bytes} {outcome : FenceOutcome} {registry : Registry}

lemma setGrant_fences {id : GrantId} {grant : GrantRecord} (hfind : registry.grants[id]? = some grant)
    (hopen : ¬GrantGone grant.state) :
    Fences trigger now registry (setGrant registry id (fencedGrant trigger now grant)) where
  grants key := by
    by_cases hkey : key = id
    · subst hkey
      exact .inr ⟨grant, hfind, hopen, Std.ExtTreeMap.getElem?_insert_self⟩
    · refine .inl ?_
      simp only [setGrant, getElem?_insert_eq, if_neg hkey]
  contracts _ := .inl rfl
  reservations _ := .inl rfl

lemma setContract_fences {id : ContractId} {contract : ContractRecord}
    (hfind : registry.contracts[id]? = some contract) (hopen : ¬ContractGone contract.state) :
    Fences trigger now registry (setContract registry id (fencedContract trigger now contract)) where
  grants _ := .inl rfl
  contracts key := by
    by_cases hkey : key = id
    · subst hkey
      exact .inr ⟨contract, hfind, hopen, Std.ExtTreeMap.getElem?_insert_self⟩
    · refine .inl ?_
      simp only [setContract, getElem?_insert_eq, if_neg hkey]
  reservations _ := .inl rfl

lemma audit_fences {t : Timestamp} {action subject detail : Bytes} {result : Outcome} {Q : Registry → Prop}
    (hQ : ∀ trail, Q { registry with audit := trail }) :
    Steps (Fences trigger now) (appendAudit t actor action subject result detail) registry fun _ => Q := by
  refine Steps.update fun next hok => ?_
  obtain ⟨-, -, rfl⟩ := appendAudit_eq_ok.mp hok
  exact ⟨⟨fun _ => .inl rfl, fun _ => .inl rfl, fun _ => .inl rfl⟩, hQ _⟩

/-- The reservations after one of them has been released. -/
lemma releaseReservation_reservations (now : Timestamp) (outcome : FenceOutcome) {id : ReservationId} {reservation : ReservationRecord}
    (hfind : registry.reservations[id]? = some reservation) (hid : reservation.id = id)
    (hopen : reservation.released = false) :
    (releaseReservation registry reservation now outcome).2.reservations =
      registry.reservations.insert id (released reservation now) := by
  have hmem : id ∈ registry.reservations := by
    rw [mem_iff_isSome, hfind]
    rfl
  simp only [releaseReservation, hopen, Bool.false_eq_true, if_false, hid, hmem, if_true, returnToClusters,
    setReservation]

lemma release_fences {id : ReservationId} {reservation : ReservationRecord}
    (hfind : registry.reservations[id]? = some reservation) (hid : reservation.id = id) :
    Fences trigger now registry (releaseReservation registry reservation now outcome).2 := by
  cases hopen : reservation.released with
  | true =>
    have hskip : (releaseReservation registry reservation now outcome).2 = registry := by
      simp only [releaseReservation, hopen, if_true]
    rw [hskip]
    exact .refl registry
  | false =>
    have hreservations := releaseReservation_reservations now outcome hfind hid hopen
    refine ⟨fun _ => .inl ?_, fun _ => .inl ?_, fun key => ?_⟩
    · simp only [releaseReservation, hopen, Bool.false_eq_true, if_false, returnToClusters]
      split <;> rfl
    · simp only [releaseReservation, hopen, Bool.false_eq_true, if_false, returnToClusters]
      split <;> rfl
    · rw [hreservations, getElem?_insert_eq]
      by_cases hkey : key = id
      · subst hkey
        exact .inr ⟨reservation, hfind, hopen, by rw [if_pos rfl]⟩
      · exact .inl (by rw [if_neg hkey])

lemma fenceGrantAction_fences (trigger : FenceTrigger) (now : Timestamp) (actor : Bytes)
    (outcome : FenceOutcome) (id : GrantId) :
    Steps (Fences trigger now) (fenceGrantAction trigger now actor outcome id) registry
      fun _ next => ∀ g, next.grants[id]? = some g → GrantGone g.state := by
  refine Steps.get_bind ?_
  split
  · rename_i hnone
    exact Steps.pure fun g hg => by rw [hnone] at hg; cases hg
  rename_i grant hfind
  split
  · rename_i hgone
    refine Steps.pure fun g hg => ?_
    rw [hfind] at hg
    cases hg
    exact hgone
  rename_i hopen
  refine Steps.modify_bind (setGrant_fences hfind hopen) ?_
  refine Steps.bind (audit_fences (Q := fun next => next.grants[id]? = some (fencedGrant trigger now grant))
    fun trail => ?_) fun _ next _ hnext => ?_
  · exact Std.ExtTreeMap.getElem?_insert_self
  · refine Steps.pure fun g hg => ?_
    rw [hnext] at hg
    cases hg
    exact .inl rfl

lemma fenceContractAction_fences (trigger : FenceTrigger) (now : Timestamp) (actor : Bytes)
    (outcome : FenceOutcome) (id : ContractId) :
    Steps (Fences trigger now) (fenceContractAction trigger now actor outcome id) registry
      fun _ next => ∀ c, next.contracts[id]? = some c → ContractGone c.state := by
  refine Steps.get_bind ?_
  split
  · rename_i hnone
    exact Steps.pure fun c hc => by rw [hnone] at hc; cases hc
  rename_i contract hfind
  split
  · rename_i hgone
    refine Steps.pure fun c hc => ?_
    rw [hfind] at hc
    cases hc
    exact hgone
  rename_i hopen
  refine Steps.modify_bind (setContract_fences hfind hopen) ?_
  refine Steps.bind (audit_fences (Q := fun next =>
    next.contracts[id]? = some (fencedContract trigger now contract)) fun trail => ?_) fun _ next _ hnext => ?_
  · exact Std.ExtTreeMap.getElem?_insert_self
  · refine Steps.pure fun c hc => ?_
    rw [hnext] at hc
    cases hc
    exact gone_fencedContract contract

lemma releaseAction_fences (trigger : FenceTrigger) (now : Timestamp) (outcome : FenceOutcome)
    (hformed : WellFormed registry) (id : ReservationId) :
    Steps (Fences trigger now) (releaseAction now outcome id) registry
      fun _ next => ∀ r, next.reservations[id]? = some r → r.released = true := by
  refine Steps.get_bind ?_
  split
  · rename_i hnone
    exact Steps.pure fun r hr => by rw [hnone] at hr; cases hr
  rename_i reservation hfind
  have hid := (find_reservation hformed hfind).1
  refine ⟨release_fences hfind hid, fun _ _ r hr => ?_⟩
  change (releaseReservation registry reservation now outcome).2.reservations[id]? = some r at hr
  cases hopen : reservation.released with
  | true =>
    have hskip : (releaseReservation registry reservation now outcome).2 = registry := by
      simp only [releaseReservation, hopen, if_true]
    rw [hskip, hfind] at hr
    cases hr
    exact hopen
  | false =>
    rw [releaseReservation_reservations now outcome hfind hid hopen, Std.ExtTreeMap.getElem?_insert_self] at hr
    cases hr
    rfl

/-- An action that returns has done what it is there for. -/
lemma fenceAction_fences (trigger : FenceTrigger) (now : Timestamp) (actor : Bytes) (outcome : FenceOutcome)
    (hformed : WellFormed registry) (action : FenceAction) :
    Steps (Fences trigger now) (fenceAction trigger now actor outcome action) registry
      fun _ next => Done next action := by
  cases htarget : action.target with
  | grant =>
    simp only [fenceAction, Done, htarget]
    exact fenceGrantAction_fences trigger now actor outcome action.grant
  | contract =>
    simp only [fenceAction, Done, htarget]
    exact fenceContractAction_fences trigger now actor outcome action.contract
  | reservation =>
    simp only [fenceAction, Done, htarget]
    exact releaseAction_fences trigger now outcome hformed action.reservation

lemma fenceAction_wellFormed (hformed : WellFormed registry) (action : FenceAction) :
    WellFormed (fenceAction trigger now actor outcome action registry).2 := by
  have hedits : Steps (Edits { base := registry, term := ⟨0⟩, incarnation := ⟨0⟩ })
      (fenceAction trigger now actor outcome action) registry fun _ _ => True := by
    unfold fenceAction
    split
    · exact fenceGrantAction_edits _ _ _ _ _
    · exact fenceContractAction_edits _ _ _ _ _
    · exact releaseAction_edits _ _ _
  exact edits_wellFormed hformed hedits.related

end Actions

/-- A plan fences what it names and nothing else, and if it returns it has fenced all of it. -/
lemma applyFencePlan_fences {registry : Registry} (hformed : WellFormed registry) (plan : FencePlan)
    (now : Timestamp) (actor : Bytes) :
    Steps (Fences plan.trigger now) (applyFencePlan plan now actor) registry
      fun _ next => ∀ action ∈ plan.actions, Done next action := by
  have hloop : Steps (Fences plan.trigger now) (applyFencePlan plan now actor) registry fun _ next =>
      WellFormed next ∧ ∃ before, plan.actions = before ++ [] ∧ ∀ action ∈ before, Done next action := by
    refine Steps.foldEach_rest
      (I := fun rest _ next => WellFormed next ∧
        ∃ before, plan.actions = before ++ rest ∧ ∀ action ∈ before, Done next action)
      ⟨hformed, [], rfl, fun _ h => by cases h⟩ fun action rest outcome middle _ hI => ?_
    obtain ⟨hmiddle, before, hactions, hbefore⟩ := hI
    obtain ⟨hrelated, hreturns⟩ := fenceAction_fences plan.trigger now actor outcome hmiddle action
    refine ⟨hrelated, fun next hnext => ⟨fenceAction_wellFormed hmiddle action, before ++ [action], ?_, ?_⟩⟩
    · rw [hactions]
      simp
    · intro done hdone
      rcases List.mem_append.mp hdone with hold | hnew
      · exact hrelated.done (hbefore done hold)
      · rw [List.mem_singleton.mp hnew]
        exact hreturns next hnext
  refine hloop.mono fun _ next h => ?_
  obtain ⟨-, before, hactions, hbefore⟩ := h
  rw [hactions, List.append_nil]
  exact hbefore

/-! The audit records a plan needs. -/

/-- A registered grant that a fence would change. -/
def openGrant (registry : Registry) (id : GrantId) : Bool :=
  registry.grants[id]?.any fun grant => decide ¬GrantGone grant.state

def openContract (registry : Registry) (id : ContractId) : Bool :=
  registry.contracts[id]?.any fun contract => decide ¬ContractGone contract.state

/-- The record an action would still have to fence, each at the cost of one audit record. -/
def owes (registry : Registry) (action : FenceAction) : Option Key :=
  match action.target with
  | .grant => if openGrant registry action.grant then some (.grant action.grant) else none
  | .contract => if openContract registry action.contract then some (.contract action.contract) else none
  | .reservation => none

def dues (registry : Registry) (actions : List FenceAction) : Finset Key :=
  (actions.filterMap (owes registry)).toFinset

/-- The trail has room for every record the actions have to fence. -/
def TrailFits (registry : Registry) (actions : List FenceAction) : Prop :=
  registry.audit.length + (dues registry actions).card ≤ Limits.maxAuditRecords

section Dues

variable {trigger : FenceTrigger} {now : Timestamp} {actor : Bytes} {outcome : FenceOutcome} {registry : Registry}

lemma openGrant_iff {id : GrantId} :
    openGrant registry id = true ↔ ∃ g, registry.grants[id]? = some g ∧ ¬GrantGone g.state := by
  rw [openGrant, Option.any_eq_true]
  exact ⟨fun ⟨g, hfind, hopen⟩ => ⟨g, hfind, of_decide_eq_true hopen⟩,
    fun ⟨g, hfind, hopen⟩ => ⟨g, hfind, decide_eq_true hopen⟩⟩

lemma openContract_iff {id : ContractId} :
    openContract registry id = true ↔ ∃ c, registry.contracts[id]? = some c ∧ ¬ContractGone c.state := by
  rw [openContract, Option.any_eq_true]
  exact ⟨fun ⟨c, hfind, hopen⟩ => ⟨c, hfind, of_decide_eq_true hopen⟩,
    fun ⟨c, hfind, hopen⟩ => ⟨c, hfind, decide_eq_true hopen⟩⟩

lemma owes_congr {next : Registry} (hgrants : next.grants = registry.grants)
    (hcontracts : next.contracts = registry.contracts) (action : FenceAction) :
    owes next action = owes registry action := by
  unfold owes openGrant openContract
  rw [hgrants, hcontracts]

lemma openGrant_setGrant {id : GrantId} {grant : GrantRecord} (hgone : GrantGone grant.state) (key : GrantId) :
    openGrant (setGrant registry id grant) key = if key = id then false else openGrant registry key := by
  unfold openGrant
  rw [setGrant, getElem?_insert_eq]
  split
  · exact decide_eq_false (not_not.mpr hgone)
  · rfl

lemma openContract_setContract {id : ContractId} {contract : ContractRecord}
    (hgone : ContractGone contract.state) (key : ContractId) :
    openContract (setContract registry id contract) key = if key = id then false else openContract registry key := by
  unfold openContract
  rw [setContract, getElem?_insert_eq]
  split
  · exact decide_eq_false (not_not.mpr hgone)
  · rfl

lemma owes_setGrant {id : GrantId} {grant : GrantRecord} (hgone : GrantGone grant.state) (action : FenceAction) :
    owes (setGrant registry id grant) action =
      if owes registry action = some (.grant id) then none else owes registry action := by
  cases htarget : action.target with
  | grant =>
    simp only [owes, htarget, openGrant_setGrant hgone]
    by_cases hid : action.grant = id
    · subst hid
      cases openGrant registry action.grant <;> simp
    · have hne : Key.grant action.grant ≠ .grant id := fun h => hid (Key.grant.inj h)
      cases openGrant registry action.grant <;> simp [hid, hne]
  | contract =>
    have hsame : openContract (setGrant registry id grant) action.contract =
        openContract registry action.contract := rfl
    simp only [owes, htarget, hsame]
    cases openContract registry action.contract <;> simp
  | reservation => simp [owes, htarget]

lemma owes_setContract {id : ContractId} {contract : ContractRecord} (hgone : ContractGone contract.state)
    (action : FenceAction) :
    owes (setContract registry id contract) action =
      if owes registry action = some (.contract id) then none else owes registry action := by
  cases htarget : action.target with
  | grant =>
    have hsame : openGrant (setContract registry id contract) action.grant =
        openGrant registry action.grant := rfl
    simp only [owes, htarget, hsame]
    cases openGrant registry action.grant <;> simp
  | contract =>
    simp only [owes, htarget, openContract_setContract hgone]
    by_cases hid : action.contract = id
    · subst hid
      cases openContract registry action.contract <;> simp
    · have hne : Key.contract action.contract ≠ .contract id := fun h => hid (Key.contract.inj h)
      cases openContract registry action.contract <;> simp [hid, hne]
  | reservation => simp [owes, htarget]

/-- Fencing one record settles every action that is about it. -/
lemma dues_erase {next : Registry} {key : Key}
    (h : ∀ action, owes next action = if owes registry action = some key then none else owes registry action)
    (actions : List FenceAction) : dues next actions = (dues registry actions).erase key := by
  ext k
  simp only [dues, List.mem_toFinset, List.mem_filterMap, Finset.mem_erase]
  constructor
  · rintro ⟨action, hmem, howes⟩
    rw [h action] at howes
    split at howes
    · cases howes
    · rename_i hne
      refine ⟨fun hk => hne ?_, action, hmem, howes⟩
      rw [howes, hk]
  · rintro ⟨hne, action, hmem, howes⟩
    refine ⟨action, hmem, ?_⟩
    rw [h action, if_neg, howes]
    rw [howes]
    exact fun hk => hne (Option.some.inj hk)

lemma dues_cons (action : FenceAction) (rest : List FenceAction) :
    dues registry (action :: rest) = match owes registry action with
      | some key => insert key (dues registry rest)
      | none => dues registry rest := by
  unfold dues
  cases howes : owes registry action with
  | none => rw [List.filterMap_cons_none howes]
  | some key => rw [List.filterMap_cons_some howes, List.toFinset_cons]

/-- The next audit record is refused only by a full trail. -/
lemma appendAudit_run (actor : Bytes) (registry : Registry) (t : Timestamp) (action subject : Bytes) (result : Outcome) (detail : Bytes) :
    (registry.audit.length < Limits.maxAuditRecords ∧ ∃ record,
      appendAudit t actor action subject result detail registry =
        (.ok (), { registry with audit := registry.audit ++ [record] })) ∨
    (Limits.maxAuditRecords ≤ registry.audit.length ∧ ∃ status,
      appendAudit t actor action subject result detail registry = (.error status, registry)) := by
  have hnext : ∀ last ∈ registry.audit.getLast?,
      (auditRecord registry t actor action subject result detail).sequence = Registry.nextSequence last := by
    intro last hlast
    simp only [Option.mem_def] at hlast
    simp only [auditRecord, hlast, Option.map_some, Option.getD_some]
  by_cases hroom : registry.audit.length < Limits.maxAuditRecords
  · have hok := appendAudit_eq_ok.mpr ⟨hroom, hnext, rfl⟩
    refine .inl ⟨hroom, auditRecord registry t actor action subject result detail, ?_⟩
    simp only [appendAudit, Program.update, hok]
  · refine .inr ⟨not_lt.mp hroom, ?_⟩
    cases hput : registry.appendAudit (auditRecord registry t actor action subject result detail) with
    | ok next => exact absurd (appendAudit_eq_ok.mp hput).1 hroom
    | error status => exact ⟨status, by simp only [appendAudit, Program.update, hput]⟩

/-- A change of one record that is then audited. -/
lemma audited_run (registry : Registry) (actor : Bytes) (change : Registry → Registry) (hchange : (change registry).audit = registry.audit)
    (t : Timestamp) (action subject : Bytes) (result : Outcome) (detail : Bytes) (counted : FenceOutcome) :
    let p : Program Registry Status FenceOutcome := do
      modify change
      appendAudit t actor action subject result detail
      return counted
    (registry.audit.length < Limits.maxAuditRecords ∧ ∃ record,
      p registry = (.ok counted, { change registry with audit := registry.audit ++ [record] })) ∨
    (Limits.maxAuditRecords ≤ registry.audit.length ∧ ∃ status, p registry = (.error status, change registry)) := by
  intro p
  have hmodify : (modify change : Program Registry Status Unit) registry = (.ok (), change registry) := rfl
  rcases appendAudit_run actor (change registry) t action subject result detail with
    ⟨hroom, record, hrun⟩ | ⟨hfull, status, hrun⟩
  · rw [hchange] at hroom hrun
    exact .inl ⟨hroom, record, (Program.bind_ok hmodify).trans (Program.bind_ok hrun)⟩
  · rw [hchange] at hfull
    exact .inr ⟨hfull, status, (Program.bind_ok hmodify).trans (Program.bind_error hrun)⟩

/-- An action that owes nothing goes through, at no cost. -/
lemma fenceAction_free (trigger : FenceTrigger) (now : Timestamp) (actor : Bytes) (outcome : FenceOutcome)
    {action : FenceAction} (howes : owes registry action = none) :
    ∃ counted next, fenceAction trigger now actor outcome action registry = (.ok counted, next) ∧
      next.audit = registry.audit ∧ ∀ other, owes next other = owes registry other := by
  cases htarget : action.target with
  | grant =>
    simp only [owes, htarget] at howes
    have hskip : fenceGrantAction trigger now actor outcome action.grant registry = (.ok outcome.skip, registry) := by
      unfold fenceGrantAction
      rw [Program.get_bind_run]
      cases hfind : registry.grants[action.grant]? with
      | none => rfl
      | some grant =>
        have hgone : GrantGone grant.state := by
          by_contra hopen
          rw [if_pos (openGrant_iff.mpr ⟨_, hfind, hopen⟩)] at howes
          cases howes
        dsimp only
        rw [if_pos hgone]
        rfl
    exact ⟨outcome.skip, registry, by simp only [fenceAction, htarget, hskip], rfl, fun _ => rfl⟩
  | contract =>
    simp only [owes, htarget] at howes
    have hskip : ∃ counted, fenceContractAction trigger now actor outcome action.contract registry =
        (.ok counted, registry) := by
      unfold fenceContractAction
      rw [Program.get_bind_run]
      cases hfind : registry.contracts[action.contract]? with
      | none => exact ⟨outcome, rfl⟩
      | some contract =>
        have hgone : ContractGone contract.state := by
          by_contra hopen
          rw [if_pos (openContract_iff.mpr ⟨_, hfind, hopen⟩)] at howes
          cases howes
        dsimp only
        rw [if_pos hgone]
        exact ⟨outcome.skip, rfl⟩
    obtain ⟨counted, hskip⟩ := hskip
    exact ⟨counted, registry, by simp only [fenceAction, htarget, hskip], rfl, fun _ => rfl⟩
  | reservation =>
    have hrelease : ∃ counted next, releaseAction now outcome action.reservation registry = (.ok counted, next) ∧
        next.audit = registry.audit ∧ next.grants = registry.grants ∧ next.contracts = registry.contracts := by
      unfold releaseAction
      rw [Program.get_bind_run]
      cases hfind : registry.reservations[action.reservation]? with
      | none => exact ⟨outcome.skip, registry, rfl, rfl, rfl, rfl⟩
      | some reservation =>
        refine ⟨_, (releaseReservation registry reservation now outcome).2, rfl, ?_⟩
        unfold releaseReservation
        split
        · exact ⟨rfl, rfl, rfl⟩
        · dsimp only [returnToClusters]
          split <;> exact ⟨rfl, rfl, rfl⟩
    obtain ⟨counted, next, hrun, haudit, hgrants, hcontracts⟩ := hrelease
    exact ⟨counted, next, by simp only [fenceAction, htarget, hrun], haudit, owes_congr hgrants hcontracts⟩

/-- An action that owes a record goes through exactly if the trail has room for one more. -/
lemma fenceAction_due (trigger : FenceTrigger) (now : Timestamp) (actor : Bytes) (outcome : FenceOutcome)
    {action : FenceAction} {key : Key} (howes : owes registry action = some key) :
    (registry.audit.length < Limits.maxAuditRecords ∧
      ∃ counted next, fenceAction trigger now actor outcome action registry = (.ok counted, next) ∧
        next.audit.length = registry.audit.length + 1 ∧
        ∀ other, owes next other = if owes registry other = some key then none else owes registry other) ∨
    (Limits.maxAuditRecords ≤ registry.audit.length ∧
      ∃ status next, fenceAction trigger now actor outcome action registry = (.error status, next)) := by
  cases htarget : action.target with
  | grant =>
    simp only [owes, htarget] at howes
    split at howes
    · rename_i hopen
      cases howes
      obtain ⟨grant, hfind, hgone⟩ := openGrant_iff.mp hopen
      have haction : fenceAction trigger now actor outcome action registry = (do
          modify fun registry => setGrant registry action.grant (fencedGrant trigger now grant)
          appendAudit now actor (ascii "fence-grant") (ascii "grant=" ++ grant.id.toText) .fenced trigger.toText
          return outcome.countGrant : Program Registry Status FenceOutcome) registry := by
        simp only [fenceAction, htarget]
        unfold fenceGrantAction
        rw [Program.get_bind_run, hfind]
        dsimp only
        rw [if_neg hgone]
      rw [haction]
      rcases audited_run registry actor
          (fun registry => setGrant registry action.grant (fencedGrant trigger now grant)) rfl now (ascii "fence-grant") (ascii "grant=" ++ grant.id.toText) .fenced
          trigger.toText outcome.countGrant with ⟨hroom, record, hrun⟩ | ⟨hfull, status, hrun⟩
      · refine .inl ⟨hroom, _, _, hrun, by simp, fun other => ?_⟩
        have hgone : GrantGone (fencedGrant trigger now grant).state := .inl rfl
        rw [← owes_setGrant hgone other]
        exact owes_congr rfl rfl other
      · exact .inr ⟨hfull, _, _, hrun⟩
    · cases howes
  | contract =>
    simp only [owes, htarget] at howes
    split at howes
    · rename_i hopen
      cases howes
      obtain ⟨contract, hfind, hgone⟩ := openContract_iff.mp hopen
      have haction : fenceAction trigger now actor outcome action registry = (do
          modify fun registry => setContract registry action.contract (fencedContract trigger now contract)
          appendAudit now actor (ascii "fence-contract") (ascii "contract=" ++ contract.id.toText) .fenced
            trigger.toText
          return outcome.countContract : Program Registry Status FenceOutcome) registry := by
        simp only [fenceAction, htarget]
        unfold fenceContractAction
        rw [Program.get_bind_run, hfind]
        dsimp only
        rw [if_neg hgone]
      rw [haction]
      rcases audited_run registry actor
          (fun registry => setContract registry action.contract (fencedContract trigger now contract)) rfl now (ascii "fence-contract") (ascii "contract=" ++ contract.id.toText) .fenced
          trigger.toText outcome.countContract with ⟨hroom, record, hrun⟩ | ⟨hfull, status, hrun⟩
      · refine .inl ⟨hroom, _, _, hrun, by simp, fun other => ?_⟩
        rw [← owes_setContract (gone_fencedContract contract) other]
        exact owes_congr rfl rfl other
      · exact .inr ⟨hfull, _, _, hrun⟩
    · cases howes
  | reservation => simp [owes, htarget] at howes

/-- A plan goes through exactly if the trail has room for every record it has to fence. -/
lemma foldEach_fenceAction_iff (trigger : FenceTrigger) (now : Timestamp) (actor : Bytes) (actions : List FenceAction) (outcome : FenceOutcome) (registry : Registry)
    (htrail : registry.audit.length ≤ Limits.maxAuditRecords) :
    (∃ counted next, Program.foldEach actions outcome (fenceAction trigger now actor) registry =
      (.ok counted, next)) ↔ TrailFits registry actions := by
  induction actions generalizing outcome registry with
  | nil =>
    have hnone : (dues registry []).card = 0 := rfl
    rw [TrailFits, hnone]
    exact ⟨fun _ => htrail, fun _ => ⟨outcome, registry, rfl⟩⟩
  | cons action rest ih =>
    cases howes : owes registry action with
    | none =>
      obtain ⟨counted, next, hrun, haudit, hsame⟩ := fenceAction_free trigger now actor outcome howes
      have hdues : dues registry (action :: rest) = dues next rest := by
        rw [dues_cons, howes]
        simp only [dues, funext hsame]
      rw [TrailFits, hdues, ← haudit, ← TrailFits, ← ih counted next (by rw [haudit]; exact htrail)]
      rw [Program.foldEach, Program.bind_ok hrun]
    | some key =>
      rcases fenceAction_due trigger now actor outcome howes with
        ⟨hroom, counted, next, hrun, haudit, herase⟩ | ⟨hfull, status, next, hrun⟩
      · have hcard : (dues registry (action :: rest)).card = (dues next rest).card + 1 := by
          rw [dues_cons, howes, dues_erase herase rest]
          dsimp only
          by_cases hmem : key ∈ dues registry rest
          · rw [Finset.insert_eq_of_mem hmem, Finset.card_erase_add_one hmem]
          · rw [Finset.card_insert_of_notMem hmem, Finset.erase_eq_of_notMem hmem]
        have hfits : TrailFits registry (action :: rest) ↔ TrailFits next rest := by
          rw [TrailFits, TrailFits, hcard, haudit]
          omega
        rw [hfits, ← ih counted next (by rw [haudit]; omega), Program.foldEach, Program.bind_ok hrun]
      · constructor
        · rintro ⟨counted, last, hlast⟩
          rw [Program.foldEach, Program.bind_error hrun] at hlast
          cases hlast
        · intro hfits
          exfalso
          have hpos : 0 < (dues registry (action :: rest)).card := by
            rw [dues_cons, howes]
            exact Finset.card_pos.mpr ⟨key, Finset.mem_insert_self key _⟩
          rw [TrailFits] at hfits
          omega

end Dues

/-- The plan is applied to its end, and everything it names is out of use. -/
def Completes (plan : FencePlan) (now : Timestamp) (actor : Bytes) (registry : Registry) : Prop :=
  ∃ outcome next, applyFencePlan plan now actor registry = (.ok outcome, next) ∧
    ∀ action ∈ plan.actions, Done next action

lemma completes_iff {registry : Registry} (hformed : WellFormed registry) (plan : FencePlan) (now : Timestamp)
    (actor : Bytes) : Completes plan now actor registry ↔ TrailFits registry plan.actions := by
  rw [← foldEach_fenceAction_iff plan.trigger now actor plan.actions {} registry hformed.trail]
  constructor
  · rintro ⟨outcome, next, hrun, -⟩
    exact ⟨outcome, next, hrun⟩
  · rintro ⟨outcome, next, hrun⟩
    have hreturns := (applyFencePlan_fences hformed plan now actor).returns outcome
    have happly : applyFencePlan plan now actor registry = (.ok outcome, next) := hrun
    rw [happly] at hreturns
    exact ⟨outcome, next, happly, hreturns rfl⟩

end InterClusterFabric.RuntimeFencePlans
