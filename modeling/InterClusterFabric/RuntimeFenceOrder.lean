import InterClusterFabric.RuntimeFencePlans
import InterClusterFabric.RuntimeStart

/-! Applying a fence plan twice, and in another order. What the actions do is stated once more as changes
of a sheet: the registry under its old trail, and the bag of audit records added to it. The actions commute
on sheets, and a plan that succeeds does to the registry what its actions do to the sheet. -/
namespace InterClusterFabric.RuntimeFenceOrder
open CoreStatus CoreIds CoreTime ModelRecords ModelRegistry ModelRegistryLaws EngineDecision RuntimeFencing
open RuntimeFencePlans RuntimeRun RuntimeStart EngineSoundness LibraryChecked LibraryOrdMap LibraryProgram

/-! Returning capacity. -/

/-- The capacity that is left is the truncated difference. -/
lemma returnCapacity_toNat (amount : CapacityUnits) (now : Timestamp) (endpoint : EndpointRecord) :
    (returnCapacity amount now endpoint).reserved.value.toNat =
      endpoint.reserved.value.toNat - amount.value.toNat := by
  have hle : amount ≤ endpoint.reserved ↔ amount.value.toNat ≤ endpoint.reserved.value.toNat := Iff.rfl
  unfold returnCapacity
  dsimp only
  split
  · rename_i h
    rw [UInt64.toNat_sub_of_le _ _ (hle.mp h)]
  · rename_i h
    have hlt := not_le.mp (mt hle.mpr h)
    exact (Nat.sub_eq_zero_of_le hlt.le).symm

lemma returnCapacity_comm (a b : CapacityUnits) (now : Timestamp) (endpoint : EndpointRecord) :
    returnCapacity a now (returnCapacity b now endpoint) = returnCapacity b now (returnCapacity a now endpoint) := by
  have hreserved : (returnCapacity a now (returnCapacity b now endpoint)).reserved =
      (returnCapacity b now (returnCapacity a now endpoint)).reserved := by
    apply Counter.ext
    apply UInt64.toNat_inj.mp
    simp only [returnCapacity_toNat]
    omega
  have hrest : ∀ first second, returnCapacity first now (returnCapacity second now endpoint) =
      { endpoint with
        reserved := (returnCapacity first now (returnCapacity second now endpoint)).reserved
        provenance := { endpoint.provenance with observedAt := now } } := fun _ _ => rfl
  rw [hrest a b, hrest b a, hreserved]

section Endpoints

variable {f g : EndpointRecord → EndpointRecord} {id id' : EndpointId} {endpoint : EndpointRecord}
  {rest : List EndpointRecord}

lemma updateEndpoint_here (h : endpoint.id = id) : updateEndpoint id f (endpoint :: rest) = f endpoint :: rest :=
  if_pos h

lemma updateEndpoint_later (h : endpoint.id ≠ id) :
    updateEndpoint id f (endpoint :: rest) = endpoint :: updateEndpoint id f rest := if_neg h

/-- Updates of endpoints that keep their identities commute if they do on each. -/
lemma updateEndpoint_comm (hf : ∀ e, (f e).id = e.id) (hg : ∀ e, (g e).id = e.id) (hcomm : ∀ e, f (g e) = g (f e))
    (id id' : EndpointId) (endpoints : List EndpointRecord) :
    updateEndpoint id f (updateEndpoint id' g endpoints) = updateEndpoint id' g (updateEndpoint id f endpoints) := by
  induction endpoints with
  | nil => rfl
  | cons endpoint rest ih =>
    by_cases h : endpoint.id = id
    · have hgid : (g endpoint).id = id := (hg endpoint).trans h
      by_cases h' : endpoint.id = id'
      · rw [updateEndpoint_here h', updateEndpoint_here hgid, updateEndpoint_here h,
          updateEndpoint_here ((hf endpoint).trans h'), hcomm]
      · have hfid : (f endpoint).id ≠ id' := fun heq => h' ((hf endpoint).symm.trans heq)
        rw [updateEndpoint_later h', updateEndpoint_here h, updateEndpoint_here h, updateEndpoint_later hfid]
    · by_cases h' : endpoint.id = id'
      · have hgid : (g endpoint).id ≠ id := fun heq => h ((hg endpoint).symm.trans heq)
        rw [updateEndpoint_here h', updateEndpoint_later hgid, updateEndpoint_later h, updateEndpoint_here h']
      · rw [updateEndpoint_later h', updateEndpoint_later h, updateEndpoint_later h, updateEndpoint_later h', ih]

end Endpoints

/-- The capacity of a reservation goes back to a cluster. -/
def returned (reservation : ReservationRecord) (now : Timestamp) (cluster : ClusterRecord) : ClusterRecord :=
  { cluster with
    endpoints := updateEndpoint reservation.endpoint (returnCapacity reservation.amount now) cluster.endpoints }

lemma returned_comm (a b : ReservationRecord) (now : Timestamp) (cluster : ClusterRecord) :
    returned a now (returned b now cluster) = returned b now (returned a now cluster) := by
  have hendpoints := updateEndpoint_comm (f := returnCapacity a.amount now) (g := returnCapacity b.amount now)
    (fun _ => rfl) (fun _ => rfl) (returnCapacity_comm a.amount b.amount now) a.endpoint b.endpoint cluster.endpoints
  simp only [returned, hendpoints]

/-! Sheets. -/

/-- A registry under the trail it had before, and the records added to the trail, unnumbered. -/
structure Sheet where
  registry : Registry
  notes : Multiset AuditRecord

/-- An audit record as a fence leaves it, but for its number. -/
def note (trigger : FenceTrigger) (now : Timestamp) (actor action subject : Bytes) : AuditRecord where
  recordedAt := now
  actor := actor.take 64
  action := action.take 64
  subject := subject.take 128
  outcome := .fenced
  detail := trigger.toText.take Limits.maxStringField

section Effects

variable (trigger : FenceTrigger) (now : Timestamp) (actor : Bytes)

def fenceGrantOn (grant : GrantRecord) : GrantRecord :=
  if GrantGone grant.state then grant else fencedGrant trigger now grant

def fenceContractOn (contract : ContractRecord) : ContractRecord :=
  if ContractGone contract.state then contract else fencedContract trigger now contract

def releaseOn (reservation : ReservationRecord) : ReservationRecord :=
  if reservation.released then reservation else released reservation now

def grantNotes (grant : Option GrantRecord) : Multiset AuditRecord :=
  match grant with
  | none => 0
  | some grant =>
    if GrantGone grant.state then 0
    else {note trigger now actor (ascii "fence-grant") (ascii "grant=" ++ grant.id.toText)}

def contractNotes (contract : Option ContractRecord) : Multiset AuditRecord :=
  match contract with
  | none => 0
  | some contract =>
    if ContractGone contract.state then 0
    else {note trigger now actor (ascii "fence-contract") (ascii "contract=" ++ contract.id.toText)}

/-- The clusters get back what an unreleased reservation holds. -/
def clustersAfter (clusters : OrdMap ClusterId ClusterRecord) (reservation : Option ReservationRecord) :
    OrdMap ClusterId ClusterRecord :=
  match reservation with
  | none => clusters
  | some reservation =>
    if reservation.released then clusters else clusters.map fun _ cluster => returned reservation now cluster

/-- What an action does to a sheet. -/
def effect (sheet : Sheet) (action : FenceAction) : Sheet :=
  match action.target with
  | .grant => {
      registry := { sheet.registry with
        grants := sheet.registry.grants.modify action.grant (fenceGrantOn trigger now) }
      notes := sheet.notes + grantNotes trigger now actor sheet.registry.grants[action.grant]? }
  | .contract => {
      registry := { sheet.registry with
        contracts := sheet.registry.contracts.modify action.contract (fenceContractOn trigger now) }
      notes := sheet.notes + contractNotes trigger now actor sheet.registry.contracts[action.contract]? }
  | .reservation => {
      registry := { sheet.registry with
        reservations := sheet.registry.reservations.modify action.reservation (releaseOn now)
        clusters := clustersAfter now sheet.registry.clusters sheet.registry.reservations[action.reservation]? }
      notes := sheet.notes }

end Effects

section Commute

variable {trigger : FenceTrigger} {now : Timestamp} {actor : Bytes}

/-- Two releases commute: each looks up a reservation the other one does not touch. -/
lemma clustersAfter_comm (clusters : OrdMap ClusterId ClusterRecord) (a b : Option ReservationRecord) :
    clustersAfter now (clustersAfter now clusters a) b = clustersAfter now (clustersAfter now clusters b) a := by
  cases a with
  | none => rfl
  | some a =>
    cases b with
    | none => rfl
    | some b =>
      by_cases ha : a.released = true
      · simp [clustersAfter, ha]
      · by_cases hb : b.released = true
        · simp [clustersAfter, hb]
        · simp only [clustersAfter, ha, hb, Bool.false_eq_true, if_false]
          exact map_comm clusters (returned_comm b a now)

/-- The actions of a plan commute. -/
lemma effect_comm (sheet : Sheet) (a b : FenceAction) :
    effect trigger now actor (effect trigger now actor sheet a) b =
      effect trigger now actor (effect trigger now actor sheet b) a := by
  cases ha : a.target with
  | grant =>
    cases hb : b.target with
    | grant =>
      by_cases hkey : a.grant = b.grant
      · simp only [effect, ha, hb, hkey]
      · have hother : b.grant ≠ a.grant := fun h => hkey h.symm
        simp only [effect, ha, hb, getElem?_modify_eq, if_neg hkey, if_neg hother]
        rw [modify_comm _ hkey, add_right_comm]
    | contract =>
      simp only [effect, ha, hb]
      rw [add_right_comm]
    | reservation => simp only [effect, ha, hb]
  | contract =>
    cases hb : b.target with
    | grant =>
      simp only [effect, ha, hb]
      rw [add_right_comm]
    | contract =>
      by_cases hkey : a.contract = b.contract
      · simp only [effect, ha, hb, hkey]
      · have hother : b.contract ≠ a.contract := fun h => hkey h.symm
        simp only [effect, ha, hb, getElem?_modify_eq, if_neg hkey, if_neg hother]
        rw [modify_comm _ hkey, add_right_comm]
    | reservation => simp only [effect, ha, hb]
  | reservation =>
    cases hb : b.target with
    | grant => simp only [effect, ha, hb]
    | contract => simp only [effect, ha, hb]
    | reservation =>
      by_cases hkey : a.reservation = b.reservation
      · simp only [effect, ha, hb, hkey]
      · have hother : b.reservation ≠ a.reservation := fun h => hkey h.symm
        simp only [effect, ha, hb, getElem?_modify_eq, if_neg hkey, if_neg hother]
        rw [modify_comm _ hkey, clustersAfter_comm]

instance : RightCommutative (effect trigger now actor) := ⟨effect_comm⟩

end Commute

/-! The registry and the sheet. -/

def unnumbered (record : AuditRecord) : AuditRecord := { record with sequence := ⟨0⟩ }

/-- The registry is that of the sheet, with the notes of the sheet at the end of the trail in some order. -/
def Shows (sheet : Sheet) (registry : Registry) : Prop :=
  ∃ added, registry = { sheet.registry with audit := sheet.registry.audit ++ added } ∧
    (added.map unnumbered : Multiset AuditRecord) = sheet.notes

section Shows

variable {trigger : FenceTrigger} {now : Timestamp} {actor : Bytes} {outcome counted : FenceOutcome}
  {registry next : Registry} {sheet : Sheet}

/-- A change of one record that is audited, if it goes through. -/
lemma audited_ok {change : Registry → Registry} {action subject : Bytes}
    (h : (do
      modify change
      appendAudit now actor action subject .fenced trigger.toText
      return outcome : Program Registry Status FenceOutcome) registry = (.ok counted, next)) :
    ∃ record, unnumbered record = note trigger now actor action subject ∧
      next = { change registry with audit := (change registry).audit ++ [record] } := by
  rw [Program.modify_bind_run] at h
  cases hrun : (change registry).appendAudit
      (auditRecord (change registry) now actor action subject .fenced trigger.toText) with
  | error status =>
    have hfails : appendAudit now actor action subject .fenced trigger.toText (change registry) =
        (.error status, change registry) := by simp only [appendAudit, Program.update, hrun]
    rw [Program.bind_error hfails] at h
    cases h
  | ok appended =>
    have happends : appendAudit now actor action subject .fenced trigger.toText (change registry) =
        (.ok (), appended) := by simp only [appendAudit, Program.update, hrun]
    rw [Program.bind_ok happends] at h
    obtain ⟨-, -, rfl⟩ := appendAudit_eq_ok.mp hrun
    cases h
    exact ⟨_, rfl, rfl⟩

/-- One more record at the end of the trail is one more note. -/
lemma notes_snoc {added : List AuditRecord} {notes : Multiset AuditRecord} {record noted : AuditRecord}
    (hnotes : (added.map unnumbered : Multiset AuditRecord) = notes) (hrecord : unnumbered record = noted) :
    ((added ++ [record]).map unnumbered : Multiset AuditRecord) = notes + {noted} := by
  rw [List.map_append, ← Multiset.coe_add, hnotes, List.map_singleton, hrecord, Multiset.coe_singleton]

lemma fenceGrantAction_shows {id : GrantId} (hshows : Shows sheet registry)
    (h : fenceGrantAction trigger now actor outcome id registry = (.ok counted, next)) :
    Shows {
      registry := { sheet.registry with grants := sheet.registry.grants.modify id (fenceGrantOn trigger now) }
      notes := sheet.notes + grantNotes trigger now actor sheet.registry.grants[id]? } next := by
  obtain ⟨added, rfl, hnotes⟩ := hshows
  unfold fenceGrantAction at h
  rw [Program.get_bind_run] at h
  dsimp only at h
  cases hfind : sheet.registry.grants[id]? with
  | none =>
    rw [hfind] at h
    cases h
    refine ⟨added, ?_, by simp [grantNotes, hnotes]⟩
    rw [modify_eq_self fun g hg => by rw [hfind] at hg; cases hg]
  | some grant =>
    rw [hfind] at h
    dsimp only at h
    by_cases hgone : GrantGone grant.state
    · rw [if_pos hgone] at h
      cases h
      refine ⟨added, ?_, by simp [grantNotes, hgone, hnotes]⟩
      rw [modify_eq_self fun g hg => ?_]
      rw [hfind] at hg
      cases hg
      exact if_pos hgone
    · rw [if_neg hgone] at h
      obtain ⟨record, hrecord, rfl⟩ := audited_ok h
      have hfenced : fenceGrantOn trigger now grant = fencedGrant trigger now grant := if_neg hgone
      refine ⟨added ++ [record], ?_, ?_⟩
      · rw [← insert_eq_modify hfind, hfenced]
        simp [setGrant]
      · simp only [grantNotes, if_neg hgone]
        exact notes_snoc hnotes hrecord

lemma fenceContractAction_shows {id : ContractId} (hshows : Shows sheet registry)
    (h : fenceContractAction trigger now actor outcome id registry = (.ok counted, next)) :
    Shows {
      registry := { sheet.registry with
        contracts := sheet.registry.contracts.modify id (fenceContractOn trigger now) }
      notes := sheet.notes + contractNotes trigger now actor sheet.registry.contracts[id]? } next := by
  obtain ⟨added, rfl, hnotes⟩ := hshows
  unfold fenceContractAction at h
  rw [Program.get_bind_run] at h
  dsimp only at h
  cases hfind : sheet.registry.contracts[id]? with
  | none =>
    rw [hfind] at h
    cases h
    refine ⟨added, ?_, by simp [contractNotes, hnotes]⟩
    rw [modify_eq_self fun c hc => by rw [hfind] at hc; cases hc]
  | some contract =>
    rw [hfind] at h
    dsimp only at h
    by_cases hgone : ContractGone contract.state
    · rw [if_pos hgone] at h
      cases h
      refine ⟨added, ?_, by simp [contractNotes, hgone, hnotes]⟩
      rw [modify_eq_self fun c hc => ?_]
      rw [hfind] at hc
      cases hc
      exact if_pos hgone
    · rw [if_neg hgone] at h
      obtain ⟨record, hrecord, rfl⟩ := audited_ok h
      have hfenced : fenceContractOn trigger now contract = fencedContract trigger now contract := if_neg hgone
      refine ⟨added ++ [record], ?_, ?_⟩
      · rw [← insert_eq_modify hfind, hfenced]
        simp [setContract]
      · simp only [contractNotes, if_neg hgone]
        exact notes_snoc hnotes hrecord

lemma releaseAction_shows {id : ReservationId} (hformed : WellFormed registry) (hshows : Shows sheet registry)
    (h : releaseAction now outcome id registry = (.ok counted, next)) :
    Shows {
      registry := { sheet.registry with
        reservations := sheet.registry.reservations.modify id (releaseOn now)
        clusters := clustersAfter now sheet.registry.clusters sheet.registry.reservations[id]? }
      notes := sheet.notes } next := by
  obtain ⟨added, rfl, hnotes⟩ := hshows
  unfold releaseAction at h
  rw [Program.get_bind_run] at h
  dsimp only at h
  cases hfind : sheet.registry.reservations[id]? with
  | none =>
    rw [hfind] at h
    cases h
    refine ⟨added, ?_, hnotes⟩
    rw [modify_eq_self fun r hr => by rw [hfind] at hr; cases hr]
    rfl
  | some reservation =>
    rw [hfind] at h
    have hnext : (releaseReservation _ reservation now outcome).2 = next := congrArg Prod.snd h
    have hid := (find_reservation hformed hfind).1
    have hmem : id ∈ sheet.registry.reservations := by
      rw [mem_iff_isSome, hfind]
      rfl
    refine ⟨added, ?_, hnotes⟩
    cases hopen : reservation.released with
    | true =>
      have hdone : releaseOn now reservation = reservation := if_pos hopen
      simp only [releaseReservation, hopen, if_true] at hnext
      rw [modify_eq_self fun r hr => by rw [hfind] at hr; cases hr; exact hdone, ← hnext]
      simp [clustersAfter, hopen]
    | false =>
      have hreleases : releaseOn now reservation = released reservation now := if_neg (by simp [hopen])
      simp only [releaseReservation, hopen, Bool.false_eq_true, if_false, hid, hmem, if_true] at hnext
      rw [← insert_eq_modify hfind, hreleases, ← hnext]
      simp [clustersAfter, hopen, returnToClusters, setReservation, returned]

/-- An action that goes through does to the registry what it does to the sheet. -/
lemma fenceAction_shows {action : FenceAction} (hformed : WellFormed registry) (hshows : Shows sheet registry)
    (h : fenceAction trigger now actor outcome action registry = (.ok counted, next)) :
    Shows (effect trigger now actor sheet action) next := by
  unfold fenceAction at h
  unfold effect
  cases htarget : action.target with
  | grant =>
    simp only [htarget] at h ⊢
    exact fenceGrantAction_shows hshows h
  | contract =>
    simp only [htarget] at h ⊢
    exact fenceContractAction_shows hshows h
  | reservation =>
    simp only [htarget] at h ⊢
    exact releaseAction_shows hformed hshows h

/-- So does a whole plan. -/
lemma foldEach_shows {actions : List FenceAction} (hformed : WellFormed registry) (hshows : Shows sheet registry)
    (h : Program.foldEach actions outcome (fenceAction trigger now actor) registry = (.ok counted, next)) :
    Shows (actions.foldl (effect trigger now actor) sheet) next := by
  induction actions generalizing sheet registry outcome with
  | nil =>
    cases h
    exact hshows
  | cons action rest ih =>
    cases hrun : fenceAction trigger now actor outcome action registry with
    | mk result middle =>
      cases result with
      | error status =>
        rw [Program.foldEach, Program.bind_error hrun] at h
        cases h
      | ok between =>
        rw [Program.foldEach, Program.bind_ok hrun] at h
        have hmiddle : WellFormed middle := by
          have hkept : WellFormed (fenceAction trigger now actor outcome action registry).2 :=
            fenceAction_wellFormed hformed action
          rwa [hrun] at hkept
        exact ih hmiddle (fenceAction_shows hformed hshows hrun) h

end Shows

/-! A second application. -/

/-- Nothing has been fenced or released between two counts. -/
structure GainsNothing (outcome counted : FenceOutcome) : Prop where
  grants : counted.grantsFenced = outcome.grantsFenced
  contracts : counted.contractsFenced = outcome.contractsFenced
  reservations : counted.reservationsReleased = outcome.reservationsReleased
  capacity : counted.capacityReleased = outcome.capacityReleased

lemma GainsNothing.trans {a b c : FenceOutcome} (h : GainsNothing a b) (h' : GainsNothing b c) : GainsNothing a c :=
  ⟨h'.grants.trans h.grants, h'.contracts.trans h.contracts, h'.reservations.trans h.reservations,
    h'.capacity.trans h.capacity⟩

section Again

variable (trigger : FenceTrigger) (now : Timestamp) (actor : Bytes) (outcome : FenceOutcome) {registry : Registry}

/-- An action whose work is done leaves the registry alone. -/
lemma fenceAction_done {action : FenceAction} (h : Done registry action) :
    ∃ counted, fenceAction trigger now actor outcome action registry = (.ok counted, registry) ∧
      GainsNothing outcome counted := by
  unfold Done at h
  unfold fenceAction
  cases htarget : action.target with
  | grant =>
    simp only [htarget] at h ⊢
    refine ⟨outcome.skip, ?_, rfl, rfl, rfl, rfl⟩
    unfold fenceGrantAction
    rw [Program.get_bind_run]
    cases hfind : registry.grants[action.grant]? with
    | none => rfl
    | some grant =>
      dsimp only
      rw [if_pos (h grant hfind)]
      rfl
  | contract =>
    simp only [htarget] at h ⊢
    unfold fenceContractAction
    rw [Program.get_bind_run]
    cases hfind : registry.contracts[action.contract]? with
    | none => exact ⟨outcome, rfl, rfl, rfl, rfl, rfl⟩
    | some contract =>
      dsimp only
      rw [if_pos (h contract hfind)]
      exact ⟨outcome.skip, rfl, rfl, rfl, rfl, rfl⟩
  | reservation =>
    simp only [htarget] at h ⊢
    refine ⟨outcome.skip, ?_, rfl, rfl, rfl, rfl⟩
    unfold releaseAction
    rw [Program.get_bind_run]
    cases hfind : registry.reservations[action.reservation]? with
    | none => rfl
    | some reservation =>
      have hreleased : releaseReservation registry reservation now outcome = (outcome.skip, registry) :=
        if_pos (h reservation hfind)
      show (Except.ok (releaseReservation registry reservation now outcome).1,
        (releaseReservation registry reservation now outcome).2) = _
      rw [hreleased]

lemma foldEach_done {actions : List FenceAction} (h : ∀ action ∈ actions, Done registry action) :
    ∃ counted, Program.foldEach actions outcome (fenceAction trigger now actor) registry = (.ok counted, registry) ∧
      GainsNothing outcome counted := by
  induction actions generalizing outcome with
  | nil => exact ⟨outcome, rfl, rfl, rfl, rfl, rfl⟩
  | cons action rest ih =>
    obtain ⟨between, hrun, hfirst⟩ := fenceAction_done trigger now actor outcome (h action (by simp))
    obtain ⟨counted, hrest, hsecond⟩ := ih between fun other hother => h other (by simp [hother])
    refine ⟨counted, ?_, hfirst.trans hsecond⟩
    rw [Program.foldEach, Program.bind_ok hrun, hrest]

end Again

/-- Two registries that differ at most in the order and the numbers of the audit records added to a
third one. -/
def SameButNumbering (registry next other : Registry) : Prop :=
  { next with audit := [] } = { other with audit := [] } ∧ ∃ added added',
    next.audit = registry.audit ++ added ∧ other.audit = registry.audit ++ added' ∧
      (added.map unnumbered).Perm (added'.map unnumbered)

lemma sameButNumbering_of_shows {sheet : Sheet} {registry next other : Registry}
    (haudit : sheet.registry.audit = registry.audit) (h : Shows sheet next) (h' : Shows sheet other) :
    SameButNumbering registry next other := by
  obtain ⟨added, rfl, hnotes⟩ := h
  obtain ⟨added', rfl, hnotes'⟩ := h'
  refine ⟨rfl, added, added', ?_, ?_, Multiset.coe_eq_coe.mp (hnotes.trans hnotes'.symm)⟩
  · rw [haudit]
  · rw [haudit]

/-- The actions leave the trail of the sheet alone. -/
lemma foldl_effect_audit (trigger : FenceTrigger) (now : Timestamp) (actor : Bytes) (actions : List FenceAction)
    (sheet : Sheet) : (actions.foldl (effect trigger now actor) sheet).registry.audit = sheet.registry.audit := by
  induction actions generalizing sheet with
  | nil => rfl
  | cons action rest ih =>
    rw [List.foldl_cons, ih]
    unfold effect
    split <;> rfl

/-- A plan that has been applied has nothing left to do, whenever it is applied again, and in any order it
leaves the same registry but for the order and the numbers of the audit records it adds. -/
theorem fence_plan_idempotent_unordered (registry : Registry) (hformed : WellFormed registry) (plan : FencePlan)
    (now : Timestamp) (actor : Bytes) (outcome : FenceOutcome) (next : Registry)
    (happlied : applyFencePlan plan now actor registry = (.ok outcome, next)) :
    (∀ later actor', ∃ again, applyFencePlan plan later actor' next = (.ok again, next) ∧ GainsNothing {} again) ∧
      ∀ actions, actions.Perm plan.actions → ∀ outcome' next',
        applyFencePlan { plan with actions } now actor registry = (.ok outcome', next') →
          SameButNumbering registry next next' := by
  constructor
  · intro later actor'
    have hdone := (applyFencePlan_fences hformed plan now actor).returns outcome
    rw [happlied] at hdone
    exact foldEach_done plan.trigger later actor' {} (hdone rfl)
  · intro actions hperm outcome' next' happlied'
    have hstart : Shows ⟨registry, 0⟩ registry := ⟨[], by simp, rfl⟩
    have hshows := foldEach_shows hformed hstart happlied
    have hshows' := foldEach_shows hformed hstart happlied'
    rw [hperm.foldl_eq] at hshows'
    exact sameButNumbering_of_shows (foldl_effect_audit _ _ _ _ _) hshows hshows'

/-! The first cluster is fenced while a grant of its contract is committed. -/

def sampleHeld : Registry := (run sampleProcess (agree ++ [issueGrant] ++ commitBoth)).registry

def samplePlan : FencePlan :=
  planFence sampleHeld .manual (sampleParty .first).cluster ⟨1⟩ ⟨1⟩ ⟨1⟩ ⟨1⟩

lemma sampleHeld_eq : sampleHeld = sampleGranted.registry := by rw [sampleHeld, commit_run]

lemma sampleHeld_formed : WellFormed sampleHeld := by
  have hformed := started_wellFormed sampleProcess_started (agree ++ [issueGrant] ++ commitBoth)
  rwa [commit_run, ← sampleHeld_eq] at hformed

/-- What the plan has fenced and released. -/
lemma samplePlan_counts : (applyFencePlan samplePlan ⟨77⟩ (ascii "operator") sampleHeld).1.toOption.map
    (fun outcome => (outcome.grantsFenced, outcome.reservationsReleased)) = some (1, 2) := by
  rw [samplePlan, sampleHeld_eq]
  decide +kernel

/-- One grant, its contract and both reservations, once. -/
theorem fence_plan_idempotent_sample : ∃ outcome next,
    applyFencePlan samplePlan ⟨77⟩ (ascii "operator") sampleHeld = (.ok outcome, next) ∧
      outcome.grantsFenced = 1 ∧ outcome.reservationsReleased = 2 ∧
      ∃ again, applyFencePlan samplePlan ⟨99⟩ (ascii "operator") next = (.ok again, next) ∧ GainsNothing {} again := by
  have hcounts := samplePlan_counts
  cases hrun : applyFencePlan samplePlan ⟨77⟩ (ascii "operator") sampleHeld with
  | mk result next =>
    rw [hrun] at hcounts
    cases result with
    | error status => cases hcounts
    | ok outcome =>
      obtain ⟨hgrants, hreservations⟩ := Prod.mk.inj (Option.some.inj hcounts)
      have hagain := (fence_plan_idempotent_unordered sampleHeld sampleHeld_formed samplePlan ⟨77⟩ (ascii "operator")
        outcome next hrun).1 ⟨99⟩ (ascii "operator")
      exact ⟨outcome, next, rfl, hgrants, hreservations, hagain⟩

end InterClusterFabric.RuntimeFenceOrder
