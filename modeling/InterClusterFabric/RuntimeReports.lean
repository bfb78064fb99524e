import InterClusterFabric.RuntimeClusterFences
import InterClusterFabric.RuntimeParties

/-! What an accepted status report does to the grants of its cluster: each is compared with the report,
what the agent does not enforce any more or enforces under another attempt is fenced, and what both
sides enforce is committed. -/
namespace InterClusterFabric.RuntimeReports
open CoreStatus CoreIds CoreTime CoreHash ModelRecords ModelRegistry ModelRegistryLaws EngineDecision EngineSoundness
open RuntimeFencing StoreMutation StoreDurable WireMessages RuntimeCoordinator RuntimeHandlers RuntimeAdmin
open RuntimeRun RuntimeEdits RuntimeSteps RuntimeStepsHandlers RuntimeStepsAdmin RuntimeFencePlans RuntimeStart
open RuntimeClusterFences RuntimeParties LibraryChecked LibraryOrdMap LibraryProgram Relation

/-! One grant against the report. -/

/-- The side of the grant that the cluster takes, if it takes one. -/
def sideIn (registry : Registry) (cluster : ClusterId) (grant : GrantRecord) : Option Side :=
  registry.contracts[grant.contract]?.bind fun contract => contract.sideOf cluster

/-- What the report counts as installed for a grant: its first entry, if that says so. -/
def enforced (report : StatusReportMessage) (id : GrantId) : Option GrantStatusEntry :=
  (report.grants.find? fun entry => entry.grant = id).filter fun entry => installed entry.state

/-- The entry is about another attempt, or the grant is bound to another incarnation or generation. -/
def Foreign (session : PeerSession) (side : Side) (grant : GrantRecord) (entry : GrantStatusEntry) : Prop :=
  entry.attempt ≠ grant.attempt ∨ grant.incarnations.get side ≠ session.incarnation ∨
    grant.generations.get side ≠ session.generation

instance (session : PeerSession) (side : Side) (grant : GrantRecord) (entry : GrantStatusEntry) :
    Decidable (Foreign session side grant entry) := inferInstanceAs (Decidable (_ ∨ _ ∨ _))

/-- The grant once its agent has not reported it. -/
def lostGrant (grant : GrantRecord) : GrantRecord :=
  { grant with
    state := .indeterminate
    note := ascii "the cluster agent does not report an installed enforcement for this grant" }

/-- The grant as the comparison leaves it. -/
def reconciled (registry : Registry) (session : PeerSession) (report : StatusReportMessage)
    (grant : GrantRecord) : GrantRecord :=
  match sideIn registry session.cluster grant with
  | none => grant
  | some side =>
    match enforced report grant.id with
    | some entry =>
      if Foreign session side grant entry ∨ grant.acknowledged.get side = true then grant
      else acknowledge grant side entry.enforcementDigest
    | none => if grant.usableState then lostGrant grant else grant

/-- The comparison puts the grant on the list of those to fence. -/
def condemned (registry : Registry) (session : PeerSession) (report : StatusReportMessage)
    (grant : GrantRecord) : Bool :=
  match sideIn registry session.cluster grant with
  | none => false
  | some side =>
    match enforced report grant.id with
    | some entry => decide (Foreign session side grant entry)
    | none => grant.usableState

/-- Only grants have changed, and what the store holds. -/
structure Sweeps (s s' : Coordinator) : Prop extends Settled s s' where
  grants : ∃ grants, s'.registry = { s.registry with grants }
  sessions : s'.sessions = s.sessions
  outbox : s'.outbox = s.outbox

instance : Std.Refl Sweeps := ⟨fun s => ⟨.refl s, ⟨s.registry.grants, rfl⟩, rfl, rfl⟩⟩

instance : IsTrans Coordinator Sweeps where
  trans _ _ _ h h' := by
    obtain ⟨grants, hgrants⟩ := h.grants
    obtain ⟨grants', hgrants'⟩ := h'.grants
    exact ⟨h.toSettled.trans h'.toSettled, ⟨grants', by rw [hgrants', hgrants]⟩, h'.sessions.trans h.sessions,
      h'.outbox.trans h.outbox⟩

section Comparison

variable {s : Coordinator} {session : PeerSession} {report : StatusReportMessage}

lemma appendMutation_sweeps (mutation : Mutation) :
    Steps Sweeps (appendMutation mutation) s fun _ s' => s'.registry = s.registry := by
  have hasked : Sweeps s { s with index := s.index + 1 } :=
    ⟨⟨rfl, rfl, rfl, rfl, rfl, Nat.le_succ _⟩, ⟨s.registry.grants, rfl⟩, rfl, rfl⟩
  refine Steps.bind (P := fun _ s' => s' = { s with index := s.index + 1 }) ⟨hasked, fun _ _ => rfl⟩
    fun m s₁ _ h₁ => ?_
  subst h₁
  constructor
  · rw [onStore_state]
    exact ⟨⟨rfl, rfl, rfl, rfl, rfl, le_rfl⟩, ⟨s.registry.grants, rfl⟩, rfl, rfl⟩
  · intro _ _
    rw [onStore_state]

lemma writeGrant_sweeps (id : GrantId) (grant : GrantRecord) :
    Steps Sweeps (writeGrant id grant) s fun _ s' => s'.registry = setGrant s.registry id grant :=
  Steps.modify ⟨⟨rfl, rfl, rfl, rfl, rfl, le_rfl⟩, ⟨_, rfl⟩, rfl, rfl⟩ rfl

/-- A grant is written back and logged. -/
lemma rewrite_sweeps (id : GrantId) (grant : GrantRecord) {fence : List GrantId} {Q : List GrantId → Registry → Prop}
    (h : Q fence (setGrant s.registry id grant)) :
    Steps Sweeps (do
      writeGrant id grant
      appendMutation (.grantPut grant)
      return fence) s fun fence' s' => Q fence' s'.registry := by
  refine (writeGrant_sweeps id grant).bind fun _ s₁ _ h₁ => ?_
  refine (appendMutation_sweeps (.grantPut grant)).bind fun _ s₂ _ h₂ => Steps.pure ?_
  rwa [h₂, h₁]

/-- What a turn of the comparison leaves of the grants, and of the list of those to fence. -/
structure Compared (session : PeerSession) (report : StatusReportMessage) (base : Registry) (fence : List GrantId)
    (id : GrantId) (fence' : List GrantId) (next : Registry) : Prop where
  grants : ∀ key : GrantId, next.grants[key]? =
    if key = id then (base.grants[id]?).map (reconciled base session report) else base.grants[key]?
  fence : fence' = fence ++ if (base.grants[id]?).any (condemned base session report) then [id] else []

/-- The turn leaves everything as it is. -/
lemma compared_skip {base : Registry} {fence : List GrantId} {id : GrantId}
    (hgrant : ∀ grant, base.grants[id]? = some grant → reconciled base session report grant = grant ∧
      condemned base session report grant = false) :
    Compared session report base fence id fence base := by
  cases hfind : base.grants[id]? with
  | none =>
    refine ⟨fun key => ?_, by simp [hfind]⟩
    by_cases hkey : key = id
    · simp [hkey, hfind]
    · simp [hkey]
  | some grant =>
    obtain ⟨hsame, hnot⟩ := hgrant grant hfind
    refine ⟨fun key => ?_, by simp [hfind, hnot]⟩
    by_cases hkey : key = id
    · simp [hkey, hfind, hsame]
    · simp [hkey]

/-- The turn leaves the grant as it is, and has it fenced. -/
lemma compared_fence {base : Registry} {fence : List GrantId} {id : GrantId} {grant : GrantRecord}
    (hfind : base.grants[id]? = some grant) (hsame : reconciled base session report grant = grant)
    (hcondemned : condemned base session report grant = true) :
    Compared session report base fence id (fence ++ [id]) base := by
  refine ⟨fun key => ?_, by simp [hfind, hcondemned]⟩
  by_cases hkey : key = id
  · simp [hkey, hfind, hsame]
  · simp [hkey]

/-- The turn writes the grant back. -/
lemma compared_write {base : Registry} {fence : List GrantId} {id : GrantId} {grant : GrantRecord}
    (hfind : base.grants[id]? = some grant) :
    Compared session report base fence id
      (fence ++ if condemned base session report grant then [id] else [])
      (setGrant base id (reconciled base session report grant)) := by
  refine ⟨fun key => ?_, by simp [hfind]⟩
  rw [setGrant, getElem?_insert_eq]
  by_cases hkey : key = id
  · simp [hkey, hfind]
  · simp [hkey]

lemma reconcile_compares {id : GrantId} (fence : List GrantId)
    (hid : ∀ grant, s.registry.grants[id]? = some grant → grant.id = id) :
    Steps Sweeps (reconcile session report fence id) s fun fence' s' =>
      Compared session report s.registry fence id fence' s'.registry := by
  have hskip (h : ∀ grant, s.registry.grants[id]? = some grant →
      reconciled s.registry session report grant = grant ∧ condemned s.registry session report grant = false) :
      Steps Sweeps (pure fence : Op (List GrantId)) s fun fence' s' =>
        Compared session report s.registry fence id fence' s'.registry := Steps.pure (compared_skip h)
  refine Steps.get_bind ?_
  dsimp only
  cases hfind : s.registry.grants[id]? with
  | none => exact hskip fun grant hgrant => by simp [hfind] at hgrant
  | some grant =>
    obtain rfl : grant.id = id := hid grant hfind
    have honly {P : GrantRecord → Prop} (h : P grant) : ∀ g, s.registry.grants[grant.id]? = some g → P g := by
      intro g hg
      rw [hfind, Option.some.injEq] at hg
      rwa [← hg]
    dsimp only
    cases hcontract : s.registry.contracts[grant.contract]? with
    | none => exact hskip (honly (by simp [reconciled, condemned, sideIn, hcontract]))
    | some contract =>
      dsimp only
      cases hside : contract.sideOf session.cluster with
      | none => exact hskip (honly (by simp [reconciled, condemned, sideIn, hcontract, hside]))
      | some side =>
        have hsideIn : sideIn s.registry session.cluster grant = some side := by simp [sideIn, hcontract, hside]
        dsimp only
        change Steps Sweeps (match enforced report grant.id with
          | some entry => _
          | none => _) s _
        cases henforced : enforced report grant.id with
        | some entry =>
          dsimp only
          have hfence (hforeign : Foreign session side grant entry) :
              Steps Sweeps (pure (fence ++ [grant.id]) : Op (List GrantId)) s fun fence' s' =>
                Compared session report s.registry fence grant.id fence' s'.registry := by
            have hsame : reconciled s.registry session report grant = grant := by
              simp [reconciled, hsideIn, henforced, hforeign]
            have hcondemned : condemned s.registry session report grant = true := by
              simp [condemned, hsideIn, henforced, hforeign]
            exact Steps.pure (compared_fence hfind hsame hcondemned)
          by_cases hattempt : entry.attempt ≠ grant.attempt
          · rw [if_pos hattempt]
            exact hfence (.inl hattempt)
          rw [if_neg hattempt]
          by_cases hbound : grant.incarnations.get side ≠ session.incarnation ∨
              grant.generations.get side ≠ session.generation
          · rw [if_pos hbound]
            exact hfence (.inr hbound)
          rw [if_neg hbound]
          have hours : ¬Foreign session side grant entry := by
            rintro (h | h)
            · exact hattempt h
            · exact hbound h
          have hspared : condemned s.registry session report grant = false := by
            simp [condemned, hsideIn, henforced, hours]
          by_cases hknown : grant.acknowledged.get side = true
          · rw [if_pos hknown]
            exact hskip (honly ⟨by simp [reconciled, hsideIn, henforced, hknown], hspared⟩)
          · rw [if_neg hknown]
            have hacknowledged : reconciled s.registry session report grant =
                acknowledge grant side entry.enforcementDigest := by
              simp [reconciled, hsideIn, henforced, hours, hknown]
            have hcompared : Compared session report s.registry fence grant.id
                (fence ++ if condemned s.registry session report grant then [grant.id] else [])
                (setGrant s.registry grant.id (reconciled s.registry session report grant)) := compared_write hfind
            rw [hspared, if_neg (by simp), List.append_nil, hacknowledged] at hcompared
            exact rewrite_sweeps (Q := Compared session report s.registry fence grant.id) grant.id _ hcompared
        | none =>
          dsimp only
          by_cases husable : grant.usableState = true
          · rw [if_pos husable]
            have hlost : reconciled s.registry session report grant = lostGrant grant := by
              simp [reconciled, hsideIn, henforced, husable]
            have hcondemned : condemned s.registry session report grant = true := by
              simp [condemned, hsideIn, henforced, husable]
            have hcompared : Compared session report s.registry fence grant.id
                (fence ++ if condemned s.registry session report grant then [grant.id] else [])
                (setGrant s.registry grant.id (reconciled s.registry session report grant)) := compared_write hfind
            rw [hcondemned, if_pos rfl, hlost] at hcompared
            rw [lostGrant] at hcompared
            -- the text is of no concern, and unifying it is slow
            generalize ascii "the cluster agent does not report an installed enforcement for this grant" = note
              at hcompared ⊢
            exact rewrite_sweeps (Q := Compared session report s.registry fence grant.id) grant.id _ hcompared
          · rw [if_neg husable]
            exact hskip (honly (by simp [reconciled, condemned, hsideIn, henforced, husable]))

/-- Halfway through the comparison, with the grants still to come. -/
structure Halfway (session : PeerSession) (report : StatusReportMessage) (base : Registry)
    (rest fence : List GrantId) (next : Registry) : Prop where
  nodup : rest.Nodup
  grants : ∀ key : GrantId, next.grants[key]? =
    if key ∈ rest then base.grants[key]? else base.grants[key]?.map (reconciled base session report)
  fence : ∀ key, key ∈ fence ↔
    key ∉ rest ∧ ∃ grant, base.grants[key]? = some grant ∧ condemned base session report grant = true

lemma halfway_start (base : Registry) : Halfway session report base base.grants.keys [] base where
  nodup := Std.ExtTreeMap.nodup_keys
  grants key := by
    by_cases hkey : key ∈ base.grants.keys
    · rw [if_pos hkey]
    · have hnone : base.grants[key]? = none := by
        rw [Std.ExtTreeMap.mem_keys] at hkey
        simpa using hkey
      rw [if_neg hkey, hnone, Option.map_none]
  fence key := by
    constructor
    · intro h
      cases h
    · rintro ⟨hkey, grant, hgrant, -⟩
      have hmem : key ∈ base.grants.keys := by
        rw [Std.ExtTreeMap.mem_keys, mem_iff_isSome, hgrant]
        rfl
      exact absurd hmem hkey

/-- One more turn. -/
lemma Halfway.turn {base next last : Registry} {id : GrantId} {rest fence fence' : List GrantId}
    (h : Halfway session report base (id :: rest) fence next) (hbase : ∃ grants, next = { base with grants })
    (hturn : Compared session report next fence id fence' last) : Halfway session report base rest fence' last := by
  obtain ⟨hfresh, hnodup⟩ := List.nodup_cons.mp h.nodup
  have hcurrent : next.grants[id]? = base.grants[id]? := by
    rw [h.grants id, if_pos (by simp)]
  have hreconciled : reconciled next session report = reconciled base session report := by
    obtain ⟨grants, rfl⟩ := hbase
    rfl
  have hcondemned : condemned next session report = condemned base session report := by
    obtain ⟨grants, rfl⟩ := hbase
    rfl
  refine ⟨hnodup, fun key => ?_, fun key => ?_⟩
  · rw [hturn.grants key, hreconciled, hcurrent, h.grants key]
    by_cases hkey : key = id
    · simp [hkey, hfresh]
    · simp [hkey]
  · rw [hturn.fence, hcondemned, hcurrent, List.mem_append, h.fence key]
    by_cases hkey : key = id
    · subst hkey
      cases hgrant : base.grants[key]? with
      | none => simp
      | some grant => simp [hfresh]
    · cases base.grants[id]?.any (condemned base session report) <;> simp [hkey]

/-- The comparison of all grants. -/
lemma comparison_sweeps (hformed : WellFormed s.registry) :
    Steps Sweeps (Program.foldEach s.registry.grants.keys [] (reconcile session report)) s fun fence s' =>
      Halfway session report s.registry [] fence s'.registry := by
  refine Steps.foldEach_rest
    (I := fun rest fence s' => Halfway session report s.registry rest fence (Coordinator.registry s'))
    (halfway_start s.registry) fun id rest fence s' hsweeps hhalfway => ?_
  have hid : ∀ grant, s'.registry.grants[id]? = some grant → grant.id = id := by
    intro grant hgrant
    rw [hhalfway.grants id, if_pos (by simp)] at hgrant
    exact (find_grant hformed hgrant).1
  exact (reconcile_compares fence hid).mono fun fence' s'' hturn => hhalfway.turn hsweeps.grants hturn

end Comparison

/-! The fences, and the grants both sides enforce. -/

section Resolution

variable {scene : Scene} {s : Coordinator}

/-- Every reservation that is new is for a grant that satisfies `P`. -/
def Allots (P : GrantId → Prop) (s s' : Coordinator) : Prop :=
  ∀ (key : ReservationId) r, s'.registry.reservations[key]? = some r →
    s.registry.reservations[key]? = some r ∨ P r.grant

instance (P : GrantId → Prop) : Std.Refl (Allots P) := ⟨fun _ _ _ h => .inl h⟩

instance (P : GrantId → Prop) : IsTrans Coordinator (Allots P) where
  trans _ _ _ h h' key r hr := by
    rcases h' key r hr with hold | hP
    · exact h key r hold
    · exact .inr hP

section Allots

variable {P : GrantId → Prop} {α : Type}

lemma allots_of_same {s' : Coordinator} (h : s'.registry.reservations = s.registry.reservations) : Allots P s s' := by
  intro key r hr
  rw [h] at hr
  exact .inl hr

lemma allots_of_records {p : Op α} (h : Steps Recorded p s fun _ _ => True) :
    Steps (Allots P) p s fun _ _ => True := by
  refine (h.weaken fun s' hrecorded => ?_).mono fun _ _ _ => trivial
  obtain ⟨audit, haudit⟩ := hrecorded.trail
  exact allots_of_same (by rw [haudit])

lemma putReservation_allots {reservation : ReservationRecord} (h : P reservation.grant) :
    Steps (Allots P) (onRegistry (Program.update fun registry => registry.putReservation reservation)) s
      fun _ _ => True := by
  refine Steps.focus (S := fun r r' : Registry => ∀ (key : ReservationId) v, r'.reservations[key]? = some v →
      r.reservations[key]? = some v ∨ P v.grant) (P := fun _ _ => True) ⟨?_, fun _ _ => trivial⟩
    (fun _ hallots => hallots) fun _ _ _ _ => trivial
  unfold Program.update
  split
  · rename_i next hok
    obtain ⟨-, -, rfl⟩ := putReservation_eq_ok.mp hok
    intro key v hv
    dsimp only [store] at hv
    rw [getElem?_insert_eq] at hv
    split at hv
    · cases hv
      exact .inr h
    · exact .inl hv
  · exact fun _ _ hv => .inl hv

lemma reserveCapacity_allots {grant : GrantRecord} (h : P grant.id) (now : Timestamp) :
    Steps (Allots P) (reserveCapacity grant now) s fun _ _ => True := by
  refine Steps.get_bind ?_
  split
  · exact Steps.throw
  refine Steps.forEach (I := fun _ => True) trivial fun party _ s' _ _ => Steps.get_bind ?_
  split
  · exact Steps.throw
  split
  · exact Steps.throw
  dsimp only
  split
  · exact Steps.throw
  refine Steps.modify_bind (allots_of_same rfl) ?_
  refine Steps.bind (allots_of_records (recorded_of_keeps random_keeps)) fun id s₁ _ _ => ?_
  refine Steps.bind (putReservation_allots h) fun _ s₂ _ _ => ?_
  refine Steps.bind (allots_of_records (appendMutation_records _)) fun _ s₃ _ _ => ?_
  exact allots_of_records (appendMutation_records _)

lemma abortGrant_allots (id : GrantId) (reason : Bytes) :
    Steps (Allots P) (abortGrant id reason) s fun _ _ => True := by
  have hdrop {s' : Coordinator} : Steps (Allots P) (dropPending id) s' fun _ _ => True :=
    Steps.modify (allots_of_same rfl) trivial
  have hwrite (grant : GrantRecord) : Steps (Allots P) (writeGrant id grant) s fun _ _ => True :=
    Steps.modify (allots_of_same rfl) trivial
  refine Steps.get_bind ?_
  split
  · exact hdrop
  split
  · exact hdrop
  refine Steps.bind (hwrite _) fun _ s₁ _ _ => ?_
  refine Steps.bind (allots_of_records (appendMutation_records _)).attempt fun persisted s₂ _ _ => ?_
  refine Steps.bind hdrop fun _ s₃ _ _ => ?_
  refine Steps.bind (Steps.ofResult (Q := fun _ _ => True) fun _ _ => trivial) fun _ s₄ _ _ => ?_
  exact allots_of_records (appendAudit_records _ _ _ _ _)

lemma finaliseGrant_allots {id : GrantId} (now : Timestamp)
    (h : ∀ grant, s.registry.grants[id]? = some grant → P grant.id) :
    Steps (Allots P) (finaliseGrant id now) s fun _ _ => True := by
  refine Steps.get_bind ?_
  cases hfind : s.registry.grants[id]? with
  | none => exact Steps.throw
  | some grant =>
    dsimp only
    split
    · exact Steps.pure trivial
    split
    · exact Steps.throw
    refine Steps.attempt_bind (reserveCapacity_allots (h grant hfind) _) (fun _ s₁ _ _ => ?_) fun status s₁ _ => ?_
    · refine Steps.modify_bind (allots_of_same rfl) ?_
      refine Steps.bind (allots_of_records (appendMutation_records _)) fun _ s₃ _ _ => ?_
      refine Steps.modify_bind (allots_of_same rfl) ?_
      refine Steps.modify_bind (allots_of_same rfl) ?_
      exact allots_of_records (appendAudit_records _ _ _ _ _)
    · exact (abortGrant_allots _ _).bind fun _ _ _ _ => Steps.throw

end Allots

/-- The grant is fenced, and none of its capacity is held any more. -/
structure Resolved (registry : Registry) (id : GrantId) : Prop where
  fenced : registry.grants[id]?.map GrantRecord.state = some .fenced
  released : ∀ (key : ReservationId) r, registry.reservations[key]? = some r → r.grant = id → r.released = true

/-- A grant that is resolved stays so while others are committed. -/
lemma finaliseInstalled_resolved {id : GrantId} (hformed : WellFormed s.registry) (hresolved : Resolved s.registry id)
    (key : GrantId) : Resolved (finaliseInstalled key s).2.registry id := by
  have hstays {s' : Coordinator} (hguarded : Guarded (fun other => other ≠ id) s s')
      (hallots : Allots (fun other => other ≠ id) s s') : Resolved s'.registry id := by
    constructor
    · by_contra hother
      refine hguarded id (.inl fun hsame => hother ?_) rfl
      rw [hsame]
      exact hresolved.fenced
    · intro other r hr hgrant
      rcases hallots other r hr with hold | hne
      · exact hresolved.released other r hold hgrant
      · exact absurd hgrant hne
  unfold finaliseInstalled
  rw [Program.get_bind_run]
  cases hfind : s.registry.grants[key]? with
  | none => exact hresolved
  | some grant =>
    dsimp only
    split
    · exact hresolved
    rename_i hopen
    obtain ⟨hstate, -⟩ := not_or.mp hopen
    have hid := (find_grant hformed hfind).1
    have hother : key ≠ id := by
      intro heq
      have hfenced := hresolved.fenced
      rw [← heq, hfind, Option.map_some, Option.some.injEq] at hfenced
      rw [hfenced] at hstate
      exact hstate nofun
    let asked : Coordinator := { s with index := s.index + 1 }
    have hnow : now s = (.ok (s.moments s.index).now, asked) := rfl
    rw [Program.bind_ok hnow]
    have hguarded : Guarded (fun other => other ≠ id) asked (finaliseGrant key (s.moments s.index).now asked).2 :=
      (finaliseGrant_guarded (P := fun other => other ≠ id) hother _).related
    have hallots : Allots (fun other => other ≠ id) asked (finaliseGrant key (s.moments s.index).now asked).2 := by
      refine (finaliseGrant_allots _ fun g hg => ?_).related
      rw [show g.id = key from (find_grant hformed hg).1]
      exact hother
    exact hstays hguarded hallots

/-- A grant of the cluster whose state is in doubt, or in use, and that the report does not name as
installed under its current attempt. -/
structure Ambiguous (s : Coordinator) (session : PeerSession) (message : StatusReportMessage) (id : GrantId)
    (grant : GrantRecord) : Prop where
  registered : s.registry.grants[id]? = some grant
  party : (sideIn s.registry session.cluster grant).isSome = true
  state : grant.state = .indeterminate ∨ grant.state = .committed ∨ grant.state = .active
  unreported : ∀ entry ∈ message.grants, entry.grant = id → entry.attempt = grant.attempt →
    installed entry.state = false

/-- The comparison condemns an ambiguous grant, unless it was in doubt before and is not reported. -/
lemma Ambiguous.condemned {session : PeerSession} {message : StatusReportMessage} {id : GrantId}
    {grant : GrantRecord} (h : Ambiguous s session message id grant) (hid : grant.id = id)
    (hreported : grant.state = .indeterminate → (enforced message id).isSome = true) :
    condemned s.registry session message grant = true := by
  obtain ⟨side, hside⟩ := Option.isSome_iff_exists.mp h.party
  cases henforced : enforced message id with
  | none =>
    rw [henforced] at hreported
    have hopen : grant.state = .committed ∨ grant.state = .active := by
      rcases h.state with hstate | hstate | hstate
      · exact absurd (hreported hstate) (by simp)
      · exact .inl hstate
      · exact .inr hstate
    have husable : grant.usableState = true := by
      rcases hopen with hstate | hstate <;> simp [GrantRecord.usableState, hstate]
    simp [RuntimeReports.condemned, hside, hid, henforced, husable]
  | some entry =>
    obtain ⟨hfind, hinstalled⟩ := Option.filter_eq_some_iff.mp henforced
    have hgrant : entry.grant = id := by simpa using List.find?_some hfind
    have hattempt : entry.attempt ≠ grant.attempt := by
      intro heq
      rw [h.unreported entry (List.mem_of_find?_eq_some hfind) hgrant heq] at hinstalled
      cases hinstalled
    simp [RuntimeReports.condemned, hside, hid, henforced, Foreign, hattempt]

/-- The comparison takes no grant out of the reach of a fence. -/
lemma reconciled_open {registry : Registry} {session : PeerSession} {report : StatusReportMessage}
    {grant : GrantRecord} (h : ¬GrantGone grant.state) : ¬GrantGone (reconciled registry session report grant).state := by
  unfold reconciled
  split
  · exact h
  split <;> split
  · exact h
  · exact h
  · simp [lostGrant]
  · exact h

/-- The plan of a report fences the grant and releases what is held for it. -/
lemma resolved_of_fences {registry next : Registry} (hformed : WellFormed registry) {term : Term} {now : Timestamp}
    {fence : List GrantId} {id : GrantId} {grant : GrantRecord} (hfind : registry.grants[id]? = some grant)
    (hopen : ¬GrantGone grant.state) (hmem : id ∈ fence)
    (hfences : Fences .grantRevocation now registry next)
    (hdone : ∀ action ∈ (grantsPlan registry .grantRevocation .grantNeedsRevalidation term fence).actions,
      Done next action) : Resolved next id := by
  constructor
  · have hgone := hdone _ (List.mem_append_left _ (List.mem_map_of_mem hmem))
    rcases hfences.grants id with hsame | ⟨old, -, -, hnext⟩
    · rw [hfind] at hsame
      exact absurd (hgone grant hsame) hopen
    · simp [hnext, fencedGrant]
  · intro key r hr hgrant
    rcases hfences.reservations key with hsame | ⟨old, -, -, hnext⟩
    · rw [hsame] at hr
      by_contra hunreleased
      have hheld : r.released = false := by simpa using hunreleased
      have hmember : r ∈ (values registry.reservations).filter fun reservation =>
          !reservation.released && fence.contains reservation.grant := by
        refine List.mem_filter.mpr ⟨mem_values.mpr ⟨key, hr⟩, ?_⟩
        simp [hheld, hgrant, hmem]
      have hreleased := hdone _ (List.mem_append_right _ (List.mem_map_of_mem hmember))
      refine hunreleased (hreleased r ?_)
      dsimp only
      rw [(find_reservation hformed hr).1, hsame, hr]
    · rw [hnext] at hr
      cases hr
      rfl

/-- A scene in which every acknowledgement is allowed, and every commit. -/
def trusting : Scene := { quiet with acknowledges := fun _ _ => True, settles := True }

/-- The registry is well-formed after the comparison. -/
lemma comparison_does {session : PeerSession} {report : StatusReportMessage} {keys : List GrantId} :
    Does trusting (Program.foldEach keys [] (reconcile session report)) s fun _ _ => True := by
  refine Steps.foldEach (I := fun _ _ => True) trivial fun id _ fence s' _ _ => ?_
  exact (reconcile_does (fun _ _ _ _ _ _ _ _ _ _ _ => trivial) fence).mono fun _ _ _ => trivial

/-- The end of a report that was processed to its end. -/
lemma onStatusReport_resolves (hformed : WellFormed s.registry) {connection : ℕ} {message : StatusReportMessage}
    {session : PeerSession} (hspeaks : SpeaksAs s connection message.session session) {id : GrantId}
    {grant : GrantRecord} (hambiguous : Ambiguous s session message id grant)
    (hreported : grant.state = .indeterminate → (enforced message id).isSome = true) :
    Does trusting (onStatusReport connection message) s fun _ s' => Resolved s'.registry id := by
  have hid := (find_grant hformed hambiguous.registered).1
  have hcondemned := hambiguous.condemned hid hreported
  have hopen : ¬GrantGone grant.state := by
    rcases hambiguous.state with h | h | h <;> simp [h]
  have hbody : onStatusReport connection message s = _ := withSession_run hspeaks _
  suffices hsteps : Does trusting _ s fun _ s' => Resolved s'.registry id by
    constructor
    · rw [hbody]
      exact hsteps.related
    · rw [hbody]
      exact hsteps.returns
  refine Steps.bind (P := fun _ s' => s'.registry = s.registry) (Steps.modify within_count rfl) fun _ s₁ _ h₁ => ?_
  refine Steps.get_bind ?_
  rw [h₁]
  have hcompare : Does trusting (Program.foldEach s.registry.grants.keys [] (reconcile session message)) s₁
      fun fence s' => Halfway session message s.registry [] fence s'.registry := by
    have hformed₁ : WellFormed s₁.registry := by rwa [h₁]
    have hsweeps : Steps Sweeps (Program.foldEach s₁.registry.grants.keys [] (reconcile session message)) s₁
        fun fence s' => Halfway session message s₁.registry [] fence s'.registry := comparison_sweeps hformed₁
    rw [h₁] at hsweeps
    have hboth := ((comparison_does (s := s₁)).and hsweeps).weaken fun _ h => h.1
    exact hboth.mono fun _ _ h => h.2.2
  refine Steps.bind hcompare fun fence s₂ hw₂ hswept => Steps.get_bind ?_
  have hformed₂ : WellFormed s₂.registry := hw₂.formed (by rwa [h₁])
  have hmem : id ∈ fence := (hswept.fence id).mpr ⟨by simp, grant, hambiguous.registered, hcondemned⟩
  have hfind : s₂.registry.grants[id]? = some (reconciled s.registry session message grant) := by
    rw [hswept.grants id, if_neg (by simp), hambiguous.registered, Option.map_some]
  refine Steps.bind (P := fun _ s' => Resolved s'.registry id) ?_ fun _ s₃ hw₃ hresolved => Steps.get_bind ?_
  · rw [Program.onlyIf, if_pos (List.ne_nil_of_mem hmem)]
    refine (fencePlanApply_fences hformed₂ _ _).mono fun _ s₃ h => ?_
    obtain ⟨now, hfences⟩ := h.fences
    exact resolved_of_fences hformed₂ hfind (reconciled_open hopen) hmem hfences h.done
  · have hformed₃ : WellFormed s₃.registry := hw₃.formed hformed₂
    refine Steps.forEach (I := fun s' : Coordinator => Resolved s'.registry id) hresolved fun key _ s' hw' h => ?_
    have hformed' : WellFormed s'.registry := hw'.formed hformed₃
    exact ⟨(finaliseInstalled_does trivial hformed' key).related, fun _ _ => finaliseInstalled_resolved hformed' h key⟩

end Resolution

/-- A report that is accepted and processed without an error resolves every ambiguous grant. -/
def Resolves (s : Coordinator) (connection : ℕ) (message : StatusReportMessage) : Prop :=
  ∀ session, SpeaksAs s connection message.session session →
    (handle (.message connection (.statusReport message)) s).1 = .ok () →
    ∀ id grant, Ambiguous s session message id grant →
      Resolved (step s (.message connection (.statusReport message))).registry id

/-- In every reachable state a report resolves the ambiguous grants of its cluster, if it names, under
whatever attempt, those of them that were in doubt before. -/
theorem report_resolves (launch : Launch) (files : Files) (s : Coordinator) (hstarted : Started launch files s)
    (events : List Event) (connection : ℕ) (message : StatusReportMessage)
    (hreported : ∀ session id grant, SpeaksAs (run s events) connection message.session session →
      Ambiguous (run s events) session message id grant → grant.state = .indeterminate →
      (enforced message id).isSome = true) : Resolves (run s events) connection message := by
  intro session hspeaks hok id grant hambiguous
  have hformed := started_wellFormed hstarted events
  have hsteps := onStatusReport_resolves hformed hspeaks hambiguous (hreported session id grant hspeaks hambiguous)
  exact hsteps.returns () hok

/-! The agent of the first cluster comes back and enforces nothing. -/

/-- Both agents have installed the grant of the sample runs. -/
def sampleCommitted : Coordinator := run sampleProcess (agree ++ [issueGrant] ++ commitBoth)

lemma sampleCommitted_eq : sampleCommitted = sampleGranted := by
  rw [sampleCommitted, commit_run]

def emptyReport (s : Coordinator) (connection : ℕ) : StatusReportMessage where
  session := tokenOf s connection
  grants := []

lemma speaks_of_open {s : Coordinator} {connection : ℕ} {session : PeerSession}
    (hopen : s.sessions[connection]? = some session) (hcomplete : session.helloComplete = true) :
    SpeaksAs s connection (emptyReport s connection).session session := by
  refine ⟨hopen, ?_⟩
  simp [sessionFault, hcomplete, emptyReport, tokenOf, hopen]

lemma ok_of_toOption {r : Result Unit} (h : r.toOption = some ()) : r = .ok () := by
  cases r with
  | error status => cases h
  | ok u => rfl

/-- A committed grant that its agent does not report is fenced. -/
theorem report_resolves_sample : sampleCommitted.registry.grants[issuedId]?.map GrantRecord.state = some .committed ∧
    Resolves sampleCommitted (agentOf .first) (emptyReport sampleCommitted (agentOf .first)) := by
  have hfacts : sampleCommitted.registry.grants[issuedId]?.map GrantRecord.state = some .committed ∧
      (values sampleCommitted.registry.grants).all (fun grant => grant.state != .indeterminate) = true := by
    rw [sampleCommitted_eq, issuedId_eq]
    decide +kernel
  obtain ⟨hcommitted, hall⟩ := hfacts
  refine ⟨hcommitted, ?_⟩
  rw [sampleCommitted] at hall ⊢
  refine report_resolves sampleLaunch {} sampleProcess sampleProcess_started _ _ _ ?_
  intro session id grant _ hambiguous hstate
  have hother := List.all_eq_true.mp hall grant (mem_values.mpr ⟨id, hambiguous.registered⟩)
  simp [hstate] at hother

/-- The agent is lost before it answers, and connects again. -/
def interrupted : List Event :=
  agree ++ [issueGrant, .disconnect (agentOf .first) .ok, .message (agentOf .first) (.hello (sampleHello .first))]

def sampleInterrupted : Coordinator := run sampleProcess interrupted

/-- The grant that was in doubt before the report still is after it. -/
theorem report_leaves_doubt : Started sampleLaunch {} sampleProcess ∧
    ¬Resolves sampleInterrupted (agentOf .first) (emptyReport sampleInterrupted (agentOf .first)) := by
  refine ⟨sampleProcess_started, fun h => ?_⟩
  have hfacts : sampleInterrupted.sessions[agentOf .first]?.map (fun session =>
        (session.helloComplete, session.cluster)) = some (true, (sampleParty .first).cluster) ∧
      sampleInterrupted.registry.grants[issuedId]?.map (fun grant =>
        (grant.state, (sideIn sampleInterrupted.registry (sampleParty .first).cluster grant).isSome)) =
          some (.indeterminate, true) ∧
      (handle (.message (agentOf .first) (.statusReport (emptyReport sampleInterrupted (agentOf .first))))
        sampleInterrupted).1.toOption = some () ∧
      (step sampleInterrupted (.message (agentOf .first) (.statusReport
        (emptyReport sampleInterrupted (agentOf .first))))).registry.grants[issuedId]?.map GrantRecord.state =
          some .indeterminate := by
    rw [sampleInterrupted, interrupted, run_agree, issueGrant_eq, issuedId_eq]
    decide +kernel
  obtain ⟨hsession, hgrant, hok, hleft⟩ := hfacts
  obtain ⟨session, hopen, hfields⟩ := Option.map_eq_some_iff.mp hsession
  obtain ⟨hcomplete, hcluster⟩ := Prod.mk.inj hfields
  obtain ⟨grant, hfind, hrecord⟩ := Option.map_eq_some_iff.mp hgrant
  obtain ⟨hstate, hside⟩ := Prod.mk.inj hrecord
  have hambiguous : Ambiguous sampleInterrupted session (emptyReport sampleInterrupted (agentOf .first)) issuedId
      grant := by
    refine ⟨hfind, ?_, .inl hstate, fun entry hentry => ?_⟩
    · rw [hcluster]
      exact hside
    · cases hentry
  have hresolved := h session (speaks_of_open hopen hcomplete) (ok_of_toOption hok) issuedId grant hambiguous
  rw [hresolved.fenced] at hleft
  cases hleft

end InterClusterFabric.RuntimeReports
