import InterClusterFabric.RuntimeAgent
import InterClusterFabric.RuntimeStart

/-! Messages about a grant act for its parties and its attempt, an abort apart. -/
namespace InterClusterFabric.RuntimeParties
open CoreStatus CoreIds CoreTime CoreHash ModelRecords ModelRegistry ModelRegistryLaws EngineDecision EngineSoundness
open RuntimeFencing StoreMutation StoreDurable WireMessages RuntimeCoordinator RuntimeHandlers RuntimeAdmin
open RuntimeRun RuntimeEdits RuntimeSteps RuntimeStepsHandlers RuntimeStepsAdmin RuntimeStart
open RuntimeAgent (Agent AgentChanges onAbortGrant onAbortGrant_grants)
open LibraryChecked LibraryOrdMap LibraryProgram Relation

/-- The grant or its flow is no longer what it was. -/
def Changes (s s' : Coordinator) (id : GrantId) : Prop :=
  s'.registry.grants[id]? ≠ s.registry.grants[id]? ∨ s'.pending[id]? ≠ s.pending[id]?

/-- The sender speaks for a party of the grant, as its agent, about the current attempt, and under the
incarnation and the generation the grant is bound to on that side. -/
def Entitled (s : Coordinator) (connection : ℕ) (token : SessionToken) (id : GrantId) (attempt : AttemptId) : Prop :=
  ∃ session grant side, SpeaksAs s connection token session ∧ session.role = .agent ∧
    SpeaksFor s session id attempt grant side

/-- What a message about a grant names. -/
def grantMessage : Inbound → Option (SessionToken × GrantId × AttemptId)
  | .grantPrepared message => some (message.session, message.grant, message.attempt)
  | .grantCommitted message => some (message.session, message.grant, message.attempt)
  | .grantAborted message => some (message.session, message.grant, message.attempt)
  | _ => none

/-- Only an entitled sender changes the grant that the message names, and no message changes another. -/
def Rightful (s : Coordinator) (connection : ℕ) (frame : Inbound) : Prop :=
  ∀ token id attempt, grantMessage frame = some (token, id, attempt) →
    ∀ other, Changes s (step s (.message connection frame)) other →
      other = id ∧ Entitled s connection token id attempt

/-- An abort finds something to change. -/
def Abortable (s : Coordinator) (id : GrantId) (reason : Bytes) : Prop :=
  (s.pending[id]?).isSome = true ∨ ∃ grant, s.registry.grants[id]? = some grant ∧
    ¬(grant.state = .fenced ∨ grant.state = .withdrawn) ∧ ¬(grant.state = .aborted ∧ grant.note = reason)

/-- Of the grants that are there, at most those that satisfy `P` have changed. -/
def Guarded (P : GrantId → Prop) (s s' : Coordinator) : Prop := ∀ id, Changes s s' id → P id

instance (P : GrantId → Prop) : Std.Refl (Guarded P) := ⟨fun _ _ h => by simp [Changes] at h⟩

instance (P : GrantId → Prop) : IsTrans Coordinator (Guarded P) where
  trans s s' s'' h h' id hchanges := by
    by_cases hfirst : Changes s s' id
    · exact h id hfirst
    · refine h' id ?_
      simp only [Changes, not_or, not_not] at hfirst
      simpa only [Changes, hfirst.1, hfirst.2] using hchanges

section Guarded

variable {P : GrantId → Prop} {s : Coordinator}

/-- An operation that touches neither grants nor flows. -/
lemma guarded_of_same {s' : Coordinator} (hgrants : s'.registry.grants = s.registry.grants)
    (hpending : s'.pending = s.pending) : Guarded P s s' := by
  intro id hchanges
  simp [Changes, hgrants, hpending] at hchanges

lemma guarded_of_records {α : Type} {p : Op α} (h : Steps Recorded p s fun _ _ => True) :
    Steps (Guarded P) p s fun _ _ => True := by
  refine (h.weaken fun s' hrecorded => ?_).mono fun _ _ _ => trivial
  obtain ⟨audit, haudit⟩ := hrecorded.trail
  exact guarded_of_same (by rw [haudit]) hrecorded.pending

lemma writeGrant_guarded {id : GrantId} (h : P id) (grant : GrantRecord) :
    Steps (Guarded P) (writeGrant id grant) s fun _ _ => True := by
  refine Steps.modify (fun other hchanges => ?_) trivial
  by_cases hkey : other = id
  · rwa [hkey]
  · simp [Changes, setGrant, getElem?_insert_eq, hkey] at hchanges

lemma dropPending_guarded {id : GrantId} (h : P id) : Steps (Guarded P) (dropPending id) s fun _ _ => True := by
  refine Steps.modify (fun other hchanges => ?_) trivial
  by_cases hkey : other = id
  · rwa [hkey]
  · simp [Changes, getElem?_erase_eq, hkey] at hchanges

lemma abortGrant_guarded {id : GrantId} (h : P id) (reason : Bytes) :
    Steps (Guarded P) (abortGrant id reason) s fun _ _ => True := by
  refine Steps.get_bind ?_
  split
  · exact dropPending_guarded h
  split
  · exact dropPending_guarded h
  refine Steps.bind (writeGrant_guarded h _) fun _ s₁ _ _ => ?_
  refine Steps.bind (guarded_of_records (appendMutation_records _)).attempt fun persisted s₂ _ _ => ?_
  refine Steps.bind (dropPending_guarded h) fun _ s₃ _ _ => ?_
  refine Steps.bind (Steps.ofResult (Q := fun _ _ => True) fun _ _ => trivial) fun _ s₄ _ _ => ?_
  exact guarded_of_records (appendAudit_records _ _ _ _ _)

lemma putReservation_guarded (reservation : ReservationRecord) :
    Steps (Guarded P) (onRegistry (Program.update fun registry => registry.putReservation reservation)) s
      fun _ _ => True := by
  refine Steps.focus (S := fun r r' => r'.grants = r.grants) (P := fun _ _ => True) ⟨?_, fun _ _ => trivial⟩
    (fun _ hgrants => guarded_of_same hgrants rfl) fun _ _ _ _ => trivial
  unfold Program.update
  split
  · rename_i next hok
    obtain ⟨-, -, rfl⟩ := putReservation_eq_ok.mp hok
    rfl
  · rfl

lemma reserveSide_guarded (grant : GrantRecord) (now : Timestamp) (party : PartyRef) :
    Steps (Guarded P) (reserveSide grant now party) s fun _ _ => True := by
  refine Steps.get_bind ?_
  split
  · exact Steps.throw
  split
  · exact Steps.throw
  dsimp only
  split
  · exact Steps.throw
  refine Steps.modify_bind (guarded_of_same rfl rfl) ?_
  refine Steps.bind (guarded_of_records (recorded_of_keeps random_keeps)) fun id s₁ _ _ => ?_
  refine Steps.bind (putReservation_guarded _) fun _ s₂ _ _ => ?_
  refine Steps.bind (guarded_of_records (appendMutation_records _)) fun _ s₃ _ _ => ?_
  exact guarded_of_records (appendMutation_records _)

lemma reserveCapacity_guarded (grant : GrantRecord) (now : Timestamp) :
    Steps (Guarded P) (reserveCapacity grant now) s fun _ _ => True := by
  refine Steps.get_bind ?_
  split
  · exact Steps.throw
  · exact Steps.forEach (I := fun _ => True) trivial fun party _ s' _ _ => reserveSide_guarded _ _ _

lemma finaliseGrant_guarded {id : GrantId} (h : P id) (now : Timestamp) :
    Steps (Guarded P) (finaliseGrant id now) s fun _ _ => True := by
  refine Steps.get_bind ?_
  split
  · exact Steps.throw
  split
  · exact Steps.pure trivial
  split
  · exact Steps.throw
  refine Steps.attempt_bind (reserveCapacity_guarded _ _) (fun _ s₁ _ _ => ?_) fun status s₁ _ => ?_
  · refine Steps.bind (writeGrant_guarded h _) fun _ s₂ _ _ => ?_
    refine Steps.bind (guarded_of_records (appendMutation_records _)) fun _ s₃ _ _ => ?_
    refine Steps.modify_bind (guarded_of_same rfl rfl) ?_
    refine Steps.bind (dropPending_guarded h) fun _ s₄ _ _ => ?_
    exact guarded_of_records (appendAudit_records _ _ _ _ _)
  · exact (abortGrant_guarded h _).bind fun _ _ _ _ => Steps.throw

lemma commitGrant_guarded {id : GrantId} (h : P id) :
    Steps (Guarded P) (commitGrant id) s fun _ _ => True := by
  refine Steps.get_bind ?_
  split
  · exact Steps.throw
  split
  · exact Steps.throw
  split
  · refine Steps.bind (writeGrant_guarded h _) fun _ s₁ _ _ => ?_
    exact guarded_of_records (appendMutation_records _)
  · refine Steps.bind (writeGrant_guarded h _) fun _ s₁ _ _ => ?_
    refine Steps.bind (guarded_of_records (appendMutation_records _)) fun _ s₂ _ _ => ?_
    refine Steps.bind (guarded_of_records (send_records _ _)) fun _ s₃ _ _ => ?_
    exact guarded_of_records (send_records _ _)

lemma replay_error_guarded (connection : ℕ) (request : Uuid) (outcome : Outcome) (detail : Bytes) :
    Steps (Guarded P) (do countReplay; sendError connection request outcome detail) s fun _ _ => True :=
  Steps.modify_bind (guarded_of_same rfl rfl) (guarded_of_records (send_records _ _))

/-- A message that passes the checks of its session and of its grant may change what those allow. -/
lemma withGrant_guarded {connection : ℕ} {token : SessionToken} {id : GrantId} {attempt : AttemptId}
    {body : PeerSession → GrantRecord → Side → Op Unit}
    (h : ∀ session grant side, SpeaksAs s connection token session → SpeaksFor s session id attempt grant side →
      Steps (Guarded P) (body session grant side) s fun _ _ => True) :
    Steps (Guarded P) (withSession connection token fun session =>
      withGrant connection session id attempt (body session)) s fun _ _ => True := by
  refine Steps.get_bind ?_
  dsimp only
  cases hsession : s.sessions[connection]? with
  | none => exact replay_error_guarded _ _ _ _
  | some session =>
    split
    · exact replay_error_guarded _ _ _ _
    rename_i hfault
    refine Steps.get_bind ?_
    dsimp only
    split
    · exact guarded_of_records (send_records _ _)
    rename_i grant hgrant
    split
    · exact guarded_of_records (send_records _ _)
    rename_i contract hcontract
    split
    · exact guarded_of_records (send_records _ _)
    rename_i side hside
    split
    · exact replay_error_guarded _ _ _ _
    rename_i hattempt
    split
    · exact replay_error_guarded _ _ _ _
    rename_i hbound
    obtain ⟨hincarnation, hgeneration⟩ := not_or.mp hbound
    exact h session grant side ⟨hsession, hfault⟩ ⟨hgrant, ⟨contract, hcontract, hside⟩, not_not.mp hattempt,
      not_not.mp hincarnation, not_not.mp hgeneration⟩

end Guarded

/-! Sessions. -/

/-- Only an agent's session names a cluster. -/
def Named (s : Coordinator) : Prop :=
  ∀ (connection : ℕ) session, s.sessions[connection]? = some session → session.role = .agent ∨ session.cluster = .empty

lemma act_named {scene : Scene} {t t' : Coordinator} (hact : Act scene t t') (h : Named t) : Named t' := by
  cases hact with
  | keep hkept =>
    intro connection session hopen
    rw [hkept.sessions] at hopen
    exact h connection session hopen
  | join connection joined hjoins =>
    intro other session hopen
    dsimp only at hopen
    rw [getElem?_insert_eq] at hopen
    split at hopen
    · cases hopen
      exact hjoins.role
    · exact h other session hopen
  | regenerate connection f hf =>
    intro other session hopen
    dsimp only at hopen
    rw [getElem?_modify_eq] at hopen
    split at hopen
    · obtain ⟨old, hold, rfl⟩ := Option.map_eq_some_iff.mp hopen
      obtain ⟨generation, policyGeneration, hnext⟩ := hf old
      rw [hnext]
      exact h other old hold
    · exact h other session hopen
  | leave connection =>
    intro other session hopen
    dsimp only at hopen
    rw [getElem?_erase_eq] at hopen
    split at hopen
    · cases hopen
    · exact h other session hopen
  | _ => exact h

lemma run_named {s : Coordinator} (hformed : WellFormed s.registry) (h : Named s) (events : List Event) :
    Named (run s events) := by
  refine (run_induction (P := fun s' => WellFormed s'.registry ∧ Named s') ⟨hformed, h⟩ ?_).2
  rintro before event after - ⟨hformed', hnamed⟩
  exact ⟨step_wellFormed hformed' event, step_acts hformed' hnamed fun _ _ _ h hact => act_named hact h⟩

section Reached

variable {s : Coordinator} (hformed : WellFormed s.registry) (hnamed : Named s)
include hformed hnamed

/-- The speaker of a party is its agent. -/
lemma entitled_of_speaks {connection : ℕ} {token : SessionToken} {session : PeerSession} {id : GrantId}
    {attempt : AttemptId} {grant : GrantRecord} {side : Side} (hspeaks : SpeaksAs s connection token session)
    (hgrant : SpeaksFor s session id attempt grant side) : Entitled s connection token id attempt := by
  refine ⟨session, grant, side, hspeaks, ?_, hgrant⟩
  obtain ⟨contract, hcontract, hside⟩ := hgrant.party
  obtain ⟨-, hsound⟩ := find_contract hformed hcontract
  refine (hnamed connection session hspeaks.open_).resolve_right fun hempty => ?_
  have hvalue : session.cluster.value = [] := by
    rw [hempty]
    rfl
  unfold ContractRecord.sideOf sideOf at hside
  split at hside
  · rename_i hfirst
    rw [← hfirst] at hvalue
    exact hsound.2.1 hvalue
  split at hside
  · rename_i hsecond
    rw [← hsecond] at hvalue
    exact hsound.2.2.1 hvalue
  · cases hside

lemma rightful_prepared (connection : ℕ) (message : GrantPreparedMessage) :
    Rightful s connection (.grantPrepared message) := by
  rintro token id attempt hmessage
  cases hmessage
  refine (withGrant_guarded (P := fun other => other = message.grant ∧
    Entitled s connection message.session message.grant message.attempt) ?_).related
  intro session grant side hspeaks hgrant
  have hid := (find_grant hformed hgrant.registered).1
  have hallowed : grant.id = message.grant ∧ Entitled s connection message.session message.grant message.attempt :=
    ⟨hid, entitled_of_speaks hformed hnamed hspeaks hgrant⟩
  split
  · exact guarded_of_records (send_records _ _)
  split
  · exact (abortGrant_guarded hallowed _).bind fun _ _ _ _ => guarded_of_records (appendAudit_records _ _ _ _ _)
  refine Steps.get_bind ?_
  split
  · exact guarded_of_records (send_records _ _)
  refine Steps.modify_bind (fun other hchanges => ?_) ?_
  · by_cases hkey : other = grant.id
    · rw [hkey]
      exact hallowed
    · simp [Changes, getElem?_insert_eq, hkey] at hchanges
  refine Steps.bind (writeGrant_guarded ⟨rfl, hallowed.2⟩ _) fun _ s₁ _ _ => ?_
  exact Steps.onlyIf (fun _ => commitGrant_guarded hallowed) fun _ => trivial

lemma rightful_committed (connection : ℕ) (message : GrantCommittedMessage) :
    Rightful s connection (.grantCommitted message) := by
  rintro token id attempt hmessage
  cases hmessage
  refine (withGrant_guarded (P := fun other => other = message.grant ∧
    Entitled s connection message.session message.grant message.attempt) ?_).related
  intro session grant side hspeaks hgrant
  have hid := (find_grant hformed hgrant.registered).1
  have hallowed : grant.id = message.grant ∧ Entitled s connection message.session message.grant message.attempt :=
    ⟨hid, entitled_of_speaks hformed hnamed hspeaks hgrant⟩
  split
  · exact (abortGrant_guarded hallowed _).bind fun _ _ _ _ => guarded_of_records (appendAudit_records _ _ _ _ _)
  refine Steps.bind (writeGrant_guarded ⟨rfl, hallowed.2⟩ _) fun _ s₁ _ _ => ?_
  refine Steps.bind (guarded_of_records (appendMutation_records _)) fun _ s₂ _ _ => ?_
  split
  · exact Steps.bind (guarded_of_records (recorded_of_keeps now_keeps)) fun now s₃ _ _ =>
      finaliseGrant_guarded hallowed now
  · exact Steps.pure trivial

end Reached

/-! Aborts. -/

/-- What is left of a grant that is aborted. -/
def abortedGrant (reason : Bytes) (grant : GrantRecord) : GrantRecord :=
  if grant.state = .fenced ∨ grant.state = .withdrawn then grant
  else { grant with state := .aborted, note := reason }

lemma aborted_eq_iff {grant : GrantRecord} {reason : Bytes} :
    { grant with state := .aborted, note := reason } = grant ↔ grant.state = .aborted ∧ grant.note = reason := by
  constructor
  · intro h
    exact ⟨(congrArg GrantRecord.state h).symm, (congrArg GrantRecord.note h).symm⟩
  · rintro ⟨hstate, hnote⟩
    rw [← hstate, ← hnote]

lemma abortGrant_effect (s : Coordinator) (id : GrantId) (reason : Bytes) :
    (abortGrant id reason s).2.pending = s.pending.erase id ∧
      (abortGrant id reason s).2.registry.grants[id]? = s.registry.grants[id]?.map (abortedGrant reason) := by
  unfold abortGrant
  rw [Program.get_bind_run]
  cases hfind : s.registry.grants[id]? with
  | none => exact ⟨rfl, hfind⟩
  | some grant =>
    simp only
    split
    · rename_i hclosed
      refine ⟨rfl, hfind.trans ?_⟩
      rw [Option.map_some, abortedGrant, if_pos hclosed]
    · rename_i hopen
      set aborted : GrantRecord := { grant with state := .aborted, note := reason } with haborted
      set s₁ : Coordinator := { s with registry := setGrant s.registry id aborted } with hs₁
      set s₂ := (appendMutation (.grantPut aborted) s₁).2 with hs₂
      set s₃ : Coordinator := { s₂ with pending := s₂.pending.erase id } with hs₃
      have hwrite : writeGrant id aborted s = (.ok (), s₁) := rfl
      have hlog : (appendMutation (.grantPut aborted)).attempt s₁ =
          (.ok (appendMutation (.grantPut aborted) s₁).1, s₂) := rfl
      have hdrop : dropPending id s₂ = (.ok (), s₃) := rfl
      rw [Program.bind_ok hwrite, Program.bind_ok hlog, Program.bind_ok hdrop]
      have hlogged : Recorded s₁ s₂ := (appendMutation_records (.grantPut aborted)).related
      have hrest : Steps Recorded (do
          Program.ofResult (appendMutation (.grantPut aborted) s₁).1
          RuntimeCoordinator.appendAudit "coordinator" "abort-grant" id.toText .cancelled reason : Op Unit) s₃
          fun _ _ => True :=
        Steps.bind (Steps.ofResult (Q := fun _ _ => True) fun _ _ => trivial) fun _ _ _ _ => appendAudit_records _ _ _ _ _
      obtain ⟨audit, haudit⟩ := hlogged.trail
      obtain ⟨audit', haudit'⟩ := hrest.related.trail
      refine ⟨?_, ?_⟩
      · rw [hrest.related.pending, hs₃, hlogged.pending]
      · rw [haudit', hs₃, haudit, hs₁, Option.map_some, abortedGrant, if_neg hopen]
        exact Std.ExtTreeMap.getElem?_insert_self

/-- An abort changes its grant or its flow exactly when it finds something to change. -/
lemma abortGrant_changes (s : Coordinator) (id : GrantId) (reason : Bytes) :
    Changes s (abortGrant id reason s).2 id ↔ Abortable s id reason := by
  obtain ⟨hpending, hgrants⟩ := abortGrant_effect s id reason
  have hflow : (abortGrant id reason s).2.pending[id]? ≠ s.pending[id]? ↔ (s.pending[id]?).isSome = true := by
    rw [hpending, Std.ExtTreeMap.getElem?_erase_self]
    cases s.pending[id]? <;> simp
  have hgrant : (abortGrant id reason s).2.registry.grants[id]? ≠ s.registry.grants[id]? ↔
      ∃ grant, s.registry.grants[id]? = some grant ∧ ¬(grant.state = .fenced ∨ grant.state = .withdrawn) ∧
        ¬(grant.state = .aborted ∧ grant.note = reason) := by
    rw [hgrants]
    cases s.registry.grants[id]? with
    | none => simp
    | some grant =>
      simp only [Option.map_some, ne_eq, Option.some.injEq, exists_eq_left']
      unfold abortedGrant
      split
      · rename_i hclosed
        simp [hclosed]
      · rename_i hopen
        rw [aborted_eq_iff]
        simp [hopen]
  rw [Changes, hgrant, hflow, Abortable, or_comm]

section Aborts

variable {s : Coordinator} {connection : ℕ} {message : GrantAbortedMessage}

/-- Without a session that may speak, an abort changes nothing. -/
lemma aborted_ignored (h : ∀ session, ¬SpeaksAs s connection message.session session) :
    Recorded s (onGrantAborted connection message s).2 := by
  suffices hsteps : Steps Recorded (onGrantAborted connection message) s fun _ _ => True from hsteps.related
  have hreject (request : Uuid) (outcome : Outcome) (detail : Bytes) :
      Steps Recorded (do countReplay; sendError connection request outcome detail : Op Unit) s fun _ _ => True :=
    Steps.modify_bind ⟨⟨rfl, rfl, rfl, rfl, rfl, le_rfl⟩, ⟨_, rfl⟩, rfl, rfl⟩ (send_records _ _)
  refine Steps.get_bind ?_
  dsimp only
  cases hsession : s.sessions[connection]? with
  | none => exact hreject _ _ _
  | some session =>
    split
    · exact hreject _ _ _
    · rename_i hfault
      exact absurd ⟨hsession, hfault⟩ (h session)

lemma aborted_rightful_iff : Rightful s connection (.grantAborted message) ↔
    ((∃ session, SpeaksAs s connection message.session session) → Abortable s message.grant message.reason →
      Entitled s connection message.session message.grant message.attempt) := by
  have hstep : step s (.message connection (.grantAborted message)) = (onGrantAborted connection message s).2 := rfl
  constructor
  · rintro h ⟨session, hspeaks⟩ habortable
    refine (h _ _ _ rfl message.grant ?_).2
    rw [hstep, onGrantAborted, withSession_run hspeaks]
    exact (abortGrant_changes _ _ _).mpr habortable
  · rintro h token id attempt hmessage other hchanges
    cases hmessage
    rw [hstep] at hchanges
    by_cases hspeaks : ∃ session, SpeaksAs s connection message.session session
    · obtain ⟨session, hspeaks⟩ := hspeaks
      rw [onGrantAborted, withSession_run hspeaks] at hchanges
      have hkey : other = message.grant :=
        (abortGrant_guarded (P := fun other => other = message.grant) rfl message.reason).related other hchanges
      subst hkey
      exact ⟨rfl, h ⟨session, hspeaks⟩ ((abortGrant_changes _ _ _).mp hchanges)⟩
    · have hignored := aborted_ignored fun session hsession => hspeaks ⟨session, hsession⟩
      obtain ⟨audit, haudit⟩ := hignored.trail
      exact absurd hchanges (by simp [Changes, haudit, hignored.pending])

end Aborts

/-- At an agent, a request to abort changes at most the grant it names, and that only in the attempt
recorded for it. -/
def AgentRightful (a : Agent) (id : GrantId) (attempt : AttemptId) (reason : Bytes) : Prop :=
  ∀ other, AgentChanges (onAbortGrant id attempt reason) a other →
    other = id ∧ ∃ grant, a.registry.grants[id]? = some grant ∧ attempt = grant.attempt

lemma agentRightful_iff (a : Agent) (id : GrantId) (attempt : AttemptId) (reason : Bytes) :
    AgentRightful a id attempt reason ↔ ∀ grant, a.registry.grants[id]? = some grant →
      ¬(grant.state = .aborted ∧ grant.note = reason) → attempt = grant.attempt := by
  constructor
  · intro h grant hgrant hopen
    have hchanges : AgentChanges (onAbortGrant id attempt reason) a id := by
      rw [AgentChanges, onAbortGrant_grants, if_pos rfl, hgrant, Option.map_some, ne_eq, Option.some.injEq,
        aborted_eq_iff]
      exact hopen
    obtain ⟨-, grant', hgrant', hattempt⟩ := h id hchanges
    rw [hgrant, Option.some.injEq] at hgrant'
    rwa [hgrant']
  · intro h other hchanges
    rw [AgentChanges, onAbortGrant_grants] at hchanges
    split at hchanges
    · rename_i hkey
      subst hkey
      cases hgrant : a.registry.grants[other]? with
      | none => simp [hgrant] at hchanges
      | some grant =>
        rw [hgrant, Option.map_some, ne_eq, Option.some.injEq, aborted_eq_iff] at hchanges
        exact ⟨rfl, grant, rfl, h grant hgrant hchanges⟩
    · exact absurd rfl hchanges

/-- Every message about a grant is rightful, an abort only if its sender is entitled to what the abort
finds to change; at an agent, a request to abort only if it names the attempt of what it changes. -/
theorem grant_messages_rightful_iff (launch : Launch) (files : Files) (s : Coordinator)
    (hstarted : Started launch files s) (events : List Event) (connection : ℕ) (frame : Inbound)
    (a : Agent) (id : GrantId) (attempt : AttemptId) (reason : Bytes) :
    (Rightful (run s events) connection frame ↔ ∀ message, frame = .grantAborted message →
      (∃ session, SpeaksAs (run s events) connection message.session session) →
      Abortable (run s events) message.grant message.reason →
      Entitled (run s events) connection message.session message.grant message.attempt) ∧
    (AgentRightful a id attempt reason ↔ ∀ grant, a.registry.grants[id]? = some grant →
      ¬(grant.state = .aborted ∧ grant.note = reason) → attempt = grant.attempt) := by
  refine ⟨?_, agentRightful_iff a id attempt reason⟩
  obtain ⟨opened, hbooted⟩ := booted_of_started hstarted
  have hformed := run_wellFormed hbooted.formed events
  have hnamed : Named (run s events) := by
    refine run_named hbooted.formed (fun connection session hopen => ?_) events
    simp [hbooted.sessions] at hopen
  cases frame with
  | grantAborted message =>
    rw [aborted_rightful_iff]
    constructor
    · intro h message' heq
      cases heq
      exact h
    · intro h
      exact h message rfl
  | grantPrepared message => exact iff_of_true (rightful_prepared hformed hnamed _ _) fun _ heq => nomatch heq
  | grantCommitted message => exact iff_of_true (rightful_committed hformed hnamed _ _) fun _ heq => nomatch heq
  | _ => exact iff_of_true (fun _ _ _ heq => nomatch heq) fun _ heq => nomatch heq

/-- An agent that has recorded the grant of the sample runs. -/
def sampleAgent : Agent where
  config := { cluster := (sampleParty .first).cluster }
  registry := sampleIssued.registry
  moments := sampleMoments

/-- An agent that has recorded what a registry holds. -/
def agentWith (registry : Registry) : Agent where
  config := { cluster := (sampleParty .first).cluster }
  registry := registry
  moments := sampleMoments

lemma agentWith_registry (registry : Registry) : (agentWith registry).registry = registry := rfl

lemma sampleAgent_registry : sampleAgent.registry = sampleIssued.registry := by
  have hagent : sampleAgent = agentWith sampleIssued.registry := rfl
  rw [hagent, agentWith_registry]

/-- The prepare acknowledgement of the first agent of the sample runs is rightful, and so is a request
to abort the attempt that its agent has recorded. -/
theorem grant_messages_rightful_sample :
    Rightful sampleIssued (agentOf .first) (.grantPrepared {
        session := tokenOf sampleProposed (agentOf .first), grant := issuedId, attempt := issuedAttempt
        accepted := true }) ∧
      AgentRightful sampleAgent issuedId issuedAttempt [] := by
  have hiff := grant_messages_rightful_iff sampleLaunch {} sampleProcess sampleProcess_started
    (agree ++ [issueGrant]) (agentOf .first) (.grantPrepared {
      session := tokenOf sampleProposed (agentOf .first), grant := issuedId, attempt := issuedAttempt
      accepted := true }) sampleAgent issuedId issuedAttempt []
  rw [sampleIssued]
  refine ⟨hiff.1.mpr fun _ heq => ?_, hiff.2.mpr fun grant hgrant _ => ?_⟩
  · cases heq
  · rw [sampleAgent_registry] at hgrant
    simp only [issuedAttempt, hgrant, Option.map_some, Option.getD_some]

/-- Somebody who observes gives up the grant of the sample runs, and names no attempt of it. -/
def observe : Event := .message operator (.hello { role := .observer, domain := (sampleParty .first).domain })

def sampleObserved : Coordinator := run sampleProcess (agree ++ [issueGrant, observe])

def observerAbort : GrantAbortedMessage where
  session := tokenOf sampleObserved operator
  grant := issuedId
  attempt := ⟨0⟩

/-- What the observer finds, and what the agent has recorded. -/
lemma sampleObserved_facts :
    sampleObserved.sessions[operator]?.map (fun session => (session.role, session.helloComplete)) =
      some (.observer, true) ∧
    (sampleObserved.pending[observerAbort.grant]?).isSome = true ∧
    sampleIssued.registry.grants[issuedId]?.map (fun grant => (grant.state, grant.attempt)) =
      some (.preparing, issuedAttempt) ∧
    (⟨0⟩ : AttemptId) ≠ issuedAttempt := by
  simp only [sampleObserved, observerAbort, run_agree, sampleIssued_eq, issueGrant_eq, issuedId_eq, issuedAttempt_eq]
  decide +kernel

/-- An observer aborts the grant at the coordinator, and a stale request does at an agent. -/
theorem anyone_aborts :
    Started sampleLaunch {} sampleProcess ∧ ¬Rightful sampleObserved operator (.grantAborted observerAbort) ∧
      ¬AgentRightful sampleAgent issuedId ⟨0⟩ [] := by
  refine ⟨sampleProcess_started, fun h => ?_, fun h => ?_⟩
  · obtain ⟨hrole, hflow, -, -⟩ := sampleObserved_facts
    obtain ⟨session, hopen, hsession⟩ := Option.map_eq_some_iff.mp hrole
    obtain ⟨hobserver, hcomplete⟩ := Prod.mk.inj hsession
    have htoken : observerAbort.session = session.token := by
      simp only [observerAbort, tokenOf, hopen, Option.map_some, Option.getD_some]
    have hspeaks : SpeaksAs sampleObserved operator observerAbort.session session :=
      ⟨hopen, by simp [sessionFault, hcomplete, htoken]⟩
    obtain ⟨session', grant, side, hspeaks', hagent, -⟩ := aborted_rightful_iff.mp h ⟨session, hspeaks⟩ (.inl hflow)
    have hsame : session' = session := Option.some.inj (hspeaks'.open_.symm.trans hopen)
    rw [hsame, hobserver] at hagent
    cases hagent
  · obtain ⟨-, -, hgrant, hother⟩ := sampleObserved_facts
    obtain ⟨grant, hfind, hrecord⟩ := Option.map_eq_some_iff.mp hgrant
    obtain ⟨hstate, hattempt⟩ := Prod.mk.inj hrecord
    rw [← hattempt] at hother
    refine hother ((agentRightful_iff _ _ _ _).mp h grant ?_ (by simp [hstate]))
    rw [sampleAgent_registry]
    exact hfind

end InterClusterFabric.RuntimeParties
