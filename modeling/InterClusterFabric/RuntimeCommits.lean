import InterClusterFabric.RuntimeStart

/-! A request to commit an attempt follows the prepare acknowledgements of both sides, unless the
attempt was replaced under a flow that already held an acknowledgement. -/
namespace InterClusterFabric.RuntimeCommits
open CoreStatus CoreIds CoreTime CoreHash ModelRecords ModelRegistry ModelRegistryLaws EngineDecision
open RuntimeFencing StoreMutation StoreDurable StoreWal WireMessages RuntimeCoordinator RuntimeHandlers RuntimeAdmin
open RuntimeRun RuntimeEdits RuntimeSteps RuntimeStepsHandlers RuntimeStepsAdmin RuntimeStart
open EngineSoundness LibraryChecked LibraryOrdMap LibraryProgram Relation

/-- Some step of the run accepted the prepare acknowledgement of a side for the attempt. -/
def PreparedIn (s : Coordinator) (events : List Event) (id : GrantId) (attempt : AttemptId) (side : Side) : Prop :=
  ∃ before connection message after, events = before ++ .message connection (.grantPrepared message) :: after ∧
    PrepareAccepted (run s before) connection message side ∧ message.grant = id ∧ message.attempt = attempt

lemma PreparedIn.more {s : Coordinator} {events : List Event} {id : GrantId} {attempt : AttemptId} {side : Side}
    (h : PreparedIn s events id attempt side) (event : Event) : PreparedIn s (events ++ [event]) id attempt side := by
  obtain ⟨before, connection, message, after, rfl, haccepted⟩ := h
  exact ⟨before, connection, message, after ++ [event], by simp, haccepted⟩

lemma preparedIn_of_scene {s : Coordinator} {before : List Event} {event : Event} {id : GrantId}
    {attempt : AttemptId} {side : Side} (h : (sceneOf (run s before) event).prepares id attempt side) :
    PreparedIn s (before ++ [event]) id attempt side := by
  obtain ⟨connection, message, rfl, haccepted⟩ := h
  exact ⟨before, connection, message, [], rfl, haccepted⟩

/-- No side is marked as prepared in the flow of the grant. -/
def Unprepared (s : Coordinator) (id : GrantId) : Prop :=
  ∀ pending, s.pending[id]? = some pending → pending.prepared = ⟨false, false⟩

section Acts

variable {scene : Scene} {t t' : Coordinator} {id : GrantId}

/-- Only an acknowledgement marks a side. -/
lemma act_unprepared (hact : Act scene t t') (hnone : ∀ attempt side, ¬scene.prepares id attempt side)
    (h : Unprepared t id) : Unprepared t' id := by
  cases hact with
  | keep hkept =>
    intro pending hpending
    rw [hkept.pending] at hpending
    exact h pending hpending
  | open_ opened hopened =>
    intro pending hpending
    dsimp only at hpending
    rw [getElem?_insert_eq] at hpending
    split at hpending
    · cases hpending
      exact hopened
    · exact h pending hpending
  | prepared key flow grant side _ _ hscene =>
    intro pending hpending
    dsimp only at hpending
    rw [getElem?_insert_eq] at hpending
    split at hpending
    · rename_i hkey
      rw [← hkey] at hscene
      exact absurd hscene (hnone _ _)
    · exact h pending hpending
  | drop key =>
    intro pending hpending
    dsimp only at hpending
    rw [getElem?_erase_eq] at hpending
    split at hpending
    · cases hpending
    · exact h pending hpending
  | retarget f hf =>
    intro pending hpending
    dsimp only at hpending
    rw [Std.ExtTreeMap.getElem?_map] at hpending
    obtain ⟨old, hold, rfl⟩ := Option.map_eq_some_iff.mp hpending
    rw [hf]
    exact h old hold
  | _ => exact h

variable (seen : GrantId → AttemptId → Side → Prop)

/-- Every side that is marked in the flow of the grant was seen to prepare its attempt. -/
def Tracked (s : Coordinator) (id : GrantId) : Prop :=
  ∀ pending grant side, s.pending[id]? = some pending → s.registry.grants[id]? = some grant →
    pending.prepared.get side = true → seen id grant.attempt side

/-- So was every side of a grant that was requested to be committed. -/
def Announced (s : Coordinator) : Prop :=
  ∀ connection token id attempt, (connection, Outbound.commitGrant token id attempt) ∈ s.outbox →
    ∀ side, seen id attempt side

variable {seen}

lemma Unprepared.tracked (h : Unprepared t id) : Tracked seen t id := by
  intro pending grant side hpending _ hside
  rw [h pending hpending] at hside
  cases side <;> cases hside

/-- A move keeps the attempt unless the step attempts the grant again. -/
lemma move_attempt {grant next : GrantRecord} (hmove : Move scene grant next) (hno : ¬scene.revalidates grant.id) :
    next.attempt = grant.attempt := by
  cases hmove with
  | revalidate _ hscene _ _ _ _ _ _ => exact absurd hscene hno
  | strand _ hscene _ _ _ _ _ _ => exact absurd hscene hno
  | _ => rfl

lemma edit_tracked {next : Registry} (hformed : WellFormed t.registry) (hedit : Edit scene t.registry next)
    (hissues : ¬scene.issues id) (hrevalidates : ¬scene.revalidates id) (h : Tracked seen t id) :
    Tracked seen { t with registry := next } id := by
  intro pending grant side hpending hgrant hside
  rcases edit_grants hedit id with hsame | ⟨g, g', hg, hg', hmove⟩ | ⟨hscene, -⟩
  · exact h pending grant side hpending (by rw [← hsame]; exact hgrant) hside
  · have hnext : g' = grant := Option.some.inj (hg'.symm.trans hgrant)
    subst hnext
    have hid := (find_grant hformed hg).1
    rw [move_attempt hmove (by rw [hid]; exact hrevalidates)]
    exact h pending g side hpending hg hside
  · exact absurd hscene hissues

lemma act_tracked (hformed : WellFormed t.registry) (hact : Act scene t t')
    (hsees : ∀ attempt side, scene.prepares id attempt side → seen id attempt side)
    (hissues : ¬scene.issues id) (hrevalidates : ¬scene.revalidates id) (h : Tracked seen t id) :
    Tracked seen t' id := by
  cases hact with
  | keep hkept =>
    intro pending grant side hpending hgrant hside
    rw [hkept.pending] at hpending
    rw [hkept.registry] at hgrant
    exact h pending grant side hpending hgrant hside
  | edit hedit => exact edit_tracked hformed hedit hissues hrevalidates h
  | open_ opened hopened =>
    intro pending grant side hpending hgrant hside
    dsimp only at hpending
    rw [getElem?_insert_eq] at hpending
    split at hpending
    · cases hpending
      rw [hopened] at hside
      cases side <;> cases hside
    · exact h pending grant side hpending hgrant hside
  | prepared key flow marked side hflow hmarked hscene =>
    intro pending grant side' hpending hgrant hside
    dsimp only at hpending hgrant
    rw [getElem?_insert_eq] at hpending
    split at hpending
    · rename_i hkey
      subst hkey
      cases hpending
      rw [hmarked, Option.some.injEq] at hgrant
      subst hgrant
      by_cases hsame : side' = side
      · subst hsame
        exact hsees _ _ hscene
      · refine h flow marked side' hflow hmarked ?_
        simpa [hsame] using hside
    · exact h pending grant side' hpending hgrant hside
  | drop key =>
    intro pending grant side hpending hgrant hside
    dsimp only at hpending
    rw [getElem?_erase_eq] at hpending
    split at hpending
    · cases hpending
    · exact h pending grant side hpending hgrant hside
  | retarget f hf =>
    intro pending grant side hpending hgrant hside
    dsimp only at hpending
    rw [Std.ExtTreeMap.getElem?_map] at hpending
    obtain ⟨old, hold, rfl⟩ := Option.map_eq_some_iff.mp hpending
    rw [hf] at hside
    exact h old grant side hold hgrant hside
  | _ => exact h

lemma act_announced (hact : Act scene t t')
    (htracked : ∀ id attempt side, scene.prepares id attempt side → Tracked seen t id) (h : Announced seen t) :
    Announced seen t' := by
  cases hact with
  | keep hkept =>
    obtain ⟨sent, hsent, hplain⟩ := hkept.outbox
    intro connection token id attempt hmem
    rw [hsent] at hmem
    rcases List.mem_append.mp hmem with hold | hnew
    · exact h connection token id attempt hold
    · cases hplain _ hnew
  | commit connection token key pending grant side hpending hprepared hgrant hscene =>
    intro connection' token' id attempt hmem side'
    rcases List.mem_append.mp hmem with hold | hnew
    · exact h connection' token' id attempt hold side'
    · simp only [List.mem_singleton, Prod.mk.injEq, Outbound.commitGrant.injEq] at hnew
      obtain ⟨-, -, rfl, rfl⟩ := hnew
      refine htracked _ _ _ hscene pending grant side' hpending hgrant ?_
      rw [hprepared]
      cases side' <;> rfl
  | _ => exact h

end Acts

/-! Revalidations. -/

/-- The record that the revalidation of a grant logs. -/
def relogged (s : Coordinator) (contract : ContractRecord) (grant : GrantRecord) : GrantRecord :=
  let again := revalidating contract (reattempted s (nextUuid s) (s.moments (s.index + 1)).now grant)
  { again with
    provenance := { again.provenance with
      source := .derivedFromTopology, verification := .verified, observedAt := (s.moments (s.index + 3)).now } }

/-- A revalidation gets as far as opening a new flow: the contract is there and consented to, the agents
of both parties are connected, and the log takes the record. -/
structure Reopens (s : Coordinator) (grant : GrantRecord) (contract : ContractRecord) : Prop where
  registered : s.registry.contracts[grant.contract]? = some contract
  consented : contract.state = .consented ∨ contract.state = .active
  connected : ∀ side, (targetFor s.sessions (contract.parties.get side).cluster).connected = true
  admitted : s.store.wal.admits .mutation (encodeMutation (.grantPut (relogged s contract grant))) = .ok ()
  written : (s.moments (s.index + 4)).append = none

section Reopen

variable {s : Coordinator}

lemma requireTarget_run {party : PartyRef} (h : (targetFor s.sessions party.cluster).connected = true) :
    requireTarget party s = (.ok (targetFor s.sessions party.cluster), s) := by
  unfold requireTarget
  rw [Program.get_bind_run]
  simp only [h, if_true]
  rfl

/-- An append that the log accepts and the disk takes. -/
lemma appendMutation_run {mutation : Mutation} (hadmits : s.store.wal.admits .mutation (encodeMutation mutation) = .ok ())
    (hfault : (s.moments s.index).append = none) : (appendMutation mutation s).1 = .ok () := by
  have hmoment : moment s = (.ok (s.moments s.index), { s with index := s.index + 1 }) := rfl
  rw [appendMutation, Program.bind_ok hmoment, hfault]
  simp only [onStore, DurableStore.append, DurableStore.write, hadmits]

/-- The flow of a grant that is prepared in place starts afresh. -/
lemma prepareGrant_reopens {grant : GrantRecord} {contract : ContractRecord}
    (hcontract : s.registry.contracts[grant.contract]? = some contract)
    (hconsented : contract.state = .consented ∨ contract.state = .active)
    (hconnected : ∀ side, (targetFor s.sessions (contract.parties.get side).cluster).connected = true)
    (hadmits : s.store.wal.admits .mutation (encodeMutation (.grantPut { grant with
      state := .preparing
      provenance := { grant.provenance with
        source := .derivedFromTopology, verification := .verified
        observedAt := (s.moments (s.index + 1)).now } })) = .ok ())
    (hfault : (s.moments (s.index + 2)).append = none) :
    Unprepared (prepareGrant true grant s).2 grant.id := by
  have hopen : ¬(contract.state ≠ .consented ∧ contract.state ≠ .active) := by
    rcases hconsented with h | h <;> simp [h]
  set s₁ : Coordinator := { s with index := s.index + 1 } with hs₁
  set s₂ : Coordinator := { s with index := s.index + 2 } with hs₂
  have hstarted : now s = (.ok (s.moments s.index).now, s₁) := rfl
  have hfirst : requireTarget contract.parties.first s₁ = (.ok _, s₁) := requireTarget_run (hconnected .first)
  have hsecond : requireTarget contract.parties.second s₁ = (.ok _, s₁) := requireTarget_run (hconnected .second)
  have hobserved : now s₁ = (.ok (s.moments (s.index + 1)).now, s₂) := rfl
  unfold prepareGrant
  rw [Program.get_bind_run, hcontract]
  simp only
  rw [if_neg hopen, Program.bind_ok hstarted, Program.bind_ok hfirst, Program.bind_ok hsecond,
    Program.bind_ok hobserved]
  generalize ({ grant with
    state := .preparing
    provenance := { grant.provenance with
      source := .derivedFromTopology, verification := .verified
      observedAt := (s.moments (s.index + 1)).now } } : GrantRecord) = preparing at hadmits ⊢
  set s₃ : Coordinator := { s₂ with registry := setGrant s.registry grant.id preparing } with hs₃
  have hwrite : Program.onlyIf (true = true) (writeGrant grant.id preparing) s₂ = (.ok (), s₃) := rfl
  have happend : (appendMutation (.grantPut preparing) s₃).1 = .ok () := appendMutation_run hadmits hfault
  rw [Program.bind_ok hwrite]
  cases hrun : appendMutation (.grantPut preparing) s₃ with
  | mk result s₄ =>
    rw [hrun] at happend
    obtain rfl : result = .ok () := happend
    rw [Program.bind_ok hrun]
    set s₅ := (onRegistry (Program.update fun registry => registry.putGrant preparing) s₄).2 with hs₅
    have hput : (onRegistry (Program.update fun registry => registry.putGrant preparing)).ignore s₄ = (.ok (), s₅) := rfl
    rw [Program.bind_ok hput]
    -- what is sent after the flow is open cannot touch it
    have htrans : IsTrans Coordinator fun _ s' => Unprepared s' grant.id := ⟨fun _ _ _ _ h => h⟩
    refine (Steps.modify_bind (R := fun _ s' => Unprepared s' grant.id) (Q := fun _ _ => True) ?_ ?_).related
    · intro pending hpending
      rw [Std.ExtTreeMap.getElem?_insert_self, Option.some.injEq] at hpending
      rw [← hpending]
    · refine (Steps.weaken (R := Kept) (Q := fun _ _ => True) ?_ fun s' hkept => ?_).mono fun _ _ _ => trivial
      · refine Steps.get_bind ?_
        split
        · exact Steps.throw
        · exact (send_keeps _ rfl).bind fun _ _ _ _ => send_keeps _ rfl
      · intro pending hpending
        rw [hkept.pending, Std.ExtTreeMap.getElem?_insert_self, Option.some.injEq] at hpending
        rw [← hpending]

/-- So does the flow of a grant whose revalidation gets that far. -/
lemma revalidation_reopens {request : AdminMessage} {grant : GrantRecord} {contract : ContractRecord}
    (hformed : WellFormed s.registry) (hfind : s.registry.grants[request.grant]? = some grant)
    (hlive : grant.state ≠ .fenced) (h : Reopens s grant contract) :
    Unprepared (applyGrantRevalidation request s).2 request.grant := by
  have hid := (find_grant hformed hfind).1
  set s₁ : Coordinator := { s with index := s.index + 1 } with hs₁
  set s₂ : Coordinator := { s with index := s.index + 2 } with hs₂
  set again := reattempted s (nextUuid s) (s.moments (s.index + 1)).now grant with hagain
  set s₃ : Coordinator := { s₂ with registry := setGrant s.registry request.grant again } with hs₃
  set s₄ : Coordinator := { s₃ with
    registry := setGrant s₃.registry request.grant (revalidating contract again) } with hs₄
  have hdraw : random s = (.ok (nextUuid s), s₁) := rfl
  have hnow : now s₁ = (.ok (s.moments (s.index + 1)).now, s₂) := rfl
  have hwrite : writeGrant request.grant again s₂ = (.ok (), s₃) := rfl
  have hwrite' : writeGrant request.grant (revalidating contract again) s₃ = (.ok (), s₄) := rfl
  have hcontract : s.registry.contracts[again.contract]? = some contract := h.registered
  have hreopens : Unprepared (prepareGrant true (revalidating contract again) s₄).2 grant.id :=
    prepareGrant_reopens h.registered h.consented h.connected h.admitted h.written
  rw [hid] at hreopens
  unfold applyGrantRevalidation
  rw [Program.get_bind_run, hfind]
  simp only
  rw [if_neg hlive, Program.bind_ok hdraw, Program.bind_ok hnow, ← hagain, Program.bind_ok hwrite, hcontract]
  simp only
  rw [Program.bind_ok hwrite']
  cases hrun : prepareGrant true (revalidating contract again) s₄ with
  | mk result s₅ =>
    rw [hrun] at hreopens
    cases result with
    | ok u =>
      rw [Program.bind_ok hrun]
      exact hreopens
    | error status =>
      rw [Program.bind_error hrun]
      exact hreopens

/-- A grant that cannot be attempted again keeps its flow. -/
lemma revalidation_refused {request : AdminMessage}
    (h : ∀ grant, s.registry.grants[request.grant]? = some grant → grant.state = .fenced) :
    (applyGrantRevalidation request s).2 = s := by
  unfold applyGrantRevalidation
  rw [Program.get_bind_run]
  cases hfind : s.registry.grants[request.grant]? with
  | none => rfl
  | some grant =>
    simp only
    rw [if_pos (h grant hfind)]
    rfl

end Reopen

/-! Steps and runs. -/

/-- The step replaces no attempt under a flow that holds an acknowledgement, or it opens the flow
afresh. -/
structure Orderly (s : Coordinator) (event : Event) : Prop where
  issue : ∀ request, Administers s event request → request.action = .issueGrant → Unprepared s ⟨nextUuid s⟩
  revalidation : ∀ request grant, Administers s event request → request.action = .revalidateGrant →
    s.registry.grants[request.grant]? = some grant → grant.state ≠ .fenced →
    Unprepared s request.grant ∨ ∃ contract, Reopens s grant contract

section Step

variable {s : Coordinator} {event : Event} {seen : GrantId → AttemptId → Side → Prop}

/-- An acknowledgement is no administrative action. -/
lemma not_admin_of_prepares {id : GrantId} {attempt : AttemptId} {side : Side}
    (h : (sceneOf s event).prepares id attempt side) (request : AdminMessage) : ¬Administers s event request := by
  rintro ⟨connection, hevent, -⟩
  obtain ⟨connection', message, hevent', -⟩ := h
  rw [hevent] at hevent'
  cases hevent'

lemma step_unprepared (hformed : WellFormed s.registry) {request : AdminMessage} (hadmin : Administers s event request)
    {id : GrantId} (h : Unprepared s id) : Unprepared (step s event) id :=
  step_acts (P := fun t => Unprepared t id) hformed h fun _ _ _ h hact =>
    act_unprepared hact (fun _ _ hprepares => not_admin_of_prepares hprepares request hadmin) h

/-- After a revalidation the flow of its grant has no mark that was not seen. -/
lemma step_revalidation_tracked (hformed : WellFormed s.registry) (horderly : Orderly s event) {request : AdminMessage}
    (hadmin : Administers s event request) (haction : request.action = .revalidateGrant)
    (h : Tracked seen s request.grant) : Tracked seen (step s event) request.grant := by
  have hkept := step_admin_kept hadmin
  have hrun : (handleAdmin request s).2 = (applyGrantRevalidation request s).2 := by rw [handleAdmin, haction]
  rw [hrun] at hkept
  by_cases hrefused : ∀ grant, s.registry.grants[request.grant]? = some grant → grant.state = .fenced
  · rw [revalidation_refused hrefused] at hkept
    intro pending grant side hpending hgrant hside
    rw [hkept.pending] at hpending
    rw [hkept.registry] at hgrant
    exact h pending grant side hpending hgrant hside
  · push Not at hrefused
    obtain ⟨grant, hfind, hlive⟩ := hrefused
    apply Unprepared.tracked
    rcases horderly.revalidation request grant hadmin haction hfind hlive with hclean | ⟨contract, hreopens⟩
    · exact step_unprepared hformed hadmin hclean
    · intro pending hpending
      rw [hkept.pending] at hpending
      exact revalidation_reopens hformed hfind hlive hreopens pending hpending

lemma step_tracked (hformed : WellFormed s.registry) (horderly : Orderly s event)
    (hsees : ∀ id attempt side, (sceneOf s event).prepares id attempt side → seen id attempt side)
    (hannounced : Announced seen s) (htracked : ∀ id, Tracked seen s id) :
    Announced seen (step s event) ∧ ∀ id, Tracked seen (step s event) id := by
  have hothers : Announced seen (step s event) ∧ ∀ id, ¬(sceneOf s event).issues id →
      ¬(sceneOf s event).revalidates id → Tracked seen (step s event) id := by
    refine step_acts (P := fun t => Announced seen t ∧ ∀ id, ¬(sceneOf s event).issues id →
      ¬(sceneOf s event).revalidates id → Tracked seen t id) hformed ⟨hannounced, fun id _ _ => htracked id⟩ ?_
    rintro t t' hformed' ⟨hsent, hflows⟩ hact
    constructor
    · refine act_announced hact (fun id attempt side hprepares => hflows id ?_ ?_) hsent
      · rintro ⟨⟨request, hadmin, -⟩, -⟩
        exact not_admin_of_prepares hprepares request hadmin
      · rintro ⟨request, hadmin, -⟩
        exact not_admin_of_prepares hprepares request hadmin
    · intro id hissues hrevalidates
      exact act_tracked hformed' hact (hsees id) hissues hrevalidates (hflows id hissues hrevalidates)
  refine ⟨hothers.1, fun id => ?_⟩
  by_cases hissues : (sceneOf s event).issues id
  · obtain ⟨⟨request, hadmin, haction⟩, rfl⟩ := hissues
    exact (step_unprepared hformed hadmin (horderly.issue request hadmin haction)).tracked
  · by_cases hrevalidates : (sceneOf s event).revalidates id
    · obtain ⟨request, hadmin, haction, rfl⟩ := hrevalidates
      exact step_revalidation_tracked hformed horderly hadmin haction (htracked request.grant)
    · exact hothers.2 id hissues hrevalidates

end Step

lemma Tracked.mono {s : Coordinator} {id : GrantId} {seen seen' : GrantId → AttemptId → Side → Prop}
    (hmono : ∀ id attempt side, seen id attempt side → seen' id attempt side) (h : Tracked seen s id) :
    Tracked seen' s id :=
  fun pending grant side hpending hgrant hside => hmono _ _ _ (h pending grant side hpending hgrant hside)

lemma Announced.mono {s : Coordinator} {seen seen' : GrantId → AttemptId → Side → Prop}
    (hmono : ∀ id attempt side, seen id attempt side → seen' id attempt side) (h : Announced seen s) :
    Announced seen' s :=
  fun connection token id attempt hmem side => hmono _ _ _ (h connection token id attempt hmem side)

lemma run_tracked {s : Coordinator} (hformed : WellFormed s.registry) (hpending : s.pending = ∅)
    (hplain : ∀ entry ∈ s.outbox, plain entry.2 = true) (events : List Event) (horderly : EachStep Orderly s events) :
    Announced (PreparedIn s events) (run s events) ∧ ∀ id, Tracked (PreparedIn s events) (run s events) id := by
  induction events using List.reverseRecOn with
  | nil =>
    refine ⟨fun connection token id attempt hmem => ?_, fun id pending grant side hflow => ?_⟩
    · cases hplain _ hmem
    · change s.pending[id]? = some pending at hflow
      simp [hpending] at hflow
  | append_singleton before event ih =>
    obtain ⟨hannounced, htracked⟩ := ih horderly.init
    rw [run_append]
    refine step_tracked (run_wellFormed hformed before) horderly.last
      (fun _ _ _ => preparedIn_of_scene) (hannounced.mono fun _ _ _ h => h.more event)
      fun id => (htracked id).mono fun _ _ _ h => h.more event

/-- In a run without such a step, an attempt is requested to be committed only after both sides have
prepared it. -/
theorem commit_follows_prepares {launch : Launch} {files : Files} {s : Coordinator} (hstart : Started launch files s)
    {events : List Event} (horderly : EachStep Orderly s events) {connection : ℕ} {token : SessionToken} {id : GrantId}
    {attempt : AttemptId} (hqueued : (connection, .commitGrant token id attempt) ∈ (run s events).outbox)
    (side : Side) : PreparedIn s events id attempt side := by
  obtain ⟨opened, hbooted⟩ := booted_of_started hstart
  obtain ⟨hannounced, -⟩ := run_tracked hbooted.formed hbooted.pending hbooted.outbox events horderly
  exact hannounced connection token id attempt hqueued side

/-- An event that issues no grant and revalidates none. -/
lemma orderly_of_other {event : Event} (h : ∀ connection request, event = .message connection (.admin request) →
      request.action ≠ .issueGrant ∧ request.action ≠ .revalidateGrant) (s : Coordinator) : Orderly s event where
  issue request hadmin haction := by
    obtain ⟨connection, hevent, -⟩ := hadmin
    exact absurd haction (h connection request hevent).1
  revalidation request grant hadmin haction := by
    obtain ⟨connection, hevent, -⟩ := hadmin
    exact absurd haction (h connection request hevent).2

/-- The requests to commit that a process has queued. -/
def commitRequests (s : Coordinator) : List (ℕ × SessionToken × GrantId × AttemptId) :=
  s.outbox.filterMap fun
    | (connection, .commitGrant token id attempt) => some (connection, token, id, attempt)
    | _ => none

lemma queued_of_commitRequests {s : Coordinator} {connection : ℕ} {token : SessionToken} {id : GrantId}
    {attempt : AttemptId} (h : (connection, token, id, attempt) ∈ commitRequests s) :
    (connection, .commitGrant token id attempt) ∈ s.outbox := by
  obtain ⟨⟨connection', message⟩, hmem, hsome⟩ := List.mem_filterMap.mp h
  cases message <;> simp at hsome
  obtain ⟨rfl, rfl, rfl, rfl⟩ := hsome
  exact hmem

def preparedBoth : List Event := agree ++ [issueGrant, prepared .first, prepared .second]

/-- The first request to commit of a run in which both agents prepare. -/
theorem commit_follows_prepares_sample :
    (agentOf .first, .commitGrant (tokenOf sampleProposed (agentOf .first)) issuedId issuedAttempt) ∈
        (run sampleProcess preparedBoth).outbox ∧
      ∀ side, PreparedIn sampleProcess preparedBoth issuedId issuedAttempt side := by
  have hqueued : (agentOf .first, .commitGrant (tokenOf sampleProposed (agentOf .first)) issuedId issuedAttempt) ∈
      (run sampleProcess preparedBoth).outbox := by
    refine queued_of_commitRequests ?_
    rw [preparedBoth, run_agree, tokenOf_sampleProposed, issuedId_eq, issuedAttempt_eq, issueGrant_eq, prepared_eq,
      prepared_eq]
    decide +kernel
  refine ⟨hqueued, commit_follows_prepares sampleProcess_started ?_ hqueued⟩
  have hagree : EachStep Orderly sampleProcess agree := by
    refine eachStep_of_mem fun event hevent => orderly_of_other ?_
    simp only [agree, connectAgents, List.cons_append, List.nil_append, List.mem_cons, List.not_mem_nil,
      or_false] at hevent
    rcases hevent with rfl | rfl | rfl | rfl | rfl | rfl | rfl <;> simp [proposeContract, answer]
  have hissue : Orderly (run sampleProcess agree) issueGrant := by
    constructor
    · intro request _ _ pending hpending
      have hempty : (run sampleProcess agree).pending.isEmpty = true := by
        rw [agree_run]
        decide +kernel
      simp [Std.ExtTreeMap.isEmpty_iff.mp hempty] at hpending
    · rintro request grant ⟨connection, hevent, -⟩ haction
      simp only [issueGrant, Event.message.injEq, Inbound.admin.injEq] at hevent
      simp [← hevent.2] at haction
  have hprepared (side : Side) (s : Coordinator) : Orderly s (prepared side) := orderly_of_other (by simp [prepared]) s
  have hall := eachStep_snoc (eachStep_snoc (eachStep_snoc hagree hissue) (hprepared .first _)) (hprepared .second _)
  simpa only [preparedBoth, List.append_assoc, List.cons_append, List.nil_append] using hall

/-- One agent has prepared the grant, the other has gone, and the grant is attempted again. -/
def strayed : List Event :=
  agree ++ [issueGrant, prepared .first, .disconnect (agentOf .second) .ok,
    .message operator (.admin { action := .revalidateGrant, grant := issuedId }),
    .message (agentOf .second) (.hello (sampleHello .second)), .tick]

/-- The attempt that replaced the first one. -/
def strayedAttempt : AttemptId :=
  ((run sampleProcess strayed).registry.grants[issuedId]?.map GrantRecord.attempt).getD ⟨0⟩

/-- The second agent, back again, prepares the new attempt. -/
def preparedAgain : Event :=
  .message (agentOf .second) (.grantPrepared {
    session := tokenOf (run sampleProcess strayed) (agentOf .second), grant := issuedId, attempt := strayedAttempt
    accepted := true })

/-- What the run comes to. The second connection speaks for a cluster that is not the first party of any contract. -/
lemma strayed_facts :
    issuedAttempt ≠ strayedAttempt ∧
      (agentOf .first, tokenOf sampleProposed (agentOf .first), issuedId, strayedAttempt) ∈
        commitRequests (run sampleProcess (strayed ++ [preparedAgain])) ∧
      (run sampleProcess strayed).sessions[agentOf .second]?.map PeerSession.cluster =
        some (sampleParty .second).cluster ∧
      ∀ c ∈ values (run sampleProcess strayed).registry.contracts,
        c.sideOf (sampleParty .second).cluster ≠ some .first := by
  simp only [run_append, preparedAgain, strayedAttempt, strayed, agree_run, tokenOf_sampleProposed, issuedId_eq,
    issuedAttempt_eq, issueGrant_eq, prepared_eq]
  decide +kernel

/-- No earlier message of the run names the new attempt. -/
lemma strayed_names_no_attempt {connection : ℕ} {message : GrantPreparedMessage}
    (h : Event.message connection (.grantPrepared message) ∈ strayed) : message.attempt ≠ strayedAttempt := by
  simp only [strayed, agree, connectAgents, issueGrant, proposeContract, answer, prepared, List.cons_append,
    List.nil_append, List.mem_cons, List.not_mem_nil, Event.message.injEq, reduceCtorEq, and_false, false_or,
    or_false, Inbound.grantPrepared.injEq] at h
  have hattempt := congrArg GrantPreparedMessage.attempt h.2
  dsimp only at hattempt
  rw [hattempt]
  exact strayed_facts.1

/-- The only acknowledgement of the new attempt in the run is that of the second agent. -/
lemma preparedIn_strayed {side : Side}
    (h : PreparedIn sampleProcess (strayed ++ [preparedAgain]) issuedId strayedAttempt side) :
    ∃ message, PrepareAccepted (run sampleProcess strayed) (agentOf .second) message side := by
  obtain ⟨before, connection, message, after, heq, haccepted, -, hattempt⟩ := h
  induction after using List.reverseRecOn with
  | nil =>
    obtain ⟨rfl, hlast⟩ := List.append_inj' heq rfl
    obtain ⟨rfl, -⟩ : agentOf .second = connection ∧ _ := by
      simpa only [preparedAgain, List.cons.injEq, Event.message.injEq, and_true] using hlast
    exact ⟨message, haccepted⟩
  | append_singleton after last _ =>
    have heq' : strayed ++ [preparedAgain] = (before ++ .message connection (.grantPrepared message) :: after) ++ [last] := by
      rw [heq]
      simp
    obtain ⟨hstrayed, -⟩ := List.append_inj' heq' rfl
    have hmem : .message connection (.grantPrepared message) ∈ strayed := by
      rw [hstrayed]
      simp
    exact absurd hattempt (strayed_names_no_attempt hmem)

/-- The first agent is requested to commit an attempt it has not prepared. -/
theorem commit_without_prepare :
    Started sampleLaunch {} sampleProcess ∧
      (agentOf .first, .commitGrant (tokenOf sampleProposed (agentOf .first)) issuedId strayedAttempt) ∈
        (run sampleProcess (strayed ++ [preparedAgain])).outbox ∧
      ¬PreparedIn sampleProcess (strayed ++ [preparedAgain]) issuedId strayedAttempt .first := by
  obtain ⟨-, hqueued, hcluster, hparties⟩ := strayed_facts
  refine ⟨sampleProcess_started, queued_of_commitRequests hqueued, fun h => ?_⟩
  obtain ⟨message, -, session, grant, hspeaks, ⟨hgrant, ⟨contract, hcontract, hside⟩, -⟩, -⟩ := preparedIn_strayed h
  rw [hspeaks.open_, Option.map_some, Option.some.injEq] at hcluster
  rw [hcluster] at hside
  exact hparties contract (mem_values.mpr ⟨_, hcontract⟩) hside

end InterClusterFabric.RuntimeCommits
