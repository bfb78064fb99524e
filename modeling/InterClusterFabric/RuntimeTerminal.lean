import InterClusterFabric.RuntimeStart

/-! Grants that have ended. A fenced grant stays fenced and an ended one stays ended until it is
attempted again, as long as no late acknowledgement completes it and no identity is drawn twice. -/
namespace InterClusterFabric.RuntimeTerminal
open CoreStatus CoreIds ModelRecords ModelRegistry ModelRegistryLaws RuntimeFencing WireMessages
open RuntimeCoordinator RuntimeHandlers RuntimeAdmin RuntimeRun RuntimeEdits RuntimeSteps RuntimeStepsHandlers
open RuntimeStepsAdmin RuntimeStart LibraryOrdMap
open StoreDurable hiding loadState

/-- The step completes no grant that has ended, and issues under an identity of its own. -/
structure Harmless (s : Coordinator) (event : Event) : Prop where
  completes : ∀ connection message grant, event = .message connection (.grantCommitted message) →
    CommitCompletes s connection message grant → isTerminal grant.state = false
  issues : ∀ request, Administers s event request → request.action = .issueGrant →
    (⟨nextUuid s⟩ : GrantId) ∉ s.registry.grants

/-- Every step of a run is. -/
def HarmlessRun (s : Coordinator) (events : List Event) : Prop :=
  ∀ before event after, events = before ++ event :: after → Harmless (run s before) event

/-- The step attempts the grant again. -/
def Revalidates (s : Coordinator) (event : Event) (id : GrantId) : Prop :=
  ∃ request, Administers s event request ∧ request.action = .revalidateGrant ∧ request.grant = id

def RevalidatedIn (s : Coordinator) (events : List Event) (id : GrantId) : Prop :=
  ∃ before event after, events = before ++ event :: after ∧ Revalidates (run s before) event id

/-- What is left of an ended grant: a fenced one is still fenced, and any other has ended too or is
attempted again. -/
def Ended (g : GrantRecord) (again : Prop) (g' : GrantRecord) : Prop :=
  (g.state = .fenced → g'.state = .fenced) ∧ (isTerminal g'.state = true ∨ again)

/-- Which states count as ended. -/
lemma isTerminal_iff {state : GrantState} : isTerminal state = true ↔
    state = .fenced ∨ state = .aborted ∨ state = .withdrawn ∨ state = .expired := by
  cases state <;> simp [isTerminal]

lemma move_ended {s : Coordinator} {event : Event} (hharmless : Harmless s event) {id : GrantId}
    {base g next : GrantRecord} (hbase : s.registry.grants[id]? = some base) (hended : isTerminal base.state = true)
    (hid : g.id = id) (hg : Ended base (Revalidates s event id) g) (hmove : Move (sceneOf s event) g next) :
    Ended base (Revalidates s event id) next := by
  obtain ⟨hfenced, hterminal⟩ := hg
  cases hmove with
  | fence trigger now hstate => exact ⟨fun _ => rfl, .inl rfl⟩
  | abort reason hstate => exact ⟨fun h => absurd (.inl (hfenced h)) hstate, .inl rfl⟩
  | suspend note hstate =>
    refine ⟨fun h => ?_, hterminal.imp_left fun h => ?_⟩
    · simp [hfenced h, GrantRecord.usableState] at hstate
    · rcases isTerminal_iff.mp h with h | h | h | h <;> simp [h, GrantRecord.usableState] at hstate
  | prepare note hstate =>
    refine ⟨fun h => ?_, hterminal.imp_left fun h => ?_⟩
    · simp [hfenced h] at hstate
    · rcases isTerminal_iff.mp h with h | h | h | h <;> simp [h] at hstate
  | digest side value => exact ⟨hfenced, hterminal⟩
  | acknowledge side value _ => exact ⟨hfenced, hterminal⟩
  | commit now hacks hstate =>
    -- only the commit acknowledgement that the condition excludes gets here with an ended grant
    have hopen (h : isTerminal g.state = true) : False := by
      rcases hstate with ⟨-, hstate⟩ | ⟨⟨connection, message, grant, hevent, hcompletes, hmessage⟩, -⟩
      · simp [hstate, isTerminal] at h
      · obtain ⟨session, side, -, hspeaks, -⟩ := hcompletes.accepted
        have hgrant := hspeaks.registered
        rw [hmessage, hid, hbase, Option.some.injEq] at hgrant
        subst hgrant
        rw [hharmless.completes connection message base hevent hcompletes] at hended
        cases hended
    refine ⟨fun h => ?_, hterminal.imp_left fun h => (hopen h).elim⟩
    exact (hopen (by rw [hfenced h]; rfl)).elim
  | expire hbase' =>
    obtain ⟨old, hold, husable⟩ := hbase'
    change s.registry.grants[g.id]? = some old at hold
    rw [hid, hbase, Option.some.injEq] at hold
    subst hold
    rcases isTerminal_iff.mp hended with h | h | h | h <;> simp [h, GrantRecord.usableState] at husable
  | revalidate next hscene hlive _ _ _ _ _ | strand next hscene _ hlive _ _ _ _ =>
    obtain ⟨request, hadmin, haction, hgrant⟩ := hscene
    exact ⟨fun h => absurd (hfenced h) hlive, .inr ⟨request, hadmin, haction, hgrant.trans hid⟩⟩

/-- One step leaves an ended grant ended unless it attempts it again. -/
lemma step_ended {s : Coordinator} (hformed : WellFormed s.registry) {event : Event} (hharmless : Harmless s event)
    {id : GrantId} {base : GrantRecord} (hbase : s.registry.grants[id]? = some base)
    (hended : isTerminal base.state = true) :
    ∃ g, (step s event).registry.grants[id]? = some g ∧ Ended base (Revalidates s event id) g := by
  refine step_keeps (P := fun registry => ∃ g, registry.grants[id]? = some g ∧ Ended base (Revalidates s event id) g)
    hformed ⟨base, hbase, fun h => h, .inl hended⟩ fun registry next hformed hP hedit => ?_
  obtain ⟨g, hg, hrest⟩ := hP
  rcases edit_grants hedit id with hsame | ⟨old, g', hold, hnext, hmove⟩ | ⟨⟨⟨request, hadmin, haction⟩, hid⟩, -⟩
  · exact ⟨g, by rw [hsame, hg], hrest⟩
  · rw [hg, Option.some.injEq] at hold
    subst hold
    exact ⟨g', hnext, move_ended hharmless hbase hended (find_grant hformed hg).1 hrest hmove⟩
  · have hnew := hharmless.issues request hadmin haction
    rw [← hid, mem_iff_isSome, hbase] at hnew
    exact absurd rfl hnew

lemma HarmlessRun.split {s : Coordinator} {before after : List Event} (h : HarmlessRun s (before ++ after)) :
    HarmlessRun (run s before) after := by
  intro first event last hsplit
  rw [← run_append]
  exact h (before ++ first) event last (by rw [hsplit, List.append_assoc])

lemma harmlessRun_append {s : Coordinator} {before after : List Event} (hbefore : HarmlessRun s before)
    (hafter : HarmlessRun (run s before) after) : HarmlessRun s (before ++ after) := by
  intro first event last hsplit
  rcases List.append_eq_append_iff.mp hsplit with ⟨middle, rfl, hmiddle⟩ | ⟨middle, hmiddle, hlast⟩
  · rw [run_append]
    exact hafter middle event last hmiddle
  · cases middle with
    | nil =>
      rw [List.append_nil] at hmiddle
      subst hmiddle
      exact hafter [] event last hlast.symm
    | cons e middle =>
      rw [List.cons_append, List.cons.injEq] at hlast
      obtain ⟨rfl, -⟩ := hlast
      exact hbefore first event middle hmiddle

/-- Along a run a fenced grant stays fenced, and an ended one stays ended until it is attempted again. -/
lemma run_ended {s : Coordinator} (hformed : WellFormed s.registry) {events : List Event}
    (hharmless : HarmlessRun s events) {id : GrantId} {base g : GrantRecord}
    (hbase : s.registry.grants[id]? = some base) (hended : isTerminal base.state = true)
    (hg : (run s events).registry.grants[id]? = some g) : Ended base (RevalidatedIn s events id) g := by
  induction events generalizing s base with
  | nil =>
    have hsame : s.registry.grants[id]? = some g := hg
    rw [hbase, Option.some.injEq] at hsame
    subst hsame
    exact ⟨fun h => h, .inl hended⟩
  | cons event rest ih =>
    have hfirst : Harmless s event := hharmless [] event rest rfl
    have hsplit : HarmlessRun s ([event] ++ rest) := hharmless
    have hrest : HarmlessRun (step s event) rest := hsplit.split
    obtain ⟨next, hnext, hfenced, hterminal⟩ := step_ended hformed hfirst hbase hended
    by_cases hover : isTerminal next.state = true
    · obtain ⟨hstays, hend⟩ := ih (step_wellFormed hformed event) hrest hnext hover hg
      refine ⟨fun h => hstays (hfenced h), hend.imp_right ?_⟩
      rintro ⟨before, later, after, rfl, hagain⟩
      exact ⟨event :: before, later, after, rfl, hagain⟩
    · refine ⟨fun h => absurd (by rw [hfenced h]; rfl) hover, .inr ⟨[], event, rest, rfl, ?_⟩⟩
      exact hterminal.resolve_left hover

/-- No fenced grant is in use at the end of the later part of the run, and no other ended grant is
without having been attempted again in it. -/
def AbsorbingRun (s : Coordinator) (before after : List Event) : Prop :=
  ∀ (id : GrantId) g g', (run s before).registry.grants[id]? = some g →
    (run s (before ++ after)).registry.grants[id]? = some g' → g'.usableState = true →
    g.state ≠ .fenced ∧ (isTerminal g.state = true → RevalidatedIn (run s before) after id)

/-- In a run of harmless steps a grant that is fenced is never in use again, and one that was aborted,
withdrawn or expired is in use again only after it was attempted again. -/
theorem terminal_states_absorb (launch : Launch) (files : Files) (s : Coordinator) (hstarted : Started launch files s)
    (before after : List Event) (hharmless : HarmlessRun s (before ++ after)) : AbsorbingRun s before after := by
  intro id g g' hg hg' husable
  have hformed := started_wellFormed hstarted before
  rw [run_append] at hg'
  have hended (h : isTerminal g.state = true) := run_ended hformed hharmless.split hg h hg'
  have hopen : ¬isTerminal g'.state = true := by
    intro h
    rcases isTerminal_iff.mp h with h | h | h | h <;> simp [h, GrantRecord.usableState] at husable
  constructor
  · intro hfenced
    have hstays := (hended (by rw [hfenced]; rfl)).1 hfenced
    exact hopen (by rw [hstays]; rfl)
  · intro h
    exact (hended h).2.resolve_left hopen

/-- An event that neither acknowledges a commit nor issues a grant. -/
def Quiet (event : Event) : Prop :=
  (∀ connection message, event ≠ .message connection (.grantCommitted message)) ∧
    ∀ connection request, event = .message connection (.admin request) → request.action ≠ .issueGrant

lemma harmlessRun_of_quiet {s : Coordinator} {events : List Event} (h : ∀ event ∈ events, Quiet event) :
    HarmlessRun s events := by
  intro before event after hsplit
  obtain ⟨hcommits, hissues⟩ := h event (by rw [hsplit]; simp)
  constructor
  · intro connection message grant hevent _
    exact absurd hevent (hcommits connection message)
  · rintro request ⟨connection, hevent, -⟩ haction
    exact absurd haction (hissues connection request hevent)

/-- An agent refuses to prepare the grant of the sample runs. -/
def refused (side : Side) : Event :=
  .message (agentOf side) (.grantPrepared {
    session := tokenOf sampleProposed (agentOf side), grant := issuedId, attempt := issuedAttempt
    accepted := false })

/-- What the run comes to: no grant is on record when one is issued, and the refusal ends it. -/
lemma refused_facts :
    (run sampleProcess agree).registry.grants.isEmpty = true ∧
      (run sampleProcess (agree ++ [issueGrant, refused .first])).registry.grants[issuedId]?.map GrantRecord.state =
        some .aborted := by
  rw [agree_run, run_agree, issueGrant_eq, refused, tokenOf_sampleProposed, issuedId_eq, issuedAttempt_eq]
  decide +kernel

/-- A refused grant is aborted and stays so. -/
theorem terminal_states_absorb_sample :
    (run sampleProcess (agree ++ [issueGrant, refused .first])).registry.grants[issuedId]?.map GrantRecord.state =
        some .aborted ∧
      AbsorbingRun sampleProcess (agree ++ [issueGrant, refused .first]) [.tick] := by
  refine ⟨refused_facts.2, terminal_states_absorb sampleLaunch {} sampleProcess sampleProcess_started _ _ ?_⟩
  have hissue : HarmlessRun (run sampleProcess agree) [issueGrant] := by
    intro before event after hsplit
    obtain ⟨rfl, rfl, rfl⟩ : before = [] ∧ event = issueGrant ∧ after = [] := by
      cases before with
      | nil => simpa using hsplit.symm
      | cons e rest => simp at hsplit
    constructor
    · intro connection message grant hevent _
      simp [issueGrant] at hevent
    · intro request _ _
      rw [run_nil, Std.ExtTreeMap.isEmpty_iff.mp refused_facts.1]
      exact Std.ExtTreeMap.not_mem_empty
  have hagree : HarmlessRun sampleProcess agree := by
    refine harmlessRun_of_quiet fun event hevent => ?_
    simp only [agree, connectAgents, List.cons_append, List.nil_append, List.mem_cons, List.not_mem_nil,
      or_false] at hevent
    rcases hevent with rfl | rfl | rfl | rfl | rfl | rfl | rfl <;>
      simp [Quiet, proposeContract, answer]
  have hend : HarmlessRun (run sampleProcess (agree ++ [issueGrant])) [refused .first, .tick] := by
    refine harmlessRun_of_quiet fun event hevent => ?_
    simp only [List.mem_cons, List.not_mem_nil, or_false] at hevent
    rcases hevent with rfl | rfl <;> simp [Quiet, refused]
  have hall := harmlessRun_append (harmlessRun_append hagree hissue) hend
  simpa only [List.append_assoc, List.cons_append, List.nil_append] using hall

def fenceGrant : Event := .message operator (.admin { action := .fenceGrant, grant := issuedId })

/-- The operator fences the grant after one agent acknowledged the commit. -/
def fencedHalfway : List Event :=
  agree ++ [issueGrant, prepared .first, prepared .second, committed .first, fenceGrant]

/-- The acknowledgement of the other agent puts the fenced grant into use. -/
theorem fenced_grant_commits :
    Started sampleLaunch {} sampleProcess ∧ ¬AbsorbingRun sampleProcess fencedHalfway [committed .second] := by
  refine ⟨sampleProcess_started, fun h => ?_⟩
  have hfacts : (run sampleProcess fencedHalfway).registry.grants[issuedId]?.map GrantRecord.state = some .fenced ∧
      (run sampleProcess (fencedHalfway ++ [committed .second])).registry.grants[issuedId]?.map GrantRecord.state =
        some .committed := by
    simp only [run_append, fencedHalfway, agree_run, fenceGrant, issueGrant_eq, prepared_eq, committed_eq, issuedId_eq]
    decide +kernel
  obtain ⟨hfenced, hcommitted⟩ := hfacts
  obtain ⟨g, hg, hstate⟩ := Option.map_eq_some_iff.mp hfenced
  obtain ⟨g', hg', hstate'⟩ := Option.map_eq_some_iff.mp hcommitted
  exact (h issuedId g g' hg hg' (by simp [GrantRecord.usableState, hstate'])).1 hstate

end InterClusterFabric.RuntimeTerminal
