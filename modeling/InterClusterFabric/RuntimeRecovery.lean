import InterClusterFabric.EngineAuthorities
import InterClusterFabric.RuntimeStart

/-! Fencing and recovery over whole runs: when a fence plan is carried out to its end, and that a
grant which authorizes anything was issued or attempted again by the process that answers. -/
namespace InterClusterFabric.RuntimeRecovery
open CoreStatus CoreIds CoreTime CoreHash ModelRecords ModelRegistry ModelRegistryLaws EngineDecision
open EngineSoundness RuntimeFencing StoreMutation StoreReplay StoreRecovery StoreCompaction WireMessages
open RuntimeCoordinator RuntimeHandlers RuntimeAdmin RuntimeRun RuntimeEdits RuntimeSteps RuntimeStepsHandlers
open RuntimeStepsAdmin RuntimeFencePlans RuntimeStart LibraryChecked LibraryOrdMap LibraryProgram
open StoreDurable hiding loadState
open EngineAuthorities (listsOrdered_of_wellFormed)

/-! Fencing. -/

/-- Recovery fences everything dynamic and goes through to its end. -/
def RecoveryCompletes (now : Timestamp) (actor : Bytes) (previous : IncarnationId) (term : Term)
    (registry : Registry) : Prop :=
  ∃ outcome next, fenceRecoveredState now actor previous term registry = (.ok outcome, next) ∧ Dormant next

lemma recoveryCompletes_iff {registry : Registry} (hformed : WellFormed registry) (now : Timestamp)
    (actor : Bytes) (previous : IncarnationId) (term : Term) :
    RecoveryCompletes now actor previous term registry ↔
      TrailFits registry (recoveryPlan registry previous term).actions := by
  rw [← completes_iff hformed (recoveryPlan registry previous term) now actor]
  constructor
  · rintro ⟨outcome, next, hrun, -⟩
    have happly : applyFencePlan (recoveryPlan registry previous term) now actor registry = (.ok outcome, next) := hrun
    have hreturns := (applyFencePlan_fences hformed (recoveryPlan registry previous term) now actor).returns outcome
    rw [happly] at hreturns
    exact ⟨outcome, next, happly, hreturns rfl⟩
  · rintro ⟨outcome, next, hrun, hdone⟩
    have hfences := (applyFencePlan_fences hformed (recoveryPlan registry previous term) now actor).related
    rw [hrun] at hfences
    exact ⟨outcome, next, hrun, dormant_of_recoveryPlan hformed hfences hdone⟩

/-- In every reachable registry a plan is carried out, and a recovered registry is fenced, exactly if
the audit trail has room for one record for each grant and contract that has to be fenced. -/
theorem fencing_completes_iff (now : Timestamp) (actor : Bytes) :
    (∀ launch files s, Started launch files s → ∀ events plan,
      Completes plan now actor (run s events).registry ↔ TrailFits (run s events).registry plan.actions) ∧
    ∀ options stream faults files opened, openStore options stream faults files = .ok opened → ∀ previous term,
      RecoveryCompletes now actor previous term opened.recovery.registry ↔
        TrailFits opened.recovery.registry (recoveryPlan opened.recovery.registry previous term).actions := by
  constructor
  · intro launch files s hstarted events plan
    exact completes_iff (started_wellFormed hstarted events) plan now actor
  · intro options stream faults files opened hopened previous term
    exact recoveryCompletes_iff (sane_of_openStore hopened).formed now actor previous term

/-- A plan against the contract of the sample runs. -/
def contractPlan : FencePlan :=
  { trigger := .manual, actions := [{ target := .contract, contract := proposedId }] }

/-- With room in the trail the contract is fenced. -/
theorem fencing_completes_sample :
    Completes contractPlan ⟨0⟩ [] (run sampleProcess (connectAgents ++ [proposeContract])).registry :=
  ((fencing_completes_iff ⟨0⟩ []).1 sampleLaunch {} sampleProcess sampleProcess_started _ _).mpr
    (by unfold TrailFits; decide +kernel)

/-! A trail that fills up. -/

lemma forEach_singleton {α : Type} (f : α → Op Unit) (x : α) (s : Coordinator) :
    (Program.forEach [x] f s).2 = (f x s).2 := by
  cases hrun : f x s with
  | mk result s' =>
    cases result with
    | ok u => rw [Program.forEach, Program.bind_ok hrun]; rfl
    | error status => rw [Program.forEach, Program.bind_error hrun]

lemma appendAudit_full {s : Coordinator} (hfull : Limits.maxAuditRecords ≤ s.registry.audit.length)
    (actor action : String) (subject : Bytes) (outcome : Outcome) (detail : Bytes) :
    (RuntimeCoordinator.appendAudit actor action subject outcome detail s).2.registry = s.registry := by
  have hnow : now s = (.ok (s.moments s.index).now, { s with index := s.index + 1 }) := rfl
  unfold RuntimeCoordinator.appendAudit
  rw [Program.bind_ok hnow, Program.get_bind_run, if_pos hfull]
  rfl

lemma appendAudit_grows {s : Coordinator} (hroom : s.registry.audit.length < Limits.maxAuditRecords)
    (actor action : String) (subject : Bytes) (outcome : Outcome) (detail : Bytes) :
    (RuntimeCoordinator.appendAudit actor action subject outcome detail s).2.registry.audit.length =
      s.registry.audit.length + 1 := by
  set asked : Coordinator := { s with index := s.index + 1 } with hasked
  have hnow : now s = (.ok (s.moments s.index).now, asked) := rfl
  unfold RuntimeCoordinator.appendAudit
  rw [Program.bind_ok hnow, Program.get_bind_run, if_neg (not_le.mpr hroom)]
  rcases appendAudit_run (ascii actor) s.registry (s.moments s.index).now (ascii action) subject outcome detail with
    ⟨-, record, hrun⟩ | ⟨hfull, -⟩
  · have hput : onRegistry (RuntimeFencing.appendAudit (s.moments s.index).now (ascii actor) (ascii action) subject
        outcome detail) asked =
        (.ok (), { asked with registry := { s.registry with audit := s.registry.audit ++ [record] } }) := by
      simp only [onRegistry, Program.focus, hasked, hrun]
    rw [Program.bind_ok hput, Program.get_bind_run]
    have hlogs (t : Coordinator) : Kept t (Program.forEach t.registry.audit.getLast?.toList
        (fun record => appendMutation (.auditAppend record)) t).2 :=
      (logEach_keeps fun _ hlast => List.mem_of_getLast? (by simpa using hlast)).related
    rw [(hlogs _).registry]
    simp
  · exact absurd hroom (not_lt.mpr hfull)

/-- The acknowledgement of one fence. -/
def fenceAck (connection : ℕ) (token : SessionToken) : Event :=
  .message connection (.fenceAck { session := token, results := [{ grant := ⟨0⟩ }] })

/-- An acknowledged fence adds a record to the trail until the trail is full, and does nothing else. -/
lemma fenceAck_grows {s : Coordinator} {connection : ℕ} {token : SessionToken} {session : PeerSession}
    (hspeaks : SpeaksAs s connection token session) :
    Recorded s (step s (fenceAck connection token)) ∧
      min Limits.maxAuditRecords (s.registry.audit.length + 1) ≤
        (step s (fenceAck connection token)).registry.audit.length := by
  have hstep : step s (fenceAck connection token) =
      (RuntimeCoordinator.appendAudit "agent" "fence-ack" (ascii "grant=" ++ (⟨0⟩ : GrantId).toText) .internal
        (ascii "cluster=" ++ session.cluster.value) s).2 := by
    have hrun : handle (fenceAck connection token) s = Program.forEach [({ grant := ⟨0⟩ } : FenceResult)]
        (fun result => RuntimeCoordinator.appendAudit "agent" "fence-ack" (ascii "grant=" ++ result.grant.toText)
          result.outcome (ascii "cluster=" ++ session.cluster.value)) s := by
      change onFenceAck connection { session := token, results := [{ grant := ⟨0⟩ }] } s = _
      rw [onFenceAck, withSession_run hspeaks]
    rw [step, hrun, forEach_singleton]
  rw [hstep]
  refine ⟨(appendAudit_records _ _ _ _ _).related, ?_⟩
  by_cases hroom : s.registry.audit.length < Limits.maxAuditRecords
  · rw [appendAudit_grows hroom]
    omega
  · rw [appendAudit_full (not_lt.mp hroom)]
    omega

lemma fenceAcks_fill {s : Coordinator} {connection : ℕ} {token : SessionToken} {session : PeerSession}
    (hspeaks : SpeaksAs s connection token session) (n : ℕ) :
    Recorded s (run s (List.replicate n (fenceAck connection token))) ∧
      min Limits.maxAuditRecords (s.registry.audit.length + n) ≤
        (run s (List.replicate n (fenceAck connection token))).registry.audit.length := by
  induction n with
  | zero => exact ⟨Std.Refl.refl s, by simp [run]⟩
  | succ n ih =>
    obtain ⟨hrecorded, hlength⟩ := ih
    rw [List.replicate_succ', run_append]
    set s' := run s (List.replicate n (fenceAck connection token)) with hs'
    have hspeaks' : SpeaksAs s' connection token session := ⟨by rw [hrecorded.sessions]; exact hspeaks.open_,
      hspeaks.valid⟩
    obtain ⟨hnext, hgrows⟩ := fenceAck_grows hspeaks'
    refine ⟨IsTrans.trans _ _ _ hrecorded hnext, ?_⟩
    show _ ≤ (step s' (fenceAck connection token)).registry.audit.length
    omega

/-- As many acknowledged fences as the trail has room for, and more. -/
def fillTrail : List Event :=
  List.replicate Limits.maxAuditRecords
    (fenceAck (agentOf .first) (tokenOf sampleProposed (agentOf .first)))

/-- With a full trail the same plan fails. -/
theorem fencing_fails_on_full_trail :
    Started sampleLaunch {} sampleProcess ∧
      ¬Completes contractPlan ⟨0⟩ []
        (run sampleProcess (connectAgents ++ [proposeContract] ++ fillTrail)).registry := by
  refine ⟨sampleProcess_started, fun h => ?_⟩
  have hfits := (completes_iff (started_wellFormed sampleProcess_started _) _ _ _).mp h
  rw [run_append, ← sampleProposed] at hfits
  have hjoined : (sampleProposed.sessions[agentOf .first]?.map PeerSession.helloComplete) = some true ∧
      (dues sampleProposed.registry contractPlan.actions).card = 1 := by
    rw [contractPlan, proposedId_eq]
    decide +kernel
  obtain ⟨hjoined, hdue⟩ := hjoined
  obtain ⟨session, hopen, hcomplete⟩ := Option.map_eq_some_iff.mp hjoined
  have hspeaks : SpeaksAs sampleProposed (agentOf .first) (tokenOf sampleProposed (agentOf .first)) session := by
    refine ⟨hopen, ?_⟩
    simp [sessionFault, hcomplete, tokenOf, hopen]
  obtain ⟨hrecorded, hlength⟩ := fenceAcks_fill hspeaks Limits.maxAuditRecords
  obtain ⟨audit, haudit⟩ := hrecorded.trail
  have hdues : (dues (run sampleProposed fillTrail).registry contractPlan.actions).card = 1 := by
    have hsame : dues (run sampleProposed fillTrail).registry contractPlan.actions =
        dues sampleProposed.registry contractPlan.actions := by
      unfold dues
      have howes : owes (run sampleProposed fillTrail).registry = owes sampleProposed.registry := by
        funext action
        exact owes_congr (by rw [fillTrail, haudit]) (by rw [fillTrail, haudit]) action
      rw [howes]
    rw [hsame, hdue]
  rw [TrailFits, hdues] at hfits
  rw [← fillTrail] at hlength
  omega

/-! Recovery. -/

/-- The step issues the grant, or attempts it again. -/
def Authors (s : Coordinator) (event : Event) (id : GrantId) : Prop :=
  (∃ request, Administers s event request ∧ request.action = .issueGrant ∧ id = ⟨nextUuid s⟩) ∨
    ∃ request, Administers s event request ∧ request.action = .revalidateGrant ∧ request.grant = id

/-- Some step of the run does. -/
def AuthoredIn (s : Coordinator) (events : List Event) (id : GrantId) : Prop :=
  ∃ before event after, events = before ++ event :: after ∧ Authors (run s before) event id

/-- A move leaves the incarnation of a grant alone unless the step attempts the grant again. -/
lemma move_coordinator {scene : Scene} {grant next : GrantRecord} (h : Move scene grant next) :
    next.coordinator = grant.coordinator ∨ scene.revalidates grant.id := by
  cases h with
  | revalidate _ hscene _ _ _ _ _ _ => exact .inr hscene
  | strand _ hscene _ _ _ _ _ _ => exact .inr hscene
  | _ => exact .inl rfl

/-- After a step, a grant of an incarnation was one before or is authored by the step. -/
lemma step_coordinator {s : Coordinator} (hformed : WellFormed s.registry) (event : Event)
    (incarnation : IncarnationId) {id : GrantId} {g : GrantRecord}
    (hg : (step s event).registry.grants[id]? = some g) (hcoordinator : g.coordinator = incarnation) :
    (∃ old, s.registry.grants[id]? = some old ∧ old.coordinator = incarnation) ∨ Authors s event id := by
  refine step_keeps (P := fun registry => ∀ g, registry.grants[id]? = some g → g.coordinator = incarnation →
    (∃ old, s.registry.grants[id]? = some old ∧ old.coordinator = incarnation) ∨ Authors s event id)
    hformed (fun g hg hcoordinator => .inl ⟨g, hg, hcoordinator⟩) ?_ g hg hcoordinator
  intro registry next hformed hP hedit g hg hcoordinator
  rcases edit_grants hedit id with hsame | ⟨old, g', hold, hnext, hmove⟩ | ⟨hissues, -⟩
  · exact hP g (by rw [← hsame, hg]) hcoordinator
  · rw [hnext] at hg
    cases hg
    rcases move_coordinator hmove with hkept | ⟨request, hadmin, haction, hgrant⟩
    · exact hP old hold (by rw [← hkept]; exact hcoordinator)
    · rw [(find_grant hformed hold).1] at hgrant
      exact .inr (.inr ⟨request, hadmin, haction, hgrant⟩)
  · obtain ⟨⟨request, hadmin, haction⟩, hid⟩ := hissues
    exact .inr (.inl ⟨request, hadmin, haction, hid⟩)

lemma run_coordinator {s : Coordinator} (hformed : WellFormed s.registry) (incarnation : IncarnationId)
    (hnone : ∀ (id : GrantId) g, s.registry.grants[id]? = some g → g.coordinator ≠ incarnation)
    (events : List Event) {id : GrantId} {g : GrantRecord}
    (hg : (run s events).registry.grants[id]? = some g) (hcoordinator : g.coordinator = incarnation) :
    AuthoredIn s events id := by
  induction events using List.reverseRecOn generalizing g with
  | nil => exact absurd hcoordinator (hnone id g hg)
  | append_singleton before event ih =>
    rw [run_append] at hg
    rcases step_coordinator (run_wellFormed hformed before) event incarnation hg hcoordinator with
      ⟨old, hold, hcoordinator⟩ | hauthors
    · obtain ⟨first, e, last, rfl, hauthors⟩ := ih hold hcoordinator
      exact ⟨first, e, last ++ [event], by simp, hauthors⟩
    · exact ⟨before, event, [], rfl, hauthors⟩

/-- What the process answers with: its registry under its own term and incarnation. -/
def view (s : Coordinator) (now : Timestamp) : EngineView :=
  { term := s.term, incarnation := s.incarnation, now }

/-- The grant behind an authorization carries the incarnation of the process. -/
lemma grant_of_authorized {s : Coordinator} (hformed : WellFormed s.registry) {query : DecisionQuery}
    {now : Timestamp} (h : (EngineDecide.decide s.registry query (view s now)).authorized = true) :
    ∃ g, s.registry.grants[(EngineDecide.decide s.registry query (view s now)).grant]? = some g ∧
      g.usableState = true ∧ g.bothAcknowledged = true ∧ g.coordinator = s.incarnation := by
  obtain ⟨_, _, _, grant, hground⟩ := grounded_of_authorized (listsOrdered_of_wellFormed hformed) h
  obtain ⟨hregistered, hid⟩ := hground.grantRegistered
  obtain ⟨key, hkey⟩ := mem_values.mp hregistered
  have hstate : grant.usableState = true := by
    rcases hground.usable.state with hstate | hstate <;> simp [GrantRecord.usableState, hstate]
  refine ⟨grant, ?_, hstate, bothAcknowledged_iff.mpr hground.usable.acknowledged, hground.usable.coordinator⟩
  rw [← hid, (find_grant hformed hkey).1]
  exact hkey

/-- Nothing of the registry can authorize: no grant is on its way or in use, no capacity is set aside,
and no query is answered positively. -/
structure Powerless (s : Coordinator) : Prop where
  grants : ∀ (id : GrantId) g, s.registry.grants[id]? = some g → g.state ≠ .preparing ∧ g.state ≠ .prepared ∧
    g.state ≠ .committed ∧ g.state ≠ .active ∧ g.state ≠ .indeterminate
  reservations : ∀ (id : ReservationId) r, s.registry.reservations[id]? = some r → r.released = true
  decisions : ∀ query now, (EngineDecide.decide s.registry query (view s now)).authorized = false

lemma powerless_of_dormant {s : Coordinator} (hformed : WellFormed s.registry) (h : Dormant s.registry) :
    Powerless s where
  grants id g hg := by
    have hterminal := h.grants id g hg
    cases hstate : g.state <;> simp_all [isTerminal]
  reservations := h.reservations
  decisions query now := by
    by_contra hauthorized
    obtain ⟨g, hg, husable, -, -⟩ := grant_of_authorized hformed (by simpa using hauthorized)
    have hterminal := h.grants _ g hg
    cases hstate : g.state <;> simp_all [isTerminal, GrantRecord.usableState]

/-- Whatever the store held, a term begins without authority; and as long as the process runs, only
grants it issued or attempted again authorize, provided no recovered grant carries its incarnation. -/
theorem recovery_never_resurrects (launch : Launch) (files : Files) :
    (∀ opened s, openStore (storeOptions launch.config) ⟨stamp (launch.moments 0).entropy⟩ launch.faults files =
        .ok opened →
      beginIncarnation (loaded { launched launch files with index := 1 } opened) = (.ok (), s) → Powerless s) ∧
    ∀ s, Started launch files s →
      (∀ opened, openStore (storeOptions launch.config) ⟨stamp (launch.moments 0).entropy⟩ launch.faults files =
          .ok opened →
        ∀ (id : GrantId) g, opened.recovery.registry.grants[id]? = some g → g.coordinator ≠ s.incarnation) →
      ∀ events query now,
        (EngineDecide.decide (run s events).registry query (view (run s events) now)).authorized = true →
        AuthoredIn s events (EngineDecide.decide (run s events).registry query (view (run s events) now)).grant := by
  constructor
  · intro opened s hopened hbegin
    have hbooted := booted_of_begun hopened hbegin
    exact powerless_of_dormant hbooted.formed hbooted.dormant
  · intro s hstarted hfresh events query now hauthorized
    obtain ⟨opened, hbooted⟩ := booted_of_started hstarted
    have hnone (id : GrantId) (g : GrantRecord) (hg : s.registry.grants[id]? = some g) :
        g.coordinator ≠ s.incarnation := by
      rcases hbooted.fences.grants id with hsame | ⟨old, hold, -, hnext⟩
      · exact hfresh opened hbooted.opens id g (by rw [← hsame, hg])
      · rw [hnext] at hg
        cases hg
        exact hfresh opened hbooted.opens id old hold
    obtain ⟨g, hg, -, -, hcoordinator⟩ := grant_of_authorized (run_wellFormed hbooted.formed events) hauthorized
    rw [(run_settled hbooted.formed events).incarnation] at hcoordinator
    exact run_coordinator hbooted.formed s.incarnation hnone events hg hcoordinator

/-- A fresh directory holds nothing. -/
lemma registry_of_empty {options : Options} {stream : IncarnationId} {opened : Opened}
    (h : openStore options stream {} {} = .ok opened) : opened.recovery.registry = {} := by
  obtain ⟨-, h⟩ := rejectIf_bind_eq_ok.mp h
  cases h
  rfl

/-- The rules and the path over which the sample contract is used. -/
def allowTraffic : List Event := [
  .message operator (.admin { action := .upsertPolicy, policy := some (samplePolicy .first) }),
  .message operator (.admin { action := .upsertPolicy, policy := some (samplePolicy .second) }),
  .message operator (.admin { action := .upsertLink, link := some {
    id := sampleName .edge "e1" e1_accepted, a := (sampleParty .first).endpoint
    b := (sampleParty .second).endpoint, kind := .syntheticModel, state := .up } }),
  .message operator (.admin { action := .upsertPath, path := some samplePath })]

/-- The query of the sample run is authorized, and by the grant of the run. -/
lemma sample_decided :
    let decision := EngineDecide.decide (run sampleProcess (agree ++ [issueGrant] ++ commitBoth ++ allowTraffic)).registry
      sampleQuery (view (run sampleProcess (agree ++ [issueGrant] ++ commitBoth ++ allowTraffic)) ⟨0⟩)
    decision.grant = issuedId ∧ decision.authorized = true := by
  dsimp only
  rw [run_commit, issuedId_eq]
  decide +kernel

/-- The grant of the sample run authorizes, and it was issued in that run. -/
theorem recovery_never_resurrects_sample :
    AuthoredIn sampleProcess (agree ++ [issueGrant] ++ commitBoth ++ allowTraffic) issuedId := by
  obtain ⟨hgrant, hauthorized⟩ := sample_decided
  rw [← hgrant]
  refine (recovery_never_resurrects sampleLaunch {}).2 sampleProcess sampleProcess_started
    (fun opened hopened id g hg => ?_) _ _ _ hauthorized
  rw [registry_of_empty hopened] at hg
  simp at hg

end InterClusterFabric.RuntimeRecovery
