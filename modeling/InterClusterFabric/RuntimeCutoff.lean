import InterClusterFabric.EngineAuthorities
import InterClusterFabric.RuntimeClosure
import InterClusterFabric.RuntimeFenceComplete
import InterClusterFabric.RuntimeHistory
import InterClusterFabric.RuntimeTerminal

/-! The end of a cluster's authority. When a cluster withdraws or comes back as another, the grants under its contracts
are fenced, and no decision rests on one of these contracts until a grant is issued or attempted again. -/
namespace InterClusterFabric.RuntimeCutoff
open CoreStatus CoreIds CoreTime ModelRecords ModelRegistry ModelRegistryLaws EngineDecision EngineSoundness
open RuntimeFencing WireMessages RuntimeCoordinator RuntimeHandlers RuntimeAdmin RuntimeRun RuntimeEdits RuntimeSteps
open RuntimeStepsHandlers RuntimeStepsAdmin RuntimeFencePlans RuntimeClusterFences RuntimeStart RuntimeConsents
open RuntimeOverrides RuntimeClosure RuntimeFenceComplete RuntimeHistory RuntimeTerminal LibraryOrdMap LibraryProgram
open StoreDurable hiding loadState

/-- The grants under contracts that the registry holds for the cluster have ended. -/
def Cleared (registry : Registry) (cluster : ClusterId) (s : Coordinator) : Prop :=
  ∀ (id : GrantId) grant, s.registry.grants[id]? = some grant → Concerns registry cluster grant →
    isTerminal grant.state = true

lemma Cleared.of_grants {registry : Registry} {cluster : ClusterId} {s s' : Coordinator}
    (h : Cleared registry cluster s) (hgrants : s'.registry.grants = s.registry.grants) :
    Cleared registry cluster s' := by
  intro id grant hgrant hconcerns
  rw [hgrants] at hgrant
  exact h id grant hgrant hconcerns

lemma held_or_terminal (state : GrantState) : Held state ∨ isTerminal state = true := by
  cases state <;> simp [Held, isTerminal]

section Fences

variable {s : Coordinator} {cluster : ClusterId}

/-- A fence whose plan reaches all contracts of the cluster ends all their grants. -/
lemma fenceCluster_clears (hformed : WellFormed s.registry) (hreaches : PlanReaches s.registry cluster)
    (trigger : FenceTrigger) (new previous : IncarnationId) (generation : Generation) :
    Steps.Returns (fenceCluster cluster trigger new previous generation) s fun _ s' =>
      Cleared s.registry cluster s' := by
  refine Steps.get_bind ?_
  set plan := planFence s.registry trigger cluster new previous generation s.term with hplan
  have hfences : Does quiet (fencePlanApply plan "coordinator") s fun _ s' => Fenced plan s s' :=
    fencePlanApply_fences hformed plan "coordinator"
  have hcomplete : Complete s.registry cluster plan := complete_of_reaches hformed hreaches
  refine Steps.bind hfences.toReturns fun _ s₁ _ h₁ => ?_
  have hcleared : Cleared s.registry cluster s₁ := by
    intro id grant hgrant hconcerns
    obtain ⟨now, hfenced⟩ := h₁.2.fences
    rcases hfenced.grants id with hsame | ⟨old, -, -, hnext⟩
    · refine (held_or_terminal grant.state).resolve_left fun hheld => ?_
      -- a grant that is due is named by the plan
      obtain ⟨action, haction, htarget, hid⟩ :=
        (hcomplete.grants id).mpr ⟨grant, by rw [← hsame, hgrant], hheld, hconcerns⟩
      have hdone := h₁.2.done action haction
      simp only [Done, htarget, hid] at hdone
      rcases hdone grant hgrant with h | h | h <;> simp [Held, h] at hheld
    · rw [hgrant] at hnext
      cases hnext
      rfl
  refine (appendAudit_records _ _ _ _ _).toReturns.mono fun _ s₂ h₂ => ?_
  obtain ⟨audit, haudit⟩ := h₂.1.trail
  exact hcleared.of_grants (by rw [haudit])

lemma recorded_clears {α : Type} {p : Op α} {registry : Registry} (hcleared : Cleared registry cluster s)
    (h : Steps Recorded p s fun _ _ => True) : Steps.Returns p s fun _ s' => Cleared registry cluster s' := by
  refine h.toReturns.mono fun _ s' h' => ?_
  obtain ⟨audit, haudit⟩ := h'.1.trail
  exact hcleared.of_grants (by rw [haudit])

/-- The cluster's record is written back before the fence, which looks at contracts, grants and reservations only. -/
lemma rewrite_clears {id : ClusterId} {next : ClusterRecord} {trigger : FenceTrigger}
    {new previous : IncarnationId} {generation : Generation} {β : Type} {rest : Op β}
    (hformed : WellFormed (setCluster s.registry id next)) (hreaches : PlanReaches s.registry cluster)
    (hrest : ∀ s', Cleared s.registry cluster s' → Steps.Returns rest s' fun _ s'' => Cleared s.registry cluster s'') :
    Steps.Returns (do writeCluster id next; fenceCluster cluster trigger new previous generation; rest) s
      fun _ s' => Cleared s.registry cluster s' := by
  refine Steps.modify_bind trivial ?_
  have hrewritten : PlanReaches (setCluster s.registry id next) cluster := hreaches
  exact Steps.bind (fenceCluster_clears (s := { s with registry := setCluster s.registry id next }) hformed hrewritten
    _ _ _ _) fun _ s₁ _ h₁ => hrest s₁ h₁

end Fences

section Handlers

variable {s : Coordinator}

lemma onWithdraw_clears (hformed : WellFormed s.registry) {connection : ℕ} {message : WithdrawMessage}
    {session : PeerSession} {cluster : ClusterRecord} (h : WithdrawAccepted s connection message session cluster)
    (hreaches : PlanReaches s.registry session.cluster) :
    Steps.Returns (onWithdraw connection message) s fun _ s' => Cleared s.registry session.cluster s' := by
  have hid : cluster.id = session.cluster := (find_cluster hformed h.registered).1
  have hrun : onWithdraw connection message s = (do
      let lastSeen ← now
      writeCluster session.cluster { cluster with consentWithdrawn := true, lastSeen }
      fenceCluster cluster.id .clusterWithdrawal cluster.incarnation cluster.incarnation cluster.generation
      logCluster session.cluster
      let fenced := (fencedGrants (← get).registry).length
      RuntimeCoordinator.appendAudit "agent" "withdraw-consent" session.cluster.value .fenced
        (ascii "the cluster withdrew consent; dependent grants were fenced")
      send connection (.withdrawAck {
        session := session.token, outcome := .ok, fencedGrants := fenced, detail := message.reason }) : Op Unit) s := by
    unfold onWithdraw
    rw [withSession_run h.speaks, if_neg (by simp [h.role, h.owner]), Program.get_bind_run, h.registered]
    dsimp only
    rw [if_neg (by simp [h.incarnation, h.generation])]
  refine Steps.of_run hrun (Steps.bind now_keeps.toReturns fun lastSeen s₁ _ h₁ => ?_)
  have hregistry : s₁.registry = s.registry := h₁.1.registry
  have hfind := h.registered
  rw [← hregistry] at hformed hfind hreaches ⊢
  rw [hid]
  refine rewrite_clears (rewritten_wellFormed hformed hfind hid.symm rfl rfl) hreaches fun s₂ h₂ =>
    recorded_clears h₂ ?_
  refine Steps.bind (recorded_of_keeps (logCluster_keeps _)) fun _ s₃ _ _ => Steps.get_bind ?_
  exact Steps.bind (appendAudit_records _ _ _ _ _) fun _ s₄ _ _ => send_records _ _

lemma withdrawConsent_clears (hformed : WellFormed s.registry) (request : AdminMessage)
    (hreaches : PlanReaches s.registry request.clusterId) :
    Steps.Returns (applyConsentChange request true) s fun _ s' => Cleared s.registry request.clusterId s' := by
  refine Steps.get_bind ?_
  split
  · exact Steps.throw
  rename_i cluster hfind
  have hid : cluster.id = request.clusterId := (find_cluster hformed hfind).1
  rw [Program.onlyIf, if_pos rfl, hid]
  refine rewrite_clears (rewritten_wellFormed hformed hfind hid.symm rfl rfl) hreaches fun s₂ h₂ =>
    recorded_clears h₂ ?_
  refine Steps.bind (recorded_of_keeps (logCluster_keeps _)) fun _ s₃ _ _ => ?_
  exact Steps.bind (appendAudit_records _ _ _ _ _) fun _ s₄ _ _ => Steps.pure trivial

lemma onHello_clears (hformed : WellFormed s.registry) (connection : ℕ) {request : HelloMessage}
    {cluster : ClusterRecord} (h : Reincarnates s request cluster) (hreaches : PlanReaches s.registry request.cluster) :
    Steps.Returns (onHello connection request) s fun _ s' => Cleared s.registry request.cluster s' := by
  have hrun : ∃ ack signing,
      onHello connection request s = reincarnateAgent connection request ack signing cluster s := by
    unfold onHello
    rw [Program.get_bind_run, if_neg h.admitted.version, if_neg h.admitted.role, if_neg h.admitted.cluster,
      if_neg h.admitted.domain, if_neg h.admitted.capable, h.registered]
    dsimp only
    rw [returningAgent, if_neg (by simp [h.domain]), if_neg h.generation.1, if_pos h.incarnation,
      if_neg h.generation.2]
    exact ⟨_, _, rfl⟩
  obtain ⟨ack, signing, hrun⟩ := hrun
  refine Steps.of_run hrun (Steps.bind now_keeps.toReturns fun lastSeen s₁ _ h₁ => ?_)
  refine Steps.bind now_keeps.toReturns fun observedAt s₂ _ h₂ => ?_
  have hregistry : s₂.registry = s.registry := h₂.1.registry.trans h₁.1.registry
  have hfind := h.registered
  rw [← hregistry] at hformed hfind hreaches ⊢
  refine rewrite_clears (rewritten_wellFormed hformed hfind rfl rfl rfl) hreaches fun s₃ h₃ => Steps.get_bind ?_
  refine Steps.bind (recorded_clears h₃ (recorded_of_keeps (logCluster_keeps _))) fun _ s₄ _ h₄ => ?_
  refine (welcomeAgent_same _ _ _ _ _ _).toReturns.mono fun _ s₅ h₅ => h₄.of_grants ?_
  rw [show s₅.registry = s₄.registry from h₅.1]

lemma step_clears (hformed : WellFormed s.registry) {cluster : ClusterId} {event : Event} (h : Ends s cluster event)
    (hreaches : PlanReaches s.registry cluster) : Cleared s.registry cluster (step s event) := by
  cases h with
  | withdraw connection message session record haccepted hcluster hok =>
    subst hcluster
    exact (onWithdraw_clears hformed haccepted hreaches).returns () hok
  | operator _ request hsucceeds haction hcluster =>
    subst hcluster
    obtain ⟨hadmin, result, hresult⟩ := hsucceeds
    have hrun : handleAdmin request = applyConsentChange request true := by
      unfold handleAdmin
      rw [haction]
    rw [hrun] at hresult
    refine ((withdrawConsent_clears hformed request hreaches).returns result hresult).of_grants ?_
    rw [step_admin_registry hadmin, hrun]
  | reincarnate connection request record hreincarnates hcluster hok =>
    subst hcluster
    exact (onHello_clears hformed connection hreincarnates hreaches).returns () hok

end Handlers

/-! Afterwards. -/

/-- No grant is issued, and none is attempted again. -/
def AttemptsNone (s : Coordinator) (event : Event) : Prop :=
  ∀ request, Administers s event request → request.action ≠ .issueGrant ∧ request.action ≠ .revalidateGrant

/-- No acknowledgement completes the commit of a grant that has ended. -/
def CompletesNoEnded (s : Coordinator) (event : Event) : Prop :=
  ∀ connection message grant, event = .message connection (.grantCommitted message) →
    CommitCompletes s connection message grant → isTerminal grant.state = false

section Runs

variable {s : Coordinator} {event : Event} {events : List Event}

/-- Without an issue, a grant that is there now was there before, under the same contract. -/
lemma step_grant_from (hformed : WellFormed s.registry) (hattempts : AttemptsNone s event) {id : GrantId}
    {grant : GrantRecord} (h : (step s event).registry.grants[id]? = some grant) :
    ∃ old, s.registry.grants[id]? = some old ∧ old.contract = grant.contract := by
  have hkeeps : ∀ grant, (step s event).registry.grants[id]? = some grant →
      ∃ old, s.registry.grants[id]? = some old ∧ old.contract = grant.contract := by
    refine step_keeps (P := fun registry => ∀ grant, registry.grants[id]? = some grant →
      ∃ old, s.registry.grants[id]? = some old ∧ old.contract = grant.contract) hformed
      (fun grant h => ⟨grant, h, rfl⟩) fun registry next _ hP hedit grant hgrant => ?_
    rcases edit_grants hedit id with hsame | ⟨old, new, hold, hnew, hmove⟩ | ⟨⟨⟨request, hadministers, haction⟩, -⟩, -⟩
    · exact hP grant (by rw [← hsame, hgrant])
    · cases hgrant.symm.trans hnew
      obtain ⟨first, hfirst, hcontract⟩ := hP old hold
      exact ⟨first, hfirst, hcontract.trans hmove.fields.2.1.symm⟩
    · exact absurd haction (hattempts request hadministers).1
  exact hkeeps grant h

lemma run_grant_from (hformed : WellFormed s.registry) (hattempts : EachStep AttemptsNone s events) {id : GrantId}
    {grant : GrantRecord} (h : (run s events).registry.grants[id]? = some grant) :
    ∃ old, s.registry.grants[id]? = some old ∧ old.contract = grant.contract := by
  have hrun : ∀ grant, (run s events).registry.grants[id]? = some grant →
      ∃ old, s.registry.grants[id]? = some old ∧ old.contract = grant.contract := by
    refine run_induction (P := fun s' => ∀ grant, s'.registry.grants[id]? = some grant →
      ∃ old, s.registry.grants[id]? = some old ∧ old.contract = grant.contract)
      (fun grant h => ⟨grant, h, rfl⟩) fun before event after heq ih grant hgrant => ?_
    obtain ⟨middle, hmiddle, hcontract⟩ :=
      step_grant_from (run_wellFormed hformed before) (hattempts before event after heq) hgrant
    obtain ⟨old, hold, hcontract'⟩ := ih middle hmiddle
    exact ⟨old, hold, hcontract'.trans hcontract⟩
  exact hrun grant h

lemma harmlessRun_of_attemptsNone (hattempts : EachStep AttemptsNone s events)
    (hcompletes : EachStep CompletesNoEnded s events) : HarmlessRun s events :=
  fun before event after heq =>
    ⟨hcompletes before event after heq, fun request hadministers haction =>
      absurd haction (hattempts before event after heq request hadministers).1⟩

end Runs

/-- When a cluster withdraws, an operator withdraws its consent, or it comes back as another incarnation, all authority
under its contracts ends: in no later state of the run is a query authorized through a contract that named the cluster
then, until a grant is issued or attempted again. That takes a fence plan which reaches all contracts of the cluster
with something due, and commits that complete no grant which has ended. -/
theorem withdrawal_ends_authority {launch : Launch} {files : Files} {s : Coordinator}
    (hstarted : Started launch files s) {before after : List Event} {cluster : ClusterId} {event : Event}
    (hends : Ends (run s before) cluster event)
    (hreaches : PlanReaches (run s before).registry cluster)
    (hattempts : EachStep AttemptsNone (step (run s before) event) after)
    (hcompletes : EachStep CompletesNoEnded (step (run s before) event) after) :
    ∀ (id : ContractId) contract, (run s before).registry.contracts[id]? = some contract →
      names cluster contract = true → ∀ query view,
        let decision := EngineDecide.decide (run (step (run s before) event) after).registry query view
        decision.authorized = true → decision.contract ≠ id := by
  intro id contract hfind hnames query view decision hauthorized hthrough
  have hformed := started_wellFormed hstarted before
  have hstep := step_wellFormed hformed event
  have hend := run_wellFormed hstep after
  have hcleared := step_clears hformed hends hreaches
  obtain ⟨source, target, used, grant, hgrounded⟩ :=
    grounded_of_authorized (EngineAuthorities.listsOrdered_of_wellFormed hend) hauthorized
  obtain ⟨key, hkey⟩ := mem_values.mp hgrounded.grantRegistered.1
  obtain ⟨old, hold, hcontract⟩ := run_grant_from hstep hattempts hkey
  have hconcerns : Concerns (run s before).registry cluster old := by
    refine ⟨contract, ?_, hnames⟩
    rw [hcontract, hgrounded.grantContract, hgrounded.contractRegistered.2]
    exact (congrArg (fun id => (run s before).registry.contracts[id]?) hthrough).trans hfind
  have hended := run_ended hstep (harmlessRun_of_attemptsNone hattempts hcompletes) hold
    (hcleared key old hold hconcerns) hkey
  rcases hended.2 with hterminal | ⟨first, again, rest, heq, request, hadministers, haction, -⟩
  · rcases hgrounded.usable.state with h | h <;> rw [h] at hterminal <;> cases hterminal
  · exact (hattempts first again rest heq request hadministers).2 haction

/-! The operator withdraws the consent of the first cluster while a grant is in use, and restores it. -/

def inUse : List Event := agree ++ issueGrant :: commitBoth

lemma inUse_run : run sampleProcess inUse = sampleGranted := by
  rw [← commit_run, List.append_assoc, List.singleton_append, inUse]

def consentRestored : Event :=
  .message operator (.admin { action := .restoreConsent, clusterId := (sampleParty .first).cluster })

/-- The restored consent brings no authority back. -/
theorem withdrawal_ends_authority_withdrawn :
    let decision := EngineDecide.decide
      (run (step (run sampleProcess inUse) withdrawn) [consentRestored]).registry sampleQuery sampleView
    ¬(decision.authorized = true ∧ decision.contract = proposedId) := by
  have hfacts : (mayAdminister (run sampleProcess inUse) operator = true ∧
      (handleAdmin withdrawFirst (run sampleProcess inUse)).1.toOption.isSome = true) ∧
      ((run sampleProcess inUse).registry.contracts[proposedId]?.any fun contract =>
        names (sampleParty .first).cluster contract) = true ∧
      ∀ contract ∈ values (run sampleProcess inUse).registry.contracts,
        entriesBefore (run sampleProcess inUse).registry (sampleParty .first).cluster contract.id ≤
          Limits.maxFencePlanEntries := by
    rw [inUse_run, proposedId_eq]
    decide +kernel
  obtain ⟨hruns, hcontract, hplan⟩ := hfacts
  obtain ⟨contract, hfind, hnames⟩ := (Option.any_eq_true _ _).mp hcontract
  have hreaches : PlanReaches (run sampleProcess inUse).registry (sampleParty .first).cluster := by
    intro id contract hfind _ _
    have hfits := hplan contract (mem_values.mpr ⟨id, hfind⟩)
    rwa [(find_contract (started_wellFormed sampleProcess_started inUse) hfind).1] at hfits
  rintro decision ⟨hauthorized, hthrough⟩
  refine withdrawal_ends_authority sampleProcess_started (withdrawn_ends hruns.1 hruns.2) hreaches
    (eachStep_of_mem fun event hevent s => ?_) (eachStep_of_mem fun event hevent s => ?_) proposedId contract hfind
    hnames sampleQuery sampleView hauthorized hthrough
  · obtain rfl := List.mem_singleton.mp hevent
    rintro request ⟨connection, hevent, -⟩
    simp only [consentRestored, Event.message.injEq, Inbound.admin.injEq] at hevent
    simp [← hevent.2]
  · obtain rfl := List.mem_singleton.mp hevent
    intro connection message grant hevent _
    simp [consentRestored] at hevent

end InterClusterFabric.RuntimeCutoff
