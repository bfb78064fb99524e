import InterClusterFabric.RuntimeClusterFences
import InterClusterFabric.RuntimeConsents
import InterClusterFabric.RuntimeOverrides

/-! The end of a cluster's part in its contracts: what a withdrawal of consent and a new incarnation do to
the contracts that name the cluster, and what is left of them afterwards. -/
namespace InterClusterFabric.RuntimeClosure
open CoreStatus CoreIds CoreTime CoreHash ModelRecords ModelRegistry ModelRegistryLaws EngineDecision EngineSoundness
open RuntimeFencing WireMessages RuntimeCoordinator RuntimeHandlers RuntimeAdmin RuntimeRun RuntimeEdits RuntimeSteps
open RuntimeStepsHandlers RuntimeStepsAdmin RuntimeFencePlans RuntimeClusterFences RuntimeStart RuntimeConsents
open RuntimeOverrides LibraryOrdMap LibraryProgram
open StoreDurable hiding loadState

/-- The contract waits for consents or has them. -/
abbrev StillOpen (state : ContractState) : Prop :=
  state = .proposed ∨ state = .awaitingConsent ∨ state = .consented ∨ state = .active

/-- The contract is withdrawn or fenced. -/
def GoneIn (registry : Registry) (id : ContractId) : Prop :=
  ∃ contract, registry.contracts[id]? = some contract ∧ ContractGone contract.state

/-- The fence plan against the cluster reaches the contract. -/
def Reached (registry : Registry) (cluster : ClusterId) (id : ContractId) : Prop :=
  HasLiveGrant registry id ∧ entriesBefore registry cluster id ≤ Limits.maxFencePlanEntries

/-- Of the open contracts of the cluster, exactly those its plan reaches are gone. -/
def Treated (registry : Registry) (cluster : ClusterId) (s : Coordinator) : Prop :=
  ∀ id contract, registry.contracts[(id : ContractId)]? = some contract → names cluster contract = true →
    StillOpen contract.state → (GoneIn s.registry id ↔ Reached registry cluster id)

section Fences

variable {s : Coordinator}

lemma Treated.of_contracts {registry : Registry} {cluster : ClusterId} {s' : Coordinator}
    (h : Treated registry cluster s) (hcontracts : s'.registry.contracts = s.registry.contracts) :
    Treated registry cluster s' := by
  intro id contract hfind hnames hopen
  rw [← h id contract hfind hnames hopen, GoneIn, GoneIn, hcontracts]

/-- Planning looks at contracts, grants and reservations only. -/
lemma Treated.of_setCluster {registry : Registry} {cluster key : ClusterId} {record : ClusterRecord}
    (h : Treated (setCluster registry key record) cluster s) : Treated registry cluster s := h

lemma fenceCluster_treats (hformed : WellFormed s.registry) (cluster : ClusterId) (trigger : FenceTrigger)
    (new previous : IncarnationId) (generation : Generation) :
    Steps.Returns (fenceCluster cluster trigger new previous generation) s fun _ s' =>
      Treated s.registry cluster s' := by
  refine Steps.get_bind ?_
  set plan := planFence s.registry trigger cluster new previous generation s.term with hplan
  have hfences : Does quiet (fencePlanApply plan "coordinator") s fun _ s' => Fenced plan s s' :=
    fencePlanApply_fences hformed plan "coordinator"
  refine Steps.bind hfences.toReturns fun _ s₁ _ h₁ => ?_
  have htreated : Treated s.registry cluster s₁ := by
    intro id contract hfind hnames hopen
    have hstate : contract.state ≠ .withdrawn ∧ ¬ContractGone contract.state := by
      rcases hopen with h | h | h | h <;> simp [h]
    have hiff := planFence_names_contract hformed trigger cluster new previous generation s.term hfind hstate.1
    rw [hnames] at hiff
    constructor
    · rintro ⟨gone, hgone, hgoneState⟩
      -- a contract that no action names is as it was
      rcases h₁.2.spares.contracts id with hsame | ⟨-, haction⟩
      · rw [hsame, hfind, Option.some.injEq] at hgone
        subst hgone
        exact absurd hgoneState hstate.2
      · exact (hiff.mp haction).2
    · intro hreached
      obtain ⟨action, haction, htarget, hid⟩ := hiff.mpr ⟨rfl, hreached⟩
      have hdone := h₁.2.done action haction
      simp only [Done, htarget, hid] at hdone
      rcases h₁.2.spares.contracts id with hsame | ⟨⟨_, next, _, hnext, -⟩, -⟩
      · exact ⟨contract, by rw [hsame, hfind], hdone contract (by rw [hsame, hfind])⟩
      · exact ⟨next, hnext, hdone next hnext⟩
  refine (appendAudit_records _ _ _ _ _).toReturns.mono fun _ s₂ h₂ => ?_
  obtain ⟨audit, haudit⟩ := h₂.1.trail
  exact htreated.of_contracts (by rw [haudit])

/-- What follows the fences of a handler leaves the contracts alone. -/
lemma recorded_treats {α : Type} {p : Op α} {registry : Registry} {cluster : ClusterId}
    (htreated : Treated registry cluster s) (h : Steps Recorded p s fun _ _ => True) :
    Steps.Returns p s fun _ s' => Treated registry cluster s' := by
  refine h.toReturns.mono fun _ s' h' => ?_
  obtain ⟨audit, haudit⟩ := h'.1.trail
  exact htreated.of_contracts (by rw [haudit])

end Fences

/-! The three ways. -/

/-- The withdrawal passes every check of the handler. -/
structure WithdrawAccepted (s : Coordinator) (connection : ℕ) (message : WithdrawMessage) (session : PeerSession)
    (cluster : ClusterRecord) : Prop where
  speaks : SpeaksAs s connection message.session session
  role : session.role = .agent
  owner : message.cluster = session.cluster
  registered : s.registry.clusters[session.cluster]? = some cluster
  incarnation : message.incarnation = cluster.incarnation
  generation : ¬message.generation < cluster.generation

/-- The event ends the part of the cluster in its contracts, and is processed without an error. -/
inductive Ends (s : Coordinator) (cluster : ClusterId) : Event → Prop
  | withdraw (connection : ℕ) (message : WithdrawMessage) (session : PeerSession) (record : ClusterRecord)
      (haccepted : WithdrawAccepted s connection message session record) (hcluster : session.cluster = cluster)
      (hok : (onWithdraw connection message s).1 = .ok ()) : Ends s cluster (.message connection (.withdraw message))
  | operator (event : Event) (request : AdminMessage) (hsucceeds : Succeeds s event request)
      (haction : request.action = .withdrawConsent) (hcluster : request.clusterId = cluster) : Ends s cluster event
  | reincarnate (connection : ℕ) (request : HelloMessage) (record : ClusterRecord)
      (hreincarnates : Reincarnates s request record) (hcluster : request.cluster = cluster)
      (hok : (onHello connection request s).1 = .ok ()) : Ends s cluster (.message connection (.hello request))

/-- The registry is as it was. -/
def SameRegistry (s s' : Coordinator) : Prop := s'.registry = s.registry

instance : Std.Refl SameRegistry := ⟨fun _ => rfl⟩
instance : IsTrans Coordinator SameRegistry := ⟨fun _ _ _ h h' => Eq.trans h' h⟩

section Handlers

variable {s : Coordinator}

lemma same_of_keeps {α : Type} {p : Op α} (h : Steps Kept p s fun _ _ => True) :
    Steps SameRegistry p s fun _ _ => True :=
  (h.weaken fun _ h' => h'.registry).mono fun _ _ _ => trivial

lemma welcomeAgent_same (connection : ℕ) (request : HelloMessage) (ack : HelloAckMessage) (signing : Bool)
    (fenced : List GrantId) (detail : Bytes) :
    Steps SameRegistry (welcomeAgent connection request ack signing fenced detail) s fun _ _ => True := by
  refine Steps.bind (same_of_keeps random_keeps) fun token s₁ _ _ => ?_
  refine Steps.bind (same_of_keeps now_keeps) fun connectedAt s₂ _ _ => Steps.get_bind ?_
  refine Steps.modify_bind rfl (Steps.bind (same_of_keeps (send_keeps _ rfl)) fun _ s₃ _ _ => ?_)
  refine Steps.bind (Steps.onlyIf (fun _ => same_of_keeps (send_keeps _ rfl)) fun _ => trivial) fun _ s₄ _ _ => ?_
  exact Steps.bind (same_of_keeps random_keeps) fun query s₅ _ _ => same_of_keeps (send_keeps _ rfl)

/-- A registered cluster may be written back with its identity, its domain and its endpoints. -/
lemma rewritten_wellFormed (hformed : WellFormed s.registry) {id : ClusterId} {cluster next : ClusterRecord}
    (hfind : s.registry.clusters[id]? = some cluster) (hid : next.id = cluster.id)
    (hdomain : next.domain = cluster.domain) (hendpoints : next.endpoints = cluster.endpoints) :
    WellFormed (setCluster s.registry id next) := by
  refine setCluster_wellFormed hformed hfind hid hdomain ?_
  rw [hendpoints]
  exact (find_cluster hformed hfind).2.2.2

/-- The cluster is written back and its contracts are fenced. -/
lemma rewrite_treats {id cluster : ClusterId} {next : ClusterRecord} {trigger : FenceTrigger}
    {new previous : IncarnationId} {generation : Generation} {β : Type} {rest : Op β}
    (hformed : WellFormed (setCluster s.registry id next))
    (hrest : ∀ s', Treated s.registry cluster s' → Steps.Returns rest s' fun _ s'' => Treated s.registry cluster s'') :
    Steps.Returns (do writeCluster id next; fenceCluster cluster trigger new previous generation; rest) s
      fun _ s' => Treated s.registry cluster s' := by
  refine Steps.modify_bind trivial ?_
  refine Steps.bind (fenceCluster_treats (s := { s with registry := setCluster s.registry id next }) hformed _ _ _ _ _)
    fun _ s₁ _ h₁ => hrest s₁ h₁

lemma onWithdraw_treats (hformed : WellFormed s.registry) {connection : ℕ} {message : WithdrawMessage}
    {session : PeerSession} {cluster : ClusterRecord} (h : WithdrawAccepted s connection message session cluster) :
    Steps.Returns (onWithdraw connection message) s fun _ s' => Treated s.registry session.cluster s' := by
  have hid : cluster.id = session.cluster := (find_cluster hformed h.registered).1
  have hrun : onWithdraw connection message s = (do
      let lastSeen ← now
      writeCluster session.cluster { cluster with consentWithdrawn := true, lastSeen }
      fenceCluster cluster.id .clusterWithdrawal cluster.incarnation cluster.incarnation cluster.generation
      logCluster session.cluster
      let fenced := (fencedGrants (← get).registry).length
      RuntimeCoordinator.appendAudit "agent" "withdraw-consent" session.cluster.value .fenced
        (ascii "the cluster withdrew consent; dependent grants were fenced")
      send connection (.withdrawAck {
        session := session.token, outcome := .ok, fencedGrants := fenced, detail := message.reason }) : Op Unit) s := by
    unfold onWithdraw
    rw [withSession_run h.speaks, if_neg (by simp [h.role, h.owner]), Program.get_bind_run, h.registered]
    dsimp only
    rw [if_neg (by simp [h.incarnation, h.generation])]
  refine Steps.of_run hrun (Steps.bind now_keeps.toReturns fun lastSeen s₁ _ h₁ => ?_)
  have hregistry : s₁.registry = s.registry := h₁.1.registry
  have hfind := h.registered
  rw [← hregistry] at hformed hfind ⊢
  rw [hid]
  refine rewrite_treats (rewritten_wellFormed hformed hfind hid.symm rfl rfl) fun s₂ h₂ => recorded_treats h₂ ?_
  refine Steps.bind (recorded_of_keeps (logCluster_keeps _)) fun _ s₃ _ _ => Steps.get_bind ?_
  exact Steps.bind (appendAudit_records _ _ _ _ _) fun _ s₄ _ _ => send_records _ _

lemma withdrawConsent_treats (hformed : WellFormed s.registry) (request : AdminMessage) :
    Steps.Returns (applyConsentChange request true) s fun _ s' => Treated s.registry request.clusterId s' := by
  refine Steps.get_bind ?_
  split
  · exact Steps.throw
  rename_i cluster hfind
  have hid : cluster.id = request.clusterId := (find_cluster hformed hfind).1
  rw [Program.onlyIf, if_pos rfl, hid]
  refine rewrite_treats (rewritten_wellFormed hformed hfind hid.symm rfl rfl) fun s₂ h₂ => recorded_treats h₂ ?_
  refine Steps.bind (recorded_of_keeps (logCluster_keeps _)) fun _ s₃ _ _ => ?_
  exact Steps.bind (appendAudit_records _ _ _ _ _) fun _ s₄ _ _ => Steps.pure trivial

lemma onHello_treats (hformed : WellFormed s.registry) (connection : ℕ) {request : HelloMessage}
    {cluster : ClusterRecord} (h : Reincarnates s request cluster) :
    Steps.Returns (onHello connection request) s fun _ s' => Treated s.registry request.cluster s' := by
  have hrun : ∃ ack signing, onHello connection request s = reincarnateAgent connection request ack signing cluster s := by
    unfold onHello
    rw [Program.get_bind_run, if_neg h.admitted.version, if_neg h.admitted.role, if_neg h.admitted.cluster,
      if_neg h.admitted.domain, if_neg h.admitted.capable, h.registered]
    dsimp only
    rw [returningAgent, if_neg (by simp [h.domain]), if_neg h.generation.1, if_pos h.incarnation,
      if_neg h.generation.2]
    exact ⟨_, _, rfl⟩
  obtain ⟨ack, signing, hrun⟩ := hrun
  refine Steps.of_run hrun (Steps.bind now_keeps.toReturns fun lastSeen s₁ _ h₁ => ?_)
  refine Steps.bind now_keeps.toReturns fun observedAt s₂ _ h₂ => ?_
  have hregistry : s₂.registry = s.registry := h₂.1.registry.trans h₁.1.registry
  have hfind := h.registered
  rw [← hregistry] at hformed hfind ⊢
  refine rewrite_treats (rewritten_wellFormed hformed hfind rfl rfl rfl) fun s₃ h₃ => Steps.get_bind ?_
  refine Steps.bind (recorded_treats h₃ (recorded_of_keeps (logCluster_keeps _))) fun _ s₄ _ h₄ => ?_
  refine (welcomeAgent_same _ _ _ _ _ _).toReturns.mono fun _ s₅ h₅ => h₄.of_contracts ?_
  rw [show s₅.registry = s₄.registry from h₅.1]

/-- Of the open contracts of the cluster, the step closes exactly those the plan reaches. -/
lemma step_treats (hformed : WellFormed s.registry) {cluster : ClusterId} {event : Event} (h : Ends s cluster event) :
    Treated s.registry cluster (step s event) := by
  cases h with
  | withdraw connection message session record haccepted hcluster hok =>
    subst hcluster
    exact (onWithdraw_treats hformed haccepted).returns () hok
  | operator _ request hsucceeds haction hcluster =>
    subst hcluster
    obtain ⟨hadmin, result, hresult⟩ := hsucceeds
    have hrun : handleAdmin request = applyConsentChange request true := by
      unfold handleAdmin
      rw [haction]
    rw [hrun] at hresult
    refine ((withdrawConsent_treats hformed request).returns result hresult).of_contracts ?_
    rw [step_admin_registry hadmin, hrun]
  | reincarnate connection request record hreincarnates hcluster hok =>
    subst hcluster
    exact (onHello_treats hformed connection hreincarnates).returns () hok

end Handlers

/-! Afterwards. -/

/-- The contract is closed, one way or another. -/
def ShutIn (registry : Registry) (id : ContractId) : Prop :=
  ∃ contract, registry.contracts[id]? = some contract ∧ Closed contract.state

/-- No grant is issued on the contract. -/
def Refuses (s : Coordinator) (id : ContractId) : Prop :=
  ∀ request : AdminMessage, request.action = .issueGrant → request.contract = id →
    ∃ status, (handleAdmin request s).1 = .error status

/-- No party accepts the contract anew, and no other one is proposed under its identity. -/
structure LeavesShut (id : ContractId) (s : Coordinator) (event : Event) : Prop where
  consents : ∀ connection message session contract side, event = .message connection (.contractConsent message) →
    message.contract = id → ConsentAccepted s connection message session contract side →
    ¬Repeated contract side message → message.decision = .refused
  proposals : ∀ request, Administers s event request → request.action = .authorizeContract →
    (⟨nextUuid s⟩ : ContractId) ≠ id

lemma GoneIn.shut {registry : Registry} {id : ContractId} (h : GoneIn registry id) : ShutIn registry id := by
  obtain ⟨contract, hcontract, hstate⟩ := h
  refine ⟨contract, hcontract, ?_⟩
  rcases hstate with hwithdrawn | hfenced
  · exact .inr (.inl hwithdrawn)
  · exact .inr (.inr (.inl hfenced))

lemma refuses_of_shut {s : Coordinator} {id : ContractId} (h : ShutIn s.registry id) : Refuses s id := by
  intro request haction hid
  obtain ⟨contract, hcontract, hstate⟩ := h
  have hclosed : contract.state ≠ .consented ∧ contract.state ≠ .active := by
    rcases hstate with h | h | h | h <;> simp [h]
  have hrun : handleAdmin request s = applyGrantIssue request s := by
    unfold handleAdmin
    rw [haction]
  rw [hrun, applyGrantIssue, Program.get_bind_run, hid, hcontract]
  dsimp only
  rw [if_pos hclosed]
  exact ⟨_, rfl⟩

lemma shut_iff_state {s : Coordinator} {id : ContractId} :
    ShutIn s.registry id ↔ ∃ state, contractState s id = some state ∧ Closed state := by
  constructor
  · rintro ⟨contract, hcontract, hclosed⟩
    exact ⟨contract.state, by rw [contractState, hcontract, Option.map_some], hclosed⟩
  · rintro ⟨state, hstate, hclosed⟩
    obtain ⟨contract, hcontract, rfl⟩ := Option.map_eq_some_iff.mp hstate
    exact ⟨contract, hcontract, hclosed⟩

/-- A consent that accepts nothing anew leaves a closed contract closed. -/
lemma consent_shut {s : Coordinator} {id : ContractId} {connection : ℕ} {message : ContractConsentMessage}
    (hleaves : LeavesShut id s (.message connection (.contractConsent message))) (h : ShutIn s.registry id) :
    ShutIn (step s (.message connection (.contractConsent message))).registry id := by
  change ShutIn (onContractConsent connection message s).2.registry id
  obtain ⟨state, hstate, hclosed⟩ := shut_iff_state.mp h
  rw [shut_iff_state]
  by_cases htaken : ∃ session contract side, ConsentAccepted s connection message session contract side ∧
      ¬Repeated contract side message
  · obtain ⟨session, contract, side, haccepted, hnew⟩ := htaken
    obtain ⟨decidedAt, updatedAt, registry, rfl, hrecorded⟩ := consent_recorded haccepted hnew
    rw [contractState_of_recorded hrecorded, contractState_set, consented_state]
    by_cases hid : id = message.contract
    · have hrefused := hleaves.consents connection message session contract side rfl hid.symm haccepted hnew
      have hdecision : (consentRecord session message decidedAt).decision = .refused := hrefused
      rw [if_pos hid, hdecision]
      exact ⟨.refused, rfl, .inl rfl⟩
    · rw [if_neg hid]
      exact ⟨state, hstate, hclosed⟩
  · have hrecorded : Recorded s (onContractConsent connection message s).2 := by
      refine consent_ignored fun session contract side haccepted => ?_
      by_contra hnew
      exact htaken ⟨session, contract, side, haccepted, hnew⟩
    rw [contractState_of_recorded hrecorded]
    exact ⟨state, hstate, hclosed⟩

lemma step_shut {s : Coordinator} (hformed : WellFormed s.registry) {id : ContractId} {event : Event}
    (hleaves : LeavesShut id s event) (h : ShutIn s.registry id) : ShutIn (step s event).registry id := by
  by_cases hconsent : ∃ connection message, event = .message connection (.contractConsent message)
  · obtain ⟨connection, message, rfl⟩ := hconsent
    exact consent_shut hleaves h
  refine step_keeps (P := fun registry => ShutIn registry id) hformed h fun registry next _ hshut hedit => ?_
  rcases edit_contracts hedit id with
    hsame | ⟨old, new, -, hnew, -, hgone | hanswers⟩ | ⟨proposed, -, hid, hproposes, -⟩
  · obtain ⟨contract, hcontract, hclosed⟩ := hshut
    exact ⟨contract, by rw [hsame, hcontract], hclosed⟩
  · exact GoneIn.shut ⟨new, hnew, hgone.2⟩
  · obtain ⟨connection, message, hevent, -⟩ := hanswers
    exact absurd ⟨connection, message, hevent⟩ hconsent
  · obtain ⟨request, _, _, hadmin, haction, _, _, _, hdrawn⟩ := hproposes
    exact absurd (hdrawn.symm.trans hid) (hleaves.proposals request hadmin haction)

lemma run_shut {s : Coordinator} (hformed : WellFormed s.registry) {id : ContractId} {events : List Event}
    (hleaves : EachStep (LeavesShut id) s events) (h : ShutIn s.registry id) : ShutIn (run s events).registry id := by
  refine run_induction (P := fun s' => ShutIn s'.registry id) h fun before event after hsplit ih => ?_
  exact step_shut (run_wellFormed hformed before) (hleaves before event after hsplit) ih

/-- Every open contract of the cluster is withdrawn or fenced by the step. -/
def ClosesAll (s : Coordinator) (cluster : ClusterId) (event : Event) : Prop :=
  ∀ id contract, s.registry.contracts[(id : ContractId)]? = some contract → names cluster contract = true →
    StillOpen contract.state → GoneIn (step s event).registry id

/-- In every reachable state a withdrawal or a new incarnation of a cluster closes all its open contracts
exactly if each of them has a live grant and comes before the plan is past its bound; and on a contract that
was closed no grant is issued along any later run in which no party accepts it anew. -/
theorem closure_iff (launch : Launch) (files : Files) (s : Coordinator) (hstarted : Started launch files s)
    (before : List Event) (cluster : ClusterId) (event : Event) (hends : Ends (run s before) cluster event) :
    (ClosesAll (run s before) cluster event ↔
      ∀ id contract, (run s before).registry.contracts[(id : ContractId)]? = some contract →
        names cluster contract = true → StillOpen contract.state →
        HasLiveGrant (run s before).registry id ∧
          entriesBefore (run s before).registry cluster id ≤ Limits.maxFencePlanEntries) ∧
    ∀ id, GoneIn (step (run s before) event).registry id →
      ∀ after, EachStep (LeavesShut id) (step (run s before) event) after →
        Refuses (run (step (run s before) event) after) id := by
  have hformed := started_wellFormed hstarted before
  have htreated := step_treats hformed hends
  constructor
  · constructor
    · intro hcloses id contract hfind hnames hopen
      exact (htreated id contract hfind hnames hopen).mp (hcloses id contract hfind hnames hopen)
    · intro hreached id contract hfind hnames hopen
      exact (htreated id contract hfind hnames hopen).mpr (hreached id contract hfind hnames hopen)
  · intro id hgone after hleaves
    exact refuses_of_shut (run_shut (step_wellFormed hformed event) hleaves hgone.shut)

/-! The operator withdraws the consent of the first cluster. -/

def withdrawn : Event := .message operator (.admin withdrawFirst)

lemma withdrawn_ends {s : Coordinator} (hmay : mayAdminister s operator = true)
    (hok : (handleAdmin withdrawFirst s).1.toOption.isSome = true) : Ends s (sampleParty .first).cluster withdrawn :=
  .operator _ withdrawFirst (succeeds_of_isSome hmay hok) rfl rfl

/-- The withdrawal closes the contract under which a grant is being prepared. -/
theorem closure_sample :
    ClosesAll (run sampleProcess (agree ++ [issueGrant])) (sampleParty .first).cluster withdrawn := by
  have hfacts : (mayAdminister sampleIssued operator = true ∧
      (handleAdmin withdrawFirst sampleIssued).1.toOption.isSome = true) ∧
      ∀ contract ∈ values sampleIssued.registry.contracts,
        (∃ grant ∈ values sampleIssued.registry.grants, grant.contract = contract.id ∧ livesOn grant = true) ∧
        entriesBefore sampleIssued.registry (sampleParty .first).cluster contract.id ≤ Limits.maxFencePlanEntries := by
    rw [sampleIssued_eq]
    decide +kernel
  rw [sampleIssued] at hfacts
  obtain ⟨hruns, hcontracts⟩ := hfacts
  refine ((closure_iff sampleLaunch {} sampleProcess sampleProcess_started _ _ _
    (withdrawn_ends hruns.1 hruns.2)).1).mpr fun id contract hfind _ _ => ?_
  have hformed := started_wellFormed sampleProcess_started (agree ++ [issueGrant])
  have hid : contract.id = id := (find_contract hformed hfind).1
  obtain ⟨⟨grant, hgrant, hof, hlives⟩, hfits⟩ := hcontracts contract (mem_values.mpr ⟨id, hfind⟩)
  obtain ⟨key, hkey⟩ := mem_values.mp hgrant
  rw [hid] at hof hfits
  exact ⟨⟨key, grant, hkey, hof, hlives⟩, hfits⟩

/-- A contract that both sides accepted and no grant was issued on stays as it is, and grants are still
issued on it. -/
theorem consented_contract_survives :
    Started sampleLaunch {} sampleProcess ∧ Ends (run sampleProcess agree) (sampleParty .first).cluster withdrawn ∧
      ¬ClosesAll (run sampleProcess agree) (sampleParty .first).cluster withdrawn ∧
      ¬Refuses (step (run sampleProcess agree) withdrawn) proposedId := by
  have hfacts : (mayAdminister (run sampleProcess agree) operator = true ∧
      (handleAdmin withdrawFirst (run sampleProcess agree)).1.toOption.isSome = true) ∧
      ((run sampleProcess agree).registry.contracts[proposedId]?.any fun contract =>
        names (sampleParty .first).cluster contract && contract.state == .consented) = true ∧
      contractState (step (run sampleProcess agree) withdrawn) proposedId = some .consented ∧
      (handleAdmin { action := .issueGrant, contract := proposedId }
        (step (run sampleProcess agree) withdrawn)).1.toOption.isSome = true := by
    rw [agree_run, proposedId_eq]
    decide +kernel
  obtain ⟨hruns, hbefore, hafter, hissues⟩ := hfacts
  refine ⟨sampleProcess_started, withdrawn_ends hruns.1 hruns.2, fun h => ?_, fun h => ?_⟩
  · obtain ⟨contract, hfind, hopen⟩ := (Option.any_eq_true _ _).mp hbefore
    rw [Bool.and_eq_true] at hopen
    obtain ⟨gone, hgone, hstate⟩ := h proposedId contract hfind hopen.1 (.inr (.inr (.inl (by simpa using hopen.2))))
    rw [contractState, hgone, Option.map_some, Option.some.injEq] at hafter
    rw [hafter] at hstate
    rcases hstate with hstate | hstate <;> cases hstate
  · obtain ⟨status, hstatus⟩ := h { action := .issueGrant, contract := proposedId } (by dsimp only) (by dsimp only)
    rw [hstatus] at hissues
    cases hissues

end InterClusterFabric.RuntimeClosure
