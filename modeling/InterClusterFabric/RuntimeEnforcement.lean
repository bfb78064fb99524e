import InterClusterFabric.LibraryTrace
import InterClusterFabric.RuntimeAgentRun
import InterClusterFabric.StoreRecovery

/-! What an agent enforces. Apart from the two requests that prepare and commit a grant, nothing that
happens to an agent gives a grant more force than it has. -/
namespace InterClusterFabric.RuntimeEnforcement
open CoreStatus CoreIds CoreTime CoreHash ModelRecords ModelCanonical ModelRegistry ModelRegistryLaws StoreMutation
open WireMessages RuntimeFencing RuntimeAgent RuntimeAgentRun StoreRecovery
open LibraryChecked LibraryOrdMap LibraryProgram LibraryTrace
open StoreDurable hiding loadState

/-- The states that end what an agent enforces. -/
def closed : GrantState → Bool
  | .aborted | .fenced | .expired => true
  | _ => false

/-- A record stays as it is, or is closed with everything but its state and its note kept. -/
def Wanes (r r' : Option GrantRecord) : Prop :=
  r' = r ∨ ∃ old new, r = some old ∧ r' = some new ∧ closed new.state = true ∧
    new = { old with state := new.state, note := new.note }

lemma Wanes.trans {r r' r'' : Option GrantRecord} (h : Wanes r r') (h' : Wanes r' r'') : Wanes r r'' := by
  rcases h with rfl | ⟨old, new, hold, hnew, hclosed, hsame⟩
  · exact h'
  rcases h' with rfl | ⟨old', new', hold', hnew', hclosed', hsame'⟩
  · exact .inr ⟨old, new, hold, hnew, hclosed, hsame⟩
  · cases hnew.symm.trans hold'
    refine .inr ⟨old, new', hold, hnew', hclosed', ?_⟩
    rw [hsame', hsame]

/-- A closed record stays closed. -/
lemma Wanes.closed {r r' : Option GrantRecord} (h : Wanes r r') {old : GrantRecord} (hold : r = some old)
    (hclosed : closed old.state = true) : ∃ new, r' = some new ∧ RuntimeEnforcement.closed new.state = true := by
  rcases h with rfl | ⟨_, new, _, hnew, hclosed', _⟩
  · exact ⟨old, hold, hclosed⟩
  · exact ⟨new, hnew, hclosed'⟩

/-- A record that is not closed was there before. -/
lemma Wanes.kept {r r' : Option GrantRecord} (h : Wanes r r') {new : GrantRecord} (hnew : r' = some new)
    (hopen : RuntimeEnforcement.closed new.state = false) : r = some new := by
  rcases h with rfl | ⟨_, _, _, hnew', hclosed, _⟩
  · exact hnew
  · cases hnew.symm.trans hnew'
    rw [hopen] at hclosed
    cases hclosed

/-- No contract has changed, and no grant has more force than before. -/
structure Quiet (a a' : Agent) : Prop where
  cluster : a'.cluster = a.cluster
  requires : a'.config.requireCoordinator = a.config.requireCoordinator
  contracts : a'.registry.contracts = a.registry.contracts
  grants : ∀ id : GrantId, Wanes a.registry.grants[id]? a'.registry.grants[id]?

instance : Std.Refl Quiet := ⟨fun _ => ⟨rfl, rfl, rfl, fun _ => .inl rfl⟩⟩

instance : IsTrans Agent Quiet where
  trans _ _ _ h h' := ⟨h'.cluster.trans h.cluster, h'.requires.trans h.requires, h'.contracts.trans h.contracts,
    fun id => (h.grants id).trans (h'.grants id)⟩

/-- The name of the cluster, the contracts and the grants are what they were. -/
structure Still (a a' : Agent) : Prop where
  cluster : a'.cluster = a.cluster
  requires : a'.config.requireCoordinator = a.config.requireCoordinator
  contracts : a'.registry.contracts = a.registry.contracts
  grants : a'.registry.grants = a.registry.grants

instance : Std.Refl Still := ⟨fun _ => ⟨rfl, rfl, rfl, rfl⟩⟩

instance : IsTrans Agent Still where
  trans _ _ _ h h' := ⟨h'.cluster.trans h.cluster, h'.requires.trans h.requires, h'.contracts.trans h.contracts,
    h'.grants.trans h.grants⟩

lemma Still.quiet {a a' : Agent} (h : Still a a') : Quiet a a' :=
  ⟨h.cluster, h.requires, h.contracts, fun id => .inl (by rw [h.grants])⟩

lemma quiet_of_same {a a' : Agent} (hcluster : a'.cluster = a.cluster)
    (hrequires : a'.config.requireCoordinator = a.config.requireCoordinator)
    (hcontracts : a'.registry.contracts = a.registry.contracts)
    (hgrants : a'.registry.grants = a.registry.grants) : Quiet a a' :=
  (Still.mk hcluster hrequires hcontracts hgrants).quiet

section Still

variable {a : Agent}

lemma moment_still : Steps Still moment a fun _ _ => True := ⟨⟨rfl, rfl, rfl, rfl⟩, fun _ _ => trivial⟩

lemma now_still : Steps Still RuntimeAgent.now a fun _ _ => True := moment_still.bind fun _ _ _ _ => Steps.pure trivial

lemma appendMutation_still (mutation : Mutation) : Steps Still (appendMutation mutation) a fun _ _ => True :=
  moment_still.bind fun _ _ _ _ => ⟨⟨rfl, rfl, rfl, rfl⟩, fun _ _ => trivial⟩

lemma sendMessage_still (message : Inbound) : Steps Still (sendMessage message) a fun _ _ => True := by
  refine Steps.get_bind ?_
  split
  · exact Steps.throw
  refine moment_still.bind fun m _ _ _ => ?_
  split
  · exact Steps.throw
  · exact Steps.throw
  · exact Steps.modify ⟨rfl, rfl, rfl, rfl⟩ trivial

/-- A change of the registry that leaves contracts and grants alone, or is refused. -/
lemma update_still {f : Registry → Result Registry}
    (h : ∀ registry, f a.registry = .ok registry →
      registry.contracts = a.registry.contracts ∧ registry.grants = a.registry.grants) :
    Steps Still (Program.focus Agent.registry (fun a registry => { a with registry }) (Program.update f)) a
      fun _ _ => True := by
  refine Steps.focus (S := fun r r' => r'.contracts = r.contracts ∧ r'.grants = r.grants) (P := fun _ _ => True)
    ⟨?_, fun _ _ => trivial⟩ (fun registry hregistry => ?_) fun _ _ _ _ => trivial
  · unfold Program.update
    split
    · exact h _ ‹_›
    · exact ⟨rfl, rfl⟩
  · exact ⟨rfl, rfl, hregistry.1, hregistry.2⟩

lemma appendAudit_still (action : String) (subject : Bytes) (outcome : Outcome) (detail : Bytes) :
    Steps Still (appendAudit action subject outcome detail) a fun _ _ => True := by
  refine Steps.get_bind ?_
  split
  · exact Steps.pure trivial
  refine now_still.bind fun _ a₁ _ _ => (update_still fun registry hok => ?_).bind fun _ a₂ _ _ => Steps.get_bind ?_
  · obtain ⟨-, -, rfl⟩ := appendAudit_eq_ok.mp hok
    exact ⟨rfl, rfl⟩
  · exact Steps.forEach trivial fun _ _ _ _ _ => appendMutation_still _

end Still

/-- The run of an operation gives no grant more force. -/
abbrev Calm {α : Type} (p : AgentOp α) (a : Agent) : Prop := Steps Quiet p a fun _ _ => True

lemma calm_of_still {α : Type} {p : AgentOp α} {a : Agent} (h : Steps Still p a fun _ _ => True) : Calm p a :=
  (h.weaken fun _ => Still.quiet).mono fun _ _ _ => trivial

section Calm

variable {a : Agent}

lemma modify_calm {f : Agent → Agent} (h : Quiet a (f a)) : Calm (modify f) a := Steps.modify h trivial

lemma moment_calm : Calm moment a := calm_of_still moment_still

lemma now_calm : Calm RuntimeAgent.now a := calm_of_still now_still

lemma random_calm : Calm random a := moment_calm.bind fun _ _ _ _ => Steps.pure trivial

lemma appendMutation_calm (mutation : Mutation) : Calm (appendMutation mutation) a :=
  calm_of_still (appendMutation_still mutation)

lemma onStore_calm {α : Type} (op : DurableStore → Files → Written α) : Calm (onStore op) a :=
  ⟨quiet_of_same rfl rfl rfl rfl, fun _ _ => trivial⟩

lemma sendMessage_calm (message : Inbound) : Calm (sendMessage message) a := calm_of_still (sendMessage_still message)

lemma sendTo_calm (connection : ℕ) (message : Outbound) : Calm (sendTo connection message) a := by
  refine moment_calm.bind fun m _ _ _ => ?_
  split
  · exact Steps.pure trivial
  · exact Steps.throw
  · exact modify_calm (quiet_of_same rfl rfl rfl rfl)

lemma appendAudit_calm (action : String) (subject : Bytes) (outcome : Outcome) (detail : Bytes) :
    Calm (appendAudit action subject outcome detail) a := calm_of_still (appendAudit_still action subject outcome detail)

/-- A record is closed in place. -/
lemma writeGrant_calm {id : GrantId} {old new : GrantRecord} (hold : a.registry.grants[id]? = some old)
    (hclosed : closed new.state = true) (hsame : new = { old with state := new.state, note := new.note }) :
    Calm (writeGrant id new) a := by
  refine modify_calm ⟨rfl, rfl, rfl, fun other => ?_⟩
  show Wanes _ (a.registry.grants.insert id _)[other]?
  rw [getElem?_insert_eq]
  split
  · rename_i hkey
    rw [hkey]
    exact .inr ⟨old, new, hold, rfl, hclosed, hsame⟩
  · exact .inl rfl

lemma rewriteGrant_calm {id : GrantId} {old new : GrantRecord} (hold : a.registry.grants[id]? = some old)
    (hclosed : closed new.state = true) (hsame : new = { old with state := new.state, note := new.note }) :
    Calm (rewriteGrant id new) a :=
  (writeGrant_calm hold hclosed hsame).bind fun _ _ _ _ => appendMutation_calm _

lemma sweepGrants_calm {β : Type} {init : β} {visit : β → GrantId → GrantRecord → AgentOp β}
    (hvisit : ∀ acc id grant a', a'.registry.grants[id]? = some grant → Calm (visit acc id grant) a') :
    Calm (sweepGrants init visit) a := by
  refine Steps.get_bind (Steps.foldEach trivial fun id _ acc a' _ _ => Steps.get_bind ?_)
  split
  · exact Steps.pure trivial
  · exact hvisit _ _ _ _ ‹_›

lemma countRefusal_calm : Calm countRefusal a := modify_calm (quiet_of_same rfl rfl rfl rfl)

lemma countFrame_calm : Calm countFrame a := modify_calm (quiet_of_same rfl rfl rfl rfl)

lemma countFence_calm : Calm countFence a := modify_calm (quiet_of_same rfl rfl rfl rfl)

/-! Enforcement. -/

lemma fenceUnderTerm_calm (term : Term) (fenced : ℕ) {id : GrantId} {grant : GrantRecord}
    (hgrant : a.registry.grants[id]? = some grant) : Calm (fenceUnderTerm term fenced id grant) a := by
  unfold fenceUnderTerm
  generalize ascii "the coordinator established a new authority term; this grant was not revalidated" = note
  split
  · exact Steps.pure trivial
  · refine Steps.modify_bind (quiet_of_same rfl rfl rfl rfl) ?_
    refine Steps.bind (rewriteGrant_calm hgrant rfl rfl) fun _ _ _ _ => ?_
    exact Steps.pure trivial

lemma fenceNotRevalidated_calm (term : Term) : Calm (fenceNotRevalidated term) a := by
  refine (sweepGrants_calm fun _ _ _ _ => fenceUnderTerm_calm _ _).bind fun fenced _ _ _ => ?_
  exact Steps.onlyIf (fun _ => Steps.get_bind (appendAudit_calm _ _ _ _)) fun _ => trivial

/-- Only an active grant is enforceable. -/
lemma active_of_enforceable {now : Timestamp} {grant : GrantRecord} (h : grantEnforceable a now grant = true) :
    grant.state = .active := by
  by_contra hstate
  rw [grantEnforceable, if_pos hstate] at h
  cases h

lemma reevaluateGrant_calm (now : Timestamp) (reason : Bytes) {id : GrantId} {grant : GrantRecord}
    (hgrant : a.registry.grants[id]? = some grant) : Calm (reevaluateGrant now reason id grant) a := by
  unfold reevaluateGrant
  split
  · exact Steps.pure trivial
  split
  · exact Steps.modify_bind (quiet_of_same rfl rfl rfl rfl) (rewriteGrant_calm hgrant rfl rfl)
  -- reading the clock leaves the registry alone
  have hnow : Steps Quiet RuntimeAgent.now a fun _ a' => a'.registry = a.registry :=
    ⟨quiet_of_same rfl rfl rfl rfl, fun _ _ => rfl⟩
  refine hnow.bind fun later a₁ _ hregistry => Steps.get_bind ?_
  dsimp only
  split
  · rename_i hcommitted
    have hactive := active_of_enforceable hcommitted.2
    rw [hcommitted.1] at hactive
    cases hactive
  · refine Steps.onlyIf (fun _ => Steps.modify_bind (quiet_of_same rfl rfl rfl rfl) ?_) fun _ => trivial
    have hsame : a₁.registry.grants[id]? = some grant := by rw [← hgrant, ← hregistry]
    exact rewriteGrant_calm hsame rfl rfl

lemma reevaluateEnforcement_calm (reason : Bytes) : Calm (reevaluateEnforcement reason) a :=
  now_calm.bind fun _ _ _ _ => sweepGrants_calm fun _ _ _ _ => reevaluateGrant_calm _ _

lemma persistCluster_calm : Calm persistCluster a := by
  refine now_calm.bind fun lastSeen a₁ _ _ => now_calm.bind fun observedAt a₂ _ _ => Steps.get_bind ?_
  refine (calm_of_still (update_still fun registry hok => ?_)).bind fun _ a₃ _ _ => Steps.get_bind ?_
  · obtain ⟨-, -, rfl⟩ := putCluster_eq_ok.mp hok
    exact ⟨rfl, rfl⟩
  · exact Steps.forEach trivial fun _ _ _ _ _ => appendMutation_calm _

lemma reportCluster_calm : Calm reportCluster a := by
  refine Steps.get_bind ?_
  split
  · exact Steps.throw
  · exact sendMessage_calm _

lemma reportIfConnected_calm : Calm reportIfConnected a :=
  Steps.get_bind (Steps.onlyIf (fun _ => reportCluster_calm) fun _ => trivial)

/-! Requests of the coordinator. -/

lemma onHelloAck_calm (message : HelloAckMessage) : Calm (onHelloAck message) a := by
  unfold onHelloAck
  split
  · exact countRefusal_calm
  refine Steps.modify_bind (quiet_of_same rfl rfl rfl rfl) ?_
  exact (fenceNotRevalidated_calm _).bind fun _ _ _ _ => reportCluster_calm

lemma onAbortGrant_calm (id : GrantId) (attempt : AttemptId) (reason : Bytes) :
    Calm (onAbortGrant id attempt reason) a := by
  refine Steps.get_bind ?_
  split
  · exact sendMessage_calm _
  · refine Steps.bind (writeGrant_calm ‹_› rfl rfl) fun _ _ _ _ => ?_
    exact (appendMutation_calm _).bind fun _ _ _ _ => sendMessage_calm _

lemma fenceGrant_calm (reason : Bytes) (results : List FenceResult) (id : GrantId) :
    Calm (fenceGrant reason results id) a := by
  refine Steps.get_bind ?_
  split
  · exact Steps.pure trivial
  split
  · exact Steps.pure trivial
  refine Steps.bind (writeGrant_calm ‹_› rfl rfl) fun _ _ _ _ => (appendMutation_calm _).bind fun _ _ _ _ => ?_
  exact Steps.modify_bind (quiet_of_same rfl rfl rfl rfl) (Steps.pure trivial)

lemma onFence_calm (grants : List GrantId) (reason : Bytes) : Calm (onFence grants reason) a := by
  refine Steps.get_bind (Steps.bind (Steps.foldEach trivial fun id _ results a' _ _ => fenceGrant_calm _ _ _)
    fun results _ _ _ => Steps.get_bind ?_)
  exact (appendAudit_calm _ _ _ _).bind fun _ _ _ _ => sendMessage_calm _

lemma refuseTerms_calm (consent : ContractConsentMessage) (reason : Bytes) : Calm (refuseTerms consent reason) a :=
  countRefusal_calm.bind fun _ _ _ _ => sendMessage_calm _

/-! The connection to the coordinator. -/

lemma connectToCoordinator_calm (dial : Dial) : Calm (connectToCoordinator dial) a := by
  refine Steps.get_bind ?_
  split
  · exact Steps.pure trivial
  cases dial with
  | inUse => exact Steps.pure trivial
  | failed status => exact Steps.throw
  | adopted connection =>
    exact Steps.modify_bind (quiet_of_same rfl rfl rfl rfl) (Steps.get_bind (sendMessage_calm _))

lemma handleDisconnect_calm (connection : ℕ) : Calm (handleDisconnect connection) a :=
  Steps.get_bind (Steps.onlyIf (fun _ => modify_calm (quiet_of_same rfl rfl rfl rfl)) fun _ => trivial)

lemma onControlMessage_calm (connection : ℕ) (frame : FromCoordinator) : Calm (onControlMessage connection frame) a := by
  unfold onControlMessage
  split
  · exact Steps.get_bind (sendTo_calm _ _)
  · exact Steps.pure trivial
  · exact modify_calm (quiet_of_same rfl rfl rfl rfl)
  · exact countFrame_calm.bind fun _ _ _ _ => sendTo_calm _ _

/-! The local control surface. -/

lemma setClusterState_calm (state : ClusterState) : Calm (setClusterState state) a := by
  refine Steps.modify_bind (quiet_of_same rfl rfl rfl rfl) (persistCluster_calm.bind fun _ _ _ _ => ?_)
  exact (reevaluateEnforcement_calm _).bind fun _ _ _ _ => reportIfConnected_calm

lemma fenceSuperseded_calm {id : GrantId} {grant : GrantRecord} (hgrant : a.registry.grants[id]? = some grant) :
    Calm (fenceSuperseded id grant) a :=
  Steps.onlyIf (fun _ => rewriteGrant_calm hgrant rfl rfl) fun _ => trivial

lemma bumpGeneration_calm (reason : Bytes) : Calm (bumpGeneration reason) a := by
  refine Steps.get_bind (Steps.bind (P := fun _ _ => True) (Steps.ofResult fun _ _ => trivial) fun generation a₁ _ _ => ?_)
  refine Steps.modify_bind (quiet_of_same rfl rfl rfl rfl) (Steps.get_bind ?_)
  refine (fenceNotRevalidated_calm _).bind fun _ _ _ _ => ?_
  refine (sweepGrants_calm fun _ _ _ _ => fenceSuperseded_calm).bind fun _ _ _ _ => ?_
  refine persistCluster_calm.bind fun _ _ _ _ => Steps.get_bind ?_
  exact (appendAudit_calm _ _ _ _).bind fun _ _ _ _ => reportIfConnected_calm

lemma setPolicyGeneration_calm (generation : PolicyGeneration) : Calm (setPolicyGeneration generation) a := by
  refine Steps.get_bind ?_
  split
  · exact Steps.throw
  refine Steps.modify_bind (quiet_of_same rfl rfl rfl rfl) (persistCluster_calm.bind fun _ _ _ _ => ?_)
  exact (reevaluateEnforcement_calm _).bind fun _ _ _ _ => reportIfConnected_calm

lemma withdrawConsent_calm (reason : Bytes) : Calm (withdrawConsent reason) a := by
  refine Steps.modify_bind (quiet_of_same rfl rfl rfl rfl) (persistCluster_calm.bind fun _ _ _ _ => ?_)
  refine (reevaluateEnforcement_calm _).bind fun _ _ _ _ => Steps.get_bind ?_
  refine Steps.bind (Steps.onlyIf (fun _ => sendMessage_calm _) fun _ => trivial) fun _ _ _ _ => ?_
  exact appendAudit_calm _ _ _ _

lemma restoreConsent_calm : Calm restoreConsent a :=
  Steps.modify_bind (quiet_of_same rfl rfl rfl rfl) persistCluster_calm

lemma fenceLocalGrant_calm (id : GrantId) (reason : Bytes) : Calm (fenceLocalGrant id reason) a := by
  refine Steps.get_bind ?_
  split
  · exact Steps.throw
  refine Steps.bind (rewriteGrant_calm ‹_› rfl rfl) fun _ _ _ _ => ?_
  exact countFence_calm.bind fun _ _ _ _ => appendAudit_calm _ _ _ _

lemma upsertEndpoint_calm (endpoint : EndpointRecord) : Calm (upsertEndpoint endpoint) a := by
  refine now_calm.bind fun observedAt a₁ _ _ => Steps.get_bind ?_
  dsimp only
  split
  · exact Steps.throw
  refine Steps.modify_bind (quiet_of_same rfl rfl rfl rfl) (persistCluster_calm.bind fun _ _ _ _ => ?_)
  exact reportIfConnected_calm

lemma updateFromAdmin_calm (request : AdminMessage) : Calm (updateFromAdmin request) a := by
  unfold updateFromAdmin
  split
  · exact setClusterState_calm _
  · exact withdrawConsent_calm _
  · exact restoreConsent_calm
  · exact fenceLocalGrant_calm _ _
  · split
    · exact Steps.throw
    · exact Steps.forEach trivial fun _ _ _ _ _ => upsertEndpoint_calm _
  · exact Steps.throw
  · exact Steps.throw

lemma onAdmin_calm (connection : ℕ) (request : AdminMessage) : Calm (onAdmin connection request) a := by
  refine Steps.attempt_bind (updateFromAdmin_calm request) (fun _ _ _ _ => ?_) fun _ _ _ => ?_
  · exact Steps.get_bind (sendTo_calm _ _)
  · exact Steps.get_bind (sendTo_calm _ _)

lemma compactIfNeeded_calm : Calm compactIfNeeded a := by
  refine Steps.get_bind (Steps.onlyIf (fun _ => moment_calm.bind fun _ _ _ _ => ?_) fun _ => trivial)
  exact modify_calm (quiet_of_same rfl rfl rfl rfl)

lemma tick_calm (dial : Dial) : Calm (tick dial) a := by
  refine Steps.get_bind (Steps.bind (P := fun _ _ => True) (Steps.onlyIf (fun _ => ?_) fun _ => trivial) fun _ _ _ _ => ?_)
  · refine Steps.attempt_bind (connectToCoordinator_calm dial) (fun _ _ _ _ => ?_) fun _ _ _ => ?_
    · exact Steps.pure trivial
    · exact modify_calm (quiet_of_same rfl rfl rfl rfl)
  · exact (reevaluateEnforcement_calm _).ignore.bind fun _ _ _ _ => compactIfNeeded_calm

end Calm

/-! The requests that give a grant force. -/

/-- The same grant, bound to the same identities; only what the agent says of it differs. -/
def SameBinding (old new : GrantRecord) : Prop :=
  new = { old with state := new.state, note := new.note, provenance := new.provenance }

/-- One record is replaced, and no other grant and no contract is. -/
structure Sets (id : GrantId) (new : GrantRecord) (a a' : Agent) : Prop where
  cluster : a'.cluster = a.cluster
  requires : a'.config.requireCoordinator = a.config.requireCoordinator
  contracts : a'.registry.contracts = a.registry.contracts
  grants : a'.registry.grants = a.registry.grants.insert id new

lemma Sets.still {id : GrantId} {new : GrantRecord} {a a₁ a₂ : Agent} (h : Sets id new a a₁) (h' : Still a₁ a₂) :
    Sets id new a a₂ :=
  ⟨h'.cluster.trans h.cluster, h'.requires.trans h.requires, h'.contracts.trans h.contracts,
    h'.grants.trans h.grants⟩

lemma Sets.lookup {id : GrantId} {new : GrantRecord} {a a' : Agent} (h : Sets id new a a') (other : GrantId) :
    a'.registry.grants[other]? = if other = id then some new else a.registry.grants[other]? := by
  rw [h.grants, getElem?_insert_eq]

/-- The agent takes the grant into its registry. -/
def Accepts (a : Agent) (incoming : GrantRecord) : Prop :=
  prepareFault a incoming = none ∧ ∃ registry, a.registry.putGrant incoming = .ok registry

lemma onPrepareGrant_cases (a : Agent) (incoming : GrantRecord) :
    (¬Accepts a incoming ∧ Still a (onPrepareGrant incoming a).2) ∨
      (Accepts a incoming ∧ ∃ new, new.state = .prepared ∧ SameBinding incoming new ∧
        Sets incoming.id new a (onPrepareGrant incoming a).2) := by
  unfold onPrepareGrant
  rw [Program.get_bind_run]
  generalize ascii "prepared by the cluster agent; waiting for the coordinator commit" = note
  cases hfault : prepareFault a incoming with
  | some detail =>
    refine .inl ⟨fun h => (nomatch hfault.symm.trans h.1), ?_⟩
    have hrefuse : Steps Still countRefusal a fun _ _ => True := Steps.modify ⟨rfl, rfl, rfl, rfl⟩ trivial
    exact (hrefuse.bind fun _ _ _ _ => sendMessage_still _).related
  | none =>
    dsimp only
    set asked : Agent := { a with index := a.index + 1 } with hasked
    have hnow : RuntimeAgent.now a = (.ok (a.moments a.index).now, asked) := rfl
    rw [Program.bind_ok hnow]
    set new : GrantRecord := { incoming with
      state := .prepared
      note
      provenance := { incoming.provenance with
        source := .agentReported, verification := .verified, observedAt := (a.moments a.index).now } } with hnew
    have hput : ∀ registry, a.registry.putGrant new = .ok registry ↔ (∃ registry, a.registry.putGrant incoming = .ok registry) ∧
        registry = store a.registry (.grant new) := by
      intro registry
      rw [putGrant_eq_ok]
      constructor
      · rintro ⟨hsound, hroom, rfl⟩
        exact ⟨⟨_, putGrant_eq_ok.mpr ⟨hsound, hroom, rfl⟩⟩, rfl⟩
      · rintro ⟨⟨_, hok⟩, rfl⟩
        obtain ⟨hsound, hroom, -⟩ := putGrant_eq_ok.mp hok
        exact ⟨hsound, hroom, rfl⟩
    cases hresult : a.registry.putGrant new with
    | error status =>
      have hrun : (Program.focus Agent.registry (fun a registry => { a with registry })
          (Program.update fun registry => registry.putGrant new)).attempt asked = (.ok (.error status), asked) := by
        simp only [Program.attempt, Program.focus, Program.update, hasked, hresult]
      rw [Program.bind_ok hrun]
      have hstill : Still a asked := ⟨rfl, rfl, rfl, rfl⟩
      refine .inl ⟨fun h => ?_, IsTrans.trans _ _ _ hstill (sendMessage_still _).related⟩
      rw [(hput _).mpr ⟨h.2, rfl⟩] at hresult
      cases hresult
    | ok registry =>
      have hrun : (Program.focus Agent.registry (fun a registry => { a with registry })
          (Program.update fun registry => registry.putGrant new)).attempt asked =
            (.ok (.ok ()), { asked with registry }) := by
        simp only [Program.attempt, Program.focus, Program.update, hasked, hresult]
      rw [Program.bind_ok hrun]
      obtain ⟨hincoming, rfl⟩ := (hput _).mp hresult
      refine .inr ⟨⟨hfault, hincoming⟩, new, rfl, rfl, ?_⟩
      have hsets : Sets incoming.id new a { asked with registry := store a.registry (.grant new) } := ⟨rfl, rfl, rfl, rfl⟩
      exact hsets.still ((appendMutation_still _).bind fun _ _ _ _ => sendMessage_still _).related

lemma onCommitGrant_cases (a : Agent) (id : GrantId) (attempt : AttemptId) :
    Still a (onCommitGrant id attempt a).2 ∨
      ∃ old new, a.registry.grants[id]? = some old ∧ old.attempt = attempt ∧
        (old.state = .prepared ∨ old.state = .active) ∧ new.state = .active ∧ SameBinding old new ∧
        Sets id new a (onCommitGrant id attempt a).2 := by
  unfold onCommitGrant
  rw [Program.get_bind_run]
  cases hfind : a.registry.grants[id]? with
  | none =>
    have hrefuse : Steps Still countRefusal a fun _ _ => True := Steps.modify ⟨rfl, rfl, rfl, rfl⟩ trivial
    exact .inl (hrefuse.bind fun _ _ _ _ => sendMessage_still _).related
  | some old =>
    dsimp only
    split
    · exact .inl (sendMessage_still _).related
    split
    · exact .inl (sendMessage_still _).related
    rename_i hattempt hstate
    refine .inr ⟨old, { old with
      state := .active
      note := ascii "enforced by the cluster agent"
      provenance := { old.provenance with observedAt := (a.moments a.index).now } }, rfl, not_not.mp hattempt, by tauto,
      rfl, rfl, ?_⟩
    generalize ascii "enforced by the cluster agent" = note
    have hnow : RuntimeAgent.now a = (.ok (a.moments a.index).now, { a with index := a.index + 1 }) := rfl
    rw [Program.bind_ok hnow]
    have hwrite (new : GrantRecord) : writeGrant id new { a with index := a.index + 1 } =
        (.ok (), { a with index := a.index + 1, registry := setGrant a.registry id new }) := rfl
    rw [Program.bind_ok (hwrite _)]
    have hsets (new : GrantRecord) :
        Sets id new a { a with index := a.index + 1, registry := setGrant a.registry id new } := ⟨rfl, rfl, rfl, rfl⟩
    exact (hsets _).still ((appendMutation_still _).bind fun _ _ _ _ => (appendAudit_still _ _ _ _).bind fun _ _ _ _ =>
      sendMessage_still _).related

/-- The record of the terms that an agent accepts; it asks for the time four times. -/
def acceptedContract (a : Agent) (side : Side) (message : ProposeContractMessage) : ContractRecord :=
  agreedContract a side message.contract message.terms (a.moments a.index).now (a.moments (a.index + 1)).now
    (a.moments (a.index + 2)).now (a.moments (a.index + 3)).now

lemma acceptTerms_cases (a : Agent) (side : Side) (message : ProposeContractMessage) :
    Still a (acceptTerms side message a).2 ∨
      Still { a with registry := store a.registry (.contract (acceptedContract a side message)) }
        (acceptTerms side message a).2 := by
  set asked : Agent := { a with index := a.index + 4 } with hasked
  set contract := acceptedContract a side message with hcontract
  have hrun : acceptTerms side message a = (do
      Program.focus Agent.registry (fun a registry => { a with registry })
        (Program.update fun registry => registry.putContract contract)
      appendMutation (.contractPut contract)
      appendAudit "consent" contract.id.toText .ok
        (ascii "terms accepted and bound to this incarnation and generation")
      sendMessage (.contractConsent { consentReply a message with
        decision := .accepted, reason := acceptedText }) : AgentOp Unit) asked := rfl
  rw [hrun]
  cases hput : a.registry.putContract contract with
  | error status =>
    have hfailed : Program.focus Agent.registry (fun a registry => { a with registry })
        (Program.update fun registry => registry.putContract contract) asked = (.error status, asked) := by
      simp only [Program.focus, Program.update, hasked, hput]
    rw [Program.bind_error hfailed]
    exact .inl ⟨rfl, rfl, rfl, rfl⟩
  | ok registry =>
    have hstored : Program.focus Agent.registry (fun a registry => { a with registry })
        (Program.update fun registry => registry.putContract contract) asked = (.ok (), { asked with registry }) := by
      simp only [Program.focus, Program.update, hasked, hput]
    rw [Program.bind_ok hstored]
    obtain ⟨-, -, rfl⟩ := putContract_eq_ok.mp hput
    have hstill := ((appendMutation_still (.contractPut contract)).bind fun _ _ _ _ =>
      (appendAudit_still "consent" contract.id.toText .ok
        (ascii "terms accepted and bound to this incarnation and generation")).bind fun _ _ _ _ =>
      sendMessage_still (.contractConsent { consentReply a message with
        decision := .accepted, reason := acceptedText }) :
      Steps Still _ { asked with registry := store a.registry (.contract contract) } fun _ _ => True).related
    exact .inr ⟨hstill.cluster, hstill.requires, hstill.contracts, hstill.grants⟩

/-- A proposal changes nothing that is recorded, or the terms are accepted. -/
lemma onProposeContract_records (a : Agent) (message : ProposeContractMessage) :
    Still a (onProposeContract message a).2 ∨
      ∃ side, sideAmong a.cluster message.terms.parties = some side ∧ termsFault a side message.terms = none ∧
        Still { a with registry := store a.registry (.contract (acceptedContract a side message)) }
          (onProposeContract message a).2 := by
  have hrefuse (reason : Bytes) : Steps Still (refuseTerms (consentReply a message) reason) a fun _ _ => True :=
    Steps.modify_bind ⟨rfl, rfl, rfl, rfl⟩ (sendMessage_still _)
  unfold onProposeContract
  rw [Program.get_bind_run]
  cases hside : sideAmong a.cluster message.terms.parties with
  | none => exact .inl (hrefuse _).related
  | some side =>
    dsimp only
    cases hfault : termsFault a side message.terms with
    | some reason => exact .inl (hrefuse _).related
    | none => exact (acceptTerms_cases a side message).imp_right fun hstill => ⟨side, rfl, hfault, hstill⟩

/-- A contract is recorded with the agent's own consent, bound to what the agent is at that time. -/
structure Agrees (message : ProposeContractMessage) (side : Side) (a a' : Agent) : Prop where
  named : sideAmong a.cluster message.terms.parties = some side
  sound : termsFault a side message.terms = none
  cluster : a'.cluster = a.cluster
  requires : a'.config.requireCoordinator = a.config.requireCoordinator
  grants : a'.registry.grants = a.registry.grants
  contracts : ∃ contract, a'.registry.contracts = a.registry.contracts.insert message.contract contract ∧
    contract.parties = message.terms.parties ∧
    ∃ decidedAt, contract.consents.get side = some (ownConsent a side message.terms decidedAt)

lemma onProposeContract_cases (a : Agent) (message : ProposeContractMessage) :
    Still a (onProposeContract message a).2 ∨ ∃ side, Agrees message side a (onProposeContract message a).2 := by
  rcases onProposeContract_records a message with hstill | ⟨side, hside, hfault, hstill⟩
  · exact .inl hstill
  · refine .inr ⟨side, hside, hfault, hstill.cluster, hstill.requires, hstill.grants, _, hstill.contracts, rfl,
      (a.moments (a.index + 3)).now, ?_⟩
    rw [acceptedContract, agreedContract, PerSide.get_set, if_pos rfl]

/-- What an event does to the grants and the contracts of an agent. -/
lemma step_cases (a : Agent) (event : Event) :
    Quiet a (step a event) ∨
      (∃ incoming new, event = .message a.coordinatorConnection (.prepareGrant incoming) ∧ Accepts a incoming ∧
        new.state = .prepared ∧ SameBinding incoming new ∧ Sets incoming.id new a (step a event)) ∨
      (∃ id attempt old new, event = .message a.coordinatorConnection (.commitGrant id attempt) ∧
        a.registry.grants[id]? = some old ∧ old.attempt = attempt ∧ (old.state = .prepared ∨ old.state = .active) ∧
        new.state = .active ∧ SameBinding old new ∧ Sets id new a (step a event)) ∨
      ∃ message side, event = .message a.coordinatorConnection (.proposeContract message) ∧
        Agrees message side a (step a event) := by
  cases event with
  | message connection frame =>
    by_cases hconnection : connection = a.coordinatorConnection
    · have hstep : step a (.message connection frame) = (onCoordinatorMessage connection frame a).2 := by
        simp only [step, handle, Program.get_bind_run, if_pos hconnection]
      rw [hstep, hconnection]
      cases frame with
      | malformed status => exact .inl (countFrame_calm.bind fun _ _ _ _ => Steps.throw (Q := fun _ _ => True)).related
      | helloAck message => exact .inl (onHelloAck_calm message).related
      | reportAck message => exact .inl (Steps.onlyIf (fun _ => countRefusal_calm) fun _ => trivial).related
      | proposeContract message =>
        rcases onProposeContract_cases a message with hstill | ⟨side, hagrees⟩
        · exact .inl hstill.quiet
        · exact .inr (.inr (.inr ⟨message, side, rfl, hagrees⟩))
      | prepareGrant incoming =>
        rcases onPrepareGrant_cases a incoming with ⟨-, hstill⟩ | ⟨haccepts, new, hstate, hbinding, hsets⟩
        · exact .inl hstill.quiet
        · exact .inr (.inl ⟨incoming, new, rfl, haccepts, hstate, hbinding, hsets⟩)
      | commitGrant id attempt =>
        rcases onCommitGrant_cases a id attempt with hstill | ⟨old, new, hold, hattempt, hstates, hstate, hbinding, hsets⟩
        · exact .inl hstill.quiet
        · exact .inr (.inr (.inl ⟨id, attempt, old, new, rfl, hold, hattempt, hstates, hstate, hbinding, hsets⟩))
      | abortGrant id attempt reason => exact .inl (onAbortGrant_calm id attempt reason).related
      | fence grants reason => exact .inl (onFence_calm grants reason).related
      | statusRequest => exact .inl (Steps.get_bind (sendMessage_calm _)).related
      | ping sequence => exact .inl (sendTo_calm _ _).related
      | pong => exact .inl (Std.Refl.refl a)
      | error => exact .inl (quiet_of_same rfl rfl rfl rfl)
      | unsupported kind => exact .inl (countFrame_calm.bind fun _ _ _ _ => sendTo_calm _ _).related
    · have hstep : step a (.message connection frame) = (onControlMessage connection frame a).2 := by
        simp only [step, handle, Program.get_bind_run, if_neg hconnection]
      rw [hstep]
      exact .inl (onControlMessage_calm connection frame).related
  | admin connection request => exact .inl (onAdmin_calm connection request).related
  | setClusterState state => exact .inl (setClusterState_calm state).related
  | bumpGeneration reason => exact .inl (bumpGeneration_calm reason).related
  | setPolicyGeneration generation => exact .inl (setPolicyGeneration_calm generation).related
  | withdrawConsent reason => exact .inl (withdrawConsent_calm reason).related
  | fenceLocalGrant id reason => exact .inl (fenceLocalGrant_calm id reason).related
  | upsertEndpoint endpoint => exact .inl (upsertEndpoint_calm endpoint).related
  | reconnect dial =>
    exact .inl (Steps.modify_bind (quiet_of_same rfl rfl rfl rfl) (connectToCoordinator_calm dial).ignore).related
  | retry dial => exact .inl (connectToCoordinator_calm dial).ignore.related
  | disconnect connection => exact .inl (handleDisconnect_calm connection).related
  | tick dial => exact .inl (tick_calm dial).related

/-- The contract and the consents to it carry one digest. -/
structure Carries (digest : Digest) (contract : ContractRecord) : Prop where
  terms : contract.termsDigest = digest
  consents : ∀ side consent, contract.consents.get side = some consent → consent.termsDigest = digest

/-- A contract that was unknown is recorded under the digest of the terms that are proposed for it. -/
lemma carries_step {a : Agent} {connection : ℕ} {message : ProposeContractMessage} {contract : ContractRecord}
    (hnone : a.registry.contracts[message.contract]? = none)
    (hfind : (step a (.message connection (.proposeContract message))).registry.contracts[message.contract]? =
      some contract) : Carries message.terms.digest contract := by
  have hunchanged {contracts : OrdMap ContractId ContractRecord} (h : contracts = a.registry.contracts) :
      contracts[message.contract]? ≠ some contract := by
    intro hfound
    rw [h, hnone] at hfound
    cases hfound
  by_cases hconnection : connection = a.coordinatorConnection
  · have hstep : step a (.message connection (.proposeContract message)) = (onProposeContract message a).2 := by
      simp only [step, handle, Program.get_bind_run, if_pos hconnection]
      rfl
    rw [hstep] at hfind
    rcases onProposeContract_records a message with hstill | ⟨side, -, -, hstill⟩
    · exact absurd hfind (hunchanged hstill.contracts)
    · rw [hstill.contracts, store, getElem?_insert_eq, acceptedContract, agreedContract, if_pos rfl] at hfind
      cases hfind
      refine ⟨rfl, fun other consent hconsent => ?_⟩
      rw [hnone, PerSide.get_set] at hconsent
      split at hconsent
      · cases hconsent
        rfl
      · cases other <;> cases hconsent
  · have hstep : step a (.message connection (.proposeContract message)) =
        (onControlMessage connection (.proposeContract message) a).2 := by
      simp only [step, handle, Program.get_bind_run, if_neg hconnection]
    rw [hstep] at hfind
    exact absurd hfind (hunchanged (onControlMessage_calm connection _).related.contracts)

/-! The start. -/

/-- Nothing that is recorded rests on a process that is gone. -/
def Retired (a : Agent) : Prop :=
  ∀ (id : GrantId) grant, a.registry.grants[id]? = some grant → restsOnProcess grant.state = false

lemma rests_of_closed {state : GrantState} (h : closed state = true) : restsOnProcess state = false := by
  cases state <;> first | rfl | cases h

lemma Quiet.retired {a a' : Agent} (h : Quiet a a') (hretired : Retired a) : Retired a' := by
  intro id grant hgrant
  rcases h.grants id with hsame | ⟨_, new, _, hnew, hclosed, _⟩
  · exact hretired id grant (by rw [← hsame, hgrant])
  · cases hgrant.symm.trans hnew
    exact rests_of_closed hclosed

section Start

variable {a : Agent}

lemma fenceRecoveredGrant_retires {id : GrantId} {grant : GrantRecord} (hgrant : a.registry.grants[id]? = some grant) :
    Steps Quiet (fenceRecoveredGrant id grant) a fun _ a' =>
      ∀ g, a'.registry.grants[id]? = some g → restsOnProcess g.state = false := by
  refine Steps.onlyIf (fun _ => Steps.modify_bind (quiet_of_same rfl rfl rfl rfl) ?_) fun hno g hg => ?_
  · generalize ascii "recovered enforcement is historical until the coordinator revalidates it" = note
    -- the record is written first, and logging it does not touch it
    refine Steps.bind (P := fun _ a' => a'.registry.grants[id]? = some { grant with state := .fenced, note }) ?_ ?_
    · have hwrite : Calm (writeGrant id { grant with state := .fenced, note })
          { a with recoveredGrantsFenced := a.recoveredGrantsFenced + 1 } := writeGrant_calm hgrant rfl rfl
      refine ⟨hwrite.related, fun _ _ => ?_⟩
      show (a.registry.grants.insert id _)[id]? = _
      rw [getElem?_insert_eq, if_pos rfl]
    · intro _ a₁ _ hfenced
      have hlog := appendMutation_still (a := a₁) (.grantPut { grant with state := .fenced, note })
      refine ⟨hlog.related.quiet, fun _ _ g hg => ?_⟩
      rw [hlog.related.grants, hfenced] at hg
      cases hg
      rfl
  · cases hgrant.symm.trans hg
    simpa using hno

lemma fenceRecovered_retires : Steps Quiet fenceRecovered a fun _ a' => Retired a' := by
  have hsweep : Steps Quiet (sweepGrants () fun _ id grant => fenceRecoveredGrant id grant) a fun _ a' => Retired a' := by
    -- a grant is still to be visited, or it has been taken back
    refine Steps.get_bind (Steps.mono (Steps.foldEach_rest
      (I := fun (rest : List GrantId) (_ : Unit) (a' : Agent) => ∀ (id : GrantId) g,
        a'.registry.grants[id]? = some g → id ∈ rest ∨ restsOnProcess g.state = false) ?_ ?_) ?_)
    · intro id g hg
      refine .inl (Std.ExtTreeMap.mem_keys.mpr ?_)
      exact Std.ExtTreeMap.mem_iff_isSome_getElem?.mpr (by rw [hg]; rfl)
    · intro id rest _ a' _ hI
      refine Steps.get_bind ?_
      cases hfind : a'.registry.grants[id]? with
      | none =>
        refine Steps.pure fun other g hg => ?_
        rcases hI other g hg with hmem | hrests
        · rcases List.mem_cons.mp hmem with rfl | hmem
          · rw [hfind] at hg
            cases hg
          · exact .inl hmem
        · exact .inr hrests
      | some grant =>
        have hvisit := fenceRecoveredGrant_retires hfind
        refine ⟨hvisit.related, fun u hu other g hg => ?_⟩
        by_cases hid : other = id
        · subst hid
          exact .inr (hvisit.returns u hu g hg)
        · rcases hvisit.related.grants other with hsame | ⟨_, new, _, hnew, hclosed, _⟩
          · rcases hI other g (by rw [← hsame]; exact hg) with hmem | hrests
            · exact .inl ((List.mem_cons.mp hmem).resolve_left hid)
            · exact .inr hrests
          · cases hg.symm.trans hnew
            exact .inr (rests_of_closed hclosed)
    · intro _ a' hI id g hg
      exact (hI id g hg).resolve_left List.not_mem_nil
  refine hsweep.bind fun _ a₁ _ hretired => Steps.get_bind ?_
  refine Steps.bind (P := fun _ a' => Retired a') ⟨moment_calm.related, fun _ _ => moment_calm.related.retired hretired⟩
    fun m a₂ _ hretired₂ => ?_
  exact ⟨(onStore_calm _).related, fun _ _ => (onStore_calm _).related.retired hretired₂⟩

lemma resume_quiet :
    Steps Quiet resume a fun _ a' => a'.recovery = a.recovery ∧ a'.registry = a.registry := by
  refine Steps.get_bind ?_
  split
  · exact Steps.pure ⟨rfl, rfl⟩
  split
  · exact Steps.throw
  · exact Steps.modify (quiet_of_same rfl rfl rfl rfl) ⟨rfl, rfl⟩

/-- An operation that ends with the audit trail or the store keeps what is retired. -/
lemma Retired.calm {α : Type} {p : AgentOp α} (hretired : Retired a) (h : Calm p a) :
    Steps Quiet p a fun _ a' => Retired a' := ⟨h.related, fun _ _ => h.related.retired hretired⟩

lemma beginIncarnation_retires (hfresh : a.recovery.recoveredFromStore = false → Retired a) :
    Steps Quiet beginIncarnation a fun _ a' => Retired a' := by
  have hrandom : Steps Quiet random a fun _ a' => a'.recovery = a.recovery ∧ a'.registry = a.registry :=
    ⟨quiet_of_same rfl rfl rfl rfl, fun _ _ => ⟨rfl, rfl⟩⟩
  refine hrandom.bind fun incarnation a₁ _ h₁ => ?_
  have hnow : Steps Quiet RuntimeAgent.now a₁ fun _ a' => a'.recovery = a.recovery ∧ a'.registry = a.registry :=
    ⟨quiet_of_same rfl rfl rfl rfl, fun _ _ => h₁⟩
  refine hnow.bind fun startedAt a₂ _ h₂ => Steps.modify_bind (quiet_of_same rfl rfl rfl rfl) ?_
  refine resume_quiet.bind fun _ a₃ _ h₃ => Steps.get_bind ?_
  have hmoment : Steps Quiet moment a₃ fun _ a' => a'.registry = a.registry :=
    ⟨quiet_of_same rfl rfl rfl rfl, fun _ _ => h₃.2.trans h₂.2⟩
  refine hmoment.bind fun m a₄ _ h₄ => ?_
  have hmeta : Steps Quiet (onStore fun store files => store.appendMeta files (beginMeta a₃) startedAt m.append) a₄
      fun _ a' => a'.registry = a.registry := ⟨(onStore_calm _).related, fun _ _ => h₄⟩
  refine hmeta.bind fun _ a₅ _ h₅ => ?_
  refine Steps.bind (P := fun _ a' => Retired a') ?_ fun _ a₆ _ h₆ => h₆.calm (appendAudit_calm _ _ _ _)
  refine Steps.onlyIf (fun _ => fenceRecovered_retires) fun hno => ?_
  have hrecovery : a₃.recovery = a.recovery := h₃.1.trans h₂.1
  rw [hrecovery, Bool.not_eq_true] at hno
  intro id grant hgrant
  exact hfresh hno id grant (by rw [← h₅]; exact hgrant)

/-- A successful start opened its store and began on what it recovered. -/
lemma opened_of_started {launch : Launch} {files : Files} (h : Started launch files a) :
    ∃ opened, openStore (storeOptions launch.config) ⟨RuntimeCoordinator.stamp (launch.moments 0).entropy⟩ launch.faults
        files = .ok opened ∧
      (do
        beginIncarnation
        persistCluster
        Program.ofResult (attempt launch.listening) : AgentOp Unit)
          (loaded { launched launch files with index := 1 } opened) = (.ok (), a) := by
  set asked : Agent := { launched launch files with index := 1 } with hasked
  unfold Started start at h
  cases hcheck : checkConfig launch.config with
  | error status =>
    have hrun : (Program.ofResult (checkConfig launch.config) : AgentOp Unit) (launched launch files) =
        (.error status, launched launch files) := by rw [hcheck]; rfl
    rw [Program.bind_error hrun] at h
    cases h
  | ok u =>
    have hrun : (Program.ofResult (checkConfig launch.config) : AgentOp Unit) (launched launch files) =
        (.ok u, launched launch files) := by rw [hcheck]; rfl
    rw [Program.bind_ok hrun] at h
    have hload : RuntimeAgentRun.loadState launch.faults (launched launch files) =
        (Program.ofResult (openStore (storeOptions launch.config) ⟨RuntimeCoordinator.stamp (launch.moments 0).entropy⟩
          launch.faults files) >>= fun opened => modify fun a => loaded a opened : AgentOp Unit) asked := rfl
    cases hopen : openStore (storeOptions launch.config) ⟨RuntimeCoordinator.stamp (launch.moments 0).entropy⟩
        launch.faults files with
    | error status =>
      have hresult : (Program.ofResult (.error status : Result Opened) : AgentOp Opened) asked =
          (.error status, asked) := rfl
      rw [hopen, Program.bind_error hresult] at hload
      rw [Program.bind_error hload] at h
      cases h
    | ok opened =>
      have hresult : (Program.ofResult (.ok opened : Result Opened) : AgentOp Opened) asked = (.ok opened, asked) := rfl
      rw [hopen, Program.bind_ok hresult] at hload
      have hloaded : RuntimeAgentRun.loadState launch.faults (launched launch files) = (.ok (), loaded asked opened) := hload
      rw [Program.bind_ok hloaded] at h
      exact ⟨opened, rfl, h⟩

/-- A new process holds no grant that it might enforce, whatever its store has given it. -/
lemma started_retired {launch : Launch} {files : Files} (h : Started launch files a) :
    Retired a ∧ a.config.requireCoordinator = launch.config.requireCoordinator := by
  obtain ⟨opened, hopen, hrun⟩ := opened_of_started h
  set first := loaded { launched launch files with index := 1 } opened with hfirst
  have hfresh : first.recovery.recoveredFromStore = false → Retired first := by
    intro hno id grant hgrant
    have hempty : first.registry = {} := registry_of_fresh hopen hno
    rw [hempty] at hgrant
    simp at hgrant
  have hsteps := (beginIncarnation_retires hfresh).bind fun _ a₁ _ h₁ =>
    (h₁.calm persistCluster_calm).bind fun _ a₂ _ h₂ =>
      h₂.calm (Steps.ofResult (r := attempt launch.listening) fun _ _ => trivial)
  have hquiet := hsteps.related
  have hretired := hsteps.returns ()
  rw [hrun] at hquiet hretired
  exact ⟨hretired rfl, hquiet.requires⟩

end Start

end InterClusterFabric.RuntimeEnforcement
