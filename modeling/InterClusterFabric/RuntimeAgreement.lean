import InterClusterFabric.EngineAuthorities
import InterClusterFabric.RuntimeAgentSafety
import InterClusterFabric.RuntimeHistory
import InterClusterFabric.RuntimeWords

/-! The two ends of a commit together: agents that prepare, commit and report grants, and a coordinator that counts
their acknowledgements. Whatever is lost, repeated or reordered between them, what the coordinator holds for
acknowledged some agent has enforced, under the very attempt. -/
namespace InterClusterFabric.RuntimeAgreement
open CoreStatus CoreIds CoreTime CoreHash ModelRecords ModelRegistry ModelRegistryLaws StoreMutation WireMessages
open EngineDecision EngineDecide EngineSoundness RuntimeFencing RuntimeHandlers RuntimeEdits RuntimeStepsHandlers
open RuntimeStepsAdmin LibraryChecked LibraryOrdMap LibraryProgram LibraryTrace
open StoreDurable hiding loadState

/-! What an agent says of its grants. -/

/-- The message says that its sender enforces the attempt of the grant. -/
def VouchesFor (id : GrantId) (attempt : AttemptId) : Inbound → Prop
  | .grantCommitted message => message.installed = true ∧ message.grant = id ∧ message.attempt = attempt
  | .statusReport message =>
    ∃ entry ∈ message.grants, installed entry.state = true ∧ entry.grant = id ∧ entry.attempt = attempt
  | _ => False

section Agent

open RuntimeAgent RuntimeAgentRun RuntimeEnforcement RuntimeAgentSafety

/-- What has been sent in between satisfies the condition. -/
def Says (P : Inbound → Prop) (a a' : Agent) : Prop := ∀ message ∈ a'.outbox, message ∈ a.outbox ∨ P message

instance (P : Inbound → Prop) : Std.Refl (Says P) := ⟨fun _ _ h => .inl h⟩

instance (P : Inbound → Prop) : IsTrans Agent (Says P) where
  trans _ _ _ h h' _ hmessage := (h' _ hmessage).elim (h _) .inr

lemma says_of_same {P : Inbound → Prop} {a a' : Agent} (h : a'.outbox = a.outbox) : Says P a a' :=
  fun _ hmessage => .inl (h ▸ hmessage)

/-- The agent vouches for nothing. -/
def Noncommittal (message : Inbound) : Prop := ∀ id attempt, ¬VouchesFor id attempt message

/-- The run of an operation sends only what satisfies the condition. -/
abbrev Sends (P : Inbound → Prop) {α : Type} (p : AgentOp α) (a : Agent) : Prop := Steps (Says P) p a fun _ _ => True

section Operations

variable {a : Agent} {P : Inbound → Prop}

lemma modify_sends {f : Agent → Agent} (h : (f a).outbox = a.outbox) : Sends P (modify f) a :=
  Steps.modify (says_of_same h) trivial

lemma moment_sends : Sends P moment a := ⟨says_of_same rfl, fun _ _ => trivial⟩

lemma now_sends : Sends P RuntimeAgent.now a := moment_sends.bind fun _ _ _ _ => Steps.pure trivial

lemma appendMutation_sends (mutation : Mutation) : Sends P (appendMutation mutation) a :=
  moment_sends.bind fun _ _ _ _ => ⟨says_of_same rfl, fun _ _ => trivial⟩

lemma sendMessage_sends {message : Inbound} (h : P message) : Sends P (sendMessage message) a := by
  refine Steps.get_bind ?_
  split
  · exact Steps.throw
  refine moment_sends.bind fun m a₁ _ _ => ?_
  split
  · exact Steps.throw
  · exact Steps.throw
  · refine Steps.modify (fun sent hsent => ?_) trivial
    rcases List.mem_append.mp hsent with hold | hnew
    · exact .inl hold
    · exact .inr (List.mem_singleton.mp hnew ▸ h)

lemma sendTo_sends (connection : ℕ) (message : Outbound) : Sends P (sendTo connection message) a := by
  refine moment_sends.bind fun m _ _ _ => ?_
  split
  · exact Steps.pure trivial
  · exact Steps.throw
  · exact modify_sends rfl

/-- The registry may change, or refuse to. -/
lemma focus_sends {p : Program Registry Status Unit} :
    Sends P (Program.focus Agent.registry (fun a registry => { a with registry }) p) a :=
  ⟨says_of_same rfl, fun _ _ => trivial⟩

lemma appendAudit_sends (action : String) (subject : Bytes) (outcome : Outcome) (detail : Bytes) :
    Sends P (appendAudit action subject outcome detail) a := by
  refine Steps.get_bind ?_
  split
  · exact Steps.pure trivial
  refine now_sends.bind fun _ a₁ _ _ => focus_sends.bind fun _ a₂ _ _ => Steps.get_bind ?_
  exact Steps.forEach trivial fun _ _ _ _ _ => appendMutation_sends _

lemma rewriteGrant_sends (id : GrantId) (record : GrantRecord) : Sends P (rewriteGrant id record) a :=
  Steps.bind (P := fun _ _ => True) (modify_sends rfl) fun _ _ _ _ => appendMutation_sends _

lemma sweepGrants_sends {β : Type} {init : β} {visit : β → GrantId → GrantRecord → AgentOp β}
    (hvisit : ∀ acc id grant a', Sends P (visit acc id grant) a') : Sends P (sweepGrants init visit) a := by
  refine Steps.get_bind (Steps.foldEach trivial fun id _ acc a' _ _ => Steps.get_bind ?_)
  split
  · exact Steps.pure trivial
  · exact hvisit _ _ _ _

lemma countRefusal_sends : Sends P countRefusal a := modify_sends rfl

lemma countFrame_sends : Sends P countFrame a := modify_sends rfl

lemma countFence_sends : Sends P countFence a := modify_sends rfl

lemma fenceNotRevalidated_sends (term : Term) : Sends P (fenceNotRevalidated term) a := by
  refine (sweepGrants_sends fun fenced id grant a' => ?_).bind fun fenced _ _ _ => ?_
  · unfold fenceUnderTerm
    split
    · exact Steps.pure trivial
    · exact countFence_sends.bind fun _ _ _ _ => (rewriteGrant_sends _ _).bind fun _ _ _ _ => Steps.pure trivial
  · exact Steps.onlyIf (fun _ => Steps.get_bind (appendAudit_sends _ _ _ _)) fun _ => trivial

lemma reevaluateGrant_sends (now : Timestamp) (reason : Bytes) (id : GrantId) (grant : GrantRecord) :
    Sends P (reevaluateGrant now reason id grant) a := by
  unfold reevaluateGrant
  split
  · exact Steps.pure trivial
  split
  · exact countFence_sends.bind fun _ _ _ _ => rewriteGrant_sends _ _
  refine now_sends.bind fun later a₁ _ _ => Steps.get_bind ?_
  dsimp only
  split
  · exact (rewriteGrant_sends _ _).bind fun _ _ _ _ => modify_sends rfl
  · exact Steps.onlyIf (fun _ => countFence_sends.bind fun _ _ _ _ => rewriteGrant_sends _ _) fun _ => trivial

lemma reevaluateEnforcement_sends (reason : Bytes) : Sends P (reevaluateEnforcement reason) a :=
  now_sends.bind fun _ _ _ _ => sweepGrants_sends fun _ _ _ _ => reevaluateGrant_sends _ _ _ _

lemma persistCluster_sends : Sends P persistCluster a := by
  refine now_sends.bind fun _ _ _ _ => now_sends.bind fun _ _ _ _ => Steps.get_bind ?_
  refine focus_sends.bind fun _ _ _ _ => Steps.get_bind ?_
  exact Steps.forEach trivial fun _ _ _ _ _ => appendMutation_sends _

end Operations

section Noncommittal

variable {a : Agent}

lemma reportIfConnected_sends : Sends Noncommittal reportIfConnected a := by
  refine Steps.get_bind (Steps.onlyIf (fun _ => Steps.get_bind ?_) fun _ => trivial)
  split
  · exact Steps.throw
  · exact sendMessage_sends fun _ _ h => h

lemma connectToCoordinator_sends (dial : Dial) : Sends Noncommittal (connectToCoordinator dial) a := by
  refine Steps.get_bind ?_
  split
  · exact Steps.pure trivial
  cases dial with
  | inUse => exact Steps.pure trivial
  | failed status => exact Steps.throw
  | adopted connection =>
    exact Steps.modify_bind (says_of_same rfl) (Steps.get_bind (sendMessage_sends fun _ _ h => h))

lemma setClusterState_sends (state : ClusterState) : Sends Noncommittal (setClusterState state) a := by
  refine Steps.modify_bind (says_of_same rfl) (persistCluster_sends.bind fun _ _ _ _ => ?_)
  exact (reevaluateEnforcement_sends _).bind fun _ _ _ _ => reportIfConnected_sends

lemma bumpGeneration_sends (reason : Bytes) : Sends Noncommittal (bumpGeneration reason) a := by
  refine Steps.get_bind
    (Steps.bind (P := fun _ _ => True) (Steps.ofResult fun _ _ => trivial) fun generation a₁ _ _ => ?_)
  refine Steps.modify_bind (says_of_same rfl) (Steps.get_bind ?_)
  refine (fenceNotRevalidated_sends _).bind fun _ _ _ _ => ?_
  refine (sweepGrants_sends fun _ _ _ _ => ?_).bind fun _ _ _ _ => ?_
  · exact Steps.onlyIf (fun _ => rewriteGrant_sends _ _) fun _ => trivial
  refine persistCluster_sends.bind fun _ _ _ _ => Steps.get_bind ?_
  exact (appendAudit_sends _ _ _ _).bind fun _ _ _ _ => reportIfConnected_sends

lemma setPolicyGeneration_sends (generation : PolicyGeneration) :
    Sends Noncommittal (setPolicyGeneration generation) a := by
  refine Steps.get_bind ?_
  split
  · exact Steps.throw
  refine Steps.modify_bind (says_of_same rfl) (persistCluster_sends.bind fun _ _ _ _ => ?_)
  exact (reevaluateEnforcement_sends _).bind fun _ _ _ _ => reportIfConnected_sends

lemma withdrawConsent_sends (reason : Bytes) : Sends Noncommittal (withdrawConsent reason) a := by
  refine Steps.modify_bind (says_of_same rfl) (persistCluster_sends.bind fun _ _ _ _ => ?_)
  refine (reevaluateEnforcement_sends _).bind fun _ _ _ _ => Steps.get_bind ?_
  refine Steps.bind (Steps.onlyIf (fun _ => sendMessage_sends fun _ _ h => h) fun _ => trivial) fun _ _ _ _ => ?_
  exact appendAudit_sends _ _ _ _

lemma fenceLocalGrant_sends (id : GrantId) (reason : Bytes) : Sends Noncommittal (fenceLocalGrant id reason) a := by
  refine Steps.get_bind ?_
  split
  · exact Steps.throw
  refine Steps.bind (rewriteGrant_sends _ _) fun _ _ _ _ => ?_
  exact countFence_sends.bind fun _ _ _ _ => appendAudit_sends _ _ _ _

lemma upsertEndpoint_sends (endpoint : EndpointRecord) : Sends Noncommittal (upsertEndpoint endpoint) a := by
  refine now_sends.bind fun observedAt a₁ _ _ => Steps.get_bind ?_
  dsimp only
  split
  · exact Steps.throw
  exact Steps.modify_bind (says_of_same rfl) (persistCluster_sends.bind fun _ _ _ _ => reportIfConnected_sends)

lemma updateFromAdmin_sends (request : AdminMessage) : Sends Noncommittal (updateFromAdmin request) a := by
  unfold updateFromAdmin
  split
  · exact setClusterState_sends _
  · exact withdrawConsent_sends _
  · exact Steps.modify_bind (says_of_same rfl) persistCluster_sends
  · exact fenceLocalGrant_sends _ _
  · split
    · exact Steps.throw
    · exact Steps.forEach trivial fun _ _ _ _ _ => upsertEndpoint_sends _
  · exact Steps.throw
  · exact Steps.throw

lemma onAdmin_sends (connection : ℕ) (request : AdminMessage) : Sends Noncommittal (onAdmin connection request) a := by
  refine Steps.attempt_bind (updateFromAdmin_sends request) (fun _ _ _ _ => ?_) fun _ _ _ => ?_
  · exact Steps.get_bind (sendTo_sends _ _)
  · exact Steps.get_bind (sendTo_sends _ _)

lemma tick_sends (dial : Dial) : Sends Noncommittal (tick dial) a := by
  refine Steps.get_bind
    (Steps.bind (P := fun _ _ => True) (Steps.onlyIf (fun _ => ?_) fun _ => trivial) fun _ _ _ _ => ?_)
  · refine Steps.attempt_bind (connectToCoordinator_sends dial) (fun _ _ _ _ => ?_) fun _ _ _ => ?_
    · exact Steps.pure trivial
    · exact modify_sends rfl
  · refine (reevaluateEnforcement_sends _).ignore.bind fun _ _ _ _ => ?_
    exact Steps.get_bind (Steps.onlyIf (fun _ => moment_sends.bind fun _ _ _ _ => modify_sends rfl) fun _ => trivial)

/-! Requests of the coordinator. -/

lemma onHelloAck_sends (message : HelloAckMessage) : Sends Noncommittal (onHelloAck message) a := by
  unfold onHelloAck
  split
  · exact countRefusal_sends
  refine Steps.modify_bind (says_of_same rfl) ((fenceNotRevalidated_sends _).bind fun _ _ _ _ => Steps.get_bind ?_)
  split
  · exact Steps.throw
  · exact sendMessage_sends fun _ _ h => h

lemma onProposeContract_sends (message : ProposeContractMessage) :
    Sends Noncommittal (onProposeContract message) a := by
  have hrefuse (consent : ContractConsentMessage) (reason : Bytes) :
      Sends Noncommittal (refuseTerms consent reason) a :=
    countRefusal_sends.bind fun _ _ _ _ => sendMessage_sends fun _ _ h => h
  refine Steps.get_bind ?_
  split
  · exact hrefuse _ _
  split
  · exact hrefuse _ _
  refine now_sends.bind fun _ _ _ _ => now_sends.bind fun _ _ _ _ => now_sends.bind fun _ _ _ _ =>
    now_sends.bind fun _ _ _ _ => Steps.get_bind (focus_sends.bind fun _ _ _ _ => ?_)
  refine (appendMutation_sends _).bind fun _ _ _ _ => (appendAudit_sends _ _ _ _).bind fun _ _ _ _ => ?_
  exact sendMessage_sends fun _ _ h => h

lemma onPrepareGrant_sends (incoming : GrantRecord) : Sends Noncommittal (onPrepareGrant incoming) a := by
  refine Steps.get_bind ?_
  dsimp only
  split
  · exact countRefusal_sends.bind fun _ _ _ _ => sendMessage_sends fun _ _ h => h
  refine now_sends.bind fun _ _ _ _ => Steps.attempt_bind focus_sends (fun _ _ _ _ => ?_) fun _ _ _ => ?_
  · exact (appendMutation_sends _).bind fun _ _ _ _ => sendMessage_sends fun _ _ h => h
  · exact sendMessage_sends fun _ _ h => h

lemma onAbortGrant_sends (id : GrantId) (attempt : AttemptId) (reason : Bytes) :
    Sends Noncommittal (onAbortGrant id attempt reason) a := by
  refine Steps.get_bind ?_
  split
  · exact sendMessage_sends fun _ _ h => h
  · refine Steps.modify_bind (says_of_same rfl) ((appendMutation_sends _).bind fun _ _ _ _ => ?_)
    exact sendMessage_sends fun _ _ h => h

lemma onFence_sends (grants : List GrantId) (reason : Bytes) : Sends Noncommittal (onFence grants reason) a := by
  refine Steps.get_bind (Steps.bind (P := fun _ _ => True) (Steps.foldEach trivial fun id _ results a' _ _ => ?_)
    fun results _ _ _ => Steps.get_bind ((appendAudit_sends _ _ _ _).bind fun _ _ _ _ =>
      sendMessage_sends fun _ _ h => h))
  refine Steps.get_bind ?_
  split
  · exact Steps.pure trivial
  split
  · exact Steps.pure trivial
  refine Steps.modify_bind (says_of_same rfl) ((appendMutation_sends _).bind fun _ _ _ _ => ?_)
  exact Steps.modify_bind (says_of_same rfl) (Steps.pure trivial)

end Noncommittal

/-! What it vouches for, it enforces. -/

/-- The agent enforces the grant under the attempt. -/
def Enforces (a : Agent) (id : GrantId) (attempt : AttemptId) : Prop :=
  ∃ grant, a.registry.grants[id]? = some grant ∧ grant.state = .active ∧ grant.attempt = attempt

/-- What the agent has in force has been prepared or is active, and stands under its own identity. -/
def Keyed (a : Agent) : Prop :=
  ∀ (id : GrantId) grant, a.registry.grants[id]? = some grant → restsOnProcess grant.state = true →
    grant.id = id ∧ (grant.state = .prepared ∨ grant.state = .active)

lemma keyed_step {a : Agent} (h : Keyed a) (event : Event) : Keyed (step a event) := by
  intro id grant hgrant hrests
  rcases step_cases a event with hquiet | ⟨incoming, new, -, -, hstate, hbinding, hsets⟩ |
    ⟨other, attempt, old, new, -, hold, -, hstates, hstate, hbinding, hsets⟩ | ⟨message, side, -, hagrees⟩
  · refine h id grant ((hquiet.grants id).kept hgrant ?_) hrests
    cases hclosed : closed grant.state with
    | false => rfl
    | true => rw [rests_of_closed hclosed] at hrests; cases hrests
  · rw [hsets.lookup] at hgrant
    split at hgrant
    · rename_i hid
      cases hgrant
      exact ⟨by rw [hbinding, hid], .inl hstate⟩
    · exact h id grant hgrant hrests
  · rw [hsets.lookup] at hgrant
    split at hgrant
    · rename_i hid
      cases hgrant
      have hkey := h other old hold (by rcases hstates with hs | hs <;> rw [hs] <;> rfl)
      exact ⟨by rw [hbinding, hid]; exact hkey.1, .inr hstate⟩
    · exact h id grant hgrant hrests
  · rw [hagrees.grants] at hgrant
    exact h id grant hgrant hrests

lemma keyed_run {a : Agent} (h : Keyed a) (events : List Event) : Keyed (run a events) :=
  foldl_invariant (P := Keyed) h fun _ event _ _ hkeyed => keyed_step hkeyed event

lemma keyed_of_retired {a : Agent} (h : Retired a) : Keyed a := by
  intro id grant hgrant hrests
  rw [h id grant hgrant] at hrests
  cases hrests

lemma Says.mono {P Q : Inbound → Prop} {a a' : Agent} (h : Says P a a') (hPQ : ∀ message, P message → Q message) :
    Says Q a a' := fun message hmessage => (h message hmessage).imp_right (hPQ message)

/-- The answer to a commit request says that the grant is installed only when it is. -/
lemma onCommitGrant_sends (a : Agent) (id : GrantId) (attempt : AttemptId) :
    Says (fun message => ∀ id' attempt', VouchesFor id' attempt' message →
      Enforces (onCommitGrant id attempt a).2 id' attempt') a (onCommitGrant id attempt a).2 := by
  have hmodest (p : AgentOp Unit) (h : Sends Noncommittal p a) : Says (fun message => ∀ id' attempt',
      VouchesFor id' attempt' message → Enforces (p a).2 id' attempt') a (p a).2 :=
    h.related.mono fun message hno id' attempt' hvouches => absurd hvouches (hno id' attempt')
  have hrefuse (message : GrantCommittedMessage) (hnot : message.installed = false) :
      Noncommittal (.grantCommitted message) := by
    intro id' attempt' hvouches
    rw [VouchesFor, hnot] at hvouches
    exact absurd hvouches.1 Bool.false_ne_true
  unfold onCommitGrant
  rw [Program.get_bind_run]
  cases hfind : a.registry.grants[id]? with
  | none => exact hmodest _ (countRefusal_sends.bind fun _ _ _ _ => sendMessage_sends (hrefuse _ rfl))
  | some grant =>
    dsimp only
    split
    · exact hmodest _ (sendMessage_sends (hrefuse _ rfl))
    split
    · exact hmodest _ (sendMessage_sends (hrefuse _ rfl))
    rename_i hattempt hstate
    have hnow : RuntimeAgent.now a = (.ok (a.moments a.index).now, { a with index := a.index + 1 }) := rfl
    rw [Program.bind_ok hnow]
    set active : GrantRecord := { grant with
      state := .active
      note := ascii "enforced by the cluster agent"
      provenance := { grant.provenance with observedAt := (a.moments a.index).now } } with hactive
    set written : Agent := { a with index := a.index + 1, registry := setGrant a.registry id active } with hwritten
    have hwrite : writeGrant id active { a with index := a.index + 1 } = (.ok (), written) := rfl
    rw [Program.bind_ok hwrite]
    set answer : Inbound := .grantCommitted {
      session := a.coordinatorSession, grant := id, attempt, installed := true, detail := ascii "enforced"
      enforcementDigest := enforcementDigestOf active } with hanswer
    have hstill : Steps Still (do
        appendMutation (.grantPut active)
        appendAudit "commit-grant" id.toText .ok
          (ascii "the exact attempt the coordinator prepared is now enforced")
        sendMessage answer : AgentOp Unit) written fun _ _ => True :=
      (appendMutation_still _).bind fun _ _ _ _ => (appendAudit_still _ _ _ _).bind fun _ _ _ _ => sendMessage_still _
    have hsent : Sends (fun message => message = answer) (do
        appendMutation (.grantPut active)
        appendAudit "commit-grant" id.toText .ok
          (ascii "the exact attempt the coordinator prepared is now enforced")
        sendMessage answer : AgentOp Unit) written :=
      (appendMutation_sends _).bind fun _ _ _ _ => (appendAudit_sends _ _ _ _).bind fun _ _ _ _ => sendMessage_sends rfl
    intro message hmessage
    refine (hsent.related message hmessage).imp_right fun heq id' attempt' hvouches => ?_
    rw [heq] at hvouches
    obtain ⟨-, rfl, rfl⟩ := hvouches
    refine ⟨active, ?_, rfl, not_not.mp hattempt⟩
    rw [hstill.related.grants]
    exact Std.ExtTreeMap.getElem?_insert_self

/-- A report lists as installed only what is enforced. -/
lemma onStatusRequest_sends {a : Agent} (hkeyed : Keyed a) :
    Says (fun message => ∀ id attempt, VouchesFor id attempt message → Enforces (onStatusRequest a).2 id attempt) a
      (onStatusRequest a).2 := by
  have hquiet : Steps SameRegistry onStatusRequest a fun _ _ => True := Steps.get_bind (sendMessage_same _)
  have hsame : (onStatusRequest a).2.registry = a.registry := hquiet.related
  have hsent : Sends (fun message => message = .statusReport {
      session := a.coordinatorSession
      grants := ((values a.registry.grants).take Limits.maxGrants).map statusEntry }) onStatusRequest a :=
    Steps.get_bind (sendMessage_sends rfl)
  refine hsent.related.mono fun message heq id attempt hvouches => ?_
  rw [heq] at hvouches
  obtain ⟨entry, hentry, hinstalled, rfl, rfl⟩ := hvouches
  obtain ⟨grant, hgrant, rfl⟩ := List.mem_map.mp hentry
  obtain ⟨key, hkey⟩ := mem_values.mp (List.mem_of_mem_take hgrant)
  have hstates : grant.state = .committed ∨ grant.state = .active := by
    have hstate : (grant.state == .committed || grant.state == .active) = true := hinstalled
    simpa using hstate
  obtain ⟨rfl, hlive⟩ := hkeyed key grant hkey (by rcases hstates with hs | hs <;> rw [hs] <;> rfl)
  refine ⟨grant, by rw [hsame]; exact hkey, ?_, rfl⟩
  rcases hstates with hcommitted | hactive
  · rcases hlive with hprepared | hactive
    · rw [hcommitted] at hprepared
      cases hprepared
    · exact hactive
  · exact hactive

/-- What an agent says in a step, it enforces after it. -/
lemma step_sends {a : Agent} (hkeyed : Keyed a) (event : Event) :
    Says (fun message => ∀ id attempt, VouchesFor id attempt message → Enforces (step a event) id attempt) a
      (step a event) := by
  have hmodest {p : AgentOp Unit} (h : Sends Noncommittal p a) : Says (fun message => ∀ id attempt,
      VouchesFor id attempt message → Enforces (p a).2 id attempt) a (p a).2 :=
    h.related.mono fun message hno id attempt hvouches => absurd hvouches (hno id attempt)
  cases event with
  | message connection frame =>
    by_cases hconnection : connection = a.coordinatorConnection
    · have hstep : step a (.message connection frame) = (onCoordinatorMessage connection frame a).2 := by
        simp only [step, handle, Program.get_bind_run, if_pos hconnection]
      rw [hstep]
      cases frame with
      | malformed status => exact hmodest (countFrame_sends.bind fun _ _ _ _ => Steps.throw)
      | helloAck message => exact hmodest (onHelloAck_sends message)
      | reportAck message => exact hmodest (Steps.onlyIf (fun _ => countRefusal_sends) fun _ => trivial)
      | proposeContract message => exact hmodest (onProposeContract_sends message)
      | prepareGrant incoming => exact hmodest (onPrepareGrant_sends incoming)
      | commitGrant id attempt => exact onCommitGrant_sends a id attempt
      | abortGrant id attempt reason => exact hmodest (onAbortGrant_sends id attempt reason)
      | fence grants reason => exact hmodest (onFence_sends grants reason)
      | statusRequest => exact onStatusRequest_sends hkeyed
      | ping sequence => exact hmodest (sendTo_sends _ _)
      | pong => exact hmodest (Steps.pure trivial)
      | error => exact hmodest (modify_sends rfl)
      | unsupported kind => exact hmodest (countFrame_sends.bind fun _ _ _ _ => sendTo_sends _ _)
    · have hstep : step a (.message connection frame) = (onControlMessage connection frame a).2 := by
        simp only [step, handle, Program.get_bind_run, if_neg hconnection]
      rw [hstep]
      refine hmodest ?_
      unfold onControlMessage
      split
      · exact Steps.get_bind (sendTo_sends _ _)
      · exact Steps.pure trivial
      · exact modify_sends rfl
      · exact countFrame_sends.bind fun _ _ _ _ => sendTo_sends _ _
  | admin connection request => exact hmodest (onAdmin_sends connection request)
  | setClusterState state => exact hmodest (setClusterState_sends state)
  | bumpGeneration reason => exact hmodest (bumpGeneration_sends reason)
  | setPolicyGeneration generation => exact hmodest (setPolicyGeneration_sends generation)
  | withdrawConsent reason => exact hmodest (withdrawConsent_sends reason)
  | fenceLocalGrant id reason => exact hmodest (fenceLocalGrant_sends id reason)
  | upsertEndpoint endpoint => exact hmodest (upsertEndpoint_sends endpoint)
  | reconnect dial =>
    exact hmodest (Steps.modify_bind (says_of_same rfl) (connectToCoordinator_sends dial).ignore)
  | retry dial => exact hmodest (connectToCoordinator_sends dial).ignore
  | disconnect connection =>
    exact hmodest (Steps.get_bind (Steps.onlyIf (fun _ => modify_sends rfl) fun _ => trivial))
  | tick dial => exact hmodest (tick_sends dial)

/-- Whatever an agent has vouched for, it enforced at some time of its run. -/
lemma enforced_of_sent {launch : Launch} {files : Files} {a : Agent} (hstarted : Started launch files a)
    {events : List Event} {message : Inbound} (hsent : message ∈ (run a events).outbox) {id : GrantId}
    {attempt : AttemptId} (hvouches : VouchesFor id attempt message) :
    ∃ before after, events = before ++ after ∧ Enforces (run a before) id attempt := by
  have hkeyed := keyed_of_retired (started_retired hstarted).1
  induction events using List.reverseRecOn with
  | nil =>
    rw [run, List.foldl_nil, (RuntimeWords.started_truthful hstarted).2] at hsent
    cases hsent
  | append_singleton events event ih =>
    rw [run_snoc] at hsent
    rcases step_sends (keyed_run hkeyed events) event message hsent with hold | hnew
    · obtain ⟨before, after, rfl, henforces⟩ := ih hold
      exact ⟨before, after ++ [event], by simp, henforces⟩
    · refine ⟨events ++ [event], [], by simp, ?_⟩
      rw [run_snoc]
      exact hnew id attempt hvouches

/-- A process of an agent, from its start. -/
structure Life where
  launch : Launch
  files : Files
  agent : Agent
  started : Started launch files agent
  events : List Event

/-- What the agent has sent to the coordinator. -/
def Life.sent (life : Life) : List Inbound := (run life.agent life.events).outbox

/-- At some time of its life the agent had prepared the grant under the attempt and committed it, and nothing had
recalled it. -/
def Life.CommittedTo (life : Life) (id : GrantId) (attempt : AttemptId) : Prop :=
  ∃ before after, life.events = before ++ after ∧ CommittedIn life.agent before id attempt

lemma Life.committed {life : Life} {message : Inbound} (hsent : message ∈ life.sent) {id : GrantId}
    {attempt : AttemptId} (hvouches : VouchesFor id attempt message) : life.CommittedTo id attempt := by
  obtain ⟨before, after, hevents, grant, hgrant, hactive, rfl⟩ := enforced_of_sent life.started hsent hvouches
  exact ⟨before, after, hevents,
    (accounted_run (started_retired life.started).1 before).active id grant hgrant hactive⟩

end Agent

/-! What a coordinator counts. -/

section Coordinator

open RuntimeCoordinator RuntimeAdmin RuntimeRun RuntimeStart RuntimeHistory

/-- What comes in on a session of a cluster and vouches for a grant has been sent by a process of the agent of the
cluster. It may come late, more than once, or not at all. -/
def Overhears (fleet : ClusterId → List Life) (s : Coordinator) (event : Event) : Prop :=
  ∀ connection message session id attempt, event = .message connection message →
    s.sessions[connection]? = some session → VouchesFor id attempt message →
      ∃ life ∈ fleet session.cluster, message ∈ life.sent

/-- The agent of the party has committed the grant. -/
def CommittedAt (fleet : ClusterId → List Life) (registry : Registry) (grant : GrantRecord) (side : Side) : Prop :=
  ∃ contract, registry.contracts[grant.contract]? = some contract ∧
    ∃ life ∈ fleet (contract.parties.get side).cluster, life.CommittedTo grant.id grant.attempt

/-- Of the grants that are not among the first ones, an acknowledged side has committed the grant. -/
def Vouched (fleet : ClusterId → List Life) (first contracts registry : Registry) : Prop :=
  ∀ (id : GrantId) grant, first.grants[id]? = none → registry.grants[id]? = some grant →
    ∀ side, grant.acknowledged.get side = true → CommittedAt fleet contracts grant side

section Step

variable {fleet : ClusterId → List Life} {s : Coordinator} {event : Event}

lemma cluster_of_sideOf {contract : ContractRecord} {cluster : ClusterId} {side : Side}
    (h : contract.sideOf cluster = some side) : (contract.parties.get side).cluster = cluster := by
  unfold ContractRecord.sideOf ModelRecords.sideOf at h
  split at h
  · rename_i hfirst
    cases h
    exact hfirst
  split at h
  · rename_i hsecond
    cases h
    exact hsecond
  · cases h

/-- An acknowledgement that the coordinator counts comes from an agent that has committed the grant. -/
lemma committedAt_of_confirms (hheard : Overhears fleet s event) {grant : GrantRecord} {side : Side}
    (h : Confirms s event grant side) : CommittedAt fleet s.registry grant side := by
  have hcount (connection : ℕ) (message : Inbound) (session : PeerSession)
      (hevent : event = .message connection message) (hsession : s.sessions[connection]? = some session)
      (hbound : SpeaksBound s session grant side)
      (hvouches : VouchesFor grant.id grant.attempt message) : CommittedAt fleet s.registry grant side := by
    obtain ⟨contract, hcontract, hside⟩ := hbound.party
    obtain ⟨life, hlife, hsent⟩ := hheard connection message session _ _ hevent hsession hvouches
    rw [← cluster_of_sideOf hside] at hlife
    exact ⟨contract, hcontract, life, hlife, Life.committed hsent hvouches⟩
  rcases h with ⟨connection, message, session, hevent, hspeaks, hbound, hinstalled, hgrant, hattempt⟩ |
    ⟨connection, message, session, entry, hevent, hspeaks, hbound, hentry, hinstalled, hgrant, hattempt⟩
  · exact hcount _ _ _ hevent hspeaks.open_ hbound ⟨hinstalled, hgrant, hattempt⟩
  · exact hcount _ _ _ hevent hspeaks.open_ hbound ⟨entry, hentry, hinstalled, hgrant, hattempt⟩

/-- An edit acknowledges a grant only on behalf of an agent. -/
lemma edit_vouched (hheard : Overhears fleet s event) (hstrands : ∀ id, ¬(sceneOf s event).strands id)
    {first registry next : Registry} (h : Vouched fleet first s.registry registry)
    (hedit : Edit (sceneOf s event) registry next) : Vouched fleet first s.registry next := by
  intro id grant hnew hgrant side hside
  rcases edit_grants hedit id with hsame | ⟨old, new, hold, hnext, hmove⟩ | ⟨-, new, hnext, -, hacks⟩
  · exact h id grant hnew (by rw [← hsame, hgrant]) side hside
  · cases hgrant.symm.trans hnext
    have hbefore := h id old hnew hold side
    cases hmove with
    | fence trigger now hstate => exact hbefore hside
    | abort reason hstate => exact hbefore hside
    | suspend note hstate => exact hbefore hside
    | prepare note hstate => exact hbefore hside
    | digest other value => exact hbefore hside
    | acknowledge other value hscene =>
      by_cases heq : side = other
      · subst heq
        have hcommitted : CommittedAt fleet s.registry old side := committedAt_of_confirms hheard hscene
        exact hcommitted
      · have hget : (acknowledge old other value).acknowledged.get side = old.acknowledged.get side := by
          rw [acknowledge, PerSide.get_set, if_neg heq]
        rw [hget] at hside
        exact hbefore hside
    | commit now hacks hstate => exact hbefore hside
    | expire hbase => exact hbefore hside
    | revalidate _ hscene hlive hid hcontract hcapacity hstate hacks =>
      rw [hacks] at hside
      cases side <;> cases hside
    | strand _ hscene hstrand hlive hid hcontract hcapacity hstate => exact absurd hstrand (hstrands old.id)
  · cases hgrant.symm.trans hnext
    rw [hacks] at hside
    cases side <;> cases hside

/-- A grant whose contract is gone gets a new attempt, and nothing else happens. -/
lemma step_stranded (h : ∃ id, (sceneOf s event).strands id) : ∃ id grant attempt issuedAt,
    s.registry.grants[id]? = some grant ∧ s.registry.contracts[grant.contract]? = none ∧
      (step s event).registry = setGrant s.registry id (reattempted s attempt issuedAt grant) := by
  obtain ⟨id, request, grant, hadministers, haction, rfl, hgrant, hfenced, hcontract⟩ := h
  refine ⟨request.grant, grant, stamp (s.moments s.index).entropy, (s.moments (s.index + 1)).now, hgrant, hcontract, ?_⟩
  rw [(step_admin_kept hadministers).registry]
  have hhandle : handleAdmin request = applyGrantRevalidation request := by
    unfold handleAdmin
    rw [haction]
  rw [hhandle, applyGrantRevalidation, Program.get_bind_run, hgrant]
  dsimp only
  rw [if_neg hfenced]
  have hrandom : random s = (.ok (stamp (s.moments s.index).entropy), { s with index := s.index + 1 }) := rfl
  have hnow : now { s with index := s.index + 1 } =
      (.ok (s.moments (s.index + 1)).now, { s with index := s.index + 2 }) := rfl
  rw [Program.bind_ok hrandom, Program.bind_ok hnow]
  set next := reattempted s (stamp (s.moments s.index).entropy) (s.moments (s.index + 1)).now grant with hnext
  have hwrite : writeGrant request.grant next { s with index := s.index + 2 } =
      (.ok (), { s with index := s.index + 2, registry := setGrant s.registry request.grant next }) := rfl
  rw [Program.bind_ok hwrite, show s.registry.contracts[next.contract]? = none from hcontract]
  rfl

lemma CommittedAt.keeps {base registry : Registry} {grant : GrantRecord} {side : Side}
    (h : CommittedAt fleet base grant side) (hkeeps : KeepsContracts base registry) :
    CommittedAt fleet registry grant side := by
  obtain ⟨contract, hcontract, life, hlife, hcommitted⟩ := h
  obtain ⟨next, hnext, hparties, -⟩ := hkeeps _ _ hcontract
  exact ⟨next, hnext, life, by rw [hparties]; exact hlife, hcommitted⟩

lemma step_vouched (hformed : WellFormed s.registry) (hfresh : FreshContract s event) (hheard : Overhears fleet s event)
    {first : Registry} (h : Vouched fleet first s.registry s.registry) :
    Vouched fleet first (step s event).registry (step s event).registry := by
  have hgrants : Vouched fleet first s.registry (step s event).registry := by
    by_cases hstrands : ∃ id, (sceneOf s event).strands id
    · obtain ⟨id, grant, attempt, issuedAt, hgrant, hcontract, hstep⟩ := step_stranded hstrands
      intro other new hnew hfind side hside
      rw [hstep, setGrant, getElem?_insert_eq] at hfind
      split at hfind
      · -- had a side acknowledged the grant, the contract would be there
        rename_i heq
        subst heq
        cases hfind
        obtain ⟨contract, hfound, -⟩ := h other grant hnew hgrant side hside
        rw [hcontract] at hfound
        cases hfound
      · exact h other new hnew hfind side hside
    · exact step_keeps (P := Vouched fleet first s.registry) hformed h
        fun _ _ _ hP hedit => edit_vouched hheard (not_exists.mp hstrands) hP hedit
  exact fun id grant hnew hgrant side hside => 
    (hgrants id grant hnew hgrant side hside).keeps (step_keepsContracts hformed hfresh)

end Step

lemma run_vouched {fleet : ClusterId → List Life} {s : Coordinator} {events : List Event}
    (hformed : WellFormed s.registry) (hfresh : EachStep FreshContract s events)
    (hheard : EachStep (Overhears fleet) s events) :
    Vouched fleet s.registry (run s events).registry (run s events).registry := by
  have hrun : WellFormed (run s events).registry ∧
      Vouched fleet s.registry (run s events).registry (run s events).registry := by
    refine run_induction (P := fun s' => WellFormed s'.registry ∧ Vouched fleet s.registry s'.registry s'.registry)
      ⟨hformed, fun id grant hnew hgrant => ?_⟩ fun before event after heq ih => ?_
    · rw [hnew] at hgrant
      cases hgrant
    · exact ⟨step_wellFormed ih.1 event, step_vouched ih.1 (hfresh before event after heq)
        (hheard before event after heq) ih.2⟩
  exact hrun.2

/-- In every run of a started coordinator that hears of grants, on the sessions of a cluster, only what processes of the
cluster's agent have sent: of a grant that has been issued in this run, a side that is acknowledged has been committed
to by the agent of that party, under the attempt on record; and where the grant authorizes, both have. -/
theorem decisions_rest_on_agents {launch : Launch} {files : Files} {s : Coordinator} (hstarted : Started launch files s)
    (fleet : ClusterId → List Life) {events : List Event} (hfresh : EachStep FreshContract s events)
    (hheard : EachStep (Overhears fleet) s events) :
    (∀ (id : GrantId) grant, s.registry.grants[id]? = none → (run s events).registry.grants[id]? = some grant →
      ∀ side, grant.acknowledged.get side = true → CommittedAt fleet (run s events).registry grant side) ∧
    (∀ query view, (decide (run s events).registry query view).authorized = true →
      s.registry.grants[(decide (run s events).registry query view).grant]? = none →
        ∃ grant, (run s events).registry.grants[(decide (run s events).registry query view).grant]? = some grant ∧
          ∀ side, CommittedAt fleet (run s events).registry grant side) := by
  have hformed := started_wellFormed hstarted
  have hvouched := run_vouched (hformed []) hfresh hheard
  refine ⟨hvouched, fun query view hauthorized hnew => ?_⟩
  obtain ⟨source, target, contract, grant, hgrounded⟩ :=
    grounded_of_authorized (EngineAuthorities.listsOrdered_of_wellFormed (hformed events)) hauthorized
  obtain ⟨hmem, hid⟩ := hgrounded.grantRegistered
  obtain ⟨key, hkey⟩ := mem_values.mp hmem
  obtain ⟨rfl, -⟩ := find_grant (hformed events) hkey
  rw [← hid] at hnew ⊢
  exact ⟨grant, hkey, fun side => hvouched grant.id grant hnew hkey side (hgrounded.usable.acknowledged side)⟩

end Coordinator

/-! Two agents that prepare and commit a grant, and the coordinator that issued it and hears of it from both. -/

section SampleAgents

open RuntimeAgent RuntimeAgentRun RuntimeAgentSafety

def partyLaunch (side : Side) : Launch where
  config := {
    cluster := (sampleParty side).cluster, domain := (sampleParty side).domain, generation := ⟨1⟩
    endpoints := [sampleEndpoint side], stateDirectory := ascii "agent" }
  moments := agentMoments

def partyAgent (side : Side) : Agent := (start (partyLaunch side) (launched (partyLaunch side) {})).2

lemma partyAgent_started (side : Side) : Started (partyLaunch side) {} (partyAgent side) := by
  have hok : (start (partyLaunch side) (launched (partyLaunch side) {})).1.toOption = some () := by
    cases side <;> decide +kernel
  cases hrun : start (partyLaunch side) (launched (partyLaunch side) {}) with
  | mk result a =>
    rw [hrun] at hok
    cases result with
    | error status => cases hok
    | ok u => rw [Started, partyAgent, hrun]

/-! The identities that the coordinator of the sample run draws. -/

def agreedId : GrantId := ⟨RuntimeCoordinator.stamp 0x30⟩

def agreedAttempt : AttemptId := ⟨RuntimeCoordinator.stamp 0x31⟩

def sessionWith : Side → SessionToken
  | .first => ⟨RuntimeCoordinator.stamp 0x11⟩
  | .second => ⟨RuntimeCoordinator.stamp 0x17⟩

def agreedTerms : ContractTerms where
  parties := ⟨sampleParty .first, sampleParty .second⟩
  capacity := ⟨4⟩
  leaseDuration := ⟨1⟩
  incarnations := ⟨(partyAgent .first).incarnation, (partyAgent .second).incarnation⟩
  generations := ⟨⟨1⟩, ⟨1⟩⟩
  policies := ⟨⟨1⟩, ⟨1⟩⟩
  proposedAt := ⟨1⟩

def agreedGrant : GrantRecord where
  id := agreedId
  contract := ⟨5⟩
  termsDigest := agreedTerms.digest
  coordinatorTerm := ⟨1⟩
  attempt := agreedAttempt
  incarnations := agreedTerms.incarnations
  generations := agreedTerms.generations
  policies := agreedTerms.policies
  capacity := agreedTerms.capacity
  validUntil := ⟨1000⟩

/-- What the agent of a side gets to hear from the coordinator. -/
def partyEvents (side : Side) : List Event :=
  let session := sessionWith side
  [.reconnect (.adopted upstream),
    .message upstream (.helloAck {
      session, coordinator := ⟨1⟩, coordinatorTerm := ⟨1⟩, outcome := .ok, viewDigest := 0 }),
    .message upstream (.proposeContract { session, contract := ⟨5⟩, terms := agreedTerms, attempt := ⟨1⟩ }),
    .message upstream (.prepareGrant agreedGrant),
    .message upstream (.commitGrant agreedId agreedAttempt)]

def partyLife (side : Side) : Life where
  launch := partyLaunch side
  files := {}
  agent := partyAgent side
  started := partyAgent_started side
  events := partyEvents side

/-- The digest of the terms. -/
def agreedTermsDigest : Digest := 88729810279268142740379138560488014813675937485308273763092744209294378212484

lemma agreedTerms_digest : agreedTerms.digest = agreedTermsDigest := by decide +kernel

def partyProposal (side : Side) : ProposeContractMessage :=
  { session := sessionWith side, contract := ⟨5⟩, terms := agreedTerms, attempt := ⟨1⟩ }

/-- The agent of a side that has consented. -/
def partyConsented (side : Side) : Agent :=
  proposed (run (partyAgent side) ((partyEvents side).take 2)) upstream (partyProposal side) agreedTermsDigest

def partyInstalls : List Event := [
  .message upstream (.prepareGrant { agreedGrant with termsDigest := agreedTermsDigest }),
  .message upstream (.commitGrant agreedId agreedAttempt)]

lemma partyLife_sent (side : Side) : (partyLife side).sent = (run (partyConsented side) partyInstalls).outbox := by
  have hrun := run_proposed (partyAgent side) ((partyEvents side).take 2) upstream (partyProposal side) partyInstalls
    agreedTerms_digest (by cases side <;> decide +kernel)
  rw [partyConsented, ← hrun, partyInstalls, ← agreedTerms_digest]
  rfl

def partyFleet (cluster : ClusterId) : List Life :=
  [partyLife .first, partyLife .second].filter fun life => life.launch.config.cluster = cluster

/-- The message says how a grant stands. -/
def isVouching : Inbound → Bool
  | .grantCommitted _ | .statusReport _ => true
  | _ => false

lemma isVouching_of_vouchesFor {id : GrantId} {attempt : AttemptId} {message : Inbound}
    (h : VouchesFor id attempt message) : isVouching message = true := by
  cases message <;> first | rfl | exact h.elim

end SampleAgents

section SampleCoordinator

open RuntimeCoordinator RuntimeRun RuntimeStart RuntimeHistory

/-- The message with which the agent of a side vouches for the grant. -/
def heard (side : Side) : Event :=
  .message (agentOf side) (((partyLife side).sent.find? isVouching).getD (.unsupported []))

def beforeHeard : List Event := agree ++ [issueGrant, prepared .first, prepared .second]

def heardOfBoth : List Event := beforeHeard ++ [heard .first] ++ [heard .second]

def acknowledgedBy (s : Coordinator) (id : GrantId) : Option (PerSide Bool) :=
  s.registry.grants[id]?.map GrantRecord.acknowledged

lemma grant_of_acknowledgedBy {s : Coordinator} {id : GrantId} {acks : PerSide Bool}
    (h : acknowledgedBy s id = some acks) :
    ∃ grant, s.registry.grants[id]? = some grant ∧ grant.acknowledged = acks := Option.map_eq_some_iff.mp h

def clusterOn (s : Coordinator) (connection : ℕ) : Option ClusterId := s.sessions[connection]?.map PeerSession.cluster

/-- What the sample run comes to, evaluated at once. -/
lemma sample_facts :
    (((partyLife .first).sent.find? isVouching).isSome = true ∧
      ((partyLife .second).sent.find? isVouching).isSome = true) ∧
    sampleProcess.registry.grants[agreedId]? = none ∧
    clusterOn (run sampleProcess beforeHeard) (agentOf .first) = some (sampleParty .first).cluster ∧
    clusterOn (run sampleProcess (beforeHeard ++ [heard .first])) (agentOf .second) =
      some (sampleParty .second).cluster ∧
    acknowledgedBy (run sampleProcess heardOfBoth) agreedId = some ⟨true, true⟩ := by
  simp only [heardOfBoth, beforeHeard, heard, partyLife_sent, run_append, agree_run, issueGrant_eq, prepared_eq]
  decide +kernel

lemma heard_sent (side : Side) : ∃ message ∈ (partyLife side).sent, isVouching message = true ∧
    heard side = .message (agentOf side) message := by
  have hsome : ((partyLife side).sent.find? isVouching).isSome = true := by
    cases side
    · exact sample_facts.1.1
    · exact sample_facts.1.2
  obtain ⟨message, hmessage⟩ := Option.isSome_iff_exists.mp hsome
  exact ⟨message, List.mem_of_find?_eq_some hmessage, List.find?_some hmessage, by rw [heard, hmessage]; rfl⟩

lemma overhears_of_silent {fleet : ClusterId → List Life} {s : Coordinator} {event : Event}
    (h : ∀ connection message, event = .message connection message → isVouching message = false) :
    Overhears fleet s event := by
  intro connection message session id attempt heq _ hvouches
  have hkind := h connection message heq
  rw [isVouching_of_vouchesFor hvouches] at hkind
  cases hkind

lemma overhears_heard {s : Coordinator} {side : Side}
    (h : clusterOn s (agentOf side) = some (sampleParty side).cluster) : Overhears partyFleet s (heard side) := by
  obtain ⟨sent, hsent, -, hheard⟩ := heard_sent side
  intro connection message session id attempt heq hsession _
  rw [hheard] at heq
  cases heq
  rw [clusterOn, hsession] at h
  have hcluster : session.cluster = (sampleParty side).cluster := Option.some.inj h
  refine ⟨partyLife side, ?_, hsent⟩
  rw [hcluster, partyFleet, List.mem_filter]
  refine ⟨?_, by simp [partyLife, partyLaunch]⟩
  cases side <;> simp

lemma heardOfBoth_fresh : EachStep FreshContract sampleProcess heardOfBoth := by
  have hheard (side : Side) (s : Coordinator) : FreshContract s (heard side) := by
    obtain ⟨message, -, hkind, hheard⟩ := heard_sent side
    rw [hheard]
    exact freshContract_of_other fun _ _ heq => by cases heq; cases hkind
  have hall := eachStep_snoc (eachStep_snoc (eachStep_snoc (eachStep_snoc issued_freshContract
    (prepared_fresh .first _).1) (prepared_fresh .second _).1) (hheard .first _)) (hheard .second _)
  simpa only [heardOfBoth, beforeHeard, List.append_assoc, List.cons_append, List.nil_append] using hall

lemma heardOfBoth_overhears : EachStep (Overhears partyFleet) sampleProcess heardOfBoth := by
  have hbefore : EachStep (Overhears partyFleet) sampleProcess beforeHeard := by
    refine eachStep_of_mem fun event hevent s => overhears_of_silent fun connection message heq => ?_
    simp only [beforeHeard, agree, connectAgents, List.cons_append, List.nil_append, List.mem_cons, List.not_mem_nil,
      or_false] at hevent
    rcases hevent with rfl | rfl | rfl | rfl | rfl | rfl | rfl | rfl | rfl | rfl <;> cases heq <;> rfl
  obtain ⟨-, -, hfirst, hsecond, -⟩ := sample_facts
  exact eachStep_snoc (eachStep_snoc hbefore (overhears_heard hfirst)) (overhears_heard hsecond)

/-- Both agents of the sample run have committed the grant that its coordinator holds for acknowledged. -/
theorem decisions_rest_on_agents_heard :
    ∃ grant, (run sampleProcess heardOfBoth).registry.grants[agreedId]? = some grant ∧
      ∀ side, CommittedAt partyFleet (run sampleProcess heardOfBoth).registry grant side := by
  obtain ⟨-, hnone, -, -, hacks⟩ := sample_facts
  obtain ⟨grant, hgrant, hacknowledged⟩ := grant_of_acknowledgedBy hacks
  refine ⟨grant, hgrant, fun side => (decisions_rest_on_agents sampleProcess_started partyFleet heardOfBoth_fresh
    heardOfBoth_overhears).1 agreedId grant hnone hgrant side ?_⟩
  rw [hacknowledged]
  cases side <;> rfl

end SampleCoordinator

end InterClusterFabric.RuntimeAgreement
