import InterClusterFabric.RuntimeEdits
import InterClusterFabric.RuntimeEnforcement

/-! Every operation of an agent is a sequence of acts: it asks its environment, writes its store, changes a
record, or sends a message. What it says of its own cluster is what it has recorded of it. -/
namespace InterClusterFabric.RuntimeAgentActs
open CoreStatus CoreIds CoreTime CoreHash ModelRecords ModelCanonical ModelRegistry ModelRegistryLaws StoreMutation
open WireMessages RuntimeFencing RuntimeAgent RuntimeAgentRun RuntimeEdits
open LibraryChecked LibraryOrdMap LibraryProgram Relation
open StoreDurable hiding loadState

/-! The cluster an agent speaks for. -/

/-- The digest of what the agent would record now. -/
def currentDigest (a : Agent) : Digest := contentDigestOf (describedCluster a {} ⟨0⟩ ⟨0⟩)

/-- What the registry adds to a record is not part of its content. -/
lemma digest_described (a : Agent) (existing : ClusterRecord) (lastSeen observedAt : Timestamp) :
    contentDigestOf (describedCluster a existing lastSeen observedAt) = currentDigest a := rfl

/-- The record is of the agent's present identity and content. -/
structure Describes (a : Agent) (record : ClusterRecord) : Prop where
  generation : record.generation = a.generation
  policyGeneration : record.policyGeneration = a.policyGeneration
  content : record.contentDigest = currentDigest a

/-- What the agent has recorded of its cluster is of its present identity and content. -/
def InSync (a : Agent) : Prop := ∃ record, a.registry.clusters[a.cluster]? = some record ∧ Describes a record

/-! Acts. -/

/-- What may happen in the course of an event: whether the agent takes another identity or content, which
state or endpoints it may declare, and whether it speaks for its cluster before it has recorded it again. -/
structure Scene where
  turns : Prop
  restates : Agent → ClusterState → Prop
  declares : Agent → Prop
  announces : Prop

/-- A message about something else than the cluster itself. -/
def plain : Inbound → Bool
  | .hello _ | .reportCluster _ => false
  | _ => true

/-- The mutations an agent logs; of a cluster, only what it has recorded of its own. -/
def Logs (a : Agent) : Mutation → Prop
  | .clusterPut record => a.registry.clusters[a.cluster]? = some record
  | .contractPut _ | .grantPut _ | .auditAppend _ | .metaSet _ _ => True
  | _ => False

/-- The state with what an operation on the store has left. -/
def wrote {α : Type} (a : Agent) (written : Written α) : Agent :=
  { a with index := a.index + 1, store := written.store, files := written.files }

/-- One change of the state of an agent. -/
inductive Act (scene : Scene) (a : Agent) : Agent → Prop
  | ask : Act scene a { a with index := a.index + 1 }
  | log (mutation : Mutation) (writtenAt : Timestamp) (h : Logs a mutation) :
      Act scene a (wrote a (a.store.append a.files mutation writtenAt (a.moments a.index).append))
  | incident (text : Bytes) (writtenAt : Timestamp) :
      Act scene a (wrote a (a.store.appendIncident a.files text writtenAt (a.moments a.index).append))
  | compact (storeMeta : StoreMeta) (writtenAt : Timestamp) (stream : IncarnationId) :
      Act scene a (wrote a (a.store.compact a.files a.registry storeMeta writtenAt stream (a.moments a.index).save
        (a.moments a.index).reset))
  | edit (registry : Registry) (hclusters : registry.clusters = a.registry.clusters)
      (hformed : WellFormed a.registry → WellFormed registry) : Act scene a { a with registry }
  | describe (existing : ClusterRecord) (lastSeen observedAt : Timestamp) (registry : Registry)
      (hput : a.registry.putCluster (sealedCluster (describedCluster a existing lastSeen observedAt)) = .ok registry) :
      Act scene a { a with registry }
  | post (message : Inbound) (h : plain message = true) : Act scene a { a with outbox := a.outbox ++ [message] }
  | report (cluster : ClusterRecord) (hfound : a.registry.clusters[a.cluster]? = some cluster)
      (hsync : InSync a ∨ scene.announces) :
      Act scene a { a with outbox := a.outbox ++ [.reportCluster { session := a.coordinatorSession, cluster }] }
  | hello (h : scene.announces) : Act scene a { a with outbox := a.outbox ++ [.hello (helloOf a)] }
  | note (consentWithdrawn : Bool) (coordinatorConnection : ℕ) (coordinatorSession : SessionToken)
      (coordinatorTerm : Term) (coordinatorConnected connectScheduled : Bool)
      (enforced fences refusals rejectedFrames errorsReceived recoveredGrantsFenced : UInt64)
      (controlOutbox : List (ℕ × Outbound)) :
      Act scene a { a with
        consentWithdrawn, coordinatorConnection, coordinatorSession, coordinatorTerm, coordinatorConnected
        connectScheduled, enforced, fences, refusals, rejectedFrames, errorsReceived, recoveredGrantsFenced
        controlOutbox }
  | restate (state : ClusterState) (hturns : scene.turns) (h : scene.restates a state) :
      Act scene a { a with clusterState := state }
  | declare (endpoints : List EndpointRecord) (hturns : scene.turns) (h : scene.declares a) :
      Act scene a { a with config := { a.config with endpoints } }
  | advance (generation : Generation) (hturns : scene.turns) (h : a.generation < generation) :
      Act scene a { a with generation }
  | advancePolicy (policyGeneration : PolicyGeneration) (hturns : scene.turns)
      (h : a.policyGeneration ≤ policyGeneration) : Act scene a { a with policyGeneration }

/-- The run of an operation is a sequence of acts. -/
abbrev Acts (scene : Scene) {α : Type} (p : AgentOp α) (a : Agent) (Q : α → Agent → Prop) : Prop :=
  Steps (ReflTransGen (Act scene)) p a Q

/-- Nothing but the cluster's own records is held back. -/
def calm : Scene where
  turns := False
  restates _ _ := False
  declares _ := False
  announces := False

/-- Anything may happen. -/
def anything : Scene where
  turns := True
  restates _ _ := True
  declares _ := True
  announces := True

instance (scene : Scene) : Std.Refl (ReflTransGen (Act scene)) := ⟨fun _ => .refl⟩

/-- The record that `persistCluster` puts into the registry. -/
lemma found_described {a : Agent} {existing : ClusterRecord} {lastSeen observedAt : Timestamp} {registry : Registry}
    (h : a.registry.putCluster (sealedCluster (describedCluster a existing lastSeen observedAt)) = .ok registry) :
    ∃ record, registry.clusters[a.cluster]? = some record ∧ Describes a record := by
  obtain ⟨-, -, rfl⟩ := putCluster_eq_ok.mp h
  refine ⟨sorted (sealedCluster (describedCluster a existing lastSeen observedAt)), ?_, rfl, rfl, rfl⟩
  show (a.registry.clusters.insert a.cluster _)[a.cluster]? = _
  rw [getElem?_insert_eq, if_pos rfl]

/-- What is recorded is in step with the agent until the agent turns. -/
lemma InSync.act {scene : Scene} {a a' : Agent} (h : InSync a) (hact : Act scene a a') (hturns : ¬scene.turns) :
    InSync a' := by
  obtain ⟨record, hfound, hdescribes⟩ := h
  have hsame : Describes a record := hdescribes
  cases hact with
  | edit registry hclusters hformed =>
    exact ⟨record, by rw [← hfound, ← hclusters]; rfl, ⟨hdescribes.1, hdescribes.2, hdescribes.3⟩⟩
  | describe existing lastSeen observedAt registry hput =>
    obtain ⟨record', hfound', hdescribes'⟩ := found_described hput
    exact ⟨record', hfound', ⟨hdescribes'.1, hdescribes'.2, hdescribes'.3⟩⟩
  | restate state hturns' h => exact absurd hturns' hturns
  | declare endpoints hturns' h => exact absurd hturns' hturns
  | advance generation hturns' h => exact absurd hturns' hturns
  | advancePolicy policyGeneration hturns' h => exact absurd hturns' hturns
  | _ => exact ⟨record, hfound, ⟨hdescribes.1, hdescribes.2, hdescribes.3⟩⟩

lemma InSync.acts {a a' : Agent} (h : InSync a) (hacts : ReflTransGen (Act calm) a a') : InSync a' := by
  induction hacts with
  | refl => exact h
  | tail _ hact ih => exact ih.act hact not_false

lemma act_wellFormed {scene : Scene} {a a' : Agent} (h : WellFormed a.registry) (hact : Act scene a a') :
    WellFormed a'.registry := by
  cases hact with
  | edit registry hclusters hformed => exact hformed h
  | describe existing lastSeen observedAt registry hput => exact putCluster_wellFormed h hput
  | _ => exact h

lemma acts_wellFormed {scene : Scene} {a a' : Agent} (h : WellFormed a.registry)
    (hacts : ReflTransGen (Act scene) a a') : WellFormed a'.registry := by
  induction hacts with
  | refl => exact h
  | tail _ hact ih => exact act_wellFormed ih hact

/-- What a calm operation does may happen in any scene. -/
lemma Act.of_calm {scene : Scene} {a a' : Agent} (h : Act calm a a') : Act scene a a' := by
  cases h with
  | ask => exact .ask
  | log mutation writtenAt h => exact .log mutation writtenAt h
  | incident text writtenAt => exact .incident text writtenAt
  | compact storeMeta writtenAt stream => exact .compact storeMeta writtenAt stream
  | edit registry hclusters hformed => exact .edit registry hclusters hformed
  | describe existing lastSeen observedAt registry hput => exact .describe existing lastSeen observedAt registry hput
  | post message h => exact .post message h
  | report cluster hfound hsync => exact .report cluster hfound (hsync.imp_right False.elim)
  | hello h => exact h.elim
  | note => exact .note ..
  | restate state hturns h => exact hturns.elim
  | declare endpoints hturns h => exact hturns.elim
  | advance generation hturns h => exact hturns.elim
  | advancePolicy policyGeneration hturns h => exact hturns.elim

/-- An operation without a word about the cluster. -/
abbrev Calms {α : Type} (p : AgentOp α) (a : Agent) : Prop := Acts calm p a fun _ _ => True

lemma acts_of_calms {scene : Scene} {α : Type} {p : AgentOp α} {a : Agent} (h : Calms p a) :
    Acts scene p a fun _ a' => InSync a → InSync a' :=
  ⟨ReflTransGen.mono (fun _ _ => Act.of_calm) _ _ h.related, fun _ _ hsync => hsync.acts h.related⟩

section Calm

variable {a : Agent}

lemma act_calms {f : Agent → Agent} (h : Act calm a (f a)) : Calms (modify f) a := Steps.modify (.single h) trivial

/-- The environment is asked. -/
lemma moment_calms : Acts calm moment a fun m a' => m = a.moments a.index ∧ a' = { a with index := a.index + 1 } :=
  ⟨.single .ask, fun m hm => by cases hm; exact ⟨rfl, rfl⟩⟩

lemma now_calms : Acts calm RuntimeAgent.now a fun _ a' => a' = { a with index := a.index + 1 } :=
  moment_calms.bind fun _ _ _ h => Steps.pure h.2

lemma appendMutation_calms {mutation : Mutation} (h : Logs a mutation) : Calms (appendMutation mutation) a :=
  ⟨.single (.log mutation (a.moments a.index).now h), fun _ _ => trivial⟩

lemma logGrant_calms (grant : GrantRecord) : Calms (appendMutation (.grantPut grant)) a := appendMutation_calms trivial

lemma logContract_calms (contract : ContractRecord) : Calms (appendMutation (.contractPut contract)) a :=
  appendMutation_calms trivial

lemma logAudit_calms (record : AuditRecord) : Calms (appendMutation (.auditAppend record)) a := appendMutation_calms trivial

lemma sendMessage_calms {message : Inbound} (h : plain message = true) : Calms (sendMessage message) a := by
  refine Steps.get_bind ?_
  split
  · exact Steps.throw
  refine moment_calms.bind fun m _ _ _ => ?_
  split
  · exact Steps.throw
  · exact Steps.throw
  · exact act_calms (.post message h)

lemma sendTo_calms (connection : ℕ) (message : Outbound) : Calms (sendTo connection message) a := by
  refine moment_calms.bind fun m _ _ _ => ?_
  split
  · exact Steps.pure trivial
  · exact Steps.throw
  · exact act_calms (.note ..)

/-- A change of the registry that leaves the clusters alone, or is refused. -/
lemma update_calms {f : Registry → Result Registry}
    (h : ∀ registry, f a.registry = .ok registry → registry.clusters = a.registry.clusters ∧
      (WellFormed a.registry → WellFormed registry)) :
    Calms (Program.focus Agent.registry (fun a registry => { a with registry }) (Program.update f)) a := by
  refine ⟨?_, fun _ _ => trivial⟩
  show ReflTransGen (Act calm) a { a with registry := (Program.update f a.registry).2 }
  unfold Program.update
  cases hf : f a.registry with
  | error status => exact .refl
  | ok registry => exact .single (.edit registry (h registry hf).1 (h registry hf).2)

lemma appendAudit_calms (action : String) (subject : Bytes) (outcome : Outcome) (detail : Bytes) :
    Calms (appendAudit action subject outcome detail) a := by
  refine Steps.get_bind ?_
  split
  · exact Steps.pure trivial
  refine now_calms.bind fun _ a₁ _ _ => (update_calms fun registry hok => ?_).bind fun _ a₂ _ _ => Steps.get_bind ?_
  · refine ⟨?_, fun hformed => appendAudit_wellFormed hformed hok⟩
    obtain ⟨-, -, rfl⟩ := appendAudit_eq_ok.mp hok
    rfl
  · exact Steps.forEach trivial fun _ _ _ _ _ => logAudit_calms _

/-- A record of a grant is changed in place. -/
lemma writeGrant_calms {id : GrantId} {old new : GrantRecord} (hold : a.registry.grants[id]? = some old)
    (hid : new.id = old.id) (hcontract : new.contract = old.contract) (hcapacity : new.capacity = old.capacity) :
    Calms (writeGrant id new) a :=
  act_calms (.edit _ rfl fun hformed => setGrant_wellFormed hformed hold hid hcontract hcapacity)

lemma rewriteGrant_calms {id : GrantId} {old new : GrantRecord} (hold : a.registry.grants[id]? = some old)
    (hid : new.id = old.id) (hcontract : new.contract = old.contract) (hcapacity : new.capacity = old.capacity) :
    Calms (rewriteGrant id new) a :=
  (writeGrant_calms hold hid hcontract hcapacity).bind fun _ _ _ _ => logGrant_calms _

lemma sweepGrants_calms {β : Type} {init : β} {visit : β → GrantId → GrantRecord → AgentOp β}
    (hvisit : ∀ acc id grant a', a'.registry.grants[id]? = some grant → Calms (visit acc id grant) a') :
    Calms (sweepGrants init visit) a := by
  refine Steps.get_bind (Steps.foldEach trivial fun id _ acc a' _ _ => Steps.get_bind ?_)
  split
  · exact Steps.pure trivial
  · exact hvisit _ _ _ _ ‹_›

lemma countRefusal_calms : Calms countRefusal a := act_calms (.note ..)

lemma countFrame_calms : Calms countFrame a := act_calms (.note ..)

lemma countFence_calms : Calms countFence a := act_calms (.note ..)

/-! Enforcement. -/

lemma fenceUnderTerm_calms (term : Term) (fenced : ℕ) {id : GrantId} {grant : GrantRecord}
    (hgrant : a.registry.grants[id]? = some grant) : Calms (fenceUnderTerm term fenced id grant) a := by
  unfold fenceUnderTerm
  generalize ascii "the coordinator established a new authority term; this grant was not revalidated" = note
  split
  · exact Steps.pure trivial
  · refine Steps.modify_bind (.single (.note ..)) ?_
    exact Steps.bind (rewriteGrant_calms hgrant rfl rfl rfl) fun _ _ _ _ => Steps.pure trivial

lemma fenceNotRevalidated_calms (term : Term) : Calms (fenceNotRevalidated term) a := by
  refine (sweepGrants_calms fun _ _ _ _ => fenceUnderTerm_calms _ _).bind fun fenced _ _ _ => ?_
  exact Steps.onlyIf (fun _ => Steps.get_bind (appendAudit_calms _ _ _ _)) fun _ => trivial

lemma reevaluateGrant_calms (now : Timestamp) (reason : Bytes) {id : GrantId} {grant : GrantRecord}
    (hgrant : a.registry.grants[id]? = some grant) : Calms (reevaluateGrant now reason id grant) a := by
  unfold reevaluateGrant
  split
  · exact Steps.pure trivial
  split
  · exact Steps.modify_bind (.single (.note ..)) (rewriteGrant_calms hgrant rfl rfl rfl)
  refine now_calms.bind fun later a₁ _ hasked => Steps.get_bind ?_
  have hgrant₁ : a₁.registry.grants[id]? = some grant := by rw [hasked]; exact hgrant
  dsimp only
  split
  · refine Steps.bind (rewriteGrant_calms hgrant₁ rfl rfl rfl) fun _ _ _ _ => ?_
    exact act_calms (.note ..)
  · refine Steps.onlyIf (fun _ => Steps.modify_bind (.single (.note ..)) ?_) fun _ => trivial
    exact rewriteGrant_calms hgrant₁ rfl rfl rfl

lemma reevaluateEnforcement_calms (reason : Bytes) : Calms (reevaluateEnforcement reason) a :=
  now_calms.bind fun _ _ _ _ => sweepGrants_calms fun _ _ _ _ => reevaluateGrant_calms _ _

lemma compactIfNeeded_calms : Calms compactIfNeeded a :=
  Steps.get_bind (Steps.onlyIf (fun _ => ⟨.single (.compact ..), fun _ _ => trivial⟩) fun _ => trivial)

/-- The cluster is recorded as it is. -/
lemma persistCluster_calms : Acts calm persistCluster a fun _ => InSync := by
  refine now_calms.bind fun lastSeen a₁ _ _ => now_calms.bind fun observedAt a₂ _ _ => Steps.get_bind ?_
  have hput : Acts calm (Program.focus Agent.registry (fun a registry => { a with registry })
      (Program.update fun registry => registry.putCluster (sealedCluster
        (describedCluster a₂ (a₂.registry.clusters[a₂.cluster]?.getD {}) lastSeen observedAt)))) a₂
      fun _ a' => InSync a' ∧ a'.cluster = a₂.cluster := by
    unfold Program.focus Program.update
    cases hok : a₂.registry.putCluster (sealedCluster
        (describedCluster a₂ (a₂.registry.clusters[a₂.cluster]?.getD {}) lastSeen observedAt)) with
    | error status =>
      refine ⟨by simp only [hok]; exact .refl, fun _ hrun => ?_⟩
      simp only [hok] at hrun
      cases hrun
    | ok registry =>
      obtain ⟨record, hfound, hdescribes⟩ := found_described hok
      refine ⟨by simp only [hok]; exact .single (.describe _ _ _ registry hok), fun _ _ => ?_⟩
      simp only [hok]
      exact ⟨⟨record, hfound, ⟨hdescribes.1, hdescribes.2, hdescribes.3⟩⟩, rfl⟩
  refine hput.bind fun _ a₃ _ h₃ => Steps.get_bind ?_
  have hlog : Calms (Program.forEach a₃.registry.clusters[a₂.cluster]?.toList fun record =>
      appendMutation (.clusterPut record)) a₃ := by
    rw [← h₃.2]
    cases hfound : a₃.registry.clusters[a₃.cluster]? with
    | none => exact Steps.pure trivial
    | some record =>
      have hlogs : Logs a₃ (.clusterPut record) := hfound
      exact (appendMutation_calms hlogs).bind fun _ _ _ _ => Steps.pure trivial
  exact ⟨hlog.related, fun _ _ => h₃.1.acts hlog.related⟩

/-! Requests of the coordinator. -/

lemma onAbortGrant_calms (id : GrantId) (attempt : AttemptId) (reason : Bytes) :
    Calms (onAbortGrant id attempt reason) a := by
  refine Steps.get_bind ?_
  split
  · exact sendMessage_calms rfl
  · rename_i grant hgrant
    refine Steps.bind (writeGrant_calms hgrant rfl rfl rfl) fun _ _ _ _ => ?_
    exact (logGrant_calms _).bind fun _ _ _ _ => sendMessage_calms rfl

lemma fenceGrant_calms (reason : Bytes) (results : List FenceResult) (id : GrantId) :
    Calms (fenceGrant reason results id) a := by
  refine Steps.get_bind ?_
  split
  · exact Steps.pure trivial
  rename_i grant hgrant
  split
  · exact Steps.pure trivial
  refine Steps.bind (writeGrant_calms hgrant rfl rfl rfl) fun _ _ _ _ => (logGrant_calms _).bind fun _ _ _ _ => ?_
  exact Steps.modify_bind (.single (.note ..)) (Steps.pure trivial)

lemma onFence_calms (grants : List GrantId) (reason : Bytes) : Calms (onFence grants reason) a := by
  refine Steps.get_bind (Steps.bind (Steps.foldEach trivial fun id _ results a' _ _ => fenceGrant_calms _ _ _)
    fun results _ _ _ => Steps.get_bind ?_)
  exact (appendAudit_calms _ _ _ _).bind fun _ _ _ _ => sendMessage_calms rfl

lemma onStatusRequest_calms : Calms onStatusRequest a := Steps.get_bind (sendMessage_calms rfl)

lemma onPrepareGrant_calms (incoming : GrantRecord) : Calms (onPrepareGrant incoming) a := by
  refine Steps.get_bind ?_
  dsimp only
  split
  · exact countRefusal_calms.bind fun _ _ _ _ => sendMessage_calms rfl
  generalize ascii "prepared by the cluster agent; waiting for the coordinator commit" = note
  refine now_calms.bind fun observedAt a₁ _ _ => Steps.attempt_bind (update_calms fun registry hok => ?_)
    (fun _ _ _ _ => (logGrant_calms _).bind fun _ _ _ _ => sendMessage_calms rfl)
    fun _ _ _ => sendMessage_calms rfl
  obtain ⟨hsound, hroom, rfl⟩ := putGrant_eq_ok.mp hok
  exact ⟨rfl, fun hformed => store_wellFormed hformed hsound hroom⟩

lemma onCommitGrant_calms (id : GrantId) (attempt : AttemptId) : Calms (onCommitGrant id attempt) a := by
  refine Steps.get_bind ?_
  dsimp only
  split
  · exact countRefusal_calms.bind fun _ _ _ _ => sendMessage_calms rfl
  rename_i grant hgrant
  split
  · exact sendMessage_calms rfl
  split
  · exact sendMessage_calms rfl
  generalize ascii "enforced by the cluster agent" = note
  refine now_calms.bind fun observedAt a₁ _ hasked => ?_
  have hgrant₁ : a₁.registry.grants[id]? = some grant := by rw [hasked]; exact hgrant
  refine Steps.bind (writeGrant_calms hgrant₁ rfl rfl rfl) fun _ _ _ _ => (logGrant_calms _).bind fun _ _ _ _ => ?_
  exact (appendAudit_calms _ _ _ _).bind fun _ _ _ _ => sendMessage_calms rfl

lemma refuseTerms_calms (consent : ContractConsentMessage) (reason : Bytes) : Calms (refuseTerms consent reason) a :=
  countRefusal_calms.bind fun _ _ _ _ => sendMessage_calms rfl

lemma acceptTerms_calms (side : Side) (message : ProposeContractMessage) : Calms (acceptTerms side message) a := by
  refine now_calms.bind fun _ _ _ _ => now_calms.bind fun _ _ _ _ => now_calms.bind fun _ _ _ _ =>
    now_calms.bind fun _ a₁ _ _ => Steps.get_bind ((update_calms fun registry hok => ?_).bind fun _ _ _ _ =>
      (logContract_calms _).bind fun _ _ _ _ => (appendAudit_calms _ _ _ _).bind fun _ _ _ _ =>
        sendMessage_calms rfl)
  obtain ⟨hsound, hroom, rfl⟩ := putContract_eq_ok.mp hok
  exact ⟨rfl, fun hformed => store_wellFormed hformed hsound hroom⟩

lemma onProposeContract_calms (message : ProposeContractMessage) : Calms (onProposeContract message) a := by
  refine Steps.get_bind ?_
  split
  · exact refuseTerms_calms _ _
  split
  · exact refuseTerms_calms _ _
  · exact acceptTerms_calms _ _

lemma onControlMessage_calms (connection : ℕ) (frame : FromCoordinator) :
    Calms (onControlMessage connection frame) a := by
  unfold onControlMessage
  split
  · exact Steps.get_bind (sendTo_calms _ _)
  · exact Steps.pure trivial
  · exact act_calms (.note ..)
  · exact countFrame_calms.bind fun _ _ _ _ => sendTo_calms _ _

lemma handleDisconnect_calms (connection : ℕ) : Calms (handleDisconnect connection) a :=
  Steps.get_bind (Steps.onlyIf (fun _ => act_calms (.note ..)) fun _ => trivial)

lemma fenceSuperseded_calms {id : GrantId} {grant : GrantRecord} (hgrant : a.registry.grants[id]? = some grant) :
    Calms (fenceSuperseded id grant) a :=
  Steps.onlyIf (fun _ => rewriteGrant_calms hgrant rfl rfl rfl) fun _ => trivial

lemma withdrawConsent_calms (reason : Bytes) : Calms (withdrawConsent reason) a := by
  refine Steps.modify_bind (.single (.note ..)) (persistCluster_calms.bind fun _ _ _ _ => ?_)
  refine (reevaluateEnforcement_calms _).bind fun _ _ _ _ => Steps.get_bind ?_
  refine Steps.bind (Steps.onlyIf (fun _ => sendMessage_calms rfl) fun _ => trivial) fun _ _ _ _ => ?_
  exact appendAudit_calms _ _ _ _

lemma restoreConsent_calms : Calms restoreConsent a :=
  Steps.modify_bind (.single (.note ..)) (persistCluster_calms.mono fun _ _ _ => trivial)

lemma fenceLocalGrant_calms (id : GrantId) (reason : Bytes) : Calms (fenceLocalGrant id reason) a := by
  refine Steps.get_bind ?_
  split
  · exact Steps.throw
  rename_i grant hgrant
  refine Steps.bind (rewriteGrant_calms hgrant rfl rfl rfl) fun _ _ _ _ => ?_
  exact countFence_calms.bind fun _ _ _ _ => appendAudit_calms _ _ _ _

end Calm

/-! Operations that speak for the cluster. -/

section Speaking

variable {scene : Scene} {a : Agent}

lemma calms_does {α : Type} {p : AgentOp α} (h : Calms p a) : Acts scene p a fun _ _ => True :=
  (acts_of_calms h).mono fun _ _ _ => trivial

/-- Sending is asking the environment and, at most, one act. -/
lemma sendMessage_acts {message : Inbound}
    (h : Act scene { a with index := a.index + 1 } { a with index := a.index + 1, outbox := a.outbox ++ [message] }) :
    Acts scene (sendMessage message) a fun _ _ => True := by
  refine Steps.get_bind ?_
  split
  · exact Steps.throw
  have hask : Acts scene moment a fun _ a' => a' = { a with index := a.index + 1 } :=
    ⟨.single .ask, fun _ hm => by cases hm; rfl⟩
  refine hask.bind fun m a₁ _ hasked => ?_
  subst hasked
  split
  · exact Steps.throw
  · exact Steps.throw
  · exact Steps.modify (.single h) trivial

lemma reportCluster_acts (h : InSync a ∨ scene.announces) : Acts scene reportCluster a fun _ _ => True := by
  refine Steps.get_bind ?_
  split
  · exact Steps.throw
  · rename_i cluster hfound
    refine sendMessage_acts (.report cluster hfound (h.imp_left ?_))
    rintro ⟨record, hrecord, hdescribes⟩
    exact ⟨record, hrecord, ⟨hdescribes.1, hdescribes.2, hdescribes.3⟩⟩

lemma reportIfConnected_acts (h : InSync a) : Acts scene reportIfConnected a fun _ _ => True :=
  Steps.get_bind (Steps.onlyIf (fun _ => reportCluster_acts (.inl h)) fun _ => trivial)

lemma persistCluster_acts : Acts scene persistCluster a fun _ => InSync :=
  ⟨(acts_of_calms (persistCluster_calms.mono fun _ _ _ => trivial)).related, persistCluster_calms.returns⟩

lemma onHelloAck_acts (message : HelloAckMessage) (h : scene.announces) :
    Acts scene (onHelloAck message) a fun _ _ => True := by
  unfold onHelloAck
  split
  · exact calms_does countRefusal_calms
  refine Steps.modify_bind (.single (.note ..)) ?_
  exact (calms_does (fenceNotRevalidated_calms _)).bind fun _ _ _ _ => reportCluster_acts (.inr h)

lemma connectToCoordinator_acts (dial : Dial) (h : scene.announces) :
    Acts scene (connectToCoordinator dial) a fun _ _ => True := by
  refine Steps.get_bind ?_
  split
  · exact Steps.pure trivial
  cases dial with
  | inUse => exact Steps.pure trivial
  | failed status => exact Steps.throw
  | adopted connection =>
    refine Steps.modify_bind (.single (.note ..)) (Steps.get_bind (sendMessage_acts ?_))
    exact .hello h

lemma setClusterState_acts (state : ClusterState) (hturns : scene.turns) (h : scene.restates a state) :
    Acts scene (setClusterState state) a fun _ _ => True := by
  refine Steps.modify_bind (.single (.restate state hturns h)) (persistCluster_acts.bind fun _ _ _ hsync => ?_)
  exact (acts_of_calms (reevaluateEnforcement_calms _)).bind fun _ _ _ hkeeps => reportIfConnected_acts (hkeeps hsync)

lemma bumpGeneration_acts (reason : Bytes) (hturns : scene.turns) :
    Acts scene (bumpGeneration reason) a fun _ _ => True := by
  refine Steps.get_bind (Steps.bind (P := fun generation a' => a.generation < generation ∧ a' = a)
    (Steps.ofResult fun _ h => ⟨Counter.lt_of_next h, rfl⟩) fun generation a₁ _ h₁ => ?_)
  obtain ⟨hlt, rfl⟩ := h₁
  refine Steps.modify_bind (.single (.advance generation hturns hlt)) (Steps.get_bind ?_)
  refine (calms_does (fenceNotRevalidated_calms _)).bind fun _ _ _ _ => ?_
  refine (calms_does (sweepGrants_calms fun _ _ _ _ => fenceSuperseded_calms)).bind fun _ _ _ _ => ?_
  refine persistCluster_acts.bind fun _ _ _ hsync => Steps.get_bind ?_
  exact (acts_of_calms (appendAudit_calms _ _ _ _)).bind fun _ _ _ hkeeps => reportIfConnected_acts (hkeeps hsync)

lemma setPolicyGeneration_acts (generation : PolicyGeneration) (hturns : scene.turns) :
    Acts scene (setPolicyGeneration generation) a fun _ _ => True := by
  refine Steps.get_bind ?_
  split
  · exact Steps.throw
  rename_i hle
  refine Steps.modify_bind (.single (.advancePolicy generation hturns (Counter.not_lt_iff.mp hle))) ?_
  refine persistCluster_acts.bind fun _ _ _ hsync => ?_
  exact (acts_of_calms (reevaluateEnforcement_calms _)).bind fun _ _ _ hkeeps => reportIfConnected_acts (hkeeps hsync)

lemma upsertEndpoint_acts (endpoint : EndpointRecord) (hturns : scene.turns)
    (h : scene.declares { a with index := a.index + 1 }) : Acts scene (upsertEndpoint endpoint) a fun _ _ => True := by
  have hask : Acts scene RuntimeAgent.now a fun _ a' => a' = { a with index := a.index + 1 } :=
    ⟨.single .ask, fun _ hm => by cases hm; rfl⟩
  refine hask.bind fun observedAt a₁ _ hasked => Steps.get_bind ?_
  subst hasked
  dsimp only
  split
  · exact Steps.throw
  refine Steps.modify_bind (.single (.declare _ hturns h)) ?_
  exact persistCluster_acts.bind fun _ _ _ hsync => reportIfConnected_acts hsync

/-- What a request of the operator needs of the scene. -/
def AdminPermits (scene : Scene) (a : Agent) (request : AdminMessage) : Prop :=
  match request.action with
  | .setClusterState => scene.turns ∧ scene.restates a request.clusterState
  | .upsertCluster => ∀ cluster, request.cluster = some cluster →
      Acts scene (Program.forEach cluster.endpoints upsertEndpoint) a fun _ _ => True
  | _ => True

lemma updateFromAdmin_acts (request : AdminMessage) (h : AdminPermits scene a request) :
    Acts scene (updateFromAdmin request) a fun _ _ => True := by
  unfold updateFromAdmin
  unfold AdminPermits at h
  split
  · rename_i haction
    rw [haction] at h
    exact setClusterState_acts _ h.1 h.2
  · exact calms_does (withdrawConsent_calms _)
  · exact calms_does restoreConsent_calms
  · exact calms_does (fenceLocalGrant_calms _ _)
  · rename_i haction
    rw [haction] at h
    split
    · exact Steps.throw
    · exact h _ ‹_›
  · exact Steps.throw
  · exact Steps.throw

lemma onAdmin_acts (connection : ℕ) (request : AdminMessage) (h : AdminPermits scene a request) :
    Acts scene (onAdmin connection request) a fun _ _ => True := by
  refine Steps.attempt_bind (updateFromAdmin_acts request h) (fun _ _ _ _ => ?_) fun _ _ _ => ?_
  · exact Steps.get_bind (calms_does (sendTo_calms _ _))
  · exact Steps.get_bind (calms_does (sendTo_calms _ _))

lemma tick_acts (dial : Dial) (h : scene.announces) : Acts scene (tick dial) a fun _ _ => True := by
  refine Steps.get_bind (Steps.bind (P := fun _ _ => True) (Steps.onlyIf (fun _ => ?_) fun _ => trivial) fun _ _ _ _ => ?_)
  · refine Steps.attempt_bind (connectToCoordinator_acts dial h) (fun _ _ _ _ => ?_) fun _ _ _ => ?_
    · exact Steps.pure trivial
    · exact Steps.modify (.single (.note ..)) trivial
  · exact (calms_does (reevaluateEnforcement_calms _)).ignore.bind fun _ _ _ _ => calms_does compactIfNeeded_calms

/-- What an event needs of the scene. -/
def Permits (scene : Scene) (a : Agent) : Event → Prop
  | .message _ (.helloAck _) | .reconnect _ | .retry _ | .tick _ => scene.announces
  | .setClusterState state => scene.turns ∧ scene.restates a state
  | .bumpGeneration _ | .setPolicyGeneration _ => scene.turns
  | .upsertEndpoint endpoint => Acts scene (upsertEndpoint endpoint) a fun _ _ => True
  | .admin _ request => AdminPermits scene a request
  | _ => True

lemma onCoordinatorMessage_acts (connection : ℕ) (frame : FromCoordinator) (h : Permits scene a (.message connection frame)) :
    Acts scene (onCoordinatorMessage connection frame) a fun _ _ => True := by
  cases frame with
  | malformed status => exact (calms_does countFrame_calms).bind fun _ _ _ _ => Steps.throw
  | helloAck message => exact onHelloAck_acts message h
  | reportAck message => exact Steps.onlyIf (fun _ => calms_does countRefusal_calms) fun _ => trivial
  | proposeContract message => exact calms_does (onProposeContract_calms message)
  | prepareGrant grant => exact calms_does (onPrepareGrant_calms grant)
  | commitGrant grant attempt => exact calms_does (onCommitGrant_calms grant attempt)
  | abortGrant grant attempt reason => exact calms_does (onAbortGrant_calms grant attempt reason)
  | fence grants reason => exact calms_does (onFence_calms grants reason)
  | statusRequest => exact calms_does onStatusRequest_calms
  | ping sequence => exact calms_does (sendTo_calms _ _)
  | pong => exact Steps.pure trivial
  | error => exact Steps.modify (.single (.note ..)) trivial
  | unsupported kind => exact (calms_does countFrame_calms).bind fun _ _ _ _ => calms_does (sendTo_calms _ _)

/-- Every event is a sequence of acts of its scene. -/
lemma handle_acts (event : Event) (h : Permits scene a event) : Acts scene (handle event) a fun _ _ => True := by
  cases event with
  | message connection frame =>
    refine Steps.get_bind ?_
    split
    · exact onCoordinatorMessage_acts connection frame h
    · exact calms_does (onControlMessage_calms connection frame)
  | admin connection request => exact onAdmin_acts connection request h
  | setClusterState state => exact setClusterState_acts state h.1 h.2
  | bumpGeneration reason => exact bumpGeneration_acts reason h
  | setPolicyGeneration generation => exact setPolicyGeneration_acts generation h
  | withdrawConsent reason => exact calms_does (withdrawConsent_calms reason)
  | fenceLocalGrant grant reason => exact calms_does (fenceLocalGrant_calms grant reason)
  | upsertEndpoint endpoint => exact h
  | reconnect dial => exact Steps.modify_bind (.single (.note ..)) (connectToCoordinator_acts dial h).ignore
  | retry dial => exact (connectToCoordinator_acts dial h).ignore
  | disconnect connection => exact calms_does (handleDisconnect_calms connection)
  | tick dial => exact tick_acts dial h

end Speaking

/-- Whatever happens to an agent is a sequence of acts. -/
lemma step_acts (a : Agent) (event : Event) : ReflTransGen (Act anything) a (step a event) := by
  have hendpoint (endpoint : EndpointRecord) (a' : Agent) : Acts anything (upsertEndpoint endpoint) a' fun _ _ => True :=
    upsertEndpoint_acts endpoint trivial trivial
  refine (handle_acts event ?_).related
  cases event with
  | message connection frame => cases frame <;> exact trivial
  | admin connection request =>
    show AdminPermits anything a request
    unfold AdminPermits
    split
    · exact ⟨trivial, trivial⟩
    · exact fun cluster _ => Steps.forEach trivial fun _ _ _ _ _ => hendpoint _ _
    · trivial
  | setClusterState state => exact ⟨trivial, trivial⟩
  | upsertEndpoint endpoint => exact hendpoint endpoint a
  | _ => trivial

end InterClusterFabric.RuntimeAgentActs
