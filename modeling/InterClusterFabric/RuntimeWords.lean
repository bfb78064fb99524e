import InterClusterFabric.LibraryTrace
import InterClusterFabric.RuntimeAgentActs

/-! What an agent says of its own cluster, in its handshakes and in its reports. One generation and one policy
generation are to have one content; of what changes the content, some advances neither. -/
namespace InterClusterFabric.RuntimeWords
open CoreStatus CoreIds CoreTime CoreHash ModelRecords ModelCanonical ModelRegistry ModelRegistryLaws StoreMutation
open WireMessages RuntimeFencing RuntimeAgent RuntimeAgentRun RuntimeEdits RuntimeAgentActs
open LibraryChecked LibraryOrdMap LibraryProgram LibraryTrace Relation
open StoreDurable hiding loadState

/-- The identity that a message presents and the content it claims for it. -/
structure Word where
  incarnation : IncarnationId
  generation : Generation
  policyGeneration : PolicyGeneration
  digest : Digest

def wordOf (record : ClusterRecord) : Word where
  incarnation := record.incarnation
  generation := record.generation
  policyGeneration := record.policyGeneration
  digest := record.contentDigest

/-- What a message says of a cluster. -/
def word : Inbound → Option Word
  | .hello message => some {
      incarnation := message.incarnation, generation := message.generation
      policyGeneration := message.policyGeneration, digest := message.contentDigest }
  | .reportCluster message => some (wordOf message.cluster)
  | _ => none

/-- What the agent has said of its cluster, in the order it said it. -/
def words (a : Agent) : List Word := a.outbox.filterMap word

/-- The reports the agent has sent. -/
def reports (a : Agent) : List ClusterRecord :=
  a.outbox.filterMap fun
    | .reportCluster message => some message.cluster
    | _ => none

/-- No two reports claim different contents for one generation and policy generation. -/
def NoContradiction (a : Agent) : Prop := ∀ r ∈ reports a, ∀ r' ∈ reports a,
  r.generation = r'.generation → r.policyGeneration = r'.policyGeneration → r.contentDigest = r'.contentDigest

/-- A word that may follow another one: no generation goes back, and the content of an identity stays. -/
structure Follows (w w' : Word) : Prop where
  incarnation : w'.incarnation = w.incarnation
  generation : w.generation ≤ w'.generation
  policyGeneration : w.policyGeneration ≤ w'.policyGeneration
  content : w.generation = w'.generation → w.policyGeneration = w'.policyGeneration → w.digest = w'.digest

lemma Follows.refl (w : Word) : Follows w w := ⟨rfl, Counter.le_iff.mpr le_rfl, Counter.le_iff.mpr le_rfl, fun _ _ => rfl⟩

/-- The agent has said something under its present generation and policy generation. -/
def HasSpoken (a : Agent) : Prop :=
  ∃ w ∈ words a, w.generation = a.generation ∧ w.policyGeneration = a.policyGeneration

/-- The registry accepts the record that describes the cluster now. -/
def Recordable (a : Agent) : Prop := (Record.cluster (sorted (describedCluster a {} ⟨0⟩ ⟨0⟩))).Sound

/-- The record is of the incarnation of the agent, and not of a later generation. -/
def Behind (a : Agent) (record : ClusterRecord) : Prop :=
  record.incarnation = a.incarnation ∧ record.generation ≤ a.generation ∧ record.policyGeneration ≤ a.policyGeneration

/-- Everything the agent has said it has said of what it had recorded, and what it has said under its present
identity holds of its present content, unless the registry does not accept that. -/
structure Honest (a : Agent) : Prop where
  recorded : ∃ record, a.registry.clusters[a.cluster]? = some record ∧ Behind a record ∧
    ∀ w ∈ words a, Follows w (wordOf record)
  ordered : (words a).Pairwise Follows
  current : ∀ w ∈ words a, w.generation = a.generation → w.policyGeneration = a.policyGeneration →
    w.digest = currentDigest a ∨ ¬Recordable a

/-- A record of the present identity is of the present content, unless the registry does not accept that. -/
def Abreast (a : Agent) : Prop := ∀ record, a.registry.clusters[a.cluster]? = some record →
  record.generation = a.generation → record.policyGeneration = a.policyGeneration →
    record.contentDigest = currentDigest a ∨ ¬Recordable a

def Truthful (a : Agent) : Prop := Honest a ∧ Abreast a

/-- The agent stays truthful. -/
def Upholds (a a' : Agent) : Prop := Truthful a → Truthful a'

instance : Std.Refl Upholds := ⟨fun _ h => h⟩

instance : IsTrans Agent Upholds := ⟨fun _ _ _ h h' htruthful => h' (h htruthful)⟩

section Acts

variable {a a' : Agent}

/-- Everything that is said of an agent here is said of its outbox, its own record, its identity, its content and
its declarations. -/
lemma Truthful.congr (h : Truthful a) (hwords : words a' = words a)
    (hrecord : a'.registry.clusters[a'.cluster]? = a.registry.clusters[a.cluster]?)
    (hincarnation : a'.incarnation = a.incarnation) (hgeneration : a'.generation = a.generation)
    (hpolicy : a'.policyGeneration = a.policyGeneration) (hdigest : currentDigest a' = currentDigest a)
    (hrecordable : Recordable a' ↔ Recordable a) : Truthful a' := by
  obtain ⟨⟨⟨record, hfound, hbehind, hfollows⟩, hordered, hcurrent⟩, habreast⟩ := h
  refine ⟨⟨⟨record, by rw [hrecord, hfound], ?_, by rw [hwords]; exact hfollows⟩, by rw [hwords]; exact hordered, ?_⟩, ?_⟩
  · rw [Behind, hincarnation, hgeneration, hpolicy]
    exact hbehind
  · rw [hwords, hgeneration, hpolicy, hdigest, hrecordable]
    exact hcurrent
  · unfold Abreast
    rw [hrecord, hgeneration, hpolicy, hdigest, hrecordable]
    exact habreast

lemma word_of_plain {message : Inbound} (h : plain message = true) : word message = none := by
  cases message <;> first | rfl | cases h

lemma words_append (a : Agent) (message : Inbound) :
    words { a with outbox := a.outbox ++ [message] } = words a ++ (word message).toList := by
  rw [words, words, List.filterMap_append]
  cases h : word message with
  | none => simp [h]
  | some w => simp [h]

/-- Of its cluster the agent says what it has recorded. -/
lemma Truthful.say (h : Truthful a) {record : ClusterRecord} (hfound : a.registry.clusters[a.cluster]? = some record)
    {message : Inbound} (hword : word message = some (wordOf record)) :
    Truthful { a with outbox := a.outbox ++ [message] } := by
  obtain ⟨⟨⟨known, hknown, hbehind, hfollows⟩, hordered, hcurrent⟩, habreast⟩ := h
  rw [hfound, Option.some.injEq] at hknown
  subst hknown
  have hwords : words { a with outbox := a.outbox ++ [message] } = words a ++ [wordOf record] := by
    rw [words_append, hword]
    rfl
  refine ⟨⟨⟨record, hfound, hbehind, ?_⟩, ?_, ?_⟩, habreast⟩
  · rw [hwords]
    intro w hw
    rcases List.mem_append.mp hw with hold | hnew
    · exact hfollows w hold
    · rw [List.mem_singleton.mp hnew]
      exact .refl _
  · rw [hwords]
    refine List.pairwise_append.mpr ⟨hordered, List.pairwise_singleton _ _, fun w hw w' hw' => ?_⟩
    rw [List.mem_singleton.mp hw']
    exact hfollows w hw
  · rw [hwords]
    intro w hw
    rcases List.mem_append.mp hw with hold | hnew
    · exact hcurrent w hold
    · rw [List.mem_singleton.mp hnew]
      exact habreast record hfound

/-- The agent records its cluster as it is. -/
lemma describe_truthful (hsaid : ∀ w ∈ words a, w.incarnation = a.incarnation ∧ w.generation ≤ a.generation ∧
      w.policyGeneration ≤ a.policyGeneration) (hordered : (words a).Pairwise Follows)
    (hcurrent : ∀ w ∈ words a, w.generation = a.generation → w.policyGeneration = a.policyGeneration →
      w.digest = currentDigest a ∨ ¬Recordable a)
    {existing : ClusterRecord} {lastSeen observedAt : Timestamp} {registry : Registry}
    (hput : a.registry.putCluster (sealedCluster (describedCluster a existing lastSeen observedAt)) = .ok registry) :
    Truthful { a with registry } := by
  obtain ⟨hsound, -, rfl⟩ := putCluster_eq_ok.mp hput
  have hrecordable : Recordable a := hsound
  set next := sorted (sealedCluster (describedCluster a existing lastSeen observedAt))
  have hnext : (store a.registry (.cluster next)).clusters[a.cluster]? = some next := by
    show (a.registry.clusters.insert a.cluster _)[a.cluster]? = _
    rw [getElem?_insert_eq, if_pos rfl]
  refine ⟨⟨⟨next, hnext, ⟨rfl, Counter.le_iff.mpr le_rfl, Counter.le_iff.mpr le_rfl⟩, fun w hw => ?_⟩, hordered,
    hcurrent⟩, fun other hother _ _ => ?_⟩
  · obtain ⟨hincarnation, hgeneration, hpolicy⟩ := hsaid w hw
    refine ⟨hincarnation.symm, hgeneration, hpolicy, fun hsame hsame' => ?_⟩
    exact (hcurrent w hw hsame hsame').resolve_right (not_not_intro hrecordable)
  · have hsame : other = next := by
      change (store a.registry (.cluster next)).clusters[a.cluster]? = some other at hother
      rw [hnext, Option.some.injEq] at hother
      exact hother.symm
    subst hsame
    exact .inl rfl

/-- What is recorded has gone along with what was said. -/
lemma Honest.said (h : Honest a) : ∀ w ∈ words a, w.incarnation = a.incarnation ∧ w.generation ≤ a.generation ∧
    w.policyGeneration ≤ a.policyGeneration := by
  obtain ⟨⟨record, -, hbehind, hfollows⟩, -, -⟩ := h
  intro w hw
  have hold := hfollows w hw
  refine ⟨?_, Counter.le_trans hold.generation hbehind.2.1, Counter.le_trans hold.policyGeneration hbehind.2.2⟩
  rw [← hbehind.1]
  exact hold.incarnation.symm

lemma Honest.describe (h : Honest a) {existing : ClusterRecord} {lastSeen observedAt : Timestamp} {registry : Registry}
    (hput : a.registry.putCluster (sealedCluster (describedCluster a existing lastSeen observedAt)) = .ok registry) :
    Truthful { a with registry } := describe_truthful h.said h.ordered h.current hput

lemma upholds_of_act (hact : Act calm a a') : Upholds a a' := by
  intro h
  cases hact with
  | ask => exact h.congr rfl rfl rfl rfl rfl rfl Iff.rfl
  | log _ _ _ => exact h.congr rfl rfl rfl rfl rfl rfl Iff.rfl
  | incident _ _ => exact h.congr rfl rfl rfl rfl rfl rfl Iff.rfl
  | compact _ _ _ => exact h.congr rfl rfl rfl rfl rfl rfl Iff.rfl
  | edit registry hclusters _ =>
    refine h.congr rfl ?_ rfl rfl rfl rfl Iff.rfl
    show registry.clusters[a.cluster]? = _
    rw [hclusters]
  | describe existing lastSeen observedAt registry hput => exact h.1.describe hput
  | post message hplain =>
    refine h.congr ?_ rfl rfl rfl rfl rfl Iff.rfl
    rw [words_append, word_of_plain hplain, Option.toList_none, List.append_nil]
  | report cluster hfound _ => exact h.say hfound rfl
  | hello hannounces => exact hannounces.elim
  | note => exact h.congr rfl rfl rfl rfl rfl rfl Iff.rfl
  | restate _ hturns _ => exact hturns.elim
  | declare _ hturns _ => exact hturns.elim
  | advance _ hturns _ => exact hturns.elim
  | advancePolicy _ hturns _ => exact hturns.elim

lemma upholds_of_acts (hacts : ReflTransGen (Act calm) a a') : Upholds a a' := by
  induction hacts with
  | refl => exact fun h => h
  | tail _ hact ih => exact fun h => upholds_of_act hact (ih h)

/-- An operation after which the agent is as truthful as before. -/
abbrev Uphold {α : Type} (p : AgentOp α) (a : Agent) : Prop := Steps Upholds p a fun _ _ => True

lemma uphold_of_calms {α : Type} {p : AgentOp α} {Q : α → Agent → Prop} (h : Acts calm p a Q) : Uphold p a :=
  ⟨upholds_of_acts h.related, fun _ _ => trivial⟩

end Acts

/-! Operations that speak for the cluster. -/

section Speaking

variable {a : Agent}

/-- Sending says no more than the message does. -/
lemma sendMessage_upholds {message : Inbound}
    (h : Upholds { a with index := a.index + 1 } { a with index := a.index + 1, outbox := a.outbox ++ [message] }) :
    Uphold (sendMessage message) a := by
  refine Steps.get_bind ?_
  split
  · exact Steps.throw
  have hask : Steps Upholds moment a fun _ a' => a' = { a with index := a.index + 1 } :=
    ⟨upholds_of_act .ask, fun _ hm => by cases hm; rfl⟩
  refine hask.bind fun m a₁ _ hasked => ?_
  subst hasked
  split
  · exact Steps.throw
  · exact Steps.throw
  · exact Steps.modify h trivial

lemma reportCluster_upholds : Uphold reportCluster a := by
  refine Steps.get_bind ?_
  split
  · exact Steps.throw
  · rename_i cluster hfound
    exact sendMessage_upholds fun h => h.say hfound rfl

lemma reportIfConnected_upholds : Uphold reportIfConnected a :=
  Steps.get_bind (Steps.onlyIf (fun _ => reportCluster_upholds) fun _ => trivial)

/-- A report follows every acknowledged handshake, of whatever is recorded. -/
lemma onHelloAck_upholds (message : HelloAckMessage) : Uphold (onHelloAck message) a := by
  unfold onHelloAck
  split
  · exact uphold_of_calms countRefusal_calms
  refine Steps.modify_bind (upholds_of_act (.note ..)) ?_
  exact (uphold_of_calms (fenceNotRevalidated_calms _)).bind fun _ _ _ _ => reportCluster_upholds

/-- What is recorded of the cluster is of its present generation and policy generation. -/
def Current (a : Agent) : Prop := ∃ record, a.registry.clusters[a.cluster]? = some record ∧
  record.generation = a.generation ∧ record.policyGeneration = a.policyGeneration

/-- A handshake presents the identity of the agent with the content that is on record. -/
lemma Truthful.greet (h : Truthful a) (hcurrent : Current a) :
    Truthful { a with outbox := a.outbox ++ [.hello (helloOf a)] } := by
  obtain ⟨record, hfound, hgeneration, hpolicy⟩ := hcurrent
  have hincarnation : record.incarnation = a.incarnation := by
    obtain ⟨known, hknown, hbehind, -⟩ := h.1.recorded
    rw [hfound, Option.some.injEq] at hknown
    rw [hknown]
    exact hbehind.1
  refine h.say hfound ?_
  simp only [word, helloOf, wordOf, hfound, Option.map_some, Option.getD_some, hgeneration, hpolicy, hincarnation]

/-- The agent presents itself to the coordinator now. -/
def Greets (a : Agent) (dial : Dial) : Prop := a.coordinatorConnected = false ∧ ∃ connection, dial = .adopted connection

lemma connectToCoordinator_upholds {dial : Dial} (h : Greets a dial → Current a) :
    Uphold (connectToCoordinator dial) a := by
  refine Steps.get_bind ?_
  split
  · exact Steps.pure trivial
  rename_i hconnected
  cases dial with
  | inUse => exact Steps.pure trivial
  | failed status => exact Steps.throw
  | adopted connection =>
    obtain ⟨record, hfound, hgeneration, hpolicy⟩ := h ⟨by simpa using hconnected, connection, rfl⟩
    refine Steps.modify_bind (upholds_of_act (.note ..)) (Steps.get_bind (sendMessage_upholds fun htruthful => ?_))
    exact htruthful.greet ⟨record, hfound, hgeneration, hpolicy⟩

/-! Turns. -/

lemma now_run (a : Agent) : RuntimeAgent.now a = (.ok (a.moments a.index).now, { a with index := a.index + 1 }) := rfl

/-- The registry refuses the record of the cluster, or accepts it, and then it is logged. -/
lemma persistCluster_cases (a : Agent) : ∃ existing lastSeen observedAt,
    (∃ status, a.registry.putCluster (sealedCluster (describedCluster a existing lastSeen observedAt)) = .error status ∧
      persistCluster a = (.error status, { a with index := a.index + 1 + 1 })) ∨
    ∃ registry, a.registry.putCluster (sealedCluster (describedCluster a existing lastSeen observedAt)) = .ok registry ∧
      Upholds { a with index := a.index + 1 + 1, registry } (persistCluster a).2 := by
  set a₂ : Agent := { a with index := a.index + 1 + 1 }
  set existing := a₂.registry.clusters[a₂.cluster]?.getD {}
  have hrun : persistCluster a = (do
      Program.focus Agent.registry (fun a registry => { a with registry }) (Program.update fun registry =>
        registry.putCluster (sealedCluster (describedCluster a₂ existing (a.moments a.index).now
          (a.moments (a.index + 1)).now)))
      Program.forEach (← MonadState.get).registry.clusters[a₂.cluster]?.toList fun record =>
        appendMutation (.clusterPut record) : AgentOp Unit) a₂ := rfl
  refine ⟨existing, (a.moments a.index).now, (a.moments (a.index + 1)).now, ?_⟩
  rw [hrun]
  set described := describedCluster a₂ existing (a.moments a.index).now (a.moments (a.index + 1)).now
  cases hput : a₂.registry.putCluster (sealedCluster described) with
  | error status =>
    have hupdate : Program.focus Agent.registry (fun a registry => { a with registry }) (Program.update fun registry =>
        registry.putCluster (sealedCluster described)) a₂ = ((.error status : Except Status Unit), a₂) := by
      simp only [Program.focus, Program.update, hput]
    exact .inl ⟨status, hput, Program.bind_error hupdate⟩
  | ok registry =>
    set a₃ : Agent := { a₂ with registry }
    have hupdate : Program.focus Agent.registry (fun a registry => { a with registry }) (Program.update fun registry =>
        registry.putCluster (sealedCluster described)) a₂ = ((.ok () : Except Status Unit), a₃) := by
      simp only [Program.focus, Program.update, hput, a₃]
    have hlog : Uphold (Program.forEach a₃.registry.clusters[a₂.cluster]?.toList fun record =>
        appendMutation (.clusterPut record)) a₃ := by
      cases hfound : a₃.registry.clusters[a₂.cluster]? with
      | none => exact Steps.pure trivial
      | some record =>
        have hlogs : Logs a₃ (.clusterPut record) := hfound
        exact (uphold_of_calms (appendMutation_calms hlogs)).bind fun _ _ _ _ => Steps.pure trivial
    refine .inr ⟨registry, hput, ?_⟩
    rw [Program.bind_ok hupdate]
    exact hlog.related

/-- Once the cluster is persisted, or has turned out not to be acceptable, the record is abreast of the agent. -/
lemma persistCluster_truthful (h : Honest a) : Truthful (persistCluster a).2 := by
  obtain ⟨existing, lastSeen, observedAt, hcases⟩ := persistCluster_cases a
  rcases hcases with ⟨status, hput, hrun⟩ | ⟨registry, hput, hupholds⟩
  · rw [hrun]
    refine ⟨⟨h.recorded, h.ordered, h.current⟩, fun record hfound _ _ => .inr fun hrecordable => ?_⟩
    have hroom : Room a.registry (.cluster a.cluster) := room_of_find (by
      change a.registry.clusters[a.cluster]? = some record at hfound
      simp [find, hfound])
    have hok : a.registry.putCluster (sealedCluster (describedCluster a existing lastSeen observedAt)) = .ok _ :=
      putCluster_eq_ok.mpr ⟨hrecordable, hroom, rfl⟩
    rw [hput] at hok
    cases hok
  · have hdescribed := h.describe hput
    exact hupholds (hdescribed.congr rfl rfl rfl rfl rfl rfl Iff.rfl)

/-- A change of the content, once it is recorded, and whatever follows. -/
lemma persist_then {f : Unit → AgentOp Unit} (h : Honest a) (hrest : ∀ u a', Uphold (f u) a') :
    Truthful ((persistCluster >>= f) a).2 :=
  Steps.after (R := Upholds) (fun u => hrest u _) (persistCluster_truthful h)

/-- The agent takes the state it is in, or has said nothing under its present identity. -/
def StateSafe (a : Agent) (state : ClusterState) : Prop := state = a.clusterState ∨ ¬HasSpoken a

lemma setClusterState_upholds {state : ClusterState} (h : StateSafe a state) : Uphold (setClusterState state) a := by
  refine ⟨fun htruthful => ?_, fun _ _ => trivial⟩
  have hhonest : Honest { a with clusterState := state } := by
    rcases h with rfl | hsilent
    · exact htruthful.1
    · refine ⟨htruthful.1.recorded, htruthful.1.ordered, fun w hw hgeneration hpolicy => ?_⟩
      exact absurd ⟨w, hw, hgeneration, hpolicy⟩ hsilent
  refine persist_then hhonest fun _ _ => ?_
  exact (uphold_of_calms (reevaluateEnforcement_calms _)).bind fun _ _ _ _ => reportIfConnected_upholds

/-- The agent once it has declared the endpoint, if it has room for it. -/
def redeclared (a : Agent) (endpoint : EndpointRecord) : Agent :=
  if (a.config.endpoints.all fun known => decide (known.id ≠ endpoint.id)) = true ∧
      Limits.maxEndpointsPerCluster ≤ a.config.endpoints.length then a
  else { a with config := { a.config with
    endpoints := declareEndpoint (stampedEndpoint a endpoint (a.moments a.index).now) a.config.endpoints } }

/-- The agent declares what it has declared already, or has said nothing under its present identity. -/
def EndpointSafe (a : Agent) (endpoint : EndpointRecord) : Prop :=
  declaredEndpoints (redeclared a endpoint) = declaredEndpoints a ∨ ¬HasSpoken a

lemma redeclared_honest {endpoint : EndpointRecord} (h : EndpointSafe a endpoint) (hhonest : Honest a) :
    Honest (redeclared a endpoint) := by
  unfold EndpointSafe at h
  unfold redeclared at h ⊢
  split
  · exact hhonest
  rename_i hroom
  rw [if_neg hroom] at h
  set a' : Agent := { a with config := { a.config with
    endpoints := declareEndpoint (stampedEndpoint a endpoint (a.moments a.index).now) a.config.endpoints } }
  refine ⟨hhonest.recorded, hhonest.ordered, fun w hw hgeneration hpolicy => ?_⟩
  rcases h with hsame | hsilent
  · have hdescribed : describedCluster a' {} ⟨0⟩ ⟨0⟩ = describedCluster a {} ⟨0⟩ ⟨0⟩ := by
      show ({ describedCluster a {} ⟨0⟩ ⟨0⟩ with endpoints := declaredEndpoints a' } : ClusterRecord) = _
      rw [hsame]
      rfl
    have hdigest : currentDigest a' = currentDigest a := congrArg contentDigestOf hdescribed
    have hrecordable : Recordable a' ↔ Recordable a := by rw [Recordable, Recordable, hdescribed]
    rw [hdigest, hrecordable]
    exact hhonest.current w hw hgeneration hpolicy
  · exact absurd ⟨w, hw, hgeneration, hpolicy⟩ hsilent

lemma upsertEndpoint_upholds {endpoint : EndpointRecord} (h : EndpointSafe a endpoint) :
    Uphold (upsertEndpoint endpoint) a := by
  refine ⟨fun htruthful => ?_, fun _ _ => trivial⟩
  have hhonest := redeclared_honest h htruthful.1
  unfold redeclared at hhonest
  unfold upsertEndpoint
  rw [Program.bind_ok (now_run a), Program.get_bind_run]
  dsimp only
  split
  · exact upholds_of_act .ask htruthful
  · rename_i hroom
    rw [if_neg hroom] at hhonest
    exact persist_then ⟨hhonest.recorded, hhonest.ordered, hhonest.current⟩ fun _ _ => reportIfConnected_upholds

/-- Each of the endpoints may be declared once those before it are. -/
def EndpointsSafe : Agent → List EndpointRecord → Prop
  | _, [] => True
  | a, endpoint :: rest => EndpointSafe a endpoint ∧
      ((upsertEndpoint endpoint a).1 = .ok () → EndpointsSafe (upsertEndpoint endpoint a).2 rest)

lemma upsertEndpoints_uphold {endpoints : List EndpointRecord} (h : EndpointsSafe a endpoints) :
    Uphold (Program.forEach endpoints upsertEndpoint) a := by
  induction endpoints generalizing a with
  | nil => exact Steps.pure trivial
  | cons endpoint rest ih =>
    have hfirst : Steps Upholds (upsertEndpoint endpoint) a fun _ a' => EndpointsSafe a' rest :=
      ⟨(upsertEndpoint_upholds h.1).related, fun _ hok => h.2 hok⟩
    exact hfirst.bind fun _ _ _ hrest => ih hrest

/-- A later generation has nothing said or recorded of it. -/
lemma advance_upholds {generation : Generation} (h : a.generation < generation) :
    Upholds a { a with generation } := by
  rintro ⟨⟨⟨record, hfound, hbehind, hfollows⟩, hordered, -⟩, -⟩
  have hlater : ∀ g : Generation, g ≤ a.generation → g ≠ generation := by
    rintro g hle rfl
    exact absurd h (Counter.not_lt_iff.mpr hle)
  refine ⟨⟨⟨record, hfound, ⟨hbehind.1, ?_, hbehind.2.2⟩, hfollows⟩, hordered, fun w hw hgeneration _ => ?_⟩,
    fun other hother hgeneration _ => ?_⟩
  · exact Counter.le_trans hbehind.2.1 (Counter.le_of_lt h)
  · exact absurd hgeneration (hlater _ (Counter.le_trans (hfollows w hw).generation hbehind.2.1))
  · have hsame : some record = some other := hfound.symm.trans hother
    cases hsame
    exact absurd hgeneration (hlater _ hbehind.2.1)

lemma advancePolicy_upholds {policyGeneration : PolicyGeneration} (h : a.policyGeneration ≤ policyGeneration) :
    Upholds a { a with policyGeneration } := by
  by_cases hsame : policyGeneration = a.policyGeneration
  · rw [hsame]
    exact fun htruthful => htruthful
  rintro ⟨⟨⟨record, hfound, hbehind, hfollows⟩, hordered, -⟩, -⟩
  have hlater : ∀ p : PolicyGeneration, p ≤ a.policyGeneration → p ≠ policyGeneration := by
    rintro p hle rfl
    refine hsame (Counter.ext (UInt64.toNat_inj.mp ?_))
    have hback := Counter.le_iff.mp hle
    have hforth := Counter.le_iff.mp h
    omega
  refine ⟨⟨⟨record, hfound, ⟨hbehind.1, hbehind.2.1, ?_⟩, hfollows⟩, hordered, fun w hw _ hpolicy => ?_⟩,
    fun other hother _ hpolicy => ?_⟩
  · exact Counter.le_trans hbehind.2.2 h
  · exact absurd hpolicy (hlater _ (Counter.le_trans (hfollows w hw).policyGeneration hbehind.2.2))
  · have hrecord : some record = some other := hfound.symm.trans hother
    cases hrecord
    exact absurd hpolicy (hlater _ hbehind.2.2)

lemma bumpGeneration_upholds (reason : Bytes) : Uphold (bumpGeneration reason) a := by
  refine Steps.get_bind (Steps.bind (P := fun generation a' => a.generation < generation ∧ a' = a)
    (Steps.ofResult fun _ h => ⟨Counter.lt_of_next h, rfl⟩) fun generation a₁ _ h₁ => ?_)
  obtain ⟨hlt, rfl⟩ := h₁
  refine Steps.modify_bind (advance_upholds hlt) (Steps.get_bind ?_)
  refine (uphold_of_calms (fenceNotRevalidated_calms _)).bind fun _ _ _ _ => ?_
  refine (uphold_of_calms (sweepGrants_calms fun _ _ _ _ => fenceSuperseded_calms)).bind fun _ _ _ _ => ?_
  refine (uphold_of_calms persistCluster_calms).bind fun _ _ _ _ => Steps.get_bind ?_
  exact (uphold_of_calms (appendAudit_calms _ _ _ _)).bind fun _ _ _ _ => reportIfConnected_upholds

lemma setPolicyGeneration_upholds (generation : PolicyGeneration) : Uphold (setPolicyGeneration generation) a := by
  refine Steps.get_bind ?_
  split
  · exact Steps.throw
  rename_i hle
  refine Steps.modify_bind (advancePolicy_upholds (Counter.not_lt_iff.mp hle)) ?_
  refine (uphold_of_calms persistCluster_calms).bind fun _ _ _ _ => ?_
  exact (uphold_of_calms (reevaluateEnforcement_calms _)).bind fun _ _ _ _ => reportIfConnected_upholds

/-! Steps. -/

/-- A request of the operator changes the content only while nothing has been said of it. -/
def AdminSafe (a : Agent) (request : AdminMessage) : Prop :=
  match request.action with
  | .setClusterState => StateSafe a request.clusterState
  | .upsertCluster => ∀ cluster, request.cluster = some cluster → EndpointsSafe a cluster.endpoints
  | _ => True

/-- The event changes the content only while nothing has been said under the present generation and policy
generation, and the agent presents itself only under the identity it has recorded. -/
def Careful (a : Agent) : Event → Prop
  | .setClusterState state => StateSafe a state
  | .upsertEndpoint endpoint => EndpointSafe a endpoint
  | .admin _ request => AdminSafe a request
  | .reconnect dial | .retry dial => Greets a dial → Current a
  | .tick dial => a.connectScheduled = false → Greets a dial → Current a
  | _ => True

lemma updateFromAdmin_upholds {request : AdminMessage} (h : AdminSafe a request) : Uphold (updateFromAdmin request) a := by
  unfold updateFromAdmin
  unfold AdminSafe at h
  split
  · rename_i haction
    rw [haction] at h
    exact setClusterState_upholds h
  · exact uphold_of_calms (withdrawConsent_calms _)
  · exact uphold_of_calms restoreConsent_calms
  · exact uphold_of_calms (fenceLocalGrant_calms _ _)
  · rename_i haction
    rw [haction] at h
    split
    · exact Steps.throw
    · exact upsertEndpoints_uphold (h _ ‹_›)
  · exact Steps.throw
  · exact Steps.throw

lemma onAdmin_upholds (connection : ℕ) {request : AdminMessage} (h : AdminSafe a request) :
    Uphold (onAdmin connection request) a := by
  refine Steps.attempt_bind (updateFromAdmin_upholds h) (fun _ _ _ _ => ?_) fun _ _ _ => ?_
  · exact Steps.get_bind (uphold_of_calms (sendTo_calms _ _))
  · exact Steps.get_bind (uphold_of_calms (sendTo_calms _ _))

lemma tick_upholds {dial : Dial} (h : a.connectScheduled = false → Greets a dial → Current a) : Uphold (tick dial) a := by
  refine Steps.get_bind (Steps.bind (P := fun _ _ => True) (Steps.onlyIf (fun hidle => ?_) fun _ => trivial)
    fun _ _ _ _ => ?_)
  · refine Steps.attempt_bind (connectToCoordinator_upholds (h hidle.2)) (fun _ _ _ _ => ?_) fun _ _ _ => ?_
    · exact Steps.pure trivial
    · exact Steps.modify (upholds_of_act (.note ..)) trivial
  · refine (uphold_of_calms (reevaluateEnforcement_calms _)).ignore.bind fun _ _ _ _ => ?_
    exact uphold_of_calms compactIfNeeded_calms

/-- A careful agent stays truthful. -/
lemma handle_upholds {event : Event} (h : Careful a event) : Uphold (handle event) a := by
  cases event with
  | message connection frame =>
    by_cases hack : ∃ message, frame = .helloAck message
    · obtain ⟨message, rfl⟩ := hack
      refine Steps.get_bind ?_
      split
      · exact onHelloAck_upholds message
      · exact uphold_of_calms (onControlMessage_calms connection _)
    · have hpermits : Permits calm a (.message connection frame) := by
        cases frame <;> first | trivial | exact absurd ⟨_, rfl⟩ hack
      exact uphold_of_calms (handle_acts (.message connection frame) hpermits)
  | admin connection request => exact onAdmin_upholds connection h
  | setClusterState state => exact setClusterState_upholds h
  | bumpGeneration reason => exact bumpGeneration_upholds reason
  | setPolicyGeneration generation => exact setPolicyGeneration_upholds generation
  | withdrawConsent reason => exact uphold_of_calms (withdrawConsent_calms _)
  | fenceLocalGrant grant reason => exact uphold_of_calms (fenceLocalGrant_calms grant reason)
  | upsertEndpoint endpoint => exact upsertEndpoint_upholds h
  | reconnect dial =>
    refine Steps.modify_bind (upholds_of_act (.note ..)) (Steps.ignore (connectToCoordinator_upholds fun hgreets => ?_))
    exact h hgreets
  | retry dial => exact (connectToCoordinator_upholds h).ignore
  | disconnect connection => exact uphold_of_calms (handleDisconnect_calms connection)
  | tick dial => exact tick_upholds h

lemma run_truthful (h : Truthful a) {events : List Event} (hcareful : EachStep step Careful a events) :
    Truthful (run a events) :=
  foldl_invariant h fun before event after heq hbefore => (handle_upholds (hcareful before event after heq)).related hbefore

end Speaking

/-! The start. -/

/-- Nothing has been said. -/
def Silent (a a' : Agent) : Prop := a'.outbox = a.outbox

instance : Std.Refl Silent := ⟨fun _ => rfl⟩

instance : IsTrans Agent Silent := ⟨fun _ _ _ h h' => h'.trans h⟩

section Start

variable {a : Agent}

lemma moment_silent : Steps Silent moment a fun _ _ => True := ⟨rfl, fun _ _ => trivial⟩

lemma now_silent : Steps Silent RuntimeAgent.now a fun _ _ => True :=
  moment_silent.bind fun _ _ _ _ => Steps.pure trivial

lemma appendMutation_silent (mutation : Mutation) : Steps Silent (appendMutation mutation) a fun _ _ => True :=
  moment_silent.bind fun _ _ _ _ => ⟨rfl, fun _ _ => trivial⟩

lemma onStore_silent {α : Type} (op : DurableStore → Files → Written α) : Steps Silent (onStore op) a fun _ _ => True :=
  ⟨rfl, fun _ _ => trivial⟩

lemma appendAudit_silent (action : String) (subject : Bytes) (outcome : Outcome) (detail : Bytes) :
    Steps Silent (appendAudit action subject outcome detail) a fun _ _ => True := by
  refine Steps.get_bind ?_
  split
  · exact Steps.pure trivial
  refine now_silent.bind fun _ _ _ _ => Steps.bind (P := fun _ _ => True) ⟨rfl, fun _ _ => trivial⟩ fun _ _ _ _ =>
    Steps.get_bind (Steps.forEach trivial fun _ _ _ _ _ => appendMutation_silent _)

lemma fenceRecovered_silent : Steps Silent fenceRecovered a fun _ _ => True := by
  refine Steps.bind (P := fun _ _ => True) (Steps.get_bind (Steps.foldEach trivial fun id _ _ a' _ _ =>
    Steps.get_bind ?_)) fun _ a₁ _ _ => Steps.get_bind (moment_silent.bind fun _ _ _ _ => onStore_silent _)
  split
  · exact Steps.pure trivial
  · refine Steps.onlyIf (fun _ => Steps.modify_bind rfl (Steps.modify_bind rfl ?_)) fun _ => trivial
    exact appendMutation_silent _

lemma resume_silent : Steps Silent resume a fun _ _ => True := by
  refine Steps.get_bind ?_
  split
  · exact Steps.pure trivial
  · split
    · exact Steps.throw
    · exact Steps.modify rfl trivial

lemma beginIncarnation_silent : Steps Silent beginIncarnation a fun _ _ => True := by
  have hrandom : Steps Silent random a fun _ _ => True := moment_silent.bind fun _ _ _ _ => Steps.pure trivial
  refine hrandom.bind fun _ _ _ _ => now_silent.bind fun _ _ _ _ => Steps.modify_bind rfl ?_
  refine resume_silent.bind fun _ _ _ _ => Steps.get_bind (moment_silent.bind fun _ _ _ _ => ?_)
  refine (onStore_silent _).bind fun _ _ _ _ => Steps.bind (P := fun _ _ => True)
    (Steps.onlyIf (fun _ => fenceRecovered_silent) fun _ => trivial) fun _ _ _ _ => appendAudit_silent _ _ _ _

lemma persistCluster_silent : Steps Silent persistCluster a fun _ a' => words a = [] → Truthful a' := by
  have hsilent : Steps Silent persistCluster a fun _ _ => True := by
    refine now_silent.bind fun _ _ _ _ => now_silent.bind fun _ _ _ _ => Steps.get_bind ?_
    refine Steps.bind (P := fun _ _ => True) ⟨rfl, fun _ _ => trivial⟩ fun _ _ _ _ => Steps.get_bind ?_
    exact Steps.forEach trivial fun _ _ _ _ _ => appendMutation_silent _
  refine ⟨hsilent.related, fun u hok hwords => ?_⟩
  obtain ⟨existing, lastSeen, observedAt, ⟨status, -, hrun⟩ | ⟨registry, hput, hupholds⟩⟩ := persistCluster_cases a
  · rw [hrun] at hok
    cases hok
  · have hdescribed : Truthful { a with registry } :=
      describe_truthful (by simp [hwords]) (by simp [hwords]) (by simp [hwords]) hput
    exact hupholds (hdescribed.congr rfl rfl rfl rfl rfl rfl Iff.rfl)

/-- An agent that has started has recorded its cluster and said nothing of it. -/
lemma started_truthful {launch : Launch} {files : Files} (h : Started launch files a) : Truthful a ∧ a.outbox = [] := by
  have hstart : Steps Silent (start launch) (launched launch files) fun _ a' => Truthful a' := by
    refine Steps.bind (P := fun _ _ => True) (Steps.ofResult fun _ _ => trivial) fun _ a₁ h₁ _ => ?_
    have hload : Steps Silent (loadState launch.faults) a₁ fun _ _ => True := by
      refine Steps.get_bind (moment_silent.bind fun _ _ _ _ => ?_)
      refine Steps.bind (P := fun _ _ => True) (Steps.ofResult fun _ _ => trivial) fun _ _ _ _ => ?_
      exact Steps.modify rfl trivial
    refine hload.bind fun _ a₂ h₂ _ => beginIncarnation_silent.bind fun _ a₃ h₃ _ => ?_
    have hempty : words a₃ = [] := by
      have houtbox : a₃.outbox = [] := h₃.trans (h₂.trans h₁)
      rw [words, houtbox, List.filterMap_nil]
    refine persistCluster_silent.bind fun _ a₄ _ htruthful => Steps.ofResult fun _ _ => htruthful hempty
  rw [Started] at h
  obtain ⟨hsilent, hreturns⟩ := hstart
  rw [h] at hsilent hreturns
  exact ⟨hreturns () rfl, hsilent⟩

end Start

end InterClusterFabric.RuntimeWords
