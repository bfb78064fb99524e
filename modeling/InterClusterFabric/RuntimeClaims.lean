import InterClusterFabric.RuntimeAgentSafety
import InterClusterFabric.RuntimeStart
import InterClusterFabric.RuntimeWords

/-! A coordinator that hears of a cluster from one agent only. What it has on record of the cluster is what the agent
last told it, as long as no handshake moves the policy generation on by itself: the digest on record stays the old one
then, and the next report is held against it. -/
namespace InterClusterFabric.RuntimeClaims
open CoreStatus CoreIds CoreTime CoreHash ModelRecords ModelRegistry ModelRegistryLaws EngineSoundness
open RuntimeFencing WireMessages RuntimeCoordinator RuntimeHandlers RuntimeAdmin RuntimeRun RuntimeEdits RuntimeSteps
open RuntimeStepsHandlers RuntimeStepsAdmin RuntimeStart LibraryChecked LibraryOrdMap LibraryProgram
open RuntimeWords (Word wordOf word words reports Follows NoContradiction Careful Current HasSpoken Truthful started_truthful
  run_truthful)
open RuntimeAgent (Agent)
open RuntimeAgentSafety (sampleAgent upstream)
open StoreDurable hiding loadState

/-- The message of the event, if it speaks for the cluster. -/
def heard (cluster : ClusterId) : Event → Option Inbound
  | .message _ (.hello request) => if request.cluster = cluster then some (.hello request) else none
  | .message _ (.reportCluster message) => if message.cluster.id = cluster then some (.reportCluster message) else none
  | _ => none

/-- What the coordinator is told of the cluster in the course of the events. -/
def told (cluster : ClusterId) (events : List Event) : List Word := events.filterMap fun event => (heard cluster event).bind word

/-- Of the cluster the coordinator hears what stands in the outbox, in that order, and nothing else. Messages may be
lost on the way. -/
structure HearsOnly (cluster : ClusterId) (outbox : List Inbound) (events : List Event) : Prop where
  ordered : (events.filterMap (heard cluster)).Sublist outbox
  unregistered : ∀ event ∈ events, ∀ connection request record, event = .message connection (.admin request) →
    request.action = .upsertCluster → request.cluster = some record → record.id ≠ cluster

/-- No handshake brings a later policy generation under the generation on record. -/
def Steady (cluster : ClusterId) (s : Coordinator) (event : Event) : Prop :=
  ∀ connection request record, event = .message connection (.hello request) → request.cluster = cluster →
    s.registry.clusters[cluster]? = some record → request.generation = record.generation →
    ¬record.policyGeneration < request.policyGeneration

/-- The record repeats what was told. Where only its policy generation has moved on, a later generation was told. -/
structure Echoes (ws : List Word) (record : ClusterRecord) : Prop where
  agreed : record.generationConflict = false
  known : ∃ w ∈ ws, record.policyGeneration = w.policyGeneration
  told : ∃ w ∈ ws, record.incarnation = w.incarnation ∧ record.generation = w.generation ∧
    record.contentDigest = w.digest ∧
    (record.policyGeneration = w.policyGeneration ∨ ∃ w' ∈ ws, record.generation < w'.generation)

section Echo

variable {ws : List Word} {record next : ClusterRecord} {w : Word}

lemma Echoes.mono (h : Echoes ws record) (w : Word) : Echoes (ws ++ [w]) record := by
  obtain ⟨hagreed, ⟨v, hv, hpolicy⟩, u, hu, hincarnation, hgeneration, hdigest, hmoved⟩ := h
  refine ⟨hagreed, ⟨v, List.mem_append_left _ hv, hpolicy⟩, u, List.mem_append_left _ hu, hincarnation, hgeneration,
    hdigest, hmoved.imp_right ?_⟩
  rintro ⟨v', hv', hlater⟩
  exact ⟨v', List.mem_append_left _ hv', hlater⟩

lemma Echoes.same (h : Echoes ws record) (hclaim : SameClaim record next) : Echoes ws next := by
  obtain ⟨hagreed, hknown, htold⟩ := h
  constructor
  · rw [hclaim.generationConflict, hagreed]
  · rw [hclaim.policyGeneration]
    exact hknown
  · rw [hclaim.incarnation, hclaim.generation, hclaim.contentDigest, hclaim.policyGeneration]
    exact htold

/-- A record of the last word. -/
lemma echoes_last (ws : List Word) (hword : wordOf record = w) (hagreed : record.generationConflict = false) :
    Echoes (ws ++ [w]) record := by
  subst hword
  have hlast : wordOf record ∈ ws ++ [wordOf record] := by simp
  exact ⟨hagreed, ⟨_, hlast, rfl⟩, _, hlast, rfl, rfl, rfl, .inl rfl⟩

/-- A word that follows every other one is not in conflict with the record. -/
lemma Echoes.consistent (h : Echoes ws record) (hfollows : ∀ v ∈ ws, Follows v w)
    (hpolicy : ¬record.policyGeneration < w.policyGeneration) (hgeneration : w.generation = record.generation) :
    w.digest = record.contentDigest := by
  obtain ⟨-, -, v, hv, -, hsame, hdigest, hmoved⟩ := h
  have hv' := hfollows v hv
  have hpolicies : v.policyGeneration = w.policyGeneration := by
    rcases hmoved with hpolicy' | ⟨u, hu, hlater⟩
    · rw [hpolicy'] at hpolicy
      have hback := Counter.le_iff.mp (Counter.not_lt_iff.mp hpolicy)
      have hforth := Counter.le_iff.mp hv'.policyGeneration
      exact Counter.ext (UInt64.toNat_inj.mp (by omega))
    · have hle := (hfollows u hu).generation
      rw [hgeneration] at hle
      exact absurd hlater (Counter.not_lt_iff.mpr hle)
  rw [hdigest]
  exact (hv'.content (by rw [hgeneration, hsame]) hpolicies).symm

/-- A handshake moves only the policy generation on, and a later generation has been told with it. -/
lemma Echoes.advance (h : Echoes ws record) (hlater : record.generation < w.generation) {lastSeen : Timestamp} :
    Echoes (ws ++ [w]) { record with policyGeneration := w.policyGeneration, lastSeen } := by
  obtain ⟨hagreed, -, u, hu, hincarnation, hgeneration, hdigest, -⟩ := h
  have hlast : w ∈ ws ++ [w] := by simp
  exact ⟨hagreed, ⟨w, hlast, rfl⟩, u, List.mem_append_left _ hu, hincarnation, hgeneration, hdigest, .inr ⟨w, hlast, hlater⟩⟩

end Echo

/-! One step. -/

section Step

variable {cluster : ClusterId} {s : Coordinator} {ws : List Word}

/-- The record of the cluster, if there is one, repeats what was told. -/
def EchoedIn (cluster : ClusterId) (ws : List Word) (registry : Registry) : Prop :=
  ∀ record, registry.clusters[cluster]? = some record → Echoes ws record

/-- An event that says nothing of the cluster. -/
lemma step_unheard (hformed : WellFormed s.registry) {event : Event} (hheard : heard cluster event = none)
    (hregisters : ∀ connection request record, event = .message connection (.admin request) →
      request.action = .upsertCluster → request.cluster = some record → record.id ≠ cluster)
    (h : EchoedIn cluster ws s.registry) : EchoedIn cluster ws (step s event).registry := by
  refine step_keeps (P := EchoedIn cluster ws) hformed h fun registry next _ hechoed hedit record hrecord => ?_
  rcases edit_clusters hedit cluster with
    hsame | ⟨old, new, hold, hnew, hflags⟩ | ⟨-, hregistered⟩ | ⟨put, hput, hid, hscene⟩ | ⟨hgone, -⟩
  · exact hechoed record (by rw [← hsame, hrecord])
  · rw [hnew, Option.some.injEq] at hrecord
    subst hrecord
    rcases hflags.claim with hclaim | ⟨connection, request, rfl, hid, -⟩ | ⟨connection, message, rfl, hid, -⟩ |
      ⟨-, -, -, -, hconflict⟩
    · exact (hechoed old hold).same hclaim
    · simp [heard, hid] at hheard
    · simp [heard, hid] at hheard
    · exact absurd (hechoed old hold).agreed hconflict
  · obtain ⟨-, put, -, hid, connection, request, lastSeen, observedAt, rfl, rfl⟩ := hregistered record hrecord
    have hid' : request.cluster = cluster := hid
    simp [heard, hid'] at hheard
  · rcases hscene with ⟨connection, message, session, known, token, observedAt, rfl, -, rfl⟩ |
      ⟨request, known, ⟨connection, rfl, -⟩, haction, hknown, hid', -⟩
    · have hid' : message.cluster.id = cluster := hid
      simp [heard, hid'] at hheard
    · exact absurd (hid'.symm.trans hid) (hregisters connection request known rfl haction hknown)
  · rw [hgone] at hrecord
    cases hrecord

/-- A handshake of the agent. -/
lemma step_hello (hformed : WellFormed s.registry) {connection : ℕ} {request : HelloMessage} {w : Word}
    (hcluster : request.cluster = cluster) (hword : word (.hello request) = some w)
    (hfollows : ∀ v ∈ ws, Follows v w) (hsteady : Steady cluster s (.message connection (.hello request)))
    (h : EchoedIn cluster ws s.registry) :
    EchoedIn cluster (ws ++ [w]) (step s (.message connection (.hello request))).registry := by
  cases hword
  refine step_keeps (P := EchoedIn cluster _) hformed (fun record hrecord => (h record hrecord).mono _)
    fun registry next _ hechoed hedit record hrecord => ?_
  rcases edit_clusters hedit cluster with
    hsame | ⟨old, new, hold, hnew, hflags⟩ | ⟨-, hregistered⟩ | ⟨put, -, -, hscene⟩ | ⟨hgone, -⟩
  · exact hechoed record (by rw [← hsame, hrecord])
  · rw [hnew, Option.some.injEq] at hrecord
    subst hrecord
    rcases hflags.claim with hclaim | ⟨connection', request', hevent, -, hfound, hrenewal⟩ | ⟨_, _, hevent, -⟩ |
      ⟨-, -, -, -, hconflict⟩
    · exact (hechoed old hold).same hclaim
    · cases hevent
      have hbase := h old hfound
      cases hrenewal with
      | reincarnate lastSeen observedAt hincarnation =>
        obtain ⟨v, hv, hsame, -⟩ := hbase.told
        exact absurd ((hfollows v hv).incarnation.trans hsame.symm) hincarnation
      | advance lastSeen hgeneration hpolicy =>
        refine hbase.advance (Counter.lt_iff.mpr (lt_of_le_of_ne ?_ fun heq => ?_))
        · exact Counter.le_iff.mp (Counter.not_lt_iff.mp hgeneration)
        · have hsame : request.generation = old.generation := Counter.ext (UInt64.toNat_inj.mp heq.symm)
          exact hsteady connection request old rfl hcluster hfound hsame hpolicy
    · cases hevent
    · exact absurd (hechoed old hold).agreed hconflict
  · obtain ⟨-, put, rfl, -, connection', request', lastSeen, observedAt, hevent, rfl⟩ := hregistered record hrecord
    cases hevent
    exact echoes_last ws rfl rfl
  · rcases hscene with ⟨_, _, _, _, _, _, hevent, -⟩ | ⟨_, _, ⟨_, hevent, -⟩, -⟩ <;> cases hevent
  · rw [hgone] at hrecord
    cases hrecord

/-- A report of the agent. -/
lemma step_report (hformed : WellFormed s.registry) {connection : ℕ} {message : ReportClusterMessage}
    (hfollows : ∀ v ∈ ws, Follows v (wordOf message.cluster))
    (h : EchoedIn cluster ws s.registry) :
    EchoedIn cluster (ws ++ [wordOf message.cluster]) (step s (.message connection (.reportCluster message))).registry := by
  refine step_keeps (P := EchoedIn cluster _) hformed (fun record hrecord => (h record hrecord).mono _)
    fun registry next _ hechoed hedit record hrecord => ?_
  rcases edit_clusters hedit cluster with
    hsame | ⟨old, new, hold, hnew, hflags⟩ | ⟨-, hregistered⟩ | ⟨put, hput, -, hscene⟩ | ⟨hgone, -⟩
  · exact hechoed record (by rw [← hsame, hrecord])
  · rw [hnew, Option.some.injEq] at hrecord
    subst hrecord
    rcases hflags.claim with hclaim | ⟨_, _, hevent, -⟩ | ⟨connection', message', hevent, -, hfound, hcontradicts⟩ |
      ⟨-, -, -, -, hconflict⟩
    · exact (hechoed old hold).same hclaim
    · cases hevent
    · cases hevent
      obtain ⟨hpolicy, hgeneration, -, -, hdiffers⟩ := hcontradicts.content
      exact absurd ((h old hfound).consistent hfollows hpolicy hgeneration) hdiffers
    · exact absurd (hechoed old hold).agreed hconflict
  · obtain ⟨-, _, -, -, _, _, _, _, hevent, -⟩ := hregistered record hrecord
    cases hevent
  · rw [hput, Option.some.injEq] at hrecord
    subst hrecord
    rcases hscene with ⟨_, _, _, _, _, _, hevent, -, rfl⟩ | ⟨_, _, ⟨_, hevent, -⟩, -⟩
    · cases hevent
      exact echoes_last ws rfl rfl
    · cases hevent
  · rw [hgone] at hrecord
    cases hrecord

end Step

/-! Runs. -/

section Run

variable {cluster : ClusterId} {s : Coordinator}

lemma heard_cases (cluster : ClusterId) (event : Event) : heard cluster event = none ∨
    (∃ connection request, event = .message connection (.hello request) ∧ request.cluster = cluster ∧
      heard cluster event = some (.hello request)) ∨
    ∃ connection message, event = .message connection (.reportCluster message) ∧ message.cluster.id = cluster ∧
      heard cluster event = some (.reportCluster message) := by
  unfold heard
  split
  · split
    · rename_i hcluster
      exact .inr (.inl ⟨_, _, rfl, hcluster, rfl⟩)
    · exact .inl rfl
  · split
    · rename_i hcluster
      exact .inr (.inr ⟨_, _, rfl, hcluster, rfl⟩)
    · exact .inl rfl
  · exact .inl rfl

lemma told_snoc (cluster : ClusterId) (events : List Event) (event : Event) :
    told cluster (events ++ [event]) = told cluster events ++ ((heard cluster event).bind word).toList := by
  rw [told, told, List.filterMap_append]
  cases h : (heard cluster event).bind word with
  | none => simp [h]
  | some w => simp [h]

/-- What the coordinator has on record of the cluster repeats what it was told. -/
lemma run_echoes (hformed : WellFormed s.registry) (hnew : s.registry.clusters[cluster]? = none) {events : List Event}
    (hordered : (told cluster events).Pairwise Follows)
    (hregisters : ∀ event ∈ events, ∀ connection request record, event = .message connection (.admin request) →
      request.action = .upsertCluster → request.cluster = some record → record.id ≠ cluster)
    (hsteady : EachStep (Steady cluster) s events) : EchoedIn cluster (told cluster events) (run s events).registry := by
  induction events using List.reverseRecOn with
  | nil =>
    intro record hrecord
    change s.registry.clusters[cluster]? = some record at hrecord
    rw [hnew] at hrecord
    cases hrecord
  | append_singleton events event ih =>
    rw [told_snoc] at hordered ⊢
    rw [run_append]
    obtain ⟨hbefore, -, hlast⟩ := List.pairwise_append.mp hordered
    have hechoed := ih hbefore (fun e he => hregisters e (List.mem_append_left _ he)) hsteady.init
    have hwell := run_wellFormed hformed events
    rcases heard_cases cluster event with hnone | ⟨connection, request, rfl, hcluster, hheard⟩ |
      ⟨connection, message, rfl, -, hheard⟩
    · rw [hnone, Option.bind_none, Option.toList_none, List.append_nil]
      exact step_unheard hwell hnone (hregisters event (by simp)) hechoed
    · rw [hheard] at hlast ⊢
      exact step_hello hwell hcluster rfl (fun v hv => hlast v hv _ (by simp [word])) hsteady.last hechoed
    · rw [hheard] at hlast ⊢
      exact step_report hwell (fun v hv => hlast v hv _ (by simp [word])) hechoed

end Run

/-- The coordinator has two contents on record that claim one generation of the cluster. -/
def Conflicted (registry : Registry) (cluster : ClusterId) : Prop :=
  ∃ record, registry.clusters[cluster]? = some record ∧ record.generationConflict = true

/-- One content for one identity. -/
def Agrees (w w' : Word) : Prop :=
  w.generation = w'.generation → w.policyGeneration = w'.policyGeneration → w.digest = w'.digest

instance : Std.Symm Agrees := ⟨fun _ _ h hgeneration hpolicy => (h hgeneration.symm hpolicy.symm).symm⟩

lemma noContradiction_of_truthful {a : Agent} (h : Truthful a) : NoContradiction a := by
  have hword (r : ClusterRecord) (hr : r ∈ reports a) : wordOf r ∈ words a := by
    obtain ⟨message, hmessage, hreport⟩ := List.mem_filterMap.mp hr
    refine List.mem_filterMap.mpr ⟨message, hmessage, ?_⟩
    split at hreport
    · cases hreport
      rfl
    · cases hreport
  have hagree : ∀ ⦃w⦄, w ∈ words a → ∀ ⦃w'⦄, w' ∈ words a → Agrees w w' :=
    List.Pairwise.forall_of_forall (fun _ _ _ _ => rfl) (h.1.ordered.imp fun hfollows => hfollows.content)
  exact fun r hr r' hr' => hagree (hword r hr) (hword r' hr')

/-- An agent that changes its state and its endpoints only while it has said nothing under its present generation and
policy generation does not contradict itself, and a coordinator that hears of the cluster from it alone, and to which no
handshake brings a later policy generation under the generation on record, finds no conflict. -/
theorem honest_agent_agrees (launch : RuntimeAgentRun.Launch) (files : StoreDurable.Files) (a : Agent)
    (hstarted : RuntimeAgentRun.Started launch files a) (acts : List RuntimeAgentRun.Event)
    (hcareful : LibraryTrace.EachStep RuntimeAgentRun.step Careful a acts) :
    NoContradiction (RuntimeAgentRun.run a acts) ∧
      ∀ launch' files' s, Started launch' files' s → s.registry.clusters[a.cluster]? = none →
        ∀ events, HearsOnly a.cluster (RuntimeAgentRun.run a acts).outbox events →
          EachStep (Steady a.cluster) s events → ¬Conflicted (run s events).registry a.cluster := by
  have htruthful := run_truthful (started_truthful hstarted).1 hcareful
  refine ⟨noContradiction_of_truthful htruthful, fun launch' files' s hstarted' hnew events hhears hsteady => ?_⟩
  have hsublist : (told a.cluster events).Sublist (words (RuntimeAgentRun.run a acts)) := by
    have htold : told a.cluster events = (events.filterMap (heard a.cluster)).filterMap word := by
      rw [told, List.filterMap_filterMap]
    rw [htold]
    exact hhears.ordered.filterMap word
  have hechoed := run_echoes (started_wellFormed hstarted' []) hnew (htruthful.1.ordered.sublist hsublist)
    hhears.unregistered hsteady
  rintro ⟨record, hrecord, hconflict⟩
  rw [(hechoed record hrecord).agreed] at hconflict
  cases hconflict

/-! The agent of the sample runs and a coordinator that knows nothing of its cluster. -/

/-- The coordinator gets everything the agent has sent. -/
def delivered (a : Agent) : List Event := a.outbox.map (.message (agentOf .first))

/-- The answer of the coordinator to the last handshake of the agent. -/
def acknowledged (acts : List RuntimeAgentRun.Event) : List RuntimeAgentRun.Event :=
  acts ++ [.message upstream (.helloAck {
    session := tokenOf (run sampleProcess (delivered (RuntimeAgentRun.run sampleAgent acts)))
      (agentOf .first)
    coordinator := ⟨1⟩, coordinatorTerm := ⟨1⟩, outcome := .ok, viewDigest := 0 })]

def greeting : List RuntimeAgentRun.Event := acknowledged [.reconnect (.adopted upstream)]

/-- The agent is lost, moves on to its next generation and another state, and comes back. -/
def renewal : List RuntimeAgentRun.Event :=
  acknowledged (greeting ++ [.disconnect upstream, .bumpGeneration (ascii "drain"), .setClusterState .draining,
    .reconnect (.adopted upstream)])

/-- The agent moves on to another state while it is connected. -/
def restated : List RuntimeAgentRun.Event := greeting ++ [.setClusterState .draining]

/-- The agent is lost, moves on to its next policy generation, and comes back. -/
def advanced : List RuntimeAgentRun.Event :=
  acknowledged (greeting ++ [.disconnect upstream, .setPolicyGeneration ⟨2⟩, .reconnect (.adopted upstream)])

/-- The digest of what the agent reports of itself at first. -/
def sampleContentDigest : Digest := 89637335707253190235971201255572585384454283297593974058749796778607919402810

/-- The agent with the digest in its own record written out: a run from there does not compute it again. -/
def withContentDigest (a : Agent) (digest : Digest) : Agent :=
  { a with registry := { a.registry with
      clusters := a.registry.clusters.modify a.cluster fun record => { record with contentDigest := digest } } }

lemma withContentDigest_eq {a : Agent} {digest : Digest}
    (h : a.registry.clusters[a.cluster]?.map ClusterRecord.contentDigest = some digest) :
    withContentDigest a digest = a := by
  have hsame : (a.registry.clusters.modify a.cluster fun record => { record with contentDigest := digest }) =
      a.registry.clusters :=
    modify_eq_self_of_map (fun record hdigest => by rw [← hdigest]) h
  rw [withContentDigest, hsame]

def describedAgent : Agent := withContentDigest sampleAgent sampleContentDigest

lemma sampleAgent_eq : sampleAgent = describedAgent :=
  (withContentDigest_eq (by decide +kernel)).symm

lemma delivered_heard (cluster : ClusterId) (a : Agent) : ((delivered a).filterMap (heard cluster)).Sublist a.outbox := by
  rw [delivered]
  induction a.outbox with
  | nil => exact .slnil
  | cons message rest ih =>
    rw [List.map_cons, List.filterMap_cons]
    rcases heard_cases cluster (.message (agentOf .first) message) with hnone | ⟨_, _, hevent, -, hheard⟩ |
      ⟨_, _, hevent, -, hheard⟩
    · rw [hnone]
      exact ih.cons message
    all_goals
      rw [hheard]
      cases hevent
      exact ih.cons_cons _

/-- Whether no handshake brings a later policy generation under the generation on record. -/
def steadily (cluster : ClusterId) (s : Coordinator) : List Event → Bool
  | [] => true
  | .message connection (.hello request) :: rest =>
    !(s.registry.clusters[cluster]?).any (fun record =>
      decide (request.generation = record.generation) && decide (record.policyGeneration < request.policyGeneration)) &&
    steadily cluster (step s (.message connection (.hello request))) rest
  | event :: rest => steadily cluster (step s event) rest

lemma steady_of_steadily {cluster : ClusterId} {s : Coordinator} {events : List Event} (h : steadily cluster s events = true) :
    EachStep (Steady cluster) s events := by
  fun_induction steadily cluster s events with
  | case1 => exact eachStep_of_mem (by simp)
  | case2 s connection request rest ih =>
    obtain ⟨hcalm, hrest⟩ := Bool.and_eq_true_iff.mp h
    refine eachStep_cons ?_ (ih hrest)
    rintro _ _ record hevent - hfound hgeneration hpolicy
    cases hevent
    simp [hfound, hgeneration, hpolicy] at hcalm
  | case3 s event rest hother ih =>
    refine eachStep_cons ?_ (ih h)
    rintro connection request record rfl
    exact absurd rfl (hother connection request)

/-- The identity that is on record, and the one that is presented. -/
def recordedIdentity (a : Agent) : Option (Generation × PolicyGeneration) :=
  a.registry.clusters[a.cluster]?.map fun record => (record.generation, record.policyGeneration)

lemma current_of_recorded {a : Agent} (h : recordedIdentity a = some (a.generation, a.policyGeneration)) : Current a := by
  obtain ⟨record, hfound, hidentity⟩ := Option.map_eq_some_iff.mp h
  obtain ⟨hgeneration, hpolicy⟩ := Prod.mk.inj hidentity
  exact ⟨record, hfound, hgeneration, hpolicy⟩

lemma renewal_careful : LibraryTrace.EachStep RuntimeAgentRun.step Careful sampleAgent renewal := by
  refine .cons (fun _ => current_of_recorded ?_) (.cons trivial (.cons trivial (.cons trivial (.cons (.inr ?_)
    (.cons (fun _ => current_of_recorded ?_) (.cons trivial .nil))))))
  · decide +kernel
  · unfold HasSpoken
    decide +kernel
  · decide +kernel

lemma hearsOnly_delivered {cluster : ClusterId} {a : Agent}
    (h : ∀ event ∈ delivered a, (heard cluster event).isSome = true) : HearsOnly cluster a.outbox (delivered a) := by
  refine ⟨delivered_heard cluster a, ?_⟩
  rintro event hmem connection request record rfl - -
  exact absurd (h _ hmem) Bool.false_ne_true

/-- The agent of the sample run has reported two generations with different states. -/
theorem honest_agent_agrees_sample :
    (reports (RuntimeAgentRun.run sampleAgent renewal)).map ClusterRecord.state = [.active, .draining] ∧
      NoContradiction (RuntimeAgentRun.run sampleAgent renewal) ∧
      ¬Conflicted (run sampleProcess (delivered (RuntimeAgentRun.run sampleAgent renewal))).registry sampleAgent.cluster := by
  have hfacts : (reports (RuntimeAgentRun.run sampleAgent renewal)).map ClusterRecord.state = [.active, .draining] ∧
      sampleProcess.registry.clusters[sampleAgent.cluster]?.isNone = true ∧
      (∀ event ∈ delivered (RuntimeAgentRun.run sampleAgent renewal), (heard sampleAgent.cluster event).isSome = true) ∧
      steadily sampleAgent.cluster sampleProcess (delivered (RuntimeAgentRun.run sampleAgent renewal)) = true := by
    simp only [renewal, greeting, acknowledged, sampleAgent_eq]
    decide +kernel
  obtain ⟨hstates, hnew, hheard, hsteady⟩ := hfacts
  obtain ⟨hagrees, hcoordinator⟩ := honest_agent_agrees RuntimeAgentSafety.agentLaunch {} sampleAgent
    RuntimeAgentSafety.sampleAgent_started renewal renewal_careful
  exact ⟨hstates, hagrees, hcoordinator sampleLaunch {} sampleProcess sampleProcess_started
    (Option.isNone_iff_eq_none.mp hnew) _ (hearsOnly_delivered hheard) (steady_of_steadily hsteady)⟩

/-- What the coordinator has on record of a conflict. -/
def conflictOf (s : Coordinator) (cluster : ClusterId) : Option Bool :=
  s.registry.clusters[cluster]?.map ClusterRecord.generationConflict

lemma conflicted_of_conflictOf {s : Coordinator} {cluster : ClusterId} (h : conflictOf s cluster = some true) :
    Conflicted s.registry cluster := Option.map_eq_some_iff.mp h

lemma restated_facts :
    (¬∀ r ∈ reports (RuntimeAgentRun.run sampleAgent restated), ∀ r' ∈ reports (RuntimeAgentRun.run sampleAgent restated),
      r.generation = r'.generation → r.policyGeneration = r'.policyGeneration → r.contentDigest = r'.contentDigest) ∧
    conflictOf (run sampleProcess (delivered (RuntimeAgentRun.run sampleAgent restated))) sampleAgent.cluster =
      some true := by
  simp only [restated, greeting, acknowledged, sampleAgent_eq]
  decide +kernel

lemma advanced_conflict :
    conflictOf (run sampleProcess (delivered (RuntimeAgentRun.run sampleAgent advanced))) sampleAgent.cluster =
      some true := by
  simp only [advanced, greeting, acknowledged, sampleAgent_eq]
  decide +kernel

/-- The agent turns to draining between two reports, or takes another policy generation before it presents itself
again: there is a conflict either way, in the first case between its own reports. -/
theorem state_change_conflicts :
    RuntimeAgentRun.Started RuntimeAgentSafety.agentLaunch {} sampleAgent ∧ Started sampleLaunch {} sampleProcess ∧
      sampleProcess.registry.clusters[sampleAgent.cluster]? = none ∧
      ¬NoContradiction (RuntimeAgentRun.run sampleAgent restated) ∧
      Conflicted (run sampleProcess (delivered (RuntimeAgentRun.run sampleAgent restated))).registry sampleAgent.cluster ∧
      Conflicted (run sampleProcess (delivered (RuntimeAgentRun.run sampleAgent advanced))).registry sampleAgent.cluster := by
  have hnew : sampleProcess.registry.clusters[sampleAgent.cluster]?.isNone = true := by decide +kernel
  exact ⟨RuntimeAgentSafety.sampleAgent_started, sampleProcess_started, Option.isNone_iff_eq_none.mp hnew,
    restated_facts.1, conflicted_of_conflictOf restated_facts.2, conflicted_of_conflictOf advanced_conflict⟩

end InterClusterFabric.RuntimeClaims
