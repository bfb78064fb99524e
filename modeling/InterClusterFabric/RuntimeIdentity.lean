import InterClusterFabric.RuntimeStart

/-! The identity of a cluster: its incarnation, its generation and its policy generation, whoever speaks
for the cluster and in whatever order. -/
namespace InterClusterFabric.RuntimeIdentity
open CoreStatus CoreIds ModelRecords ModelRegistry ModelRegistryLaws EngineSoundness RuntimeFencing WireMessages
open RuntimeCoordinator RuntimeHandlers RuntimeAdmin RuntimeRun RuntimeEdits RuntimeSteps RuntimeStepsHandlers
open RuntimeStepsAdmin RuntimeStart LibraryOrdMap LibraryProgram
open StoreDurable hiding loadState

/-- Every registered cluster is still registered, under a record that may follow its own. -/
def Ages (registry next : Registry) : Prop :=
  ∀ (id : ClusterId) c, registry.clusters[id]? = some c → ∃ c', next.clusters[id]? = some c' ∧ Newer c c'

lemma Ages.refl (registry : Registry) : Ages registry registry :=
  fun _ c hc => ⟨c, hc, .of_same rfl rfl rfl⟩

lemma Ages.trans {registry next last : Registry} (h : Ages registry next) (h' : Ages next last) :
    Ages registry last := by
  intro id c hc
  obtain ⟨c', hc', hnewer⟩ := h id c hc
  obtain ⟨c'', hc'', hnewer'⟩ := h' id c' hc'
  exact ⟨c'', hc'', hnewer.trans hnewer'⟩

/-- No operator registers or deletes a cluster record. -/
def NoOverride (event : Event) : Prop :=
  ∀ connection request, event = .message connection (.admin request) →
    request.action ≠ .upsertCluster ∧ request.action ≠ .deleteCluster

/-- An accepted report is a record that may follow the one the step began with. -/
lemma newer_of_accepted {s : Coordinator} {connection : ℕ} {message : ReportClusterMessage} {session : PeerSession}
    {cluster : ClusterRecord} (h : ReportAccepted s connection message session cluster) (token : SessionToken)
    (observedAt : CoreTime.Timestamp) :
    Newer cluster (sorted (reportedCluster cluster message.cluster token observedAt)) where
  generation := Counter.not_lt_iff.mp h.generation
  policyGeneration := Counter.not_lt_iff.mp h.policy
  incarnation hchanged := absurd h.incarnation hchanged

lemma step_ages {s : Coordinator} (hformed : WellFormed s.registry) {event : Event} (hplain : NoOverride event) :
    Ages s.registry (step s event).registry := by
  refine step_keeps (P := Ages s.registry) hformed (.refl _) fun registry next _ hages hedit id c hc => ?_
  obtain ⟨c', hc', hnewer⟩ := hages id c hc
  rcases edit_clusters hedit id with
    hsame | ⟨old, new, hold, hnew, hflags⟩ | ⟨hnone, -⟩ | ⟨record, hnew, hid, hscene⟩ | ⟨-, hscene⟩
  · exact ⟨c', by rw [hsame, hc'], hnewer⟩
  · rw [hc', Option.some.injEq] at hold
    subst hold
    exact ⟨new, hnew, hnewer.trans hflags.newer⟩
  · rw [hnone] at hc'
    cases hc'
  · rcases hscene with ⟨connection, message, session, cluster, token, observedAt, -, haccepted, rfl⟩ |
      ⟨request, cluster, ⟨connection, hevent, -⟩, haction, -⟩
    · -- the report was held against the record the step began with
      have hcluster : cluster = c := by
        have hfind := haccepted.registered
        rw [← haccepted.owner] at hfind
        change message.cluster.id = id at hid
        rw [hid, hc, Option.some.injEq] at hfind
        exact hfind.symm
      subst hcluster
      exact ⟨_, hnew, newer_of_accepted haccepted token observedAt⟩
    · exact absurd haction (hplain connection request hevent).1
  · obtain ⟨request, ⟨connection, hevent, -⟩, haction, -⟩ := hscene
    exact absurd haction (hplain connection request hevent).2

lemma run_ages {s : Coordinator} (hformed : WellFormed s.registry) {events : List Event}
    (hplain : ∀ event ∈ events, NoOverride event) : Ages s.registry (run s events).registry := by
  have hboth : WellFormed (run s events).registry ∧ Ages s.registry (run s events).registry := by
    refine run_induction (P := fun s' => WellFormed s'.registry ∧ Ages s.registry s'.registry)
      ⟨hformed, .refl _⟩ fun before event after hsplit ih => ?_
    have hevent : NoOverride event := hplain event (by rw [hsplit]; simp)
    exact ⟨step_wellFormed ih.1 event, ih.2.trans (step_ages ih.1 hevent)⟩
  exact hboth.2

/-- In every run in which no operator registers or deletes a cluster, no step takes a generation or a
policy generation of a cluster back, a step that changes the incarnation moves on to a later generation,
and so does the run from each of its states to its end. -/
theorem identity_monotone (launch : Launch) (files : Files) (s : Coordinator) (hstarted : Started launch files s)
    (events : List Event) (hplain : ∀ event ∈ events, NoOverride event) (before : List Event) (event : Event)
    (after : List Event) (hsplit : events = before ++ event :: after) :
    Ages (run s before).registry (step (run s before) event).registry ∧
      Ages (run s before).registry (run s events).registry := by
  have hformed := started_wellFormed hstarted before
  constructor
  · exact step_ages hformed (hplain event (by rw [hsplit]; simp))
  · rw [hsplit, run_append]
    refine run_ages hformed fun e he => hplain e ?_
    rw [hsplit]
    exact List.mem_append_right _ he

/-- The agent of the first cluster connects, which registers the cluster, and comes back under a new
incarnation. -/
def connectFirst : Event := .message (agentOf .first) (.hello (sampleHello .first))

def reincarnateFirst : Event :=
  .message (agentOf .first) (.hello { sampleHello .first with
    incarnation := ⟨77⟩, generation := ⟨(sampleHello .first).generation.value + 1⟩ })

/-- The new incarnation is recorded, under the later generation. -/
theorem identity_monotone_sample :
    (run sampleProcess [connectFirst, reincarnateFirst]).registry.clusters[(sampleHello .first).cluster]?.map
        ClusterRecord.incarnation = some ⟨77⟩ ∧
      Ages (run sampleProcess [connectFirst]).registry
        (step (run sampleProcess [connectFirst]) reincarnateFirst).registry := by
  constructor
  · decide +kernel
  · refine (identity_monotone sampleLaunch {} sampleProcess sampleProcess_started [connectFirst, reincarnateFirst]
      (fun event hevent connection request heq => ?_) [connectFirst] reincarnateFirst [] rfl).1
    simp only [List.mem_cons, List.not_mem_nil, or_false] at hevent
    rcases hevent with rfl | rfl <;> simp [connectFirst, reincarnateFirst] at heq

end InterClusterFabric.RuntimeIdentity
