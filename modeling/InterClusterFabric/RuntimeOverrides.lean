import InterClusterFabric.RuntimeStart

/-! What an operator has decided about a cluster, against what its agent reports. A report replaces
the record of its cluster whole, so a decision holds as long as the accepted reports repeat it. -/
namespace InterClusterFabric.RuntimeOverrides
open CoreStatus CoreIds ModelRecords ModelRegistry ModelRegistryLaws EngineSoundness RuntimeFencing WireMessages
open RuntimeCoordinator RuntimeHandlers RuntimeAdmin RuntimeRun RuntimeEdits RuntimeSteps RuntimeStepsHandlers
open RuntimeStepsAdmin RuntimeStart LibraryOrdMap LibraryProgram
open StoreDurable hiding loadState

/-- The cluster an administrative action is about. -/
def subject (request : AdminMessage) : Option ClusterId :=
  if request.action = .upsertCluster then request.cluster.map ClusterRecord.id else some request.clusterId

/-- The operator performs one of the actions on the cluster. -/
def ActsOn (actions : List AdminAction) (s : Coordinator) (event : Event) (id : ClusterId) : Prop :=
  ∃ request, Administers s event request ∧ request.action ∈ actions ∧ subject request = some id

def ActedOnIn (actions : List AdminAction) (s : Coordinator) (events : List Event) (id : ClusterId) : Prop :=
  ∃ before event after, events = before ++ event :: after ∧ ActsOn actions (run s before) event id

/-- The registered record of a cluster satisfies `P`. -/
def Holds (P : ClusterRecord → Prop) (registry : Registry) (id : ClusterId) : Prop :=
  ∃ cluster, registry.clusters[id]? = some cluster ∧ P cluster

/-- The accepted reports of the cluster satisfy `P`. -/
def ReportsKeep (P : ClusterRecord → Prop) (s : Coordinator) (event : Event) (id : ClusterId) : Prop :=
  ∀ connection message session cluster, event = .message connection (.reportCluster message) →
    ReportAccepted s connection message session cluster → session.cluster = id → P message.cluster

def ReportsKeepIn (P : ClusterRecord → Prop) (s : Coordinator) (events : List Event) (id : ClusterId) : Prop :=
  ∀ before event after, events = before ++ event :: after → ReportsKeep P (run s before) event id

/-! One step. -/

section Decision

variable {P : ClusterRecord → Prop}

/-- What edits can do to a decision, when the scene replaces and deletes the cluster only under `L`. -/
lemma edit_holds {scene : Scene} {id : ClusterId} {L : Prop}
    (hflags : ∀ c c', Flags scene id c c' → P c → P c' ∨ L)
    (hreplaces : ∀ record, scene.replaces record → record.id = id → P (sorted record) ∨ L)
    (hdeletes : scene.deletes id → L) {registry next : Registry} (hholds : Holds P registry id ∨ L)
    (hedit : Edit scene registry next) : Holds P next id ∨ L := by
  rcases hholds with ⟨c, hc, hP⟩ | hL
  swap
  · exact .inr hL
  rcases edit_clusters hedit id with
    hsame | ⟨old, c', hold, hnext, htouched⟩ | ⟨hnone, -⟩ | ⟨record, hnext, hid, hscene⟩ | ⟨-, hscene⟩
  · exact .inl ⟨c, by rw [hsame, hc], hP⟩
  · rw [hc, Option.some.injEq] at hold
    subst hold
    exact (hflags c c' htouched hP).imp_left fun hP' => ⟨c', hnext, hP'⟩
  · rw [hnone] at hc
    cases hc
  · exact (hreplaces record hscene hid).imp_left fun hP' => ⟨_, hnext, hP'⟩
  · exact .inr (hdeletes hscene)

lemma edits_hold {scene : Scene} {id : ClusterId} (hflags : ∀ c c', Flags scene id c c' → P c → P c')
    (hreplaces : ∀ record, ¬scene.replaces record) (hdeletes : ¬scene.deletes id) {registry next : Registry}
    (hholds : Holds P registry id) (hedits : Edits scene registry next) : Holds P next id := by
  induction hedits with
  | refl => exact hholds
  | tail _ hedit ih =>
    have hnext := edit_holds (L := False) (fun c c' h hP => .inl (hflags c c' h hP))
      (fun record h => absurd h (hreplaces record)) hdeletes (.inl ih) hedit
    exact hnext.resolve_right fun h => h

/-- A decision about a cluster survives a step that is no action of an operator on it, if the edits
of a registered cluster respect it and an accepted report repeats it. -/
lemma step_holds {s : Coordinator} (hformed : WellFormed s.registry) {event : Event} {id : ClusterId}
    {actions : List AdminAction} (hupsert : .upsertCluster ∈ actions) (hdelete : .deleteCluster ∈ actions)
    (hflags : ∀ c c', Flags (sceneOf s event) id c c' → P c → P c' ∨ ActsOn actions s event id)
    (hreports : ∀ connection message session cluster record, event = .message connection (.reportCluster message) →
      ReportAccepted s connection message session cluster → session.cluster = id →
      record.consentWithdrawn = message.cluster.consentWithdrawn → record.state = message.cluster.state → P record)
    (hholds : Holds P s.registry id) : Holds P (step s event).registry id ∨ ActsOn actions s event id := by
  refine step_keeps (P := fun registry => Holds P registry id ∨ ActsOn actions s event id) hformed (.inl hholds)
    fun registry next _ hP hedit => ?_
  refine edit_holds hflags ?_ ?_ hP hedit
  · rintro record (⟨connection, message, session, cluster, token, observedAt, hevent, haccepted, rfl⟩ |
      ⟨request, cluster, hadmin, haction, hcluster, hid, -⟩) hrecord
    · refine .inl (hreports connection message session cluster _ hevent haccepted ?_ rfl rfl)
      rw [← haccepted.owner]
      exact hrecord
    · refine .inr ⟨request, hadmin, by rw [haction]; exact hupsert, ?_⟩
      rw [subject, if_pos haction, hcluster, Option.map_some, ← hid, hrecord]
  · rintro ⟨request, hadmin, haction, hid⟩
    refine ⟨request, hadmin, by rw [haction]; exact hdelete, ?_⟩
    rw [subject, if_neg (by rw [haction]; decide), hid]

/-- What every step keeps until the operator acts holds along a run until the operator acts. -/
lemma run_holds {s : Coordinator} {events : List Event} {id : ClusterId} {actions : List AdminAction}
    (hstep : ∀ before event after, events = before ++ event :: after → Holds P (run s before).registry id →
      Holds P (step (run s before) event).registry id ∨ ActsOn actions (run s before) event id)
    (hholds : Holds P s.registry id) : Holds P (run s events).registry id ∨ ActedOnIn actions s events id := by
  refine run_induction (P := fun s' => Holds P s'.registry id ∨ ActedOnIn actions s events id) (.inl hholds)
    fun before event after hsplit ih => ?_
  rcases ih with hbefore | hacted
  · refine (hstep before event after hsplit hbefore).imp_right fun hacts => ?_
    exact ⟨before, event, after, hsplit, hacts⟩
  · exact .inr hacted

end Decision

/-! The decisions of an operator. -/

/-- The operator performs the action on the cluster, and it succeeds. -/
def Succeeds (s : Coordinator) (event : Event) (request : AdminMessage) : Prop :=
  Administers s event request ∧ ∃ result, (handleAdmin request s).1 = .ok result

lemma step_admin_registry {s : Coordinator} {event : Event} {request : AdminMessage}
    (h : Administers s event request) : (step s event).registry = (handleAdmin request s).2.registry :=
  (step_admin_kept h).registry

/-- A scene in which nothing is replaced, deleted, cleared or restored. -/
def plainScene (s : Coordinator) (sets : ClusterId → ClusterState → Prop) : Scene :=
  { base := s.registry, term := s.term, incarnation := s.incarnation, sets }

/-- A touched cluster, and whatever follows of edits that respect the decision. -/
lemma touch_holds {P : ClusterRecord → Prop} {s : Coordinator} (sets : ClusterId → ClusterState → Prop)
    {id : ClusterId} {next : ClusterRecord} {p : Op AdminResultMessage}
    (hflags : ∀ c c', Flags (plainScene s sets) id c c' → P c → P c') (hP : P next)
    (hrest : ∀ s', Does (plainScene s sets) p s' fun _ _ => True) :
    Holds P ((do writeCluster id next; p : Op AdminResultMessage) s).2.registry id := by
  have hwrite : writeCluster id next s = (.ok (), { s with registry := setCluster s.registry id next }) := rfl
  rw [Program.bind_ok hwrite]
  refine edits_hold hflags (fun _ h => h) (fun h => h) ?_ (hrest _).related.edits
  exact ⟨next, Std.ExtTreeMap.getElem?_insert_self, hP⟩

def ConsentWithdrawn (cluster : ClusterRecord) : Prop := cluster.consentWithdrawn = true

def NotActive (cluster : ClusterRecord) : Prop := cluster.state ≠ .active

lemma withdrawConsent_holds {s : Coordinator} {event : Event} {request : AdminMessage}
    (h : Succeeds s event request) (haction : request.action = .withdrawConsent) :
    Holds ConsentWithdrawn (step s event).registry request.clusterId := by
  obtain ⟨hadmin, result, hok⟩ := h
  rw [step_admin_registry hadmin]
  have hhandle : handleAdmin request = applyConsentChange request true := by rw [handleAdmin, haction]
  rw [hhandle] at hok ⊢
  unfold applyConsentChange at hok ⊢
  rw [Program.get_bind_run] at hok ⊢
  cases hfind : s.registry.clusters[request.clusterId]? with
  | none =>
    rw [hfind] at hok
    cases hok
  | some cluster =>
    refine touch_holds (fun _ _ => False) (fun c c' hflags hP => ?_) rfl fun s' => ?_
    · rcases hflags.withdrawn with hsame | htrue | hfalse
      · rw [ConsentWithdrawn, hsame]
        exact hP
      · exact htrue
      · exact hfalse.elim
    · refine Steps.bind (Steps.onlyIf (fun _ => fenceCluster_does _ _ _ _ _) fun _ => trivial) fun _ s₂ _ _ => ?_
      refine keeps_bind (logCluster_keeps _) fun _ s₃ _ => ?_
      exact Steps.bind (appendAudit_does _ _ _ _ _) fun _ _ _ _ => Steps.pure trivial

lemma setClusterState_holds {s : Coordinator} {event : Event} {request : AdminMessage}
    (h : Succeeds s event request) (haction : request.action = .setClusterState)
    (hstate : request.clusterState ≠ .active) :
    Holds NotActive (step s event).registry request.clusterId := by
  obtain ⟨hadmin, result, hok⟩ := h
  rw [step_admin_registry hadmin]
  have hhandle : handleAdmin request = setClusterState request := by rw [handleAdmin, haction]
  rw [hhandle] at hok ⊢
  unfold setClusterState at hok ⊢
  rw [Program.get_bind_run] at hok ⊢
  cases hfind : s.registry.clusters[request.clusterId]? with
  | none =>
    rw [hfind] at hok
    cases hok
  | some cluster =>
    refine touch_holds (fun _ state => state ≠ .active) (fun c c' hflags hP => ?_) hstate fun s' => ?_
    · rcases hflags.state with hsame | hset
      · rw [NotActive, hsame]
        exact hP
      · exact hset
    · refine Steps.bind (Steps.onlyIf (fun _ => fenceCluster_does _ _ _ _ _) fun _ => trivial) fun _ s₂ _ _ => ?_
      exact keeps_bind (logCluster_keeps _) fun _ s₃ _ => Steps.pure trivial

/-- The actions that lift a withdrawal, and those that lift a state. -/
def liftsWithdrawal : List AdminAction := [.restoreConsent, .upsertCluster, .deleteCluster]

def liftsState : List AdminAction := [.setClusterState, .upsertCluster, .deleteCluster]

lemma run_withdrawn {s : Coordinator} (hformed : WellFormed s.registry) {events : List Event} {id : ClusterId}
    (hreports : ReportsKeepIn ConsentWithdrawn s events id) (hholds : Holds ConsentWithdrawn s.registry id) :
    Holds ConsentWithdrawn (run s events).registry id ∨ ActedOnIn liftsWithdrawal s events id := by
  refine run_holds (fun before event after hsplit h => ?_) hholds
  refine step_holds (run_wellFormed hformed before) (by decide) (by decide) (fun c c' hflags hP => ?_) ?_ h
  · rcases hflags.withdrawn with hsame | htrue | ⟨request, hadmin, haction, hid⟩
    · exact .inl (hsame.trans hP)
    · exact .inl htrue
    · exact .inr ⟨request, hadmin, by rw [haction]; decide, by rw [subject, if_neg (by rw [haction]; decide), hid]⟩
  · intro connection message session cluster record hevent haccepted hid hwithdrawn _
    exact hwithdrawn.trans (hreports before event after hsplit connection message session cluster hevent haccepted hid)

lemma run_notActive {s : Coordinator} (hformed : WellFormed s.registry) {events : List Event} {id : ClusterId}
    (hreports : ReportsKeepIn NotActive s events id) (hholds : Holds NotActive s.registry id) :
    Holds NotActive (run s events).registry id ∨ ActedOnIn liftsState s events id := by
  refine run_holds (fun before event after hsplit h => ?_) hholds
  refine step_holds (run_wellFormed hformed before) (by decide) (by decide) (fun c c' hflags hP => ?_) ?_ h
  · rcases hflags.state with hsame | ⟨request, hadmin, haction, hid, -⟩
    · exact .inl (by rw [NotActive, hsame]; exact hP)
    · exact .inr ⟨request, hadmin, by rw [haction]; decide, by rw [subject, if_neg (by rw [haction]; decide), hid]⟩
  · intro connection message session cluster record hevent haccepted hid _ hstate
    rw [NotActive, hstate]
    exact hreports before event after hsplit connection message session cluster hevent haccepted hid

/-- After the event the decision holds until the operator acts on the cluster again. -/
def Survives (P : ClusterRecord → Prop) (actions : List AdminAction) (s : Coordinator) (event : Event)
    (after : List Event) (id : ClusterId) : Prop :=
  Holds P (run s (event :: after)).registry id ∨ ActedOnIn actions (step s event) after id

/-- A withdrawal of consent and a state that is not active, once an operator has set them, survive
every run in which the accepted reports of the cluster repeat them. -/
theorem overrides_survive (launch : Launch) (files : Files) (s : Coordinator) (hstarted : Started launch files s)
    (before : List Event) (event : Event) (after : List Event) (request : AdminMessage)
    (hsucceeds : Succeeds (run s before) event request) :
    (request.action = .withdrawConsent →
      ReportsKeepIn ConsentWithdrawn (step (run s before) event) after request.clusterId →
      Survives ConsentWithdrawn liftsWithdrawal (run s before) event after request.clusterId) ∧
    (request.action = .setClusterState → request.clusterState ∈ [.suspended, .draining, .retired] →
      ReportsKeepIn NotActive (step (run s before) event) after request.clusterId →
      Survives NotActive liftsState (run s before) event after request.clusterId) := by
  have hformed := step_wellFormed (started_wellFormed hstarted before) event
  constructor
  · intro haction hreports
    exact run_withdrawn hformed hreports (withdrawConsent_holds hsucceeds haction)
  · intro haction hstate hreports
    have hother : request.clusterState ≠ .active := by
      intro h
      rw [h] at hstate
      exact absurd hstate (by decide)
    exact run_notActive hformed hreports (setClusterState_holds hsucceeds haction hother)

/-! An operator withdraws the consent of a cluster whose agent is connected. -/

lemma succeeds_of_isSome {s : Coordinator} {connection : ℕ} {request : AdminMessage}
    (hmay : mayAdminister s connection = true) (hok : (handleAdmin request s).1.toOption.isSome = true) :
    Succeeds s (.message connection (.admin request)) request := by
  refine ⟨⟨connection, rfl, hmay⟩, ?_⟩
  cases hrun : (handleAdmin request s).1 with
  | ok result => exact ⟨result, rfl⟩
  | error status =>
    rw [hrun] at hok
    cases hok

def withdrawFirst : AdminMessage :=
  { action := .withdrawConsent, clusterId := (sampleParty .first).cluster }

/-- The agent of the first cluster reports its state, with or without the withdrawal. -/
def reportFirst (withdrawn : Bool) : Event :=
  .message (agentOf .first) (.reportCluster {
    session := tokenOf sampleProposed (agentOf .first)
    cluster := { sampleCluster .first with consentWithdrawn := withdrawn } })

lemma withdrawFirst_succeeds : Succeeds (run sampleProcess connectAgents)
    (.message operator (.admin withdrawFirst)) withdrawFirst :=
  succeeds_of_isSome (by decide +kernel) (by decide +kernel)

/-- A report that repeats the withdrawal leaves it. -/
theorem overrides_survive_sample :
    Survives ConsentWithdrawn liftsWithdrawal (run sampleProcess connectAgents)
      (.message operator (.admin withdrawFirst)) [reportFirst true, .tick] (sampleParty .first).cluster := by
  refine (overrides_survive sampleLaunch {} sampleProcess sampleProcess_started connectAgents _
    [reportFirst true, .tick] withdrawFirst withdrawFirst_succeeds).1 rfl ?_
  intro before event after hsplit connection message session cluster hevent _ _
  have hmem : event ∈ [reportFirst true, .tick] := by rw [hsplit]; simp
  subst hevent
  simp only [reportFirst, List.mem_cons, Event.message.injEq, Inbound.reportCluster.injEq, reduceCtorEq,
    List.not_mem_nil, or_false] at hmem
  obtain ⟨-, rfl⟩ := hmem
  rfl

/-- The report an agent sends on every connection drops the withdrawal. -/
theorem report_drops_withdrawal :
    Started sampleLaunch {} sampleProcess ∧
      Succeeds (run sampleProcess connectAgents) (.message operator (.admin withdrawFirst)) withdrawFirst ∧
      ¬Survives ConsentWithdrawn liftsWithdrawal (run sampleProcess connectAgents)
        (.message operator (.admin withdrawFirst)) [reportFirst false] (sampleParty .first).cluster := by
  refine ⟨sampleProcess_started, withdrawFirst_succeeds, ?_⟩
  rintro (⟨cluster, hcluster, hwithdrawn⟩ | ⟨before, event, after, hsplit, request, ⟨connection, hevent, -⟩, -⟩)
  · have hdropped : (run (run sampleProcess connectAgents)
        (.message operator (.admin withdrawFirst) :: [reportFirst false])).registry.clusters[
          (sampleParty .first).cluster]?.map ClusterRecord.consentWithdrawn = some false := by decide +kernel
    rw [hcluster, Option.map_some, Option.some.injEq] at hdropped
    rw [ConsentWithdrawn, hdropped] at hwithdrawn
    cases hwithdrawn
  · have hmem : event ∈ [reportFirst false] := by rw [hsplit]; simp
    rw [List.mem_singleton, hevent] at hmem
    cases hmem

end InterClusterFabric.RuntimeOverrides
