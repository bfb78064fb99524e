import InterClusterFabric.EngineEvidence
import InterClusterFabric.ModelPaths
import InterClusterFabric.RuntimeGrantRequests
import InterClusterFabric.RuntimeInterference

/-! The states of the paths, which are kept beside the links they follow from. Every action that touches a link has to
look at the paths again; the deletion of a link does not, and neither does an action on a link that cannot be logged. -/
namespace InterClusterFabric.RuntimeTopology
open CoreStatus CoreIds CoreTime CoreHash ModelRecords ModelRegistry ModelRegistryLaws EngineDecision EngineDecide
open EngineSoundness EngineEvidence StoreMutation StoreDurable WireMessages RuntimeFencing RuntimeCoordinator RuntimeHandlers
open RuntimeAdmin RuntimeRun RuntimeEdits RuntimeSteps RuntimeStepsHandlers RuntimeStepsAdmin RuntimeFencePlans
open RuntimeStart RuntimeRecovery RuntimeAuthorities RuntimeInterference RuntimeGrantRequests LibraryChecked LibraryOrdMap LibraryProgram
open ModelPaths (recomputePath_up recomputePath_degraded)

/-- Looking at the paths again changes nothing. -/
def Derived (registry : Registry) : Prop := registry.recomputePathStates = registry

/-- No registered path goes over the link. -/
def Unused (registry : Registry) (edge : EdgeId) : Prop := ∀ path ∈ values registry.paths, edge ∉ path.hops

/-- Every link of the path is registered, of a kind this runtime drives, and up or degraded. -/
def Carried (registry : Registry) (path : PathRecord) : Prop :=
  ∀ hop ∈ path.hops, ∃ link, registry.links[hop]? = some link ∧ linkKindSupported link.kind = true ∧
    (link.state = .up ∨ link.state = .degraded)

section Paths

variable {links links' : OrdMap EdgeId LinkRecord} {registry next : Registry}

lemma scanHops_congr {hops : List EdgeId} (h : ∀ hop ∈ hops, links'[hop]? = links[hop]?) (scan : PathScan) :
    scanHops links' hops scan = scanHops links hops scan := by
  induction hops generalizing scan with
  | nil => rfl
  | cons hop rest ih =>
    have hrest := ih fun other hother => h other (List.mem_cons_of_mem _ hother)
    simp only [scanHops, h hop List.mem_cons_self, hrest]

/-- A path depends on its own links only. -/
lemma recomputePath_congr {path : PathRecord} (h : ∀ hop ∈ path.hops, links'[hop]? = links[hop]?) :
    recomputePath links' path = recomputePath links path := by
  rw [recomputePath, recomputePath, scanHops_congr h]

lemma derived_iff : Derived registry ↔ ∀ (id : PathId) path, registry.paths[id]? = some path →
    recomputePath registry.links path = path := by
  constructor
  · intro h id path hfind
    have hpaths : registry.recomputePathStates.paths[id]? = registry.paths[id]? := by rw [h]
    rw [Registry.recomputePathStates, Std.ExtTreeMap.getElem?_map, hfind, Option.map_some, Option.some.injEq] at hpaths
    exact hpaths
  · intro h
    have hpaths : registry.recomputePathStates.paths = registry.paths := by
      refine Std.ExtTreeMap.ext_getElem? fun id => ?_
      rw [Registry.recomputePathStates, Std.ExtTreeMap.getElem?_map]
      cases hfind : registry.paths[id]? with
      | none => rfl
      | some path => rw [Option.map_some, h id path hfind]
    rw [Derived, Registry.recomputePathStates] at *
    exact congrArg (fun paths => { registry with paths }) hpaths

/-- Links and paths are all that matters. -/
lemma derived_of_same (h : Derived registry) (hlinks : next.links = registry.links)
    (hpaths : next.paths = registry.paths) : Derived next := by
  rw [derived_iff] at h ⊢
  rw [hlinks, hpaths]
  exact h

lemma recomputePath_twice (path : PathRecord) : recomputePath links (recomputePath links path) =
    recomputePath links path := rfl

lemma derived_recompute (registry : Registry) : Derived registry.recomputePathStates := by
  refine derived_iff.mpr fun id path hfind => ?_
  rw [Registry.recomputePathStates, Std.ExtTreeMap.getElem?_map] at hfind
  obtain ⟨old, -, rfl⟩ := Option.map_eq_some_iff.mp hfind
  exact recomputePath_twice old

/-- A link on no path may be changed or removed. -/
lemma derived_of_unused (h : Derived registry) {edge : EdgeId} (hunused : Unused registry edge)
    (hlinks : ∀ other, other ≠ edge → next.links[other]? = registry.links[other]?)
    (hpaths : next.paths = registry.paths) : Derived next := by
  rw [derived_iff] at h ⊢
  rw [hpaths]
  intro id path hfind
  have hmem : path ∈ values registry.paths := mem_values.mpr ⟨id, hfind⟩
  rw [recomputePath_congr fun hop hhop => hlinks hop ?_]
  · exact h id path hfind
  · rintro rfl
    exact hunused path hmem hhop

/-- A path that is derived and usable is carried. -/
lemma carried_of_usable (h : Derived registry) {id : PathId} {path : PathRecord}
    (hfind : registry.paths[id]? = some path) (hstate : path.state = .up ∨ path.state = .degraded) :
    Carried registry path := by
  have hpath := derived_iff.mp h id path hfind
  rw [← hpath] at hstate
  rcases hstate with hup | hdegraded
  · intro hop hhop
    obtain ⟨link, hlink, hkind, hlively⟩ := recomputePath_up.mp hup hop hhop
    exact ⟨link, hlink, hkind, .inl hlively⟩
  · exact (recomputePath_degraded.mp hdegraded).1

end Paths

/-! Decisions. -/

section Decisions

variable {registry : Registry} {query : DecisionQuery} {view : EngineView}

/-- The authorization rests on a path whose links are there and not down, and so are those of every path it names. -/
def OverCarried (registry : Registry) (query : DecisionQuery) (decision : Decision) : Prop :=
  (∃ path ∈ values registry.paths, path.joins query.source query.target = true ∧ Carried registry path) ∧
    ∀ id ∈ decision.paths, ∃ path, registry.paths[id]? = some path ∧ Carried registry path

lemma overCarried_of_authorized (hformed : WellFormed registry) (hderived : Derived registry)
    (h : (EngineDecide.decide registry query view).authorized = true) :
    OverCarried registry query (EngineDecide.decide registry query view) := by
  obtain ⟨cleared, trial, hclear, -, hconclude⟩ := chain_of_authorized h
  have hpaths := (clear_eq_ok.mp hclear).2.2.2.2.2.2.2.2.2.2.2.1
  obtain ⟨hnamed, -⟩ := conclude_evidence hconclude
  obtain ⟨listed, hlisted, hlive, -⟩ := evaluatePaths_lists hpaths
  constructor
  · have husable : ∃ path, JoiningPath registry query.source query.target path ∧
        (path.state = .up ∨ path.state = .degraded) := by
      rcases evaluatePaths_eq_ok hpaths with ⟨-, path, hjoins, hup⟩ | ⟨-, -, path, hjoins, hdegraded⟩
      · exact ⟨path, hjoins, .inl hup⟩
      · exact ⟨path, hjoins, .inr hdegraded⟩
    obtain ⟨path, ⟨hmem, hjoins, -⟩, hstate⟩ := husable
    obtain ⟨id, hfind⟩ := mem_values.mp hmem
    exact ⟨path, hmem, hjoins, carried_of_usable hderived hfind hstate⟩
  · intro id hid
    rw [hnamed, hlisted] at hid
    obtain ⟨path, hpath, rfl⟩ := List.mem_map.mp hid
    obtain ⟨⟨hmem, -⟩, hup⟩ := hlive path hpath
    obtain ⟨key, hfind⟩ := mem_values.mp hmem
    have hkey := (find_path hformed hfind).1
    exact ⟨path, by rw [hkey]; exact hfind, carried_of_usable hderived hfind (.inl hup)⟩

end Decisions

/-! Steps that leave links and paths alone. -/

/-- The links and the paths are as they were. -/
def Wired (s s' : Coordinator) : Prop :=
  s'.registry.links = s.registry.links ∧ s'.registry.paths = s.registry.paths

instance : Std.Refl Wired := ⟨fun _ => ⟨rfl, rfl⟩⟩

instance : IsTrans Coordinator Wired := ⟨fun _ _ _ h h' => ⟨h'.1.trans h.1, h'.2.trans h.2⟩⟩

lemma Wired.derived {s s' : Coordinator} (h : Wired s s') (hderived : Derived s.registry) : Derived s'.registry :=
  derived_of_same hderived h.1 h.2

lemma wired_of_registry {s s' : Coordinator} (h : s'.registry = s.registry) : Wired s s' := by
  rw [Wired, h]
  exact ⟨rfl, rfl⟩

lemma wired_of_keeps {α : Type} {p : Op α} {s : Coordinator} {Q : α → Coordinator → Prop} (h : Steps Kept p s Q) :
    Steps Wired p s fun _ _ => True :=
  ⟨wired_of_registry h.related.registry, fun _ _ => trivial⟩

lemma appendAudit_wired {s : Coordinator} (actor action : String) (subject : Bytes) (outcome : Outcome)
    (detail : Bytes) :
    Steps Wired (RuntimeCoordinator.appendAudit actor action subject outcome detail) s fun _ _ => True := by
  have hrecords := (appendAudit_records (s := s) actor action subject outcome detail).related
  obtain ⟨audit, htrail⟩ := hrecords.trail
  constructor
  · rw [Wired, htrail]
    exact ⟨rfl, rfl⟩
  · exact fun _ _ => trivial

lemma edit_wired {scene : Scene} {registry next : Registry} (hscene : ¬scene.rewires)
    (h : Edit scene registry next) : next.links = registry.links ∧ next.paths = registry.paths := by
  cases h with
  | audit record hok =>
    obtain ⟨-, -, rfl⟩ := appendAudit_eq_ok.mp hok
    exact ⟨rfl, rfl⟩
  | grant _ _ _ _ _ => exact ⟨rfl, rfl⟩
  | issue _ _ _ _ hok =>
    obtain ⟨-, -, rfl⟩ := putGrant_eq_ok.mp hok
    exact ⟨rfl, rfl⟩
  | contract _ _ _ _ _ _ _ _ => exact ⟨rfl, rfl⟩
  | propose _ _ _ hok =>
    obtain ⟨-, -, rfl⟩ := putContract_eq_ok.mp hok
    exact ⟨rfl, rfl⟩
  | touch _ _ _ _ _ => exact ⟨rfl, rfl⟩
  | replace _ _ hok =>
    obtain ⟨-, -, rfl⟩ := putCluster_eq_ok.mp hok
    exact ⟨rfl, rfl⟩
  | eraseCluster _ _ hok =>
    obtain ⟨-, hok⟩ := rejectIf_bind_eq_ok.mp hok
    cases hok
    exact ⟨rfl, rfl⟩
  | topology _ _ _ _ _ _ hwires =>
    rcases hwires with hrewires | hsame
    · exact absurd hrewires hscene
    · exact hsame
  | reserve _ _ _ _ _ hok =>
    obtain ⟨-, -, rfl⟩ := putReservation_eq_ok.mp hok
    exact ⟨rfl, rfl⟩
  | leak _ _ _ _ _ _ => exact ⟨rfl, rfl⟩
  | release _ reservation now outcome _ =>
    unfold releaseReservation
    split
    · exact ⟨rfl, rfl⟩
    · dsimp only [returnToClusters]
      split <;> exact ⟨rfl, rfl⟩

/-- Only reports and actions on links and paths touch them. -/
lemma step_wired {s : Coordinator} {event : Event} (hformed : WellFormed s.registry)
    (h : ¬(sceneOf s event).rewires) : Wired s (step s event) := by
  refine step_keeps (P := fun registry => registry.links = s.registry.links ∧ registry.paths = s.registry.paths)
    hformed ⟨rfl, rfl⟩ fun registry next _ hsame hedit => ?_
  obtain ⟨hlinks, hpaths⟩ := edit_wired h hedit
  exact ⟨hlinks.trans hsame.1, hpaths.trans hsame.2⟩

/-! Steps that do not. -/

section Actions

variable {s : Coordinator} {request : AdminMessage}

/-- A report looks at the paths again, if it changes anything. -/
lemma report_derived (hformed : WellFormed s.registry) (hderived : Derived s.registry) (connection : ℕ)
    (message : ReportClusterMessage) :
    Derived (step s (.message connection (.reportCluster message))).registry := by
  set voice : Voice := ⟨message.cluster.id, fun _ => True, True⟩
  have hsteps : Steps (Hushed voice) (onReportCluster connection message) s fun _ _ => True :=
    onReportCluster_hushed hformed connection rfl (fun _ _ => trivial) trivial
  obtain ⟨-, hapart⟩ := hsteps.related hformed
  rcases hapart.paths with hsame | ⟨-, hrecomputed⟩
  · exact derived_of_same hderived hapart.links hsame
  · exact derived_of_same (derived_recompute s.registry) hapart.links hrecomputed

/-- The paths are looked at again if the log takes the record of a changed link; if it does not, the link had better be
on none of them. -/
lemma logged_derived {α : Type} {registry : Registry} {edge : EdgeId} {mutation : Mutation} {rest : Op α}
    (hderived : Derived registry) (hlinks : ∀ other, other ≠ edge → s.registry.links[other]? = registry.links[other]?)
    (hpaths : s.registry.paths = registry.paths)
    (hlogged : Unused registry edge ∨ (appendMutation mutation s).1 = .ok ())
    (hrest : ∀ s', Steps Wired rest s' fun _ _ => True) :
    Derived ((do appendMutation mutation; recomputePaths; rest : Op α) s).2.registry := by
  obtain ⟨store, files, failures, hframe⟩ := appendMutation_frame mutation s
  have hregistry : (appendMutation mutation s).2.registry = s.registry := by rw [hframe]
  cases hrun : appendMutation mutation s with
  | mk result s₁ =>
    rw [hrun] at hregistry hlogged
    cases result with
    | error status =>
      rw [Program.bind_error hrun]
      have hunused : Unused registry edge := by
        rcases hlogged with hunused | hok
        · exact hunused
        · cases hok
      refine derived_of_unused hderived hunused ?_ ?_
      · rw [hregistry]
        exact hlinks
      · rw [hregistry]
        exact hpaths
    | ok u =>
      rw [Program.bind_ok hrun]
      exact (hrest { s₁ with registry := s₁.registry.recomputePathStates }).related.derived
        (derived_recompute s₁.registry)

lemma logged_wired {α : Type} (mutation : Mutation) {rest : Op α}
    (hrest : ∀ s', Steps Wired rest s' fun _ _ => True) :
    Steps Wired (do appendMutation mutation; rest) s fun _ _ => True := by
  obtain ⟨store, files, failures, hframe⟩ := appendMutation_frame mutation s
  have happend : Steps Wired (appendMutation mutation) s fun _ _ => True :=
    ⟨wired_of_registry (by rw [hframe]), fun _ _ => trivial⟩
  exact Steps.bind happend fun _ s' _ _ => hrest s'

/-- The record that `upsert-link` stores. -/
def configuredLink (s : Coordinator) (record : LinkRecord) : LinkRecord :=
  { record with
    revision := ⟨UInt64.ofNat s.registry.links.size⟩
    provenance := configured record.provenance .adminConfigured (s.moments s.index).now
    state := if record.state = .unknown ∧ record.kind = .syntheticModel then .up else record.state }

/-- The record that `set-link-state` stores. -/
def switchedLink (s : Coordinator) (request : AdminMessage) (link : LinkRecord) : LinkRecord :=
  { link with
    state := request.linkState, provenance := { link.provenance with observedAt := (s.moments s.index).now } }

/-- The log takes the record of the link, when it is asked to after the clock. -/
def LinkLogged (s : Coordinator) (record : LinkRecord) : Prop :=
  s.store.wal.admits .mutation (encodeMutation (.linkPut record)) = .ok () ∧ (s.moments (s.index + 1)).append = none

lemma now_run (s : Coordinator) : now s = (.ok (s.moments s.index).now, { s with index := s.index + 1 }) := rfl

lemma append_of_logged {record : LinkRecord} (h : LinkLogged s record) (registry : Registry) :
    (appendMutation (.linkPut record) { s with index := s.index + 1, registry }).1 = .ok () :=
  appendMutation_ok_iff.mpr h

lemma upsertLink_derived (hderived : Derived s.registry)
    (hsafe : ∀ record, request.link = some record →
      Unused s.registry record.id ∨ LinkLogged s (configuredLink s record)) :
    Derived (upsertLink request s).2.registry := by
  unfold upsertLink
  cases hlink : request.link with
  | none => exact hderived
  | some record =>
    simp only
    rw [Program.get_bind_run, Program.bind_ok (now_run s)]
    split
    · exact hderived
    · cases hput : s.registry.putLink (configuredLink s record) with
      | error status =>
        rw [Program.bind_error (onRegistry_error hput)]
        exact hderived
      | ok next =>
        rw [Program.bind_ok (onRegistry_ok hput)]
        obtain ⟨-, -, rfl⟩ := putLink_eq_ok.mp hput
        apply logged_derived hderived
        · intro other hother
          exact (getElem?_insert_eq _ _ _ _).trans (if_neg hother)
        · rfl
        · rcases hsafe record hlink with hunused | hlogged
          · exact .inl hunused
          · exact .inr (append_of_logged hlogged _)
        · intro s'
          exact Steps.bind (appendAudit_wired _ _ _ _ _) fun _ _ _ _ => Steps.pure trivial

lemma setLinkState_derived (hderived : Derived s.registry)
    (hsafe : ∀ link, s.registry.links[request.edge]? = some link →
      Unused s.registry request.edge ∨ LinkLogged s (switchedLink s request link)) :
    Derived (setLinkState request s).2.registry := by
  unfold setLinkState
  rw [Program.get_bind_run]
  cases hlink : s.registry.links[request.edge]? with
  | none => exact hderived
  | some link =>
    simp only
    rw [Program.bind_ok (now_run s), writeLink, Program.modify_bind_run]
    apply logged_derived hderived
    · intro other hother
      exact (getElem?_insert_eq _ _ _ _).trans (if_neg hother)
    · rfl
    · rcases hsafe link hlink with hunused | hlogged
      · exact .inl hunused
      · exact .inr (append_of_logged hlogged _)
    · intro s'
      refine Steps.get_bind (Steps.bind (wired_of_keeps (logEach_keeps fun _ hpath => mem_values.mp hpath)) ?_)
      exact fun _ _ _ _ => Steps.pure trivial

lemma deleteLink_derived (hderived : Derived s.registry) (hunused : Unused s.registry request.edge) :
    Derived (deleteLink request s).2.registry := by
  unfold deleteLink
  cases herase : s.registry.eraseLink request.edge with
  | error status =>
    rw [Program.bind_error (onRegistry_error herase)]
    exact hderived
  | ok next =>
    rw [Program.bind_ok (onRegistry_ok herase)]
    obtain ⟨-, hok⟩ := rejectIf_bind_eq_ok.mp herase
    cases hok
    have hnext : Derived { s.registry with links := s.registry.links.erase request.edge } := by
      apply derived_of_unused hderived hunused
      · intro other hother
        exact (getElem?_erase_eq _ _ _).trans (if_neg hother)
      · rfl
    exact (logged_wired _ fun _ => Steps.pure trivial).related.derived hnext

lemma upsertPath_derived (hderived : Derived s.registry) : Derived (upsertPath request s).2.registry := by
  unfold upsertPath
  cases request.path with
  | none => exact hderived
  | some record =>
    simp only
    rw [Program.get_bind_run, Program.bind_ok (now_run s)]
    set stored : PathRecord := { record with
      revision := ⟨UInt64.ofNat s.registry.paths.size⟩
      provenance := configured record.provenance .derivedFromTopology (s.moments s.index).now }
    cases hput : s.registry.putPath stored with
    | error status =>
      rw [Program.bind_error (onRegistry_error hput)]
      exact hderived
    | ok next =>
      rw [Program.bind_ok (onRegistry_ok hput), recomputePaths, Program.modify_bind_run, Program.get_bind_run]
      have hrest (s' : Coordinator) : Steps Wired (do
          Program.forEach s'.registry.paths[stored.id]?.toList fun path => appendMutation (.pathPut path)
          return { outcome := .ok } : Op AdminResultMessage) s' fun _ _ => True := by
        refine Steps.bind (wired_of_keeps (logEach_keeps fun path hpath => ?_)) fun _ _ _ _ => Steps.pure trivial
        exact ⟨_, by simpa using hpath⟩
      exact (hrest _).related.derived (derived_recompute next)

lemma deletePath_derived (hderived : Derived s.registry) : Derived (deletePath request s).2.registry := by
  unfold deletePath
  cases herase : s.registry.erasePath (pathOfEdge request.edge) with
  | error status =>
    rw [Program.bind_error (onRegistry_error herase)]
    exact hderived
  | ok next =>
    rw [Program.bind_ok (onRegistry_ok herase)]
    obtain ⟨-, hok⟩ := rejectIf_bind_eq_ok.mp herase
    cases hok
    have hnext : Derived { s.registry with paths := s.registry.paths.erase (pathOfEdge request.edge) } := by
      refine derived_iff.mpr fun id path hfind => ?_
      rw [getElem?_erase_eq] at hfind
      split at hfind
      · cases hfind
      · exact derived_iff.mp hderived id path hfind
    exact (logged_wired _ fun _ => Steps.pure trivial).related.derived hnext

end Actions

/-! Runs. -/

/-- A performed action does not delete a link that is on a path, nor does it change such a link without being able to
log it. -/
def Careful (s : Coordinator) (event : Event) : Prop := ∀ request, Administers s event request →
  (request.action = .deleteLink → Unused s.registry request.edge) ∧
  (request.action = .upsertLink → ∀ record, request.link = some record →
    Unused s.registry record.id ∨ LinkLogged s (configuredLink s record)) ∧
  (request.action = .setLinkState → ∀ link, s.registry.links[request.edge]? = some link →
    Unused s.registry request.edge ∨ LinkLogged s (switchedLink s request link))

lemma step_derived {s : Coordinator} {event : Event} (hformed : WellFormed s.registry) (hderived : Derived s.registry)
    (hcareful : Careful s event) : Derived (step s event).registry := by
  by_cases hrewires : (sceneOf s event).rewires
  · rcases hrewires with ⟨request, hadmin, haction⟩ | ⟨connection, message, rfl⟩
    · obtain ⟨hdelete, hupsert, hset⟩ := hcareful request hadmin
      rw [(step_admin_kept hadmin).registry]
      unfold handleAdmin
      cases hcase : request.action with
      | upsertLink => exact upsertLink_derived hderived (hupsert hcase)
      | setLinkState => exact setLinkState_derived hderived (hset hcase)
      | deleteLink => exact deleteLink_derived hderived (hdelete hcase)
      | upsertPath => exact upsertPath_derived hderived
      | deletePath => exact deletePath_derived hderived
      | _ =>
        rw [hcase] at haction
        cases haction
    · exact report_derived hformed hderived connection message
  · exact (step_wired hformed hrewires).derived hderived

/-- While no action deletes a link of a path, or changes one it cannot log, the states of the paths are those of their
links, and no decision authorizes over a link that is gone or down. -/
theorem paths_stay_derived (launch : Launch) (files : Files) (s : Coordinator) (hstart : Started launch files s)
    (hderived : Derived s.registry) (events : List Event) (hcareful : EachStep Careful s events) :
    Derived (run s events).registry ∧
      ∀ query view, (EngineDecide.decide (run s events).registry query view).authorized = true →
        OverCarried (run s events).registry query (EngineDecide.decide (run s events).registry query view) := by
  have hboth : WellFormed (run s events).registry ∧ Derived (run s events).registry := by
    refine run_induction (P := fun s => WellFormed s.registry ∧ Derived s.registry)
      ⟨started_wellFormed hstart [], hderived⟩ fun before event after heq hP => ?_
    exact ⟨step_wellFormed hP.1 event, step_derived hP.1 hP.2 (hcareful before event after heq)⟩
  exact ⟨hboth.2, fun query view h => overCarried_of_authorized hboth.1 hboth.2 h⟩

/-! The sample run again. Its path is up over one link. -/

def sampleEdge : EdgeId := sampleName .edge "e1" e1_accepted

def deleteSampleLink : Event := .message operator (.admin { action := .deleteLink, edge := sampleEdge })

lemma derived_of_no_paths {registry : Registry} (h : values registry.paths = []) : Derived registry := by
  refine derived_iff.mpr fun id path hfind => ?_
  have hmem : path ∈ values registry.paths := mem_values.mpr ⟨id, hfind⟩
  rw [h] at hmem
  cases hmem

lemma unused_of_no_paths {registry : Registry} (h : values registry.paths = []) (edge : EdgeId) :
    Unused registry edge := by
  intro path hmem
  rw [h] at hmem
  cases hmem

/-- Before any path is registered, every action on links is careful. -/
lemma careful_of_no_paths {s : Coordinator} (h : values s.registry.paths = []) (event : Event) : Careful s event := by
  intro request _
  exact ⟨fun _ => unused_of_no_paths h _, fun _ _ _ => .inl (unused_of_no_paths h _),
    fun _ _ _ => .inl (unused_of_no_paths h _)⟩

/-- An action on anything but links is careful. -/
lemma careful_of_other {s : Coordinator} {event : Event}
    (h : ∀ connection request, event = .message connection (.admin request) →
      request.action ∉ [AdminAction.deleteLink, .upsertLink, .setLinkState]) : Careful s event := by
  rintro request ⟨connection, hevent, -⟩
  have hother := h connection request hevent
  simp only [List.mem_cons, List.not_mem_nil, or_false, not_or] at hother
  exact ⟨fun hdelete => absurd hdelete hother.1, fun hupsert => absurd hupsert hother.2.1,
    fun hset => absurd hset hother.2.2⟩

/-- What the sample run comes to, evaluated at once: before its link is registered it has no path, and deleting the
link leaves its path up. -/
lemma traffic_facts :
    values (run sampleProcess (agree ++ [issueGrant] ++ commitBoth ++ allowTraffic.take 2)).registry.paths = [] ∧
    (deleteLink { action := .deleteLink, edge := sampleEdge } (run sampleProcess traffic)).1.isOk = true ∧
      values (run sampleProcess (traffic ++ [deleteSampleLink])).registry.recomputePathStates.paths ≠
        values (run sampleProcess (traffic ++ [deleteSampleLink])).registry.paths ∧
      (decided (traffic ++ [deleteSampleLink])).authorized = true ∧
      values (run sampleProcess (traffic ++ [deleteSampleLink])).registry.links = [] ∧
      ∀ path ∈ values (run sampleProcess (traffic ++ [deleteSampleLink])).registry.paths, path.hops = [sampleEdge] := by
  rw [run_commit, decided, run_append, traffic_run]
  decide +kernel

lemma sampleProcess_no_paths : values sampleProcess.registry.paths = [] := by decide +kernel

lemma traffic_careful : EachStep Careful sampleProcess traffic := by
  have hcommit : EachStep Careful sampleProcess (agree ++ [issueGrant] ++ commitBoth ++ allowTraffic.take 2) := by
    refine eachStep_of_mem fun event hevent s => careful_of_other fun connection request hrequest => ?_
    simp only [agree, connectAgents, commitBoth, allowTraffic, List.take_succ_cons, List.take_zero, List.cons_append,
      List.nil_append, List.mem_cons, List.not_mem_nil, or_false] at hevent
    rcases hevent with rfl | rfl | rfl | rfl | rfl | rfl | rfl | rfl | rfl | rfl | rfl | rfl | rfl | rfl <;>
      cases hrequest <;> simp
  show EachStep Careful sampleProcess (agree ++ [issueGrant] ++ commitBoth ++ (allowTraffic.take 2 ++ [_] ++ [_]))
  rw [← List.append_assoc, ← List.append_assoc]
  refine eachStep_snoc (eachStep_snoc hcommit (careful_of_no_paths traffic_facts.1 _)) (careful_of_other ?_)
  intro connection request hrequest
  cases hrequest
  simp

/-- At the end of the sample run the query is authorized over a link that is there. -/
theorem paths_stay_derived_sample :
    (decided traffic).authorized = true ∧ Derived (run sampleProcess traffic).registry ∧
      OverCarried (run sampleProcess traffic).registry sampleQuery (decided traffic) := by
  obtain ⟨hderived, hcarried⟩ := paths_stay_derived sampleLaunch {} sampleProcess sampleProcess_started
    (derived_of_no_paths sampleProcess_no_paths) traffic traffic_careful
  exact ⟨traffic_authorized, hderived, hcarried sampleQuery _ traffic_authorized⟩

/-- Once its only link is deleted, with success, the path is still up and the query still authorized over it. -/
theorem deleted_link_authorizes :
    Started sampleLaunch {} sampleProcess ∧ Derived sampleProcess.registry ∧
      (deleteLink { action := .deleteLink, edge := sampleEdge } (run sampleProcess traffic)).1.isOk = true ∧
      ¬Derived (run sampleProcess (traffic ++ [deleteSampleLink])).registry ∧
      (decided (traffic ++ [deleteSampleLink])).authorized = true ∧
      ¬OverCarried (run sampleProcess (traffic ++ [deleteSampleLink])).registry sampleQuery
        (decided (traffic ++ [deleteSampleLink])) := by
  obtain ⟨-, hok, hchanged, hauthorized, hlinks, hhops⟩ := traffic_facts
  refine ⟨sampleProcess_started, derived_of_no_paths sampleProcess_no_paths, hok,
    fun hderived => hchanged (by rw [hderived]), hauthorized, fun hcarried => ?_⟩
  obtain ⟨path, hmem, -, hpath⟩ := hcarried.1
  obtain ⟨link, hlink, -⟩ := hpath sampleEdge (by rw [hhops path hmem]; exact List.mem_singleton_self _)
  have hgone : link ∈ values (run sampleProcess (traffic ++ [deleteSampleLink])).registry.links :=
    mem_values.mpr ⟨sampleEdge, hlink⟩
  rw [hlinks] at hgone
  cases hgone

end InterClusterFabric.RuntimeTopology
