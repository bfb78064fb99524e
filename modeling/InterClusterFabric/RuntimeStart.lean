import InterClusterFabric.EngineSoundness
import InterClusterFabric.RuntimeFencePlans
import InterClusterFabric.StoreCompaction

/-! What a coordinator that has started holds: the recovered registry, fenced, under a new term and
incarnation, with no session and no flow in progress. -/
namespace InterClusterFabric.RuntimeStart
open CoreStatus CoreIds CoreTime CoreHash ModelRecords ModelRegistry ModelRegistryLaws EngineDecision
open RuntimeFencing StoreMutation StoreReplay StoreRecovery StoreCompaction WireMessages
open RuntimeCoordinator RuntimeHandlers RuntimeAdmin RuntimeRun RuntimeEdits RuntimeSteps RuntimeStepsHandlers
open EngineSoundness RuntimeStepsAdmin RuntimeFencePlans LibraryChecked LibraryOrdMap LibraryProgram Relation
open StoreDurable hiding loadState

/-- The trail may have grown, and nothing else of the registry has changed. -/
structure Recorded (s s' : Coordinator) : Prop extends Settled s s' where
  trail : ∃ audit, s'.registry = { s.registry with audit }
  sessions : s'.sessions = s.sessions
  pending : s'.pending = s.pending

instance : Std.Refl Recorded := ⟨fun s => ⟨.refl s, ⟨s.registry.audit, rfl⟩, rfl, rfl⟩⟩

instance : IsTrans Coordinator Recorded where
  trans _ _ _ h h' := by
    obtain ⟨trail, htrail⟩ := h.trail
    obtain ⟨trail', htrail'⟩ := h'.trail
    exact ⟨h.toSettled.trans h'.toSettled, ⟨trail', by rw [htrail', htrail]⟩, h'.sessions.trans h.sessions,
      h'.pending.trans h.pending⟩

/-- Moreover nothing was sent. -/
structure Noted (s s' : Coordinator) : Prop extends Recorded s s' where
  outbox : s'.outbox = s.outbox

instance : Std.Refl Noted := ⟨fun s => ⟨Std.Refl.refl s, rfl⟩⟩

instance : IsTrans Coordinator Noted where
  trans _ _ _ h h' := ⟨IsTrans.trans _ _ _ h.toRecorded h'.toRecorded, h'.outbox.trans h.outbox⟩

lemma Kept.recorded {s s' : Coordinator} (h : Kept s s') : Recorded s s' :=
  ⟨h.toSettled, ⟨s.registry.audit, by rw [h.registry]⟩, h.sessions, h.pending⟩

lemma recorded_of_keeps {α : Type} {p : Op α} {s : Coordinator} (h : Steps Kept p s fun _ _ => True) :
    Steps Recorded p s fun _ _ => True :=
  (h.weaken fun _ => Kept.recorded).mono fun _ _ _ => trivial

section Notes

variable {s : Coordinator}

lemma moment_notes : Steps Noted moment s fun m _ => m = s.moments s.index :=
  ⟨⟨Kept.recorded moment_keeps.related, rfl⟩, fun m hm => (moment_keeps.returns m hm).1⟩

lemma now_notes : Steps Noted now s fun _ _ => True := moment_notes.bind fun _ _ _ _ => Steps.pure trivial

lemma random_notes : Steps Noted random s fun _ _ => True := moment_notes.bind fun _ _ _ _ => Steps.pure trivial

/-- Whatever is logged, only the store changes. -/
lemma appendMutation_notes (mutation : Mutation) : Steps Noted (appendMutation mutation) s fun _ _ => True := by
  refine moment_notes.bind fun m s₁ _ _ => ⟨?_, fun _ _ => trivial⟩
  rw [onStore_state]
  exact ⟨⟨⟨rfl, rfl, rfl, rfl, rfl, le_rfl⟩, ⟨_, rfl⟩, rfl, rfl⟩, rfl⟩

lemma appendAudit_notes (actor action : String) (subject : Bytes) (outcome : Outcome) (detail : Bytes) :
    Steps Noted (RuntimeCoordinator.appendAudit actor action subject outcome detail) s fun _ _ => True := by
  refine now_notes.bind fun t s₁ _ _ => Steps.get_bind ?_
  split
  · exact Steps.pure trivial
  refine Steps.bind (P := fun _ _ => True) (Steps.focus (S := fun r r' => ∃ audit, r' = { r with audit })
    (P := fun _ _ => True) ⟨?_, fun _ _ => trivial⟩ (fun registry hregistry => ?_) fun _ _ _ _ => trivial)
    fun _ s₂ _ _ => ?_
  · show ∃ audit, (RuntimeFencing.appendAudit _ _ _ _ _ _ s₁.registry).2 = { s₁.registry with audit }
    unfold RuntimeFencing.appendAudit Program.update
    split
    · rename_i next hok
      obtain ⟨-, -, rfl⟩ := appendAudit_eq_ok.mp hok
      exact ⟨_, rfl⟩
    · exact ⟨s₁.registry.audit, rfl⟩
  · exact ⟨⟨⟨rfl, rfl, rfl, rfl, rfl, le_rfl⟩, hregistry, rfl, rfl⟩, rfl⟩
  · exact Steps.get_bind ((Steps.forEach (I := fun _ => True) trivial fun _ _ _ _ _ => appendMutation_notes _).mono
      fun _ _ _ => trivial)

/-- Whatever is sent, only the queues change. -/
lemma send_records (connection : ℕ) (message : Outbound) : Steps Recorded (send connection message) s fun _ _ => True := by
  unfold send
  split
  · exact Steps.pure trivial
  refine Steps.bind (recorded_of_keeps (moment_keeps.mono fun _ _ _ => trivial)) fun m s₁ _ _ => ?_
  split
  · exact Steps.pure trivial
  · exact Steps.throw
  · exact Steps.modify ⟨⟨rfl, rfl, rfl, rfl, rfl, le_rfl⟩, ⟨_, rfl⟩, rfl, rfl⟩ trivial

lemma appendMutation_records (mutation : Mutation) : Steps Recorded (appendMutation mutation) s fun _ _ => True :=
  ((appendMutation_notes mutation).weaken fun _ => Noted.toRecorded).mono fun _ _ _ => trivial

lemma appendAudit_records (actor action : String) (subject : Bytes) (outcome : Outcome) (detail : Bytes) :
    Steps Recorded (RuntimeCoordinator.appendAudit actor action subject outcome detail) s fun _ _ => True :=
  ((appendAudit_notes actor action subject outcome detail).weaken fun _ => Noted.toRecorded).mono fun _ _ _ => trivial

end Notes

/-- Nothing dynamic is in use. -/
structure Dormant (registry : Registry) : Prop where
  grants : ∀ (id : GrantId) g, registry.grants[id]? = some g → isTerminal g.state = true
  reservations : ∀ (id : ReservationId) r, registry.reservations[id]? = some r → r.released = true

lemma dormant_empty : Dormant {} where
  grants id g h := by simp at h
  reservations id r h := by simp at h

lemma Dormant.of_trail {registry : Registry} (h : Dormant registry) (audit : List AuditRecord) :
    Dormant { registry with audit } := ⟨h.grants, h.reservations⟩

lemma terminal_of_gone {state : GrantState} (h : GrantGone state) : isTerminal state = true := by
  rcases h with rfl | rfl | rfl <;> rfl

/-- The plan of a recovery names every grant and every reservation that is still in use. -/
lemma dormant_of_recoveryPlan {registry next : Registry} (hformed : WellFormed registry)
    {previous : IncarnationId} {term : Term} {now : Timestamp}
    (hfences : Fences (recoveryPlan registry previous term).trigger now registry next)
    (hdone : ∀ action ∈ (recoveryPlan registry previous term).actions, Done next action) : Dormant next where
  grants id g hg := by
    rcases hfences.grants id with hsame | ⟨old, -, -, hnext⟩
    · rw [hsame] at hg
      by_cases hterminal : isTerminal g.state = true
      · exact hterminal
      · have haction : ({ target := .grant, grant := g.id, contract := g.contract
                          reason := .evidenceRecoveredFromStore } : FenceAction) ∈
            (recoveryPlan registry previous term).actions := by
          refine List.mem_append_left _ (List.mem_map.mpr ⟨g, List.mem_filter.mpr ⟨?_, ?_⟩, rfl⟩)
          · exact mem_values.mpr ⟨id, hg⟩
          · simpa using hterminal
        have hid := (find_grant hformed hg).1
        refine terminal_of_gone (hdone _ haction g ?_)
        rw [← hsame] at hg
        rw [hid]
        exact hg
    · rw [hnext] at hg
      cases hg
      rfl
  reservations id r hr := by
    rcases hfences.reservations id with hsame | ⟨old, -, -, hnext⟩
    · rw [hsame] at hr
      by_cases hreleased : r.released = true
      · exact hreleased
      · have haction : ({ target := .reservation, grant := r.grant, reservation := r.id
                          reason := .evidenceRecoveredFromStore } : FenceAction) ∈
            (recoveryPlan registry previous term).actions := by
          refine List.mem_append_right _ (List.mem_map.mpr ⟨r, List.mem_filter.mpr ⟨?_, ?_⟩, rfl⟩)
          · exact mem_values.mpr ⟨id, hr⟩
          · simpa using hreleased
        have hid := (find_reservation hformed hr).1
        refine hdone _ haction r ?_
        rw [← hsame] at hr
        rw [hid]
        exact hr
    · rw [hnext] at hr
      cases hr
      rfl

/-! The steps of a start. -/

/-- A scene that is about no grant and no cluster. -/
def quiet : Scene where
  base := {}
  term := ⟨0⟩
  incarnation := ⟨0⟩

/-- The recovered records may have been fenced and the trail extended. -/
structure Rising (now : Timestamp) (s s' : Coordinator) : Prop extends Within quiet s s' where
  fences : Fences .coordinatorReincarnation now s.registry s'.registry
  sessions : s'.sessions = s.sessions
  pending : s'.pending = s.pending

instance (now : Timestamp) : Std.Refl (Rising now) := ⟨fun s => ⟨Std.Refl.refl s, .refl _, rfl, rfl⟩⟩

instance (now : Timestamp) : IsTrans Coordinator (Rising now) where
  trans _ _ _ h h' := ⟨IsTrans.trans _ _ _ h.toWithin h'.toWithin, h.fences.trans h'.fences,
    h'.sessions.trans h.sessions, h'.pending.trans h.pending⟩

section Start

variable {now : Timestamp} {s : Coordinator} {α : Type}

lemma Kept.rising {s' : Coordinator} (h : Kept s s') : Rising now s s' where
  toWithin := h.within
  fences := by rw [h.registry]; exact .refl _
  sessions := h.sessions
  pending := h.pending

lemma rising_of_keeps {p : Op α} (h : Steps Kept p s fun _ _ => True) :
    Steps (Rising now) p s fun _ s' => s'.registry = s.registry :=
  (h.weaken fun _ => Kept.rising).mono fun _ _ hkept => hkept.1.registry

lemma appendAudit_rising (actor action : String) (subject : Bytes) (outcome : Outcome) (detail : Bytes) :
    Steps (Rising now) (RuntimeCoordinator.appendAudit actor action subject outcome detail) s
      fun _ s' => ∃ audit, s'.registry = { s.registry with audit } := by
  have hrecords := (appendAudit_records (s := s) actor action subject outcome detail).related
  have hdoes : Does quiet (RuntimeCoordinator.appendAudit actor action subject outcome detail) s fun _ _ => True :=
    appendAudit_does actor action subject outcome detail
  refine ⟨⟨hdoes.related, ?_, hrecords.sessions, hrecords.pending⟩, fun _ _ => hrecords.trail⟩
  obtain ⟨audit, haudit⟩ := hrecords.trail
  rw [haudit]
  exact ⟨fun _ => .inl rfl, fun _ => .inl rfl, fun _ => .inl rfl⟩

lemma fenceRecovered_rising (hformed : WellFormed s.registry) :
    Steps (Rising s.startedAt) fenceRecovered s fun _ s' => Dormant s'.registry := by
  refine Steps.get_bind ?_
  have hplan := applyFencePlan_fences hformed (recoveryPlan s.registry s.previousIncarnation s.term) s.startedAt
    (ascii "coordinator-recovery")
  have hedits : Steps (Edits quiet) (applyFencePlan (recoveryPlan s.registry s.previousIncarnation s.term)
      s.startedAt (ascii "coordinator-recovery")) s.registry fun _ _ => True := applyFencePlan_edits _ _ _
  have hfence : Steps (Rising s.startedAt) (onRegistry (fenceRecoveredState s.startedAt
      (ascii "coordinator-recovery") s.previousIncarnation s.term)) s fun _ s' => Dormant s'.registry := by
    refine Steps.focus (Steps.get_bind (hplan.and hedits)) (fun registry h => ?_) fun _ registry h hdone => ?_
    · exact ⟨⟨⟨rfl, rfl, rfl, rfl, rfl, le_rfl⟩, acts_of_edits h.2⟩, h.1, rfl, rfl⟩
    · exact dormant_of_recoveryPlan hformed h.1 hdone.1
  refine Steps.bind hfence fun outcome s₁ _ hdormant => ?_
  refine Steps.bind_assoc (rising_of_keeps (onStore_keeps (fun m store files =>
    store.appendIncident files (recoveryText outcome) s.startedAt m.append) (.incident _ _))) fun _ s₃ _ h₃ => ?_
  refine Steps.get_bind ?_
  refine Steps.bind (rising_of_keeps (logEach_keeps fun _ hgrant => mem_values.mp hgrant)) fun _ s₄ _ h₄ => ?_
  refine Steps.get_bind ?_
  refine Steps.bind (rising_of_keeps (logEach_keeps fun _ hreservation => mem_values.mp hreservation))
    fun _ s₅ _ h₅ => ?_
  refine (rising_of_keeps logClusters_keeps).mono fun _ s₆ h₆ => ?_
  rw [h₆, h₅, h₄, h₃]
  exact hdormant

/-- The term and the incarnation are logged. -/
def logTerm (s : Coordinator) : Op Unit := do
  let moment ← moment
  onStore fun store files => store.appendMeta files (beginMeta s) s.startedAt moment.append

lemma logTerm_keeps : Steps Kept (logTerm s) s fun _ _ => True :=
  onStore_keeps (fun m store files => store.appendMeta files (beginMeta s) s.startedAt m.append) (.term _ _)

lemma logTerm_rising : Steps (Rising now) (logTerm s) s
    fun _ s' => s'.registry = s.registry ∧ s'.startedAt = s.startedAt := by
  refine ⟨(rising_of_keeps logTerm_keeps).related, fun a ha => ?_⟩
  have hrun : logTerm s s = onStore (fun store files => store.appendMeta files (beginMeta s) s.startedAt
      (s.moments s.index).append) { s with index := s.index + 1 } := rfl
  rw [hrun, onStore_state]
  exact ⟨rfl, rfl⟩

/-- The process once its term and its incarnation are its own. -/
def begun (s : Coordinator) : Coordinator :=
  { renewed s (stamp (s.moments s.index).entropy) (s.moments (s.index + 1)).now with index := s.index + 2 }

/-- What begins a term once it has a number. -/
def announceTerm (s : Coordinator) : Op Unit := do
  let moment ← moment
  onStore fun store files => store.appendMeta files (beginMeta s) s.startedAt moment.append
  Program.onlyIf (s.recovery.recoveredFromStore = true) fenceRecovered
  RuntimeCoordinator.appendAudit "coordinator" "begin-incarnation" s.incarnation.toText .ok
    (ascii "term=" ++ CoreStatus.decimal s.term.value.toNat ++
      ascii (if s.recovery.recoveredFromStore then " recovered=true" else " recovered=false"))

lemma beginIncarnation_eq (s : Coordinator) : beginIncarnation s = announceTerm (begun s) (begun s) := rfl

lemma announceTerm_rising (hformed : WellFormed s.registry)
    (hfresh : s.recovery.recoveredFromStore = false → s.registry = {}) :
    Steps (Rising s.startedAt) (announceTerm s) s fun _ s' => Dormant s'.registry := by
  refine Steps.bind_assoc logTerm_rising fun _ s₂ _ h₂ => ?_
  obtain ⟨hregistry, hstarted⟩ := h₂
  have hformed₂ : WellFormed s₂.registry := by
    rw [hregistry]
    exact hformed
  refine Steps.bind (P := fun _ s' => Dormant s'.registry) (Steps.onlyIf (fun _ => ?_) fun hno => ?_)
    fun _ s₃ hr₃ hdormant => ?_
  · have hsteps := fenceRecovered_rising hformed₂
    rw [hstarted] at hsteps
    exact hsteps
  · rw [hregistry]
    show Dormant s.registry
    rw [hfresh (by simpa using hno)]
    exact dormant_empty
  · refine (appendAudit_rising _ _ _ _ _).mono fun _ s₄ haudit => ?_
    obtain ⟨audit, haudit⟩ := haudit
    rw [haudit]
    exact hdormant.of_trail audit

end Start

/-- A process that has started: the store it opened, and what it made of it. -/
structure Booted (launch : Launch) (files : Files) (opened : Opened) (s : Coordinator) : Prop where
  opens : openStore (storeOptions launch.config) ⟨stamp (launch.moments 0).entropy⟩ launch.faults files =
    .ok opened
  formed : WellFormed s.registry
  fences : Fences .coordinatorReincarnation (launch.moments 2).now opened.recovery.registry s.registry
  dormant : Dormant s.registry
  term : s.term = opened.recovery.storeMeta.term.increment
  incarnation : s.incarnation = ⟨stamp (launch.moments 1).entropy⟩
  sessions : s.sessions = ∅
  pending : s.pending = ∅
  outbox : ∀ entry ∈ s.outbox, plain entry.2 = true

/-- A scene without acknowledgements sends no request to commit. -/
lemma outbox_of_quiet {s s' : Coordinator} (h : Within quiet s s') (hplain : ∀ entry ∈ s.outbox, plain entry.2 = true) :
    ∀ entry ∈ s'.outbox, plain entry.2 = true := by
  have hacts := h.acts
  clear h
  induction hacts with
  | refl => exact hplain
  | tail _ hact ih =>
    cases hact with
    | keep hkept =>
      obtain ⟨sent, hsent, hplain'⟩ := hkept.outbox
      intro entry hentry
      rw [hsent] at hentry
      rcases List.mem_append.mp hentry with hmem | hmem
      · exact ih entry hmem
      · exact hplain' entry hmem
    | commit _ _ _ _ _ _ _ _ _ hscene => exact hscene.elim
    | _ => exact ih

/-- The store is opened, and what it gave is taken over. -/
lemma loadState_run (launch : Launch) (files : Files) :
    RuntimeRun.loadState launch.faults (launched launch files) =
      match openStore (storeOptions launch.config) ⟨stamp (launch.moments 0).entropy⟩ launch.faults files with
      | .ok opened => (.ok (), loaded { launched launch files with index := 1 } opened)
      | .error status => (.error status, { launched launch files with index := 1 }) := by
  have hload : RuntimeRun.loadState launch.faults (launched launch files) =
      (Program.ofResult (openStore (storeOptions launch.config) ⟨stamp (launch.moments 0).entropy⟩ launch.faults
        files) >>= fun opened => modify fun s => loaded s opened : Op Unit)
        { launched launch files with index := 1 } := rfl
  rw [hload]
  cases openStore (storeOptions launch.config) ⟨stamp (launch.moments 0).entropy⟩ launch.faults files with
  | error status => exact Program.bind_error rfl
  | ok opened => exact Program.bind_ok rfl

lemma loadState_ok {launch : Launch} {files : Files} {s : Coordinator}
    (h : RuntimeRun.loadState launch.faults (launched launch files) = (.ok (), s)) :
    ∃ opened, openStore (storeOptions launch.config) ⟨stamp (launch.moments 0).entropy⟩ launch.faults files =
        .ok opened ∧ s = loaded { launched launch files with index := 1 } opened := by
  rw [loadState_run] at h
  split at h
  · rename_i opened hopened
    cases h
    exact ⟨opened, hopened, rfl⟩
  · cases h

/-- A term that has begun on what the store gave. -/
lemma booted_of_begun {launch : Launch} {files : Files} {opened : Opened} {s : Coordinator}
    (hopened : openStore (storeOptions launch.config) ⟨stamp (launch.moments 0).entropy⟩ launch.faults files =
      .ok opened)
    (hrun : beginIncarnation (loaded { launched launch files with index := 1 } opened) = (.ok (), s)) :
    Booted launch files opened s := by
  rw [beginIncarnation_eq] at hrun
  set begins : Coordinator := begun (loaded { launched launch files with index := 1 } opened) with hbegins
  have hsane := sane_of_openStore hopened
  have hsteps : Steps (Rising begins.startedAt) (announceTerm begins) begins fun _ s' => Dormant s'.registry :=
    announceTerm_rising hsane.formed fun h => registry_of_fresh hopened h
  have hrising := hsteps.related
  have hdormant := hsteps.returns ()
  rw [hrun] at hrising hdormant
  exact {
    opens := hopened
    formed := hrising.formed hsane.formed
    fences := hrising.fences
    dormant := hdormant rfl
    term := hrising.term
    incarnation := hrising.incarnation
    sessions := hrising.sessions
    pending := hrising.pending
    outbox := outbox_of_quiet hrising.toWithin fun entry hentry => absurd hentry (List.not_mem_nil) }

/-- Listening and the first compaction leave the state alone. -/
lemma Booted.of_kept {launch : Launch} {files : Files} {opened : Opened} {s s' : Coordinator}
    (h : Booted launch files opened s) (hkept : Kept s s') : Booted launch files opened s' where
  opens := h.opens
  formed := by rw [hkept.registry]; exact h.formed
  fences := by rw [hkept.registry]; exact h.fences
  dormant := by rw [hkept.registry]; exact h.dormant
  term := hkept.term.trans h.term
  incarnation := hkept.incarnation.trans h.incarnation
  sessions := hkept.sessions.trans h.sessions
  pending := hkept.pending.trans h.pending
  outbox := outbox_of_quiet hkept.within h.outbox

/-- A successful start opened its store and began a term on it; what came after left the state alone. -/
lemma begun_of_started {launch : Launch} {files : Files} {s : Coordinator} (h : Started launch files s) :
    ∃ opened s', openStore (storeOptions launch.config) ⟨stamp (launch.moments 0).entropy⟩ launch.faults files =
        .ok opened ∧ beginIncarnation (loaded { launched launch files with index := 1 } opened) = (.ok (), s') ∧
      Kept s' s := by
  cases hload : RuntimeRun.loadState launch.faults (launched launch files) with
  | mk result s₁ =>
    cases result with
    | error status =>
      rw [Started, start, Program.bind_error hload] at h
      cases h
    | ok u =>
      obtain ⟨opened, hopened, rfl⟩ := loadState_ok hload
      rw [Started, start, Program.bind_ok hload] at h
      cases hbegin : beginIncarnation (loaded { launched launch files with index := 1 } opened) with
      | mk result s₂ =>
        cases result with
        | error status =>
          rw [Program.bind_error hbegin] at h
          cases h
        | ok u =>
          rw [Program.bind_ok hbegin] at h
          have hkeeps : Steps Kept (do
              Program.ofResult (attempt launch.listening)
              compactIfNeeded : Op Unit) s₂ fun _ _ => True :=
            Steps.bind (Steps.ofResult (Q := fun _ _ => True) fun _ _ => trivial) fun _ _ _ _ =>
              compactIfNeeded_keeps
          have hkept := hkeeps.related
          rw [h] at hkept
          exact ⟨opened, s₂, hopened, hbegin, hkept⟩

/-- A successful start opened its store and fenced everything it recovered. -/
lemma booted_of_started {launch : Launch} {files : Files} {s : Coordinator} (h : Started launch files s) :
    ∃ opened, Booted launch files opened s := by
  obtain ⟨opened, s', hopened, hbegin, hkept⟩ := begun_of_started h
  exact ⟨opened, (booted_of_begun hopened hbegin).of_kept hkept⟩

/-- Up to the edits of a scene that is about nothing, a started process holds the recovered registry. -/
lemma edits_of_started {launch : Launch} {files : Files} {s : Coordinator} (h : Started launch files s) :
    ∃ opened, openStore (storeOptions launch.config) ⟨stamp (launch.moments 0).entropy⟩ launch.faults files =
      .ok opened ∧ Edits quiet opened.recovery.registry s.registry := by
  obtain ⟨opened, s', hopened, hbegin, hkept⟩ := begun_of_started h
  rw [beginIncarnation_eq] at hbegin
  have hsteps := announceTerm_rising (s := begun (loaded { launched launch files with index := 1 } opened))
    (sane_of_openStore hopened).formed fun h => registry_of_fresh hopened h
  have hrising := hsteps.related
  rw [hbegin] at hrising
  refine ⟨opened, hopened, ?_⟩
  rw [hkept.registry]
  exact hrising.edits

lemma started_wellFormed {launch : Launch} {files : Files} {s : Coordinator} (h : Started launch files s)
    (events : List Event) : WellFormed (run s events).registry := by
  obtain ⟨opened, hbooted⟩ := booted_of_started h
  exact run_wellFormed hbooted.formed events

/-! A first process on an empty directory: two clusters are registered, their agents connect, and a
contract between them is proposed. -/

def sampleMoments (i : ℕ) : Moment :=
  { now := ⟨Int64.ofNat i⟩, entropy := BitVec.ofNat 128 i, delivery := .queued }

def sampleLaunch : Launch where
  config := { stateDirectory := ascii "state", domain := (sampleParty .first).domain }
  moments := sampleMoments

def sampleProcess : Coordinator := (start sampleLaunch (launched sampleLaunch {})).2

lemma sampleProcess_started : Started sampleLaunch {} sampleProcess := by
  have hok : ((start sampleLaunch (launched sampleLaunch {})).1.toOption = some ()) := by decide +kernel
  cases hrun : start sampleLaunch (launched sampleLaunch {}) with
  | mk result s =>
    rw [hrun] at hok
    cases result with
    | error status => cases hok
    | ok u =>
      rw [Started, sampleProcess, hrun]

def sampleHello (side : Side) : HelloMessage where
  cluster := (sampleParty side).cluster
  domain := (sampleParty side).domain
  incarnation := (sampleCluster side).incarnation
  generation := (sampleCluster side).generation
  capabilities := capabilityTwoSidedConsent

/-- The connection of the agent of a side. -/
def agentOf : Side → ℕ
  | .first => 1
  | .second => 2

/-- The connection of an operator, who needs no session. -/
def operator : ℕ := 9

def connectAgents : List Event := [
  .message operator (.admin { action := .upsertCluster, cluster := some (sampleCluster .first) }),
  .message operator (.admin { action := .upsertCluster, cluster := some (sampleCluster .second) }),
  .message (agentOf .first) (.hello (sampleHello .first)),
  .message (agentOf .second) (.hello (sampleHello .second))]

def proposeContract : Event :=
  .message operator (.admin {
    action := .authorizeContract, clusterId := (sampleParty .first).cluster
    clusterB := (sampleParty .second).cluster, endpoint := (sampleParty .first).endpoint
    endpointB := (sampleParty .second).endpoint, capacity := ⟨4⟩ })

def sampleProposed : Coordinator := run sampleProcess (connectAgents ++ [proposeContract])

def tokenOf (s : Coordinator) (connection : ℕ) : SessionToken :=
  (s.sessions[connection]?.map PeerSession.token).getD ⟨0⟩

/-- The contract of the sample runs. -/
def proposedId : ContractId := (sampleProposed.registry.contracts.keys.head?).getD ⟨0⟩

/-- The answer of the agent of a side to the proposal. -/
def answer (side : Side) (decision : ConsentDecision) : Event :=
  .message (agentOf side) (.contractConsent {
    session := tokenOf sampleProposed (agentOf side), contract := proposedId
    termsDigest := (sampleProposed.registry.contracts[proposedId]?.map ContractRecord.termsDigest).getD 0
    decision, endpoint := (sampleParty side).endpoint, incarnation := (sampleCluster side).incarnation
    generation := (sampleCluster side).generation, policyGeneration := ⟨0⟩, agentTerm := ⟨0⟩ })

/-- From the first connection to a contract both sides accept. -/
def agree : List Event :=
  connectAgents ++ [proposeContract, answer .first .accepted, answer .second .accepted]

def issueGrant : Event := .message operator (.admin { action := .issueGrant, contract := proposedId })

def sampleIssued : Coordinator := run sampleProcess (agree ++ [issueGrant])

/-- The grant of the sample runs and its first attempt. -/
def issuedId : GrantId := (sampleIssued.registry.grants.keys.head?).getD ⟨0⟩

def issuedAttempt : AttemptId := (sampleIssued.registry.grants[issuedId]?.map GrantRecord.attempt).getD ⟨0⟩

def prepared (side : Side) : Event :=
  .message (agentOf side) (.grantPrepared {
    session := tokenOf sampleProposed (agentOf side), grant := issuedId, attempt := issuedAttempt
    accepted := true })

def committed (side : Side) : Event :=
  .message (agentOf side) (.grantCommitted {
    session := tokenOf sampleProposed (agentOf side), grant := issuedId, attempt := issuedAttempt
    installed := true })

/-- The two-sided commit of the grant. -/
def commitBoth : List Event := [prepared .first, prepared .second, committed .first, committed .second]

lemma run_nil (s : Coordinator) : run s [] = s := List.foldl_nil

lemma run_cons (s : Coordinator) (event : Event) (events : List Event) :
    run s (event :: events) = run (step s event) events := List.foldl_cons ..

/-! What the sample runs draw and compute. A run from the contract on record with its digest worked out does not
compute the digest again. -/

/-- The digest of the sample terms. -/
def sampleDigest : Digest := 75558875574486586930899141247898142431834723312596770239588411559469950125954

/-- The token of the session of a side. -/
def sampleToken : Side → SessionToken
  | .first => ⟨stamp 0x11⟩
  | .second => ⟨stamp 0x17⟩

lemma sampleProposed_draws :
    (proposedId = ⟨stamp 0x1c⟩ ∧ ∀ side ∈ [Side.first, .second], tokenOf sampleProposed (agentOf side) = sampleToken side) ∧
      sampleProposed.registry.contracts[(⟨stamp 0x1c⟩ : ContractId)]?.map ContractRecord.termsDigest =
        some sampleDigest := by
  decide +kernel

lemma proposedId_eq : proposedId = ⟨stamp 0x1c⟩ := sampleProposed_draws.1.1

lemma tokenOf_sampleProposed (side : Side) : tokenOf sampleProposed (agentOf side) = sampleToken side :=
  sampleProposed_draws.1.2 side (by cases side <;> simp)

lemma sampleProposed_digest :
    (sampleProposed.registry.contracts[(⟨stamp 0x1c⟩ : ContractId)]?.map ContractRecord.termsDigest).getD 0 =
      sampleDigest := by
  rw [sampleProposed_draws.2, Option.getD_some]

/-- The state with the digest of a contract written out. -/
def withDigest (s : Coordinator) (id : ContractId) (digest : Digest) : Coordinator :=
  { s with registry := { s.registry with
      contracts := s.registry.contracts.modify id fun contract => { contract with termsDigest := digest } } }

lemma withDigest_eq {s : Coordinator} {id : ContractId} {digest : Digest}
    (h : s.registry.contracts[id]?.map ContractRecord.termsDigest = some digest) : withDigest s id digest = s := by
  have hsame : (s.registry.contracts.modify id fun contract => { contract with termsDigest := digest }) =
      s.registry.contracts :=
    modify_eq_self_of_map (fun contract hdigest => by rw [← hdigest]) h
  rw [withDigest, hsame]

/-- The state in which the contract has been proposed. -/
def sampleDrafted : Coordinator := withDigest sampleProposed ⟨stamp 0x1c⟩ sampleDigest

lemma sampleProposed_eq : sampleProposed = sampleDrafted := (withDigest_eq sampleProposed_draws.2).symm

/-- The state in which both sides have accepted. -/
def sampleAgreed : Coordinator :=
  run sampleDrafted ([Side.first, .second].map fun side => .message (agentOf side) (.contractConsent {
    session := sampleToken side, contract := ⟨stamp 0x1c⟩, termsDigest := sampleDigest, decision := .accepted
    endpoint := (sampleParty side).endpoint, incarnation := (sampleCluster side).incarnation
    generation := (sampleCluster side).generation, policyGeneration := ⟨0⟩, agentTerm := ⟨0⟩ }))

lemma run_agree (events : List Event) : run sampleProcess (agree ++ events) = run sampleAgreed events := by
  have hsplit : agree ++ events =
      (connectAgents ++ [proposeContract]) ++ ([answer .first .accepted, answer .second .accepted] ++ events) := by
    simp only [agree, List.append_assoc, List.cons_append, List.nil_append]
  rw [hsplit, run_append, ← sampleProposed, run_append]
  simp only [answer, tokenOf_sampleProposed, proposedId_eq, sampleProposed_digest]
  rw [sampleProposed_eq]
  rfl

lemma agree_run : run sampleProcess agree = sampleAgreed := by
  have hrun := run_agree []
  rwa [List.append_nil, run_nil] at hrun

lemma sampleIssued_eq : sampleIssued =
    run sampleAgreed [.message operator (.admin { action := .issueGrant, contract := ⟨stamp 0x1c⟩ })] := by
  rw [sampleIssued, run_agree, issueGrant, proposedId_eq]

lemma sampleIssued_draws : issuedId = ⟨stamp 0x30⟩ ∧ issuedAttempt = ⟨stamp 0x31⟩ := by
  rw [issuedAttempt, issuedId, sampleIssued_eq]
  decide +kernel

lemma issuedId_eq : issuedId = ⟨stamp 0x30⟩ := sampleIssued_draws.1

lemma issuedAttempt_eq : issuedAttempt = ⟨stamp 0x31⟩ := sampleIssued_draws.2

lemma issueGrant_eq : issueGrant = .message operator (.admin { action := .issueGrant, contract := ⟨stamp 0x1c⟩ }) := by
  rw [issueGrant, proposedId_eq]

lemma prepared_eq (side : Side) : prepared side = .message (agentOf side) (.grantPrepared {
    session := sampleToken side, grant := ⟨stamp 0x30⟩, attempt := ⟨stamp 0x31⟩, accepted := true }) := by
  rw [prepared, tokenOf_sampleProposed, issuedId_eq, issuedAttempt_eq]

lemma committed_eq (side : Side) : committed side = .message (agentOf side) (.grantCommitted {
    session := sampleToken side, grant := ⟨stamp 0x30⟩, attempt := ⟨stamp 0x31⟩, installed := true }) := by
  rw [committed, tokenOf_sampleProposed, issuedId_eq, issuedAttempt_eq]

/-- The state in which the grant has been committed. -/
def sampleGranted : Coordinator :=
  let acknowledged (body : SessionToken → Inbound) : List Event :=
    [Side.first, .second].map fun side => .message (agentOf side) (body (sampleToken side))
  run sampleAgreed (.message operator (.admin { action := .issueGrant, contract := ⟨stamp 0x1c⟩ }) ::
    (acknowledged fun session =>
      .grantPrepared { session, grant := ⟨stamp 0x30⟩, attempt := ⟨stamp 0x31⟩, accepted := true }) ++
    acknowledged fun session =>
      .grantCommitted { session, grant := ⟨stamp 0x30⟩, attempt := ⟨stamp 0x31⟩, installed := true })

lemma run_commit (events : List Event) :
    run sampleProcess (agree ++ [issueGrant] ++ commitBoth ++ events) = run sampleGranted events := by
  rw [run_append, List.append_assoc, run_agree, commitBoth, issueGrant_eq, prepared_eq, prepared_eq, committed_eq,
    committed_eq]
  rfl

lemma commit_run : run sampleProcess (agree ++ [issueGrant] ++ commitBoth) = sampleGranted := by
  have hrun := run_commit []
  rwa [List.append_nil, run_nil] at hrun

end InterClusterFabric.RuntimeStart
