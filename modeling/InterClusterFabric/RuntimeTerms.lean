import InterClusterFabric.RuntimeStart
import InterClusterFabric.StoreJournal

/-! Terms over the lives of a coordinator. Processes follow one another on one directory; each recovers
what the one before it left there, wherever that one stopped, and goes on under a later term. -/
namespace InterClusterFabric.RuntimeTerms
open CoreStatus CoreIds CoreTime CoreHash ModelRecords ModelRegistry ModelRegistryLaws StoreMutation StoreWal StoreRecovery
open StoreJournal StoreCompaction RuntimeCoordinator RuntimeRun RuntimeEdits RuntimeSteps RuntimeStepsHandlers RuntimeStepsAdmin
open RuntimeStart LibraryProgram Relation
open StoreDurable hiding loadState

/-! The environment of a process that may crash. -/

/-- The store does not answer any more. -/
structure Dead (moment : Moment) : Prop where
  append : ∃ status, moment.append = some (0, status)
  save : moment.save.isSome = true
  reset : moment.reset.isSome = true

/-- An append that leaves part of its record behind is the last thing the process does to its store: it has
crashed there. A crash anywhere else is an environment that is dead from there on. -/
def TearsLast (moments : ℕ → Moment) : Prop :=
  ∀ i kept status, (moments i).append = some (kept, status) → kept ≠ 0 → ∀ j, i < j → Dead (moments j)

/-- The files bear the term, and a torn tail only once the process is dead. -/
def Secure (moments : ℕ → Moment) (term : Term) (disk : Disk) : Prop :=
  ∃ records tail, Bears term disk.files records tail ∧ (tail = [] ∨ ∀ i, disk.index ≤ i → Dead (moments i))

section Secure

variable {moments : ℕ → Moment} {term next : Term} {disk : Disk}

/-- The environment has been asked. -/
lemma Secure.later (h : Secure moments term disk) {disk' : Disk} (hfiles : disk'.files = disk.files)
    (hindex : disk.index ≤ disk'.index) : Secure moments term disk' := by
  obtain ⟨records, tail, hbears, htail⟩ := h
  refine ⟨records, tail, by rw [hfiles]; exact hbears, htail.imp_right fun hdead i hi => hdead i (hindex.trans hi)⟩

/-- A record is written with the next answer of the environment. -/
lemma Secure.write (hcrash : TearsLast moments) (h : Secure moments term disk) (kind : RecordKind)
    (writtenAt : Timestamp) (payload : Bytes)
    (hleaves : Leaves term next ⟨kind, disk.store.nextSequence, writtenAt, payload⟩) :
    ((∃ sequence, (disk.store.write disk.files kind writtenAt payload (moments disk.index).append).result =
        .ok sequence) ∧
      Secure moments next (disk.after (disk.store.write disk.files kind writtenAt payload (moments disk.index).append))) ∨
    (∃ status, (disk.store.write disk.files kind writtenAt payload (moments disk.index).append).result =
        .error status) ∧
      (Secure moments next
          (disk.after (disk.store.write disk.files kind writtenAt payload (moments disk.index).append)) ∨
        Secure moments term
          (disk.after (disk.store.write disk.files kind writtenAt payload (moments disk.index).append))) := by
  obtain ⟨records, tail, hbears, rfl | hdead⟩ := h
  · rcases hbears.write disk.store kind writtenAt payload (moments disk.index).append hleaves with
      ⟨hok, records', hnext⟩ | ⟨herror, ⟨records', hnext⟩ | ⟨records', tail', hold, htail⟩⟩
    · exact .inl ⟨hok, records', [], hnext, .inl rfl⟩
    · exact .inr ⟨herror, .inl ⟨records', [], hnext, .inl rfl⟩⟩
    · refine .inr ⟨herror, .inr ⟨records', tail', hold, ?_⟩⟩
      by_cases hnothing : ∀ kept status, (moments disk.index).append = some (kept, status) → kept = 0
      · exact .inl (htail hnothing)
      · push Not at hnothing
        obtain ⟨kept, status, hfault, hkept⟩ := hnothing
        exact .inr fun i hi => hcrash disk.index kept status hfault hkept i hi
  · obtain ⟨status, hstatus⟩ := (hdead disk.index le_rfl).append
    rw [hstatus]
    obtain ⟨herror, hfiles⟩ := hbears.write_nothing disk.store kind writtenAt payload status
    refine .inr ⟨herror, .inr ⟨records, tail, ?_, .inr fun i hi => hdead i (Nat.le_of_succ_le hi)⟩⟩
    show Bears term (disk.store.write disk.files kind writtenAt payload (some (0, status))).files records tail
    rw [hfiles]
    exact hbears

lemma Secure.write_same (hcrash : TearsLast moments) (h : Secure moments term disk) (kind : RecordKind)
    (writtenAt : Timestamp) (payload : Bytes)
    (hleaves : Leaves term term ⟨kind, disk.store.nextSequence, writtenAt, payload⟩) :
    Secure moments term
      (disk.after (disk.store.write disk.files kind writtenAt payload (moments disk.index).append)) := by
  rcases h.write hcrash kind writtenAt payload hleaves with ⟨-, hsecure⟩ | ⟨-, hsecure | hsecure⟩
  · exact hsecure
  · exact hsecure
  · exact hsecure

lemma Secure.append (hcrash : TearsLast moments) (h : Secure moments term disk) {mutation : Mutation}
    (hkind : mutation.kind ≠ .metaSet) (writtenAt : Timestamp) :
    Secure moments term
      (disk.after (disk.store.append disk.files mutation writtenAt (moments disk.index).append)) :=
  h.write_same hcrash _ _ _ (leaves_mutation hkind _ _)

/-- Whatever a process with the term does to its store keeps the term there. -/
lemma Secure.stores (hcrash : TearsLast moments) {registry : Registry} (h : Secure moments term disk) {disk' : Disk}
    (hstores : Stores ⟨registry, term, moments⟩ disk disk') : Secure moments term disk' := by
  cases hstores with
  | ask => exact h.later rfl (Nat.le_succ _)
  | append mutation writtenAt hcoherent =>
    refine h.append hcrash (fun hkind => ?_) writtenAt
    cases mutation <;> first | exact hcoherent | cases hkind
  | term incarnation writtenAt => exact h.write_same hcrash _ _ _ (leaves_term _ _ _ _ _)
  | incident text writtenAt =>
    unfold DurableStore.appendIncident
    split
    · exact h.later rfl (Nat.le_succ _)
    · exact h.write_same hcrash _ _ _ (leaves_incident _ _ _ _)
  | compact storeMeta writtenAt stream hterm =>
    obtain ⟨records, tail, hbears, htail⟩ := h
    dsimp only at hterm ⊢
    rcases htail with rfl | hdead
    · obtain ⟨records', tail', hbears', htail'⟩ := hbears.compact disk.store registry hterm
        writtenAt stream (moments disk.index).save (moments disk.index).reset
      exact ⟨records', tail', hbears', .inl (htail' rfl)⟩
    · obtain ⟨status, hsave⟩ := Option.isSome_iff_exists.mp (hdead disk.index le_rfl).save
      refine ⟨records, tail, ?_, .inr fun i hi => hdead i (Nat.le_of_succ_le hi)⟩
      show Bears term (disk.store.compact disk.files registry storeMeta writtenAt stream (moments disk.index).save
        (moments disk.index).reset).files records tail
      rw [hsave, compact_nothing]
      exact hbears

end Secure

/-! The process. -/

/-- The files of the process bear its term. -/
structure Safe (s : Coordinator) : Prop where
  crash : TearsLast s.moments
  secure : Secure s.moments s.term (diskOf s)

section Process

variable {scene : Scene} {s s' : Coordinator}

lemma Safe.kept (h : Safe s) (hkept : Kept s s') : Safe s' := by
  have hpath {disk : Disk} (hdisk : ReflTransGen (Stores ⟨s.registry, s.term, s.moments⟩) (diskOf s) disk) :
      Secure s.moments s.term disk := by
    induction hdisk with
    | refl => exact h.secure
    | tail _ hstores ih => exact ih.stores h.crash hstores
  have hsecure : Secure s.moments s.term (diskOf s') := hpath hkept.disk
  refine ⟨?_, ?_⟩
  · rw [hkept.moments]
    exact h.crash
  · rw [hkept.moments, hkept.term]
    exact hsecure

lemma Safe.act (h : Safe s) (hact : Act scene s s') : Safe s' := by
  cases hact with
  | keep hkept => exact h.kept hkept
  | announce grant hscene hstate hacks writtenAt =>
    have hkind : (Mutation.grantPut grant).kind ≠ .metaSet := by simp [Mutation.kind]
    exact ⟨h.crash, h.secure.append h.crash hkind writtenAt⟩
  | _ => exact ⟨h.crash, h.secure⟩

lemma Safe.within (h : Safe s) (hwithin : Within scene s s') : Safe s' := by
  have hacts := hwithin.acts
  clear hwithin
  induction hacts with
  | refl => exact h
  | tail _ hact ih => exact ih.act hact

lemma Safe.run (hformed : WellFormed s.registry) (h : Safe s) (events : List Event) : Safe (RuntimeRun.run s events) := by
  refine run_induction (P := Safe) h fun before event after _ ih => ?_
  exact ih.within (step_within (run_wellFormed hformed before) event)

end Process

/-! The start. -/

/-- What follows once the term is logged. -/
def settleTerm (s : Coordinator) : Op Unit := do
  Program.onlyIf (s.recovery.recoveredFromStore = true) fenceRecovered
  RuntimeCoordinator.appendAudit "coordinator" "begin-incarnation" s.incarnation.toText .ok
    (ascii "term=" ++ CoreStatus.decimal s.term.value.toNat ++
      ascii (if s.recovery.recoveredFromStore then " recovered=true" else " recovered=false"))

lemma announceTerm_eq (s : Coordinator) : announceTerm s s = (logTerm s >>= fun _ => settleTerm s) s :=
  (Program.bind_assoc_run _ _ _ s).symm

lemma settleTerm_within {s s' : Coordinator} (hformed : WellFormed s'.registry) :
    Steps (Within quiet) (settleTerm s) s' fun _ _ => True := by
  have hfence : Steps (Within quiet) fenceRecovered s' fun _ _ => True :=
    ((fenceRecovered_rising hformed).weaken fun _ h => h.toWithin).mono fun _ _ _ => trivial
  refine Steps.bind (Steps.onlyIf (fun _ => hfence) fun _ => trivial) fun _ s₁ _ _ => ?_
  exact appendAudit_does _ _ _ _ _

/-- The process has begun under a later term than the files bore. Unless it has been stopped while it
logged the term, the files bear it. -/
lemma announceTerm_safe {s : Coordinator} {recovered : Term} (hformed : WellFormed s.registry)
    (hcrash : TearsLast s.moments) (h : Secure s.moments recovered (diskOf s)) :
    Safe (announceTerm s s).2 ∨
      (∃ status, (announceTerm s s).1 = .error status) ∧ Secure s.moments recovered (diskOf (announceTerm s s).2) := by
  have hrun : logTerm s s = onStore (fun store files => store.appendMeta files (beginMeta s) s.startedAt
      (s.moments s.index).append) { s with index := s.index + 1 } := rfl
  have hwrite := h.write hcrash .mutation s.startedAt (encodeMutation (.metaSet s.term s.incarnation))
    (leaves_term recovered s.term s.incarnation s.store.nextSequence s.startedAt)
  rw [announceTerm_eq]
  cases hlog : logTerm s s with
  | mk result s₁ =>
    have hkept : Kept s s₁ := by
      have hrelated := (logTerm_keeps (s := s)).related
      rwa [hlog] at hrelated
    have hstate := onStore_state (fun store files => store.appendMeta files (beginMeta s) s.startedAt
      (s.moments s.index).append) { s with index := s.index + 1 }
    rw [← hrun, hlog] at hstate
    have hdisk : diskOf s₁ = (diskOf s).after (s.store.appendMeta s.files (beginMeta s) s.startedAt
        (s.moments s.index).append) := by
      show diskOf (result, s₁).2 = _
      rw [hstate]
      rfl
    have hsafe (hsecure : Secure s.moments s.term (diskOf s₁)) : Safe s₁ := by
      refine ⟨?_, ?_⟩
      · rw [hkept.moments]
        exact hcrash
      · rw [hkept.moments, hkept.term]
        exact hsecure
    cases result with
    | error status =>
      rw [Program.bind_error hlog]
      rcases hwrite with ⟨-, hsecure⟩ | ⟨-, hsecure | hsecure⟩
      · exact .inl (hsafe (by rw [hdisk]; exact hsecure))
      · exact .inl (hsafe (by rw [hdisk]; exact hsecure))
      · exact .inr ⟨⟨status, rfl⟩, by rw [hdisk]; exact hsecure⟩
    | ok u =>
      rw [Program.bind_ok hlog]
      have hsecure : Secure s.moments s.term (diskOf s₁) := by
        rcases hwrite with ⟨-, hsecure⟩ | ⟨⟨status, herror⟩, -⟩
        · rw [hdisk]
          exact hsecure
        · -- the log has accepted the record
          have hfailed : (logTerm s s).1 = .error status := by
            rw [hrun]
            unfold onStore
            dsimp only
            rw [show (s.store.appendMeta s.files (beginMeta s) s.startedAt (s.moments s.index).append).result =
              .error status from herror]
          rw [hlog] at hfailed
          cases hfailed
      refine .inl ((hsafe hsecure).within (settleTerm_within ?_).related)
      rw [hkept.registry]
      exact hformed

/-! Lives. -/

/-- A process on the directory: what its start meets, and what happens to it once it runs. -/
structure Life where
  launch : Launch
  events : List Event := []

namespace Life

/-- The term of the process, if it got past the beginning of its incarnation. -/
def term (life : Life) (files : Files) : Option Term :=
  match (do RuntimeRun.loadState life.launch.faults; beginIncarnation : Op Unit) (launched life.launch files) with
  | (.ok _, s) => some s.term
  | (.error _, _) => none

/-- The files the process leaves behind, wherever it stops. -/
def left (life : Life) (files : Files) : Files :=
  match start life.launch (launched life.launch files) with
  | (.ok _, s) => (run s life.events).files
  | (.error _, s) => s.files

end Life

/-- The terms of the processes that follow one another on the files. -/
def terms : Files → List Life → List Term
  | _, [] => []
  | files, life :: rest => (life.term files).toList ++ terms (life.left files) rest

/-- Whatever opens the files recovers at least the term. -/
def Guards (files : Files) (term : Term) : Prop :=
  ∀ options stream faults opened, openStore options stream faults files = .ok opened →
    term ≤ opened.recovery.storeMeta.term

lemma loadState_error {launch : Launch} {files : Files} {status : Status} {s : Coordinator}
    (h : RuntimeRun.loadState launch.faults (launched launch files) = (.error status, s)) : s.files = files := by
  rw [loadState_run] at h
  split at h
  · cases h
  · cases h
    rfl

/-- The rest of the start and the run keep the term of the process in its files. -/
lemma rest_safe (life : Life) {s : Coordinator} (hformed : WellFormed s.registry) (h : Safe s) :
    ∃ records tail, Bears s.term (match (do
        Program.ofResult (attempt life.launch.listening)
        compactIfNeeded : Op Unit) s with
      | (.ok _, s') => (run s' life.events).files
      | (.error _, s') => s'.files) records tail := by
  have hkeeps : Steps Kept (do
      Program.ofResult (attempt life.launch.listening)
      compactIfNeeded : Op Unit) s fun _ _ => True :=
    Steps.bind (Steps.ofResult (Q := fun _ _ => True) fun _ _ => trivial) fun _ _ _ _ => compactIfNeeded_keeps
  have hkept := hkeeps.related
  cases hrun : (do
      Program.ofResult (attempt life.launch.listening)
      compactIfNeeded : Op Unit) s with
  | mk result s' =>
    rw [hrun] at hkept
    have hsafe := h.kept hkept
    rw [← hkept.term]
    cases result with
    | error status =>
      obtain ⟨records, tail, hbears, -⟩ := hsafe.secure
      exact ⟨records, tail, hbears⟩
    | ok u =>
      have hformed' : WellFormed s'.registry := by
        rw [hkept.registry]
        exact hformed
      obtain ⟨records, tail, hbears, -⟩ := (hsafe.run hformed' life.events).secure
      rw [(run_settled hformed' life.events).term] at hbears
      exact ⟨records, tail, hbears⟩

/-- What becomes of the files in one life: nothing, or they bear the term they were opened with or the one
after it, which is that of the process if it got that far. -/
lemma life_cases (life : Life) (files : Files) (hcrash : TearsLast life.launch.moments) :
    (life.term files = none ∧ life.left files = files) ∨
      ∃ options stream faults opened, openStore options stream faults files = .ok opened ∧
        ∃ borne records tail, Bears borne (life.left files) records tail ∧
          (borne = opened.recovery.storeMeta.term.increment ∨
            borne = opened.recovery.storeMeta.term ∧ life.term files = none) ∧
          ∀ term, life.term files = some term → term = opened.recovery.storeMeta.term.increment := by
  have hstart : start life.launch (launched life.launch files) =
      ((do RuntimeRun.loadState life.launch.faults; beginIncarnation : Op Unit) >>= fun _ => (do
        Program.ofResult (attempt life.launch.listening)
        compactIfNeeded : Op Unit)) (launched life.launch files) := (Program.bind_assoc_run _ _ _ _).symm
  unfold Life.term Life.left
  rw [hstart]
  cases hload : RuntimeRun.loadState life.launch.faults (launched life.launch files) with
  | mk result s₁ =>
    cases result with
    | error status =>
      have hbegin : (do RuntimeRun.loadState life.launch.faults; beginIncarnation : Op Unit)
          (launched life.launch files) = (.error status, s₁) := Program.bind_error hload
      rw [Program.bind_error hbegin, hbegin]
      exact .inl ⟨rfl, loadState_error hload⟩
    | ok u =>
      obtain ⟨opened, hopened, rfl⟩ := loadState_ok hload
      have hbegin : (do RuntimeRun.loadState life.launch.faults; beginIncarnation : Op Unit)
          (launched life.launch files) = beginIncarnation (loaded { launched life.launch files with index := 1 } opened) :=
        Program.bind_ok hload
      rw [beginIncarnation_eq] at hbegin
      set begins : Coordinator := begun (loaded { launched life.launch files with index := 1 } opened) with hbegins
      have hsane := sane_of_openStore hopened
      obtain ⟨records, hbears⟩ := bears_of_open hopened
      have hsecure : Secure begins.moments opened.recovery.storeMeta.term (diskOf begins) :=
        ⟨records, [], hbears, .inl rfl⟩
      have hrising := (announceTerm_rising (s := begins) hsane.formed fun h => registry_of_fresh hopened h).related
      have hterm : (announceTerm begins begins).2.term = opened.recovery.storeMeta.term.increment := hrising.term
      have hsafe := announceTerm_safe (s := begins) hsane.formed hcrash hsecure
      have hformed := hrising.formed hsane.formed
      right
      refine ⟨_, _, _, opened, hopened, ?_⟩
      cases hannounce : announceTerm begins begins with
      | mk result s₂ =>
        rw [hannounce] at hterm hsafe hformed hbegin
        cases result with
        | error status =>
          rw [Program.bind_error hbegin, hbegin]
          rcases hsafe with hsafe | ⟨-, hsecure'⟩
          · obtain ⟨records', tail, hbears', -⟩ := hsafe.secure
            exact ⟨s₂.term, records', tail, hbears', .inl hterm, fun term h => by cases h⟩
          · obtain ⟨records', tail, hbears', -⟩ := hsecure'
            exact ⟨_, records', tail, hbears', .inr ⟨rfl, rfl⟩, fun term h => by cases h⟩
        | ok u =>
          rw [Program.bind_ok hbegin, hbegin]
          rcases hsafe with hsafe | ⟨⟨status, herror⟩, -⟩
          · obtain ⟨records', tail, hbears'⟩ := rest_safe life hformed hsafe
            refine ⟨s₂.term, records', tail, hbears', .inl hterm, fun term h => ?_⟩
            rw [← Option.some.inj h]
            exact hterm
          · cases herror

/-! The order of the terms. -/

section Lives

variable {life : Life} {files : Files} {term : Term} (hcrash : TearsLast life.launch.moments)
include hcrash

/-- A life loses no term that the files guard. -/
lemma guards_left (h : Guards files term) : Guards (life.left files) term := by
  rcases life_cases life files hcrash with ⟨-, hsame⟩ | ⟨_, _, _, opened, hopened, borne, _, _, hbears, hborne, -⟩
  · rw [hsame]
    exact h
  · intro options stream faults opened' hopened'
    rw [hbears.recovered hopened']
    have hle := h _ _ _ opened hopened
    rcases hborne with rfl | ⟨rfl, -⟩
    · exact Counter.le_trans hle (Counter.le_increment _)
    · exact hle

/-- The term of a process is guarded from then on. -/
lemma guards_term (h : life.term files = some term) : Guards (life.left files) term := by
  rcases life_cases life files hcrash with ⟨hnone, -⟩ | ⟨_, _, _, opened, hopened, borne, _, _, hbears, hborne, hterm⟩
  · rw [hnone] at h
    cases h
  · intro options stream faults opened' hopened'
    rw [hbears.recovered hopened', hterm term h]
    rcases hborne with rfl | ⟨-, hnone⟩
    · exact Counter.le_iff.mpr le_rfl
    · rw [hnone] at h
      cases h

/-- A process goes beyond every term that the files guard. -/
lemma term_after (h : Guards files term) {next : Term} (hnext : life.term files = some next)
    (hbound : next.value.toNat < 2 ^ 62) : term < next := by
  rcases life_cases life files hcrash with ⟨hnone, -⟩ | ⟨_, _, _, opened, hopened, _, _, _, -, -, hterm⟩
  · rw [hnone] at hnext
    cases hnext
  · rw [hterm next hnext] at hbound ⊢
    exact Counter.lt_of_le_of_lt (h _ _ _ opened hopened) (Counter.lt_increment hbound)

end Lives

lemma terms_after {lives : List Life} {files : Files} {term : Term}
    (hcrash : ∀ life ∈ lives, TearsLast life.launch.moments)
    (hbound : ∀ t ∈ terms files lives, t.value.toNat < 2 ^ 62) (h : Guards files term) :
    ∀ t ∈ terms files lives, term < t := by
  induction lives generalizing files with
  | nil => simp [terms]
  | cons life rest ih =>
    intro t ht
    rcases List.mem_append.mp ht with hhead | hrest
    · exact term_after (hcrash life (by simp)) h (by simpa using hhead) (hbound t ht)
    · exact ih (fun l hl => hcrash l (by simp [hl])) (fun t ht => hbound t (List.mem_append_right _ ht))
        (guards_left (hcrash life (by simp)) h) t hrest

/-- A process that has started runs under the term it began with. -/
lemma term_of_started {launch : Launch} {files : Files} {s : Coordinator} (h : Started launch files s)
    (events : List Event) : (⟨launch, events⟩ : Life).term files = some (run s events).term := by
  have hformed : WellFormed s.registry := started_wellFormed h []
  rw [(run_settled hformed events).term]
  have hstart : start launch (launched launch files) =
      ((do RuntimeRun.loadState launch.faults; beginIncarnation : Op Unit) >>= fun _ => (do
        Program.ofResult (attempt launch.listening)
        compactIfNeeded : Op Unit)) (launched launch files) := (Program.bind_assoc_run _ _ _ _).symm
  rw [Started, hstart] at h
  unfold Life.term
  cases hbegin : (do RuntimeRun.loadState launch.faults; beginIncarnation : Op Unit) (launched launch files) with
  | mk result s₁ =>
    cases result with
    | error status =>
      rw [Program.bind_error hbegin] at h
      cases h
    | ok u =>
      rw [Program.bind_ok hbegin] at h
      have hkeeps : Steps Kept (do
          Program.ofResult (attempt launch.listening)
          compactIfNeeded : Op Unit) s₁ fun _ _ => True :=
        Steps.bind (Steps.ofResult (Q := fun _ _ => True) fun _ _ => trivial) fun _ _ _ _ => compactIfNeeded_keeps
      have hkept := hkeeps.related
      rw [h] at hkept
      exact congrArg some hkept.term.symm

/-- Processes that follow one another on one directory, each of which may stop or crash anywhere, run under
ever greater terms; and a process keeps its term for as long as it runs. -/
theorem terms_increase (files : Files) (lives : List Life) (hcrash : ∀ life ∈ lives, TearsLast life.launch.moments)
    (hbound : ∀ t ∈ terms files lives, t.value.toNat < 2 ^ 62) :
    (terms files lives).Pairwise (· < ·) ∧
      ∀ launch files s, Started launch files s → ∀ events, (⟨launch, events⟩ : Life).term files =
        some (run s events).term := by
  constructor
  · induction lives generalizing files with
    | nil => exact List.Pairwise.nil
    | cons life rest ih =>
      have hcrash' : ∀ l ∈ rest, TearsLast l.launch.moments := fun l hl => hcrash l (by simp [hl])
      have hbound' : ∀ t ∈ terms (life.left files) rest, t.value.toNat < 2 ^ 62 :=
        fun t ht => hbound t (List.mem_append_right _ ht)
      refine List.pairwise_append.mpr ⟨?_, ih _ hcrash' hbound', fun term hterm t ht => ?_⟩
      · cases life.term files <;> simp
      · have hguards := guards_term (hcrash life (by simp)) (show life.term files = some term by simpa using hterm)
        exact terms_after hcrash' hbound' hguards t ht
  · intro launch files s hstarted events
    exact term_of_started hstarted events

/-! Three processes: the second is killed while it logs its term. -/

def killedMoments (i : ℕ) : Moment :=
  if i < 3 then sampleMoments i
  else { sampleMoments i with
    append := some (if i = 3 then 40 else 0, Status.internalError "killed")
    save := some (Status.internalError "killed")
    reset := some (Status.internalError "killed") }

def threeLives : List Life := [
  { launch := sampleLaunch, events := [.tick] },
  { launch := { sampleLaunch with moments := killedMoments } },
  { launch := sampleLaunch, events := [.tick] }]

lemma threeLives_crash : ∀ life ∈ threeLives, TearsLast life.launch.moments := by
  intro life hlife
  simp only [threeLives, List.mem_cons, List.not_mem_nil, or_false] at hlife
  rcases hlife with rfl | rfl | rfl
  · intro i kept status h
    cases h
  · intro i kept status h hkept j hj
    simp only [killedMoments] at h
    split at h
    · cases h
    · rename_i hi
      have hlate : ¬j < 3 := by omega
      have hnot : j ≠ 3 := by omega
      refine ⟨⟨Status.internalError "killed", ?_⟩, ?_, ?_⟩
      · simp [killedMoments, hlate, hnot]
      · simp [killedMoments, hlate]
      · simp [killedMoments, hlate]
  · intro i kept status h
    cases h

set_option maxRecDepth 20000 in
/-- The killed process leaves a torn record behind, and the one after it runs under the next term. -/
theorem terms_increase_sample :
    terms {} threeLives = [⟨1⟩, ⟨2⟩] ∧ (terms {} threeLives).Pairwise (· < ·) := by
  have hterms : terms {} threeLives = [⟨1⟩, ⟨2⟩] := by decide +kernel
  refine ⟨hterms, (terms_increase {} threeLives threeLives_crash fun t ht => ?_).1⟩
  rw [hterms] at ht
  simp only [List.mem_cons, List.not_mem_nil, or_false] at ht
  rcases ht with rfl | rfl <;> decide

end InterClusterFabric.RuntimeTerms
