import InterClusterFabric.LibraryTrace
import InterClusterFabric.NetEventLoop
import Mathlib.Data.List.TakeWhile

/-! The timers of the event loop, and the sets that it polls. Handlers schedule and cancel timers, take in connections
and add listeners at any time; a timer still waits exactly until its deadline, and no polled set is too large. -/
namespace InterClusterFabric.NetTimers
open CoreStatus CoreTime LibraryOrdMap NetOutbound NetEventLoop Relation

/-! What can happen to a loop. -/

/-- Nothing happened to the timers, the listeners and the limit, and no connection was taken in. -/
structure Frame (loop next : EventLoop) : Prop where
  moments : next.moments = loop.moments
  timers : next.timers = loop.timers
  listeners : next.listeners = loop.listeners
  limit : next.maxConnections = loop.maxConnections
  size : next.connections.size ≤ loop.connections.size

/-- The loop with the timers taken out that are due. -/
def taken (loop : EventLoop) : EventLoop :=
  { loop.pass with timers := loop.timers.dropWhile fun timer => timer.1 ≤ loop.moment.now.unixNanos }

/-- One change of the loop; of its handlers and its owner, only what is allowed to them. -/
inductive Turn (allowed : Action → Prop) (loop : EventLoop) : EventLoop → Prop
  | frame {next : EventLoop} (h : Frame loop next) : Turn allowed loop next
  | act (action : Action) (h : allowed action) : Turn allowed loop (loop.act action)
  | fire : Turn allowed loop (taken loop)

abbrev Turns (allowed : Action → Prop) : EventLoop → EventLoop → Prop := ReflTransGen (Turn allowed)

/-- The handlers of the loop do only what is allowed to them. -/
def Handled (allowed : Action → Prop) (moments : ℕ → Moment) : Prop :=
  ∀ n occasion, ∀ action ∈ ((moments n).reaction occasion).actions, allowed action

section Frame

variable {loop next : EventLoop} {id : UInt64}

lemma Frame.refl (loop : EventLoop) : Frame loop loop := ⟨rfl, rfl, rfl, rfl, le_rfl⟩

lemma frame_pass (loop : EventLoop) : Frame loop loop.pass := ⟨rfl, rfl, rfl, rfl, le_rfl⟩

lemma frame_running (loop : EventLoop) (running : Bool) : Frame loop { loop with running } :=
  ⟨rfl, rfl, rfl, rfl, le_rfl⟩

lemma frame_defer (loop : EventLoop) (ids : List UInt64) : Frame loop (loop.defer ids) := ⟨rfl, rfl, rfl, rfl, le_rfl⟩

/-- A connection that is there is changed in place. -/
lemma frame_put {connection : Connection} (hfind : loop.find id = some connection) (changed : Connection)
    (entry : Option (LibraryLifecycle.Entry ℕ Status)) : Frame loop (loop.put id changed entry) := by
  refine ⟨rfl, rfl, rfl, rfl, ?_⟩
  have hmem : id ∈ loop.connections := by
    rw [Std.ExtTreeMap.mem_iff_isSome_getElem?]
    exact Option.isSome_of_mem hfind
  show (loop.connections.insert id changed).size ≤ _
  simp [Std.ExtTreeMap.size_insert, hmem]

lemma frame_perform (loop : EventLoop) (id : UInt64) (event : Event) : Frame loop (loop.perform id event) := by
  unfold EventLoop.perform
  cases hfind : loop.find id with
  | none => exact .refl loop
  | some connection => exact frame_put hfind _ _

lemma frame_fill (loop : EventLoop) (id : UInt64) (socket : NetReactor.Socket) :
    Frame loop (loop.fillConnection id socket).2 := by
  unfold EventLoop.fillConnection
  cases hfind : loop.find id with
  | none => exact .refl loop
  | some connection => exact frame_put hfind _ _

lemma frame_erase (loop : EventLoop) (id : UInt64) : Frame loop (loop.erase id) := by
  unfold EventLoop.erase
  cases hfind : loop.find id with
  | none => exact .refl loop
  | some connection => exact ⟨rfl, rfl, rfl, rfl, Std.ExtTreeMap.size_erase_le⟩

lemma Frame.turns {allowed : Action → Prop} (h : Frame loop next) : Turns allowed loop next := .single (.frame h)

end Frame

section Turns

variable {allowed : Action → Prop} {loop next : EventLoop} {id : UInt64}

lemma act_moments (loop : EventLoop) (action : Action) : (loop.act action).moments = loop.moments := by
  cases action with
  | addListener listener =>
    simp only [EventLoop.act, EventLoop.addListener]
    split
    · rfl
    split <;> rfl
  | adopt offer =>
    simp only [EventLoop.act, EventLoop.adopt, EventLoop.emplace]
    split
    · rfl
    split
    · rfl
    split <;> rfl
  | perform id event => exact (frame_perform loop id event).moments
  | fill id socket => exact (frame_fill loop id socket).moments
  | schedule deadline => rfl
  | cancel timerId => rfl
  | setMaxConnections limit => rfl
  | stop => rfl

lemma Turn.moments (h : Turn allowed loop next) : next.moments = loop.moments := by
  cases h with
  | frame h => exact h.moments
  | act action h => exact act_moments loop action
  | fire => rfl

lemma turns_moments (h : Turns allowed loop next) : next.moments = loop.moments := by
  induction h with
  | refl => rfl
  | tail _ hlast ih => exact hlast.moments.trans ih

/-- What every turn keeps, every sequence of turns keeps. -/
lemma turns_induction {P : EventLoop → Prop} (h : Turns allowed loop next) (hinit : P loop)
    (hturn : ∀ loop next, Turn allowed loop next → P loop → P next) : P next := by
  induction h with
  | refl => exact hinit
  | tail _ hlast ih => exact hturn _ _ hlast ih

lemma turns_acts (loop : EventLoop) {actions : List Action} (h : ∀ action ∈ actions, allowed action) :
    Turns allowed loop (actions.foldl EventLoop.act loop) := by
  induction actions generalizing loop with
  | nil => exact .refl
  | cons action rest ih =>
    rw [List.foldl_cons]
    exact .trans (.single (.act action (h action (by simp)))) (ih _ fun a ha => h a (by simp [ha]))

lemma turns_call (h : Handled allowed loop.moments) (occasion : Occasion) :
    Turns allowed loop (loop.call occasion).2 :=
  (frame_pass loop).turns.trans (turns_acts _ fun action haction => h loop.drawn occasion action haction)

/-- Passes one after the other. -/
lemma turns_foldl {α : Type} {f : EventLoop → α → EventLoop}
    (hf : ∀ loop x, Handled allowed loop.moments → Turns allowed loop (f loop x)) (xs : List α)
    (h : Handled allowed loop.moments) : Turns allowed loop (xs.foldl f loop) := by
  induction xs generalizing loop with
  | nil => exact .refl
  | cons x xs ih =>
    have hfirst := hf loop x h
    rw [List.foldl_cons]
    exact hfirst.trans (ih (by rw [turns_moments hfirst]; exact h))

/-- What follows a sequence of turns, under the same handlers. -/
lemma turns_then {last : EventLoop} (h : Handled allowed loop.moments) (hfirst : Turns allowed loop next)
    (hnext : Handled allowed next.moments → Turns allowed next last) : Turns allowed loop last :=
  hfirst.trans (hnext (by rw [turns_moments hfirst]; exact h))

lemma turns_fireDueTimers (h : Handled allowed loop.moments) : Turns allowed loop loop.fireDueTimers :=
  turns_then h (.single .fire) (turns_foldl (fun _ _ hhandled => turns_call hhandled _) _)

lemma turns_drop (loop : EventLoop) (id : UInt64) (reason : Status) : Turns allowed loop (loop.drop id reason) :=
  (frame_perform loop id _).turns.trans (frame_defer _ _).turns

lemma turns_report (h : Handled allowed loop.moments) (id : UInt64) : Turns allowed loop (loop.report id) := by
  unfold EventLoop.report
  cases hfind : loop.find id with
  | none => exact .refl
  | some connection =>
    dsimp only
    split
    · exact .refl
    split
    · exact .refl
    split
    · exact turns_then h (frame_put hfind _ _).turns fun hhandled => turns_call hhandled _
    · exact (frame_put hfind _ _).turns

lemma turns_reportAndErase (h : Handled allowed loop.moments) : Turns allowed loop loop.reportAndErase := by
  have hreported : Turns allowed loop (loop.pendingErase.foldl EventLoop.report loop) :=
    turns_foldl (fun _ _ hhandled => turns_report hhandled _) _ h
  refine turns_then h hreported fun hhandled => ?_
  have herased (ids : List UInt64) (reported : EventLoop) (hhandled : Handled allowed reported.moments) :
      Turns allowed reported (ids.foldl EventLoop.erase reported) :=
    turns_foldl (fun _ _ _ => (frame_erase _ _).turns) _ hhandled
  exact (herased _ _ hhandled).trans (Frame.turns ⟨rfl, rfl, rfl, rfl, le_rfl⟩)

lemma turns_expire (now : Timestamp) (loop : EventLoop) (id : UInt64) :
    Turns allowed loop (EventLoop.expire now loop id) := by
  unfold EventLoop.expire
  split
  · exact .refl
  split
  · exact (frame_defer _ _).turns
  split
  · exact turns_drop _ _ _
  · exact .refl

lemma turns_sweepConnections (h : Handled allowed loop.moments) : Turns allowed loop loop.sweepConnections := by
  refine turns_then h (turns_reportAndErase h) fun hswept => ?_
  refine turns_then hswept ((frame_pass _).turns.trans ?_) turns_reportAndErase
  exact turns_foldl (fun _ _ _ => turns_expire _ _ _) _ hswept

lemma turns_dispatchLoop (id : UInt64) (left : ℕ) (h : Handled allowed loop.moments) :
    Turns allowed loop (EventLoop.dispatchLoop id left loop).2 := by
  induction left generalizing loop with
  | zero => exact .refl
  | succ left ih =>
    unfold EventLoop.dispatchLoop
    cases hfind : loop.find id with
    | none => exact .refl
    | some connection =>
      dsimp only
      split
      · exact .refl
      · exact .refl
      rename_i frame parser hnext
      have hput := frame_put hfind { connection with parser } none
      split
      · exact hput.turns
      have hcall (occasion : Occasion) :
          Turns allowed loop ((loop.put id { connection with parser } none).call occasion).2 :=
        turns_then h hput.turns fun hhandled => turns_call hhandled occasion
      split
      · exact hcall _
      split
      · exact hcall _
      · exact turns_then h (hcall _) ih

lemma frame_touch (loop : EventLoop) (id : UInt64) : Frame loop (loop.touch id) := by
  unfold EventLoop.touch
  cases hfind : loop.find id with
  | none => exact .refl loop
  | some connection =>
    have hput := @frame_put loop.pass id connection hfind { connection with lastActivity := loop.moment.now } none
    exact ⟨hput.moments, hput.timers, hput.listeners, hput.limit, hput.size⟩

lemma turns_read (h : Handled allowed loop.moments) (id : UInt64) : Turns allowed loop (loop.read id).2 := by
  have hfilled : Turns allowed loop ((loop.pass.fillConnection id loop.moment.socket).2.touch id) :=
    ((frame_pass loop).turns.trans (frame_fill _ _ _).turns).trans (frame_touch _ _).turns
  have hread := turns_then h hfilled fun hhandled =>
    turns_dispatchLoop id NetReactor.maxFramesPerIteration hhandled
  unfold EventLoop.read
  dsimp only
  split
  · exact hread
  · exact hread

lemma turns_flushOrDrop (loop : EventLoop) (id : UInt64) : Turns allowed loop (loop.flushOrDrop id).2 := by
  have hflush : Turns allowed loop (loop.flush id).2 := by
    unfold EventLoop.flush
    cases hfind : loop.find id with
    | none => exact .refl
    | some connection =>
      have hput := @frame_put loop.pass id connection hfind
        { connection with outbound := (connection.outbound.flush loop.moment.replies).2 } none
      exact Frame.turns ⟨hput.moments, hput.timers, hput.listeners, hput.limit, hput.size⟩
  unfold EventLoop.flushOrDrop
  dsimp only
  split
  · exact hflush.trans (turns_drop _ _ _)
  · exact hflush

lemma turns_write (loop : EventLoop) (id : UInt64) (item : PollItem) : Turns allowed loop (loop.write id item) := by
  have hfirst : Turns allowed loop
      (if loop.hasOutput id ∧ (item.writable ∨ item.readable) then loop.flushOrDrop id else (true, loop)).2 := by
    split
    · exact turns_flushOrDrop loop id
    · exact .refl
  have hagain (first : Bool × EventLoop) (h : Turns allowed loop first.2) : Turns allowed loop
      (if first.1 ∧ first.2.hasOutput id ∧ item.writable = false then (first.2.flushOrDrop id).2 else first.2) := by
    split
    · exact h.trans (turns_flushOrDrop _ _)
    · exact h
  exact hagain _ hfirst

lemma turns_serve (h : Handled allowed loop.moments) (id : UInt64) (item : PollItem) :
    Turns allowed loop (loop.serve id item) := by
  have hreceived : Turns allowed loop (if item.readable then loop.read id else (.ok (), loop)).2 := by
    split
    · exact turns_read h id
    · exact .refl
  unfold EventLoop.serve
  split
  · exact .refl
  dsimp only
  split
  · exact hreceived.trans (turns_drop _ _ _)
  split
  · exact hreceived.trans (turns_drop _ _ _)
  · exact hreceived.trans (turns_write _ _ _)

lemma turns_acceptLoop (listener : Listener) (left : ℕ) (h : Handled allowed loop.moments) :
    Turns allowed loop (EventLoop.acceptLoop listener left loop) := by
  induction left generalizing loop with
  | zero => exact .refl
  | succ left ih =>
    unfold EventLoop.acceptLoop
    split
    · exact (frame_pass loop).turns
    rename_i handle _
    refine turns_then h ?_ ih
    split
    · exact turns_then h (frame_pass loop).turns fun hhandled => turns_call hhandled _
    · exact (frame_pass loop).turns

lemma turns_accept (h : Handled allowed loop.moments) (item : PollItem) : Turns allowed loop (loop.accept item) := by
  unfold EventLoop.accept
  split
  · exact .refl
  · exact turns_foldl (fun _ listener hhandled => turns_acceptLoop listener _ hhandled) _ h

lemma turns_pump (h : Handled allowed loop.moments) (timeout : ℤ) : Turns allowed loop (loop.pump timeout).2 := by
  have hwaited (ids : List UInt64) : Turns allowed loop (loop.defer ids).pass :=
    (frame_defer loop ids).turns.trans (frame_pass _).turns
  unfold EventLoop.pump
  dsimp only
  split
  · exact hwaited _
  split
  · exact hwaited _
  have hserved (listening : List PollItem) (polled : List (UInt64 × PollItem)) (waited : EventLoop)
      (hhandled : Handled allowed waited.moments) : Turns allowed waited
        (polled.foldl (fun loop polled => loop.serve polled.1 polled.2) (listening.foldl EventLoop.accept waited)) := by
    have haccepted : Turns allowed waited (listening.foldl EventLoop.accept waited) :=
      turns_foldl (fun _ _ hnext => turns_accept hnext _) _ hhandled
    exact turns_then hhandled haccepted (turns_foldl (fun _ _ hnext => turns_serve hnext _ _) _)
  exact turns_then h (hwaited _) (hserved _ _ _)

lemma turns_runLoop (turns : ℕ) (h : Handled allowed loop.moments) :
    Turns allowed loop (EventLoop.runLoop turns loop).2 := by
  induction turns generalizing loop with
  | zero => exact .refl
  | succ turns ih =>
    have hcounted : Frame loop { loop with iterations := loop.iterations + 1 } := ⟨rfl, rfl, rfl, rfl, le_rfl⟩
    have hfired := turns_then h hcounted.turns turns_fireDueTimers
    unfold EventLoop.runLoop
    split
    · exact .refl
    dsimp only
    split
    · exact hfired
    have hswept := turns_then h hfired turns_sweepConnections
    have hpumped (timeout : ℤ) := turns_then h (hswept.trans (frame_pass _).turns) fun hhandled =>
      turns_pump hhandled timeout
    split
    · exact (hpumped _).trans (frame_running _ false).turns
    · exact turns_then h (hpumped _) ih

/-- What the owner of a loop does himself. -/
def Permitted (allowed : Action → Prop) (calls : List Call) : Prop := ∀ action, .act action ∈ calls → allowed action

/-- Whatever is done with a loop is a sequence of turns. -/
lemma turns_after (h : Handled allowed loop.moments) {calls : List Call} (hcalls : Permitted allowed calls) :
    Turns allowed loop (loop.after calls) := by
  induction calls generalizing loop with
  | nil => exact .refl
  | cons call calls ih =>
    refine turns_then h ?_ fun hhandled => ih hhandled fun action haction => hcalls action (by simp [haction])
    cases call with
    | act action => exact .single (.act action (hcalls action (by simp)))
    | run turns =>
      exact turns_then h (frame_running loop true).turns (turns_runLoop turns)

end Turns

/-! The timers. -/

/-- The order of the timers: by their deadlines, and of one deadline by their ids. -/
def Before (timer next : Int64 × UInt64) : Prop := timer.1 < next.1 ∨ timer.1 = next.1 ∧ timer.2 < next.2

section Order

variable {timer next last : Int64 × UInt64} {timers : List (Int64 × UInt64)}

lemma before_iff : Before timer next ↔
    timer.1.toInt < next.1.toInt ∨ timer.1.toInt = next.1.toInt ∧ timer.2.toNat < next.2.toNat := by
  rw [Before, Int64.lt_iff_toInt_lt, UInt64.lt_iff_toNat_lt, Int64.toInt_inj]

lemma Before.trans (h : Before timer next) (h' : Before next last) : Before timer last := by
  rw [before_iff] at h h' ⊢
  omega

lemma before_total (timer next : Int64 × UInt64) : timer = next ∨ Before timer next ∨ Before next timer := by
  rw [before_iff, before_iff, Prod.ext_iff, ← Int64.toInt_inj, ← UInt64.toNat_inj]
  omega

lemma mem_emplaceTimer : next ∈ emplaceTimer timer timers ↔ next = timer ∨ next ∈ timers := by
  induction timers with
  | nil => simp [emplaceTimer]
  | cons first rest ih =>
    unfold emplaceTimer
    split
    · rename_i heq
      simp [heq]
    split
    · simp
    · simp only [List.mem_cons, ih]
      tauto

lemma emplaceTimer_ordered (h : timers.Pairwise Before) : (emplaceTimer timer timers).Pairwise Before := by
  induction timers with
  | nil => exact List.pairwise_singleton Before timer
  | cons first rest ih =>
    obtain ⟨hfirst, hrest⟩ := List.pairwise_cons.mp h
    unfold emplaceTimer
    split
    · exact h
    rename_i hne
    split
    · rename_i hbefore
      refine List.pairwise_cons.mpr ⟨fun u hu => ?_, h⟩
      rcases List.mem_cons.mp hu with rfl | hu
      · exact hbefore
      · exact Before.trans hbefore (hfirst u hu)
    · rename_i hafter
      have hfirstBefore : Before first timer := by
        rcases before_total timer first with heq | hbefore | hbefore
        · exact absurd heq hne
        · exact absurd hbefore hafter
        · exact hbefore
      refine List.pairwise_cons.mpr ⟨fun u hu => ?_, ih hrest⟩
      rcases mem_emplaceTimer.mp hu with rfl | hu
      · exact hfirstBefore
      · exact hfirst u hu

/-- Of timers in order, those up to the first one that is not due are those that are due. -/
lemma dropWhile_due (now : Int64) (h : timers.Pairwise Before) :
    timers.takeWhile (fun timer => timer.1 ≤ now) = timers.filter (fun timer => timer.1 ≤ now) ∧
      timers.dropWhile (fun timer => timer.1 ≤ now) = timers.filter (fun timer => now < timer.1) := by
  induction timers with
  | nil => exact ⟨rfl, rfl⟩
  | cons first rest ih =>
    obtain ⟨hfirst, hrest⟩ := List.pairwise_cons.mp h
    obtain ⟨htake, hdrop⟩ := ih hrest
    by_cases hdue : first.1 ≤ now
    · have hnot : ¬now < first.1 := by rw [Int64.not_lt]; exact hdue
      simp [hdue, hnot, htake, hdrop]
    · -- what comes later is not due either
      have hlater : ∀ u ∈ rest, now < u.1 := by
        intro u hu
        have hbefore := before_iff.mp (hfirst u hu)
        have hnot : now < first.1 := Int64.not_le.mp hdue
        rw [Int64.lt_iff_toInt_lt] at hnot ⊢
        omega
      have hfirstLater : now < first.1 := Int64.not_le.mp hdue
      constructor
      · have hnone : rest.filter (fun timer => decide (timer.1 ≤ now)) = [] :=
          List.filter_eq_nil_iff.mpr fun u hu => by simpa using hlater u hu
        simp [hdue, hnone]
      · have hall : rest.filter (fun timer => decide (now < timer.1)) = rest :=
          List.filter_eq_self.mpr fun u hu => by simpa using hlater u hu
        simp [hdue, hfirstLater, hall]

end Order

lemma act_timers (loop : EventLoop) (action : Action) :
    (loop.act action).timers = loop.timers ∨
      (∃ deadline, action = .schedule deadline ∧
        (loop.act action).timers = emplaceTimer (deadline.unixNanos, loop.nextTimerId) loop.timers) ∨
      ∃ id, action = .cancel id ∧ (loop.act action).timers = loop.timers.filter fun timer => timer.2 ≠ id := by
  cases action with
  | addListener listener =>
    refine .inl ?_
    simp only [EventLoop.act, EventLoop.addListener]
    split
    · rfl
    split <;> rfl
  | adopt offer =>
    refine .inl ?_
    simp only [EventLoop.act, EventLoop.adopt, EventLoop.emplace]
    split
    · rfl
    split
    · rfl
    split <;> rfl
  | perform id event => exact .inl (frame_perform loop id event).timers
  | fill id socket => exact .inl (frame_fill loop id socket).timers
  | schedule deadline => exact .inr (.inl ⟨deadline, rfl, rfl⟩)
  | cancel timerId => exact .inr (.inr ⟨timerId, rfl, rfl⟩)
  | setMaxConnections limit => exact .inl rfl
  | stop => exact .inl rfl

lemma turn_ordered {allowed : Action → Prop} {loop next : EventLoop} (hturn : Turn allowed loop next)
    (h : loop.timers.Pairwise Before) : next.timers.Pairwise Before := by
  cases hturn with
  | frame hframe =>
    rw [hframe.timers]
    exact h
  | act action hallowed =>
    rcases act_timers loop action with hsame | ⟨deadline, -, hscheduled⟩ | ⟨id, -, hcancelled⟩
    · rw [hsame]
      exact h
    · rw [hscheduled]
      exact emplaceTimer_ordered h
    · rw [hcancelled]
      exact h.filter _
  | fire => exact h.sublist (List.dropWhile_sublist _)

/-- A timer stays as long as it is neither due nor cancelled. -/
lemma turn_waits {timer : Int64 × UInt64} {loop next : EventLoop} (hturn : Turn (· ≠ .cancel timer.2) loop next)
    (hearly : loop.moment.now.unixNanos < timer.1) (h : timer ∈ loop.timers) : timer ∈ next.timers := by
  cases hturn with
  | frame hframe =>
    rw [hframe.timers]
    exact h
  | act action hallowed =>
    rcases act_timers loop action with hsame | ⟨deadline, -, hscheduled⟩ | ⟨id, rfl, hcancelled⟩
    · rw [hsame]
      exact h
    · rw [hscheduled]
      exact mem_emplaceTimer.mpr (.inr h)
    · rw [hcancelled]
      refine List.mem_filter.mpr ⟨h, ?_⟩
      have hne : timer.2 ≠ id := fun heq => hallowed (by rw [heq])
      simpa using hne
  | fire =>
    -- only timers that are due are taken out
    rw [← List.takeWhile_append_dropWhile
      (p := fun timer : Int64 × UInt64 => decide (timer.1 ≤ loop.moment.now.unixNanos)) (l := loop.timers)] at h
    rcases List.mem_append.mp h with hdue | hrest
    · have hnot := List.mem_takeWhile_imp hdue
      rw [decide_eq_true_eq] at hnot
      exact absurd hearly (Int64.not_lt.mpr hnot)
    · exact hrest

/-- Whatever the handlers and the owner of a loop do: its timers are in order, and firing calls the handlers of exactly
those timers that are due, in the order of their deadlines, with all others still waiting; and a timer waits as long as
the clock has not come to its deadline and nobody cancels it. -/
theorem timers_fire_when_due (moments : ℕ → Moment) (calls : List Call) :
    let loop := ({ moments } : EventLoop).after calls
    loop.timers.Pairwise Before ∧
    loop.fireDueTimers = (loop.timers.filter fun timer => timer.1 ≤ loop.moment.now.unixNanos).foldl
      (fun loop timer => (loop.call (.timer timer.2)).2)
      { loop.pass with timers := loop.timers.filter fun timer => loop.moment.now.unixNanos < timer.1 } ∧
    ∀ timer ∈ loop.timers, (∀ n, (moments n).now.unixNanos < timer.1) → Handled (· ≠ .cancel timer.2) moments →
      ∀ later, Permitted (· ≠ .cancel timer.2) later → timer ∈ (loop.after later).timers := by
  intro loop
  have hturns : Turns (fun _ => True) ({ moments } : EventLoop) loop :=
    turns_after (fun _ _ _ _ => trivial) fun _ _ => trivial
  have hordered : loop.timers.Pairwise Before :=
    turns_induction hturns List.Pairwise.nil fun _ _ hturn h => turn_ordered hturn h
  obtain ⟨htake, hdrop⟩ := dropWhile_due loop.moment.now.unixNanos hordered
  refine ⟨hordered, ?_, fun timer htimer hearly hhandled later hlater => ?_⟩
  · rw [← htake, ← hdrop]
    rfl
  · have hsame : loop.moments = moments := turns_moments hturns
    have hkept : (loop.after later).moments = moments ∧ timer ∈ (loop.after later).timers := by
      refine turns_induction (P := fun next => next.moments = moments ∧ timer ∈ next.timers)
        (turns_after (by rw [hsame]; exact hhandled) hlater) ⟨hsame, htimer⟩ fun here next hturn h => ?_
      refine ⟨hturn.moments.trans h.1, turn_waits hturn ?_ h.2⟩
      rw [EventLoop.moment, h.1]
      exact hearly _
    exact hkept.2

/-! The time to sleep. -/

section Sleep

variable {now best : Int64} {timers : List (Int64 × UInt64)}

/-- Of two times that are not negative, the difference is exact. -/
lemma toInt_delta {deadline now : Int64} (hdeadline : 0 ≤ deadline) (hnow : 0 ≤ now) :
    (deadline - now).toInt = deadline.toInt - now.toInt := by
  rw [Int64.le_iff_toInt_le] at hdeadline hnow
  have hzero : (0 : Int64).toInt = 0 := rfl
  rw [hzero] at hdeadline hnow
  have hdeadlineLt := deadline.toInt_lt
  have hnowLt := now.toInt_lt
  rw [Int64.toInt_sub, Int.bmod_eq_of_le (by omega) (by omega)]

/-- What the loop over the timers comes to: nothing if one is due, and else the least of what it began with and the
delays. -/
lemma soonest_spec (hnow : 0 ≤ now) (hdeadlines : ∀ timer ∈ timers, 0 ≤ timer.1) (hbest : best.toInt ≠ 0) :
    (soonest now best timers = none ↔ ∃ timer ∈ timers, timer.1 ≤ now) ∧
    ∀ delay, soonest now best timers = some delay →
      (∀ timer ∈ timers, delay.toInt ≤ timer.1.toInt - now.toInt) ∧ (0 < best.toInt → delay.toInt ≤ best.toInt) ∧
      (delay.toInt < 0 ↔ best.toInt < 0 ∧ timers = []) ∧ delay.toInt ≠ 0 := by
  induction timers generalizing best with
  | nil =>
    refine ⟨by simp [soonest], fun delay h => ?_⟩
    cases h
    exact ⟨by simp, fun _ => le_rfl, by simp, hbest⟩
  | cons first rest ih =>
    have hfirst := toInt_delta (hdeadlines first (by simp)) hnow
    have hzero : (0 : Int64).toInt = 0 := rfl
    have hdue : first.1 - now ≤ 0 ↔ first.1 ≤ now := by
      rw [Int64.le_iff_toInt_le, Int64.le_iff_toInt_le, hfirst, hzero]
      omega
    unfold soonest
    dsimp only
    by_cases hlate : first.1 ≤ now
    · rw [if_pos (hdue.mpr hlate)]
      exact ⟨by simp [hlate], fun delay h => by cases h⟩
    rw [if_neg (fun h => hlate (hdue.mp h))]
    rw [Int64.le_iff_toInt_le, not_le] at hlate
    set least := if best < 0 ∨ first.1 - now < best then first.1 - now else best with hleast
    -- the first delay, or what was less
    have hbounds : 0 < least.toInt ∧ least.toInt ≤ first.1.toInt - now.toInt ∧
        (0 < best.toInt → least.toInt ≤ best.toInt) := by
      rw [hleast]
      split
      · rename_i hor
        rw [Int64.lt_iff_toInt_lt, Int64.lt_iff_toInt_lt, hfirst, hzero] at hor
        rw [hfirst]
        omega
      · rename_i hor
        rw [Int64.lt_iff_toInt_lt, Int64.lt_iff_toInt_lt, hfirst, hzero] at hor
        omega
    obtain ⟨hnone, hsome⟩ := @ih least (fun timer htimer => hdeadlines timer (by simp [htimer])) (by omega)
    refine ⟨?_, fun delay hdelay => ?_⟩
    · rw [hnone]
      simp [Int64.le_iff_toInt_le, hlate]
    · obtain ⟨hrest, hleastLe, hsign, hne⟩ := hsome delay hdelay
      have hdelayLe := hleastLe hbounds.1
      refine ⟨fun timer htimer => ?_, fun hpos => hdelayLe.trans (hbounds.2.2 hpos), ?_, hne⟩
      · rcases List.mem_cons.mp htimer with rfl | htimer
        · exact hdelayLe.trans hbounds.2.1
        · exact hrest timer htimer
      · rw [hsign]
        constructor
        · rintro ⟨hneg, -⟩
          omega
        · rintro ⟨-, hnil⟩
          cases hnil

variable {loop : EventLoop}

lemma computeTimeout_none
    (h : soonest loop.moment.now.unixNanos (if loop.connections.isEmpty then -1 else 1000000000) loop.timers = none) :
    loop.computeTimeout = 0 := by
  unfold EventLoop.computeTimeout
  rw [h]

lemma computeTimeout_some {delay : Int64}
    (h : soonest loop.moment.now.unixNanos (if loop.connections.isEmpty then -1 else 1000000000) loop.timers =
      some delay) :
    loop.computeTimeout =
      if delay < 0 then -1 else if (delay / 1000000).toInt = 0 then 1 else min (delay / 1000000).toInt 1000 := by
  unfold EventLoop.computeTimeout
  rw [h]

lemma toInt_millis {delay : Int64} (h : 0 ≤ delay.toInt) : (delay / 1000000).toInt = delay.toInt / 1000000 := by
  have hmin : delay ≠ Int64.minValue := by
    rintro rfl
    exact absurd h (by decide)
  rw [Int64.toInt_div_of_ne_left _ _ hmin, Int.tdiv_eq_ediv_of_nonneg h]
  rfl

end Sleep

/-- The loop sleeps not at all when a timer is due, and without an end only when there is nothing to wait for. Otherwise
it wakes up within a second, and not after the deadline of any timer, up to the last millisecond. -/
theorem sleep_ends_in_time (loop : EventLoop) (hnow : 0 ≤ loop.moment.now.unixNanos)
    (hdeadlines : ∀ timer ∈ loop.timers, 0 ≤ timer.1) :
    (loop.computeTimeout = 0 ↔ ∃ timer ∈ loop.timers, timer.1 ≤ loop.moment.now.unixNanos) ∧
    (loop.computeTimeout < 0 ↔ loop.timers = [] ∧ loop.connections.isEmpty = true) ∧ loop.computeTimeout ≤ 1000 ∧
    ∀ timer ∈ loop.timers,
      loop.computeTimeout ≤ max 1 ((timer.1.toInt - loop.moment.now.unixNanos.toInt) / 1000000) := by
  set now := loop.moment.now.unixNanos with hnowEq
  set first : Int64 := if loop.connections.isEmpty then -1 else 1000000000 with hfirst
  have hfirstInt : first.toInt = if loop.connections.isEmpty then -1 else 1000000000 := by
    rw [hfirst]
    split <;> rfl
  obtain ⟨hnone, hsome⟩ := @soonest_spec now first loop.timers hnow hdeadlines (by rw [hfirstInt]; split <;> decide)
  cases hsoonest : soonest now first loop.timers with
  | none =>
    have htimeout : loop.computeTimeout = 0 := computeTimeout_none hsoonest
    obtain ⟨timer, htimer, hdue⟩ := hnone.mp hsoonest
    rw [htimeout]
    refine ⟨⟨fun _ => ⟨timer, htimer, hdue⟩, fun _ => rfl⟩, ?_, by decide, fun timer _ => by omega⟩
    constructor
    · intro h
      omega
    · rintro ⟨hnil, -⟩
      rw [hnil] at htimer
      cases htimer
  | some delay =>
    obtain ⟨hdelays, hcapped, hsign, hne⟩ := hsome delay hsoonest
    have hnotDue : ¬∃ timer ∈ loop.timers, timer.1 ≤ now := by
      rw [← hnone, hsoonest]
      nofun
    have hneg : delay < 0 ↔ delay.toInt < 0 := Int64.lt_iff_toInt_lt
    by_cases hidle : delay < 0
    · have htimeout : loop.computeTimeout = -1 := (computeTimeout_some hsoonest).trans (if_pos hidle)
      obtain ⟨hfirstNeg, hnil⟩ := hsign.mp (hneg.mp hidle)
      have hempty : loop.connections.isEmpty = true := by
        by_contra hno
        rw [hfirstInt, if_neg hno] at hfirstNeg
        omega
      rw [htimeout, hnil]
      exact ⟨by simp, by simp [hempty], by decide, by simp⟩
    · rw [hneg] at hidle
      have htimeout : loop.computeTimeout =
          if delay.toInt / 1000000 = 0 then 1 else min (delay.toInt / 1000000) 1000 := by
        rw [computeTimeout_some hsoonest, if_neg (fun h => hidle (hneg.mp h)), toInt_millis (by omega)]
      rw [htimeout]
      refine ⟨?_, ?_, by split <;> omega, fun timer htimer => ?_⟩
      · refine ⟨fun h => ?_, fun h => absurd h hnotDue⟩
        split at h <;> omega
      · constructor
        · intro h
          split at h <;> omega
        · rintro ⟨hnil, hempty⟩
          rw [hfirstInt, if_pos hempty] at hsign
          exact absurd (hsign.mpr ⟨by decide, hnil⟩) hidle
      · have hle := hdelays timer htimer
        have hdivLe : delay.toInt / 1000000 ≤ (timer.1.toInt - now.toInt) / 1000000 :=
          Int.ediv_le_ediv (by decide) hle
        split <;> omega

/-- Handlers do nothing, and every poll has that answer. -/
def idleMoment (now : Timestamp) (answer : Polled) : Moment where
  now
  reaction _ := ⟨[], .ok ()⟩
  socket := ⟨[], .blocked⟩
  replies := []
  accepted := .error (Status.invalid "")
  polled _ _ := answer

/-- A loop at five nanoseconds, with a timer two seconds later and another after a millisecond and a half. -/
def sleepy : EventLoop where
  moments _ := idleMoment ⟨5⟩ .interrupted
  timers := [(1500005, 2), (2000000005, 1)]

/-- It sleeps for the millisecond. -/
theorem sleep_ends_in_time_sleepy :
    sleepy.computeTimeout ≤ max 1 ((1500005 - 5) / 1000000) ∧ ¬sleepy.computeTimeout = 0 := by
  have hdeadlines : ∀ timer ∈ sleepy.timers, 0 ≤ timer.1 :=
    List.forall_mem_cons.mpr ⟨by decide, List.forall_mem_singleton.mpr (by decide)⟩
  obtain ⟨hzero, -, -, hbound⟩ := sleep_ends_in_time sleepy (by decide) hdeadlines
  refine ⟨hbound (1500005, 2) (by decide), ?_⟩
  rw [hzero]
  decide

/-! The sets that are polled. -/

/-- No limit above the number of connections that can be polled is set. -/
def WithinLimits (action : Action) : Prop := ∀ limit, action = .setMaxConnections limit → limit ≤ kMaxConnections

/-- There is room for all listeners and connections in one poll. -/
structure Pollable (loop : EventLoop) : Prop where
  listeners : loop.listeners.length ≤ maxListeners
  limit : loop.maxConnections ≤ kMaxConnections
  connections : loop.connections.size ≤ kMaxConnections

lemma turn_pollable {loop next : EventLoop} (hturn : Turn WithinLimits loop next) (h : Pollable loop) :
    Pollable next := by
  have hframe {next : EventLoop} (hframe : Frame loop next) : Pollable next :=
    ⟨by rw [hframe.listeners]; exact h.listeners, by rw [hframe.limit]; exact h.limit, hframe.size.trans h.connections⟩
  cases hturn with
  | frame hsame => exact hframe hsame
  | fire => exact ⟨h.listeners, h.limit, h.connections⟩
  | act action hallowed =>
    cases action with
    | addListener listener =>
      simp only [EventLoop.act, EventLoop.addListener]
      split
      · exact h
      split
      · exact h
      · rename_i hroom
        refine ⟨?_, h.limit, h.connections⟩
        rw [List.length_append, List.length_singleton]
        omega
    | adopt offer =>
      simp only [EventLoop.act, EventLoop.adopt, EventLoop.emplace]
      split
      · exact h
      split
      · exact h
      rename_i hroom
      split
      · exact ⟨h.listeners, h.limit, h.connections⟩
      · refine ⟨h.listeners, h.limit, ?_⟩
        have hlimit := h.limit
        exact (size_insert_le_succ _ _ _).trans (by change loop.connections.size + 1 ≤ _; omega)
    | perform id event => exact hframe (frame_perform loop id event)
    | fill id socket => exact hframe (frame_fill loop id socket)
    | schedule deadline => exact ⟨h.listeners, h.limit, h.connections⟩
    | cancel timerId => exact ⟨h.listeners, h.limit, h.connections⟩
    | setMaxConnections limit => exact ⟨h.listeners, hallowed limit rfl, h.connections⟩
    | stop => exact ⟨h.listeners, h.limit, h.connections⟩

/-- The kernel has failed to poll at that moment. -/
def PollFailed (loop : EventLoop) (status : Status) : Prop :=
  ∃ items timeout, items.length ≤ maxListeners + kMaxConnections ∧ loop.moment.polled items timeout = .failed status

lemma pump_error {loop : EventLoop} (h : Pollable loop) {timeout : ℤ} {status : Status}
    (herror : (loop.pump timeout).1 = .error status) : PollFailed loop status := by
  unfold EventLoop.pump at herror
  dsimp only at herror
  set items : List PollItem :=
    (loop.listeners.filter Listener.valid).map (fun listener => { handle := listener.handle }) ++
    (loop.connections.toList.filter fun entry => !entry.2.isClosed).map fun entry =>
      { handle := entry.2.handle, wantWrite := entry.2.hasOutput } with hitems
  have hlength : items.length ≤ maxListeners + kMaxConnections := by
    rw [hitems, List.length_append, List.length_map, List.length_map]
    have hlisteners := List.length_filter_le Listener.valid loop.listeners
    have hconnections := List.length_filter_le (fun entry => !entry.2.isClosed) loop.connections.toList
    rw [Std.ExtTreeMap.length_toList] at hconnections
    have hl := h.listeners
    have hc := h.connections
    omega
  have hsmall : ¬kMaxConnections + 4 < items.length := by
    have hfour : maxListeners = 4 := rfl
    omega
  refine ⟨items, timeout, hlength, ?_⟩
  cases hpolled : pollSockets items timeout loop.moment.polled with
  | ok answer =>
    rw [hpolled] at herror
    dsimp only at herror
    split at herror <;> cases herror
  | error failure =>
    rw [hpolled] at herror
    cases herror
    unfold pollSockets at hpolled
    rw [if_neg hsmall] at hpolled
    split at hpolled
    · cases hpolled
    split at hpolled
    · cases hpolled
    · rename_i hfailed
      cases hpolled
      exact hfailed
    · cases hpolled

lemma runLoop_error {loop : EventLoop} (hhandled : Handled WithinLimits loop.moments) (h : Pollable loop) {turns : ℕ}
    {status : Status} (herror : (EventLoop.runLoop turns loop).1 = .error status) :
    ∃ reached, Turns WithinLimits loop reached ∧ PollFailed reached status := by
  induction turns generalizing loop with
  | zero => cases herror
  | succ turns ih =>
    have hcounted : Frame loop { loop with iterations := loop.iterations + 1 } := ⟨rfl, rfl, rfl, rfl, le_rfl⟩
    have hfired := turns_then hhandled hcounted.turns turns_fireDueTimers
    have hswept := (turns_then hhandled hfired turns_sweepConnections).trans (frame_pass _).turns
    have hpollable := turns_induction hswept h fun _ _ hturn => turn_pollable hturn
    unfold EventLoop.runLoop at herror
    split at herror
    · cases herror
    dsimp only at herror
    split at herror
    · cases herror
    split at herror
    · rename_i hfailed
      cases herror
      exact ⟨_, hswept, pump_error hpollable hfailed⟩
    · have hpumped (timeout : ℤ) := turns_then hhandled hswept fun hhandled => turns_pump hhandled timeout
      obtain ⟨reached, hreached, hfailed⟩ := ih (by rw [turns_moments (hpumped _)]; exact hhandled)
        (turns_induction (hpumped _) h fun _ _ hturn => turn_pollable hturn) herror
      exact ⟨reached, (hpumped _).trans hreached, hfailed⟩

/-- A loop ends with an error only when the kernel has failed to poll, on a set that is within the limits: whatever
connections and listeners its owner and its handlers add, the set that is polled never gets too large. -/
theorem run_fails_with_poll {moments : ℕ → Moment} (hhandled : Handled WithinLimits moments) {calls : List Call}
    (hcalls : Permitted WithinLimits calls) {turns : ℕ} {status : Status}
    (herror : ((({ moments } : EventLoop).after calls).run turns).1 = .error status) :
    ∃ reached, Turns WithinLimits { moments } reached ∧ PollFailed reached status := by
  set loop := ({ moments } : EventLoop).after calls with hloop
  have hturns : Turns WithinLimits { moments } loop := turns_after hhandled hcalls
  have hpollable : Pollable loop :=
    turns_induction hturns ⟨Nat.zero_le _, le_rfl, Nat.zero_le _⟩ fun _ _ hturn => turn_pollable hturn
  have hrunning : Pollable { loop with running := true } :=
    ⟨hpollable.listeners, hpollable.limit, hpollable.connections⟩
  have hmoments : loop.moments = moments := turns_moments hturns
  obtain ⟨reached, hreached, hfailed⟩ := runLoop_error (by rw [hmoments]; exact hhandled) hrunning herror
  exact ⟨reached, hturns.trans ((frame_running loop true).turns.trans hreached), hfailed⟩

/-- A loop with one listener reports the failure. -/
theorem run_fails_with_poll_failing :
    ∃ reached,
      Turns WithinLimits { moments := fun _ => idleMoment ⟨0⟩ (.failed (Status.invalid "poll failed")) } reached ∧
      PollFailed reached (Status.invalid "poll failed") := by
  have hcalls : Permitted WithinLimits [.act (.addListener ⟨3, true⟩)] := by
    intro action haction limit heq
    simp [heq] at haction
  have herror : ((({ moments := fun _ => idleMoment ⟨0⟩ (.failed (Status.invalid "poll failed")) } : EventLoop).after
      [.act (.addListener ⟨3, true⟩)]).run 1).1 = .error (Status.invalid "poll failed") := rfl
  exact run_fails_with_poll (fun _ _ _ h => by cases h) hcalls herror

end InterClusterFabric.NetTimers
