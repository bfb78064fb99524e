import InterClusterFabric.NetEventLoop

/-! Connections are reported before the event loop erases them. Between two sweeps handlers may close connections and
take in new ones, but none goes away; only what is closed is ever queued for erasing. -/
namespace InterClusterFabric.NetClosing
open CoreStatus CoreTime LibraryLifecycle LibraryOrdMap WireFrame NetOutbound NetEventLoop

variable {loop next : EventLoop} {id : UInt64} {connection changed : Connection}

/-! The journal of the connections. -/

/-- Where a connection stands, by its own flags. -/
def lifeOf (connection : Connection) : Life Status :=
  match connection.outbound.closed with
  | none => .live connection.watched
  | some reason =>
    if connection.closeReported = true ∧ connection.watched = true then .reported reason
    else .closed connection.watched reason

lemma lifeOf_ne_unborn (connection : Connection) : lifeOf connection ≠ .unborn := by
  unfold lifeOf
  split
  · nofun
  · split <;> nofun

lemma lifeOf_ne_removed (connection : Connection) (watched : Bool) (reason : Status) :
    lifeOf connection ≠ .removed watched reason := by
  unfold lifeOf
  split
  · nofun
  · split <;> nofun

lemma lifeOf_ne_broken (connection : Connection) : lifeOf connection ≠ .broken := by
  unfold lifeOf
  split
  · nofun
  · split <;> nofun

/-- The journal agrees with the connections. -/
structure Books (loop : EventLoop) : Prop where
  distinct : ∀ id id' c c', loop.find id = some c → loop.find id' = some c' → c.serial = c'.serial → id = id'
  standing : ∀ id c, loop.find id = some c → life loop.journal c.serial = lifeOf c
  inOrder : ∀ id c, loop.find id = some c → c.closeReported = true → c.isClosed = true
  counted : ∀ entry ∈ loop.journal, entry.key < loop.adoptions
  inside : ∀ serial < loop.adoptions, (∃ id c, loop.find id = some c ∧ c.serial = serial) ∨
    ∃ watched reason, life loop.journal serial = .removed watched reason

lemma Books.serial_lt (h : Books loop) (hfind : loop.find id = some connection) :
    connection.serial < loop.adoptions := by
  by_contra hge
  refine lifeOf_ne_unborn connection ?_
  rw [← h.standing id connection hfind]
  exact life_of_fresh fun entry hentry heq => hge (heq ▸ h.counted entry hentry)

lemma Books.of_same (h : Books loop) (hconnections : next.connections = loop.connections)
    (hadoptions : next.adoptions = loop.adoptions) (hjournal : next.journal = loop.journal) : Books next := by
  have hfind : next.find = loop.find := by
    funext id
    rw [EventLoop.find, EventLoop.find, hconnections]
  obtain ⟨hdistinct, hstanding, hinOrder, hcounted, hinside⟩ := h
  rw [← hfind, ← hjournal] at *
  rw [← hadoptions] at *
  exact ⟨hdistinct, hstanding, hinOrder, hcounted, hinside⟩

lemma find_put (loop : EventLoop) (id id' : UInt64) (connection : Connection) (entry : Option (Entry ℕ Status)) :
    (loop.put id connection entry).find id' = if id' = id then some connection else loop.find id' :=
  getElem?_insert_eq _ _ _ _

/-- At most one connection changes, and the journal goes on with what happened to it. -/
lemma Books.change (h : Books loop) {after : Option Connection} {entry : Option (Entry ℕ Status)} {serial : ℕ}
    (hfind : ∀ id', next.find id' = if id' = id then after else loop.find id')
    (hjournal : next.journal = loop.journal ++ entry.toList) (hkey : ∀ e ∈ entry, e.key = serial)
    (hadoptions : ∀ number, number < next.adoptions ↔ number < loop.adoptions ∨ number = serial)
    (hbefore : ∀ id' c, loop.find id' = some c → (c.serial = serial ↔ id' = id))
    (hafter : ∀ c ∈ after, c.serial = serial ∧ life next.journal serial = lifeOf c ∧
      (c.closeReported = true → c.isClosed = true))
    (hgone : after = none → ∃ watched reason, life next.journal serial = .removed watched reason) : Books next := by
  have hother (number : ℕ) (hne : number ≠ serial) : life next.journal number = life loop.journal number := by
    rw [hjournal]
    exact life_append_other fun e he heq => hne (heq.symm.trans (hkey e he))
  -- a connection of the new loop is the changed one, or another one of the old loop
  have hcases (id' : UInt64) (c : Connection) (hc : next.find id' = some c) :
      (id' = id ∧ c ∈ after) ∨ (id' ≠ id ∧ loop.find id' = some c ∧ c.serial ≠ serial) := by
    rw [hfind] at hc
    split at hc
    · exact .inl ⟨‹_›, hc⟩
    · exact .inr ⟨‹_›, hc, fun heq => ‹¬id' = id› ((hbefore id' c hc).mp heq)⟩
  constructor
  · intro id₁ id₂ c₁ c₂ h₁ h₂ heq
    rcases hcases id₁ c₁ h₁ with ⟨rfl, hc₁⟩ | ⟨-, hc₁, hne₁⟩ <;>
      rcases hcases id₂ c₂ h₂ with ⟨rfl, hc₂⟩ | ⟨-, hc₂, hne₂⟩
    · rfl
    · exact absurd (heq.symm.trans (hafter c₁ hc₁).1) hne₂
    · exact absurd (heq.trans (hafter c₂ hc₂).1) hne₁
    · exact h.distinct id₁ id₂ c₁ c₂ hc₁ hc₂ heq
  · intro id' c hc
    rcases hcases id' c hc with ⟨-, hc'⟩ | ⟨-, hc', hne⟩
    · rw [(hafter c hc').1, (hafter c hc').2.1]
    · rw [hother _ hne, h.standing id' c hc']
  · intro id' c hc
    rcases hcases id' c hc with ⟨-, hc'⟩ | ⟨-, hc', -⟩
    · exact (hafter c hc').2.2
    · exact h.inOrder id' c hc'
  · intro e he
    rw [hjournal] at he
    rw [hadoptions]
    rcases List.mem_append.mp he with hold | hnew
    · exact .inl (h.counted e hold)
    · exact .inr (hkey e (Option.mem_toList.mp hnew))
  · intro number hlt
    by_cases hserial : number = serial
    · subst hserial
      cases hnow : after with
      | none => exact .inr (hgone hnow)
      | some c => exact .inl ⟨id, c, by rw [hfind, if_pos rfl, hnow], (hafter c hnow).1⟩
    · rw [hother number hserial]
      refine (h.inside number (((hadoptions number).mp hlt).resolve_right hserial)).imp_left ?_
      rintro ⟨id', c, hc, rfl⟩
      exact ⟨id', c, by rw [hfind, if_neg fun heq => hserial ((hbefore id' c hc).mpr heq), hc], rfl⟩

/-- No other connection has the number of this one. -/
lemma Books.serial_eq_iff (h : Books loop) (hfind : loop.find id = some connection) (id' : UInt64) (c : Connection)
    (hc : loop.find id' = some c) : c.serial = connection.serial ↔ id' = id := by
  constructor
  · exact h.distinct id' id c connection hc hfind
  · rintro rfl
    rw [hfind] at hc
    cases hc
    rfl

/-- A connection is changed in place, and the journal says how. -/
lemma Books.put (h : Books loop) {entry : Option (Entry ℕ Status)} (hfind : loop.find id = some connection)
    (hserial : changed.serial = connection.serial) (hkey : ∀ e ∈ entry, e.key = connection.serial)
    (hlife : lifeOf changed = entry.elim (lifeOf connection) (lifeOf connection).advance)
    (hinOrder : changed.closeReported = true → changed.isClosed = true) : Books (loop.put id changed entry) := by
  refine h.change (fun id' => find_put loop id id' changed entry) rfl hkey (fun number => ?_) (h.serial_eq_iff hfind)
    (fun c hc => ?_) nofun
  · refine ⟨.inl, fun hboth => hboth.elim (fun hlt => hlt) ?_⟩
    rintro rfl
    exact h.serial_lt hfind
  · cases hc
    refine ⟨hserial, ?_, hinOrder⟩
    rw [hlife, ← h.standing id connection hfind]
    exact life_append_self hkey

lemma mem_of_find (h : loop.find id = some connection) : id ∈ loop.connections :=
  Std.ExtTreeMap.mem_iff_isSome_getElem?.mpr (by rw [← EventLoop.find, h]; rfl)

lemma find_emplace (hfree : id ∉ loop.connections) (connection : Connection) (id' : UInt64) :
    (loop.emplace id connection).find id' = if id' = id then some connection else loop.find id' := by
  rw [EventLoop.emplace, if_neg hfree]
  exact getElem?_insert_eq _ _ _ _

/-- A connection is taken in under an id that is free. -/
lemma Books.emplace (h : Books loop) (hfree : id ∉ loop.connections) (hserial : connection.serial = loop.adoptions)
    (hopen : connection.outbound.closed = none) (hunreported : connection.closeReported = false) :
    Books (loop.emplace id connection) := by
  set entry : Option (Entry ℕ Status) := some (.opened connection.serial connection.watched)
  have hjournal : (loop.emplace id connection).journal = loop.journal ++ entry.toList := by
    rw [EventLoop.emplace, if_neg hfree]
    rfl
  have hkey : ∀ e ∈ entry, e.key = connection.serial := by
    intro e he
    obtain rfl := Option.some.inj he
    rfl
  refine h.change (find_emplace hfree connection) hjournal hkey (fun number => ?_) (fun id' c hc => ?_)
    (fun c hc => ?_) nofun
  · rw [EventLoop.emplace, if_neg hfree, hserial]
    exact Nat.lt_succ_iff_lt_or_eq
  · constructor
    · intro heq
      have := h.serial_lt hc
      omega
    · rintro rfl
      exact absurd (mem_of_find hc) hfree
  · cases hc
    have hunborn : life loop.journal connection.serial = .unborn := by
      refine life_of_fresh fun entry hentry heq => ?_
      have := h.counted entry hentry
      omega
    have hadvance := life_snoc_self loop.journal (Entry.opened connection.serial connection.watched)
    rw [Entry.key, hunborn] at hadvance
    refine ⟨rfl, ?_, ?_⟩
    · rw [hjournal, lifeOf, hopen]
      exact hadvance
    · rw [hunreported]
      exact fun hfalse => Bool.noConfusion hfalse

lemma lifeOf_advance_removed (hclosed : connection.isClosed = true) (hreported : connection.closeReported = true) :
    ∃ reason, (lifeOf connection).advance (.removed connection.serial) = .removed connection.watched reason := by
  obtain ⟨reason, hreason⟩ := Option.isSome_iff_exists.mp hclosed
  refine ⟨reason, ?_⟩
  cases hwatched : connection.watched <;> simp [lifeOf, hreason, hreported, hwatched, Life.advance]

lemma find_erase (hfind : loop.find id = some connection) (id' : UInt64) :
    (loop.erase id).find id' = if id' = id then none else loop.find id' := by
  unfold EventLoop.erase
  rw [hfind]
  exact getElem?_erase_eq _ _ _

/-- A connection that was reported is erased. -/
lemma Books.erase (h : Books loop) (hfind : loop.find id = some connection) (hclosed : connection.isClosed = true)
    (hreported : connection.closeReported = true) : Books (loop.erase id) := by
  set entry : Option (Entry ℕ Status) := some (.removed connection.serial)
  have hjournal : (loop.erase id).journal = loop.journal ++ entry.toList := by
    rw [EventLoop.erase, hfind]
    rfl
  have hkey : ∀ e ∈ entry, e.key = connection.serial := by
    intro e he
    obtain rfl := Option.some.inj he
    rfl
  refine h.change (find_erase hfind) hjournal hkey (fun number => ?_) (h.serial_eq_iff hfind)
    (fun c hc => absurd hc (Option.not_mem_none c)) fun _ => ?_
  · rw [EventLoop.erase, hfind]
    refine ⟨.inl, fun hboth => hboth.elim (fun hlt => hlt) ?_⟩
    rintro rfl
    exact h.serial_lt hfind
  · obtain ⟨reason, hadvance⟩ := lifeOf_advance_removed hclosed hreported
    refine ⟨connection.watched, reason, ?_⟩
    rw [← hadvance, ← h.standing id connection hfind, hjournal]
    exact life_snoc_self loop.journal (.removed connection.serial)

/-! Between the sweeps. -/

/-- What handlers leave as it was: no connection goes away, and what is closed or reported stays so. -/
structure Kept (loop next : EventLoop) : Prop where
  books : Books loop → Books next
  pending : next.pendingErase = loop.pendingErase
  stays : ∀ id c, loop.find id = some c → ∃ c', next.find id = some c' ∧ c'.serial = c.serial ∧
    (c.isClosed = true → c'.isClosed = true) ∧ (c.closeReported = true → c'.closeReported = true)
  journal : loop.journal <+: next.journal

lemma Kept.of_same (hconnections : next.connections = loop.connections)
    (hpending : next.pendingErase = loop.pendingErase) (hadoptions : next.adoptions = loop.adoptions)
    (hjournal : next.journal = loop.journal) : Kept loop next where
  books h := h.of_same hconnections hadoptions hjournal
  pending := hpending
  stays id c hc := ⟨c, by rw [EventLoop.find, hconnections, ← EventLoop.find, hc], rfl, fun h => h, fun h => h⟩
  journal := by rw [hjournal]

lemma Kept.refl (loop : EventLoop) : Kept loop loop := .of_same rfl rfl rfl rfl

lemma Kept.trans {last : EventLoop} (h : Kept loop next) (h' : Kept next last) : Kept loop last where
  books hbooks := h'.books (h.books hbooks)
  pending := h'.pending.trans h.pending
  stays id c hc := by
    obtain ⟨c₁, hc₁, hserial₁, hclosed₁, hreported₁⟩ := h.stays id c hc
    obtain ⟨c₂, hc₂, hserial₂, hclosed₂, hreported₂⟩ := h'.stays id c₁ hc₁
    exact ⟨c₂, hc₂, hserial₂.trans hserial₁, fun hclosed => hclosed₂ (hclosed₁ hclosed),
      fun hreported => hreported₂ (hreported₁ hreported)⟩
  journal := h.journal.trans h'.journal

lemma Kept.foldl {α : Type} {f : EventLoop → α → EventLoop} (h : ∀ loop x, Kept loop (f loop x)) (xs : List α)
    (loop : EventLoop) : Kept loop (xs.foldl f loop) := by
  induction xs generalizing loop with
  | nil => exact .refl loop
  | cons x xs ih => exact (h loop x).trans (ih (f loop x))

lemma kept_put {entry : Option (Entry ℕ Status)} (hfind : loop.find id = some connection)
    (hserial : changed.serial = connection.serial) (hkey : ∀ e ∈ entry, e.key = connection.serial)
    (hlife : (connection.closeReported = true → connection.isClosed = true) →
      lifeOf changed = entry.elim (lifeOf connection) (lifeOf connection).advance)
    (hclosed : connection.isClosed = true → changed.isClosed = true)
    (hreported : connection.closeReported = true → changed.closeReported = true)
    (hinOrder : changed.closeReported = true → connection.closeReported = true ∨ connection.isClosed = true) :
    Kept loop (loop.put id changed entry) where
  books h := by
    have horder := h.inOrder id connection hfind
    exact h.put hfind hserial hkey (hlife horder) fun hnow => hclosed ((hinOrder hnow).elim horder fun h => h)
  pending := rfl
  stays id' c hc := by
    by_cases hid : id' = id
    · subst hid
      rw [hfind] at hc
      cases hc
      exact ⟨changed, by rw [find_put, if_pos rfl], hserial, hclosed, hreported⟩
    · exact ⟨c, by rw [find_put, if_neg hid, hc], rfl, fun h => h, fun h => h⟩
  journal := List.prefix_append _ _

/-- A change of what the journal does not speak of. -/
lemma kept_put_none (hfind : loop.find id = some connection) (hserial : changed.serial = connection.serial)
    (hwatched : changed.watched = connection.watched)
    (hclosed : changed.outbound.closed = connection.outbound.closed)
    (hreported : changed.closeReported = connection.closeReported) : Kept loop (loop.put id changed none) := by
  refine kept_put hfind hserial (by simp) (fun _ => ?_) ?_ ?_ ?_
  · simp only [lifeOf, hclosed, hreported, hwatched, Option.elim_none]
  · simp only [Connection.isClosed, hclosed, imp_self]
  · simp only [hreported, imp_self]
  · rw [hreported]
    exact .inl

lemma flush_closed (replies : List Reply) (outbound : Outbound) :
    (outbound.flush replies).2.closed = outbound.closed := by
  fun_induction Outbound.flush replies outbound with
  | case5 reply replies outbound front rest hqueue written hsend hsome ih => exact ih
  | _ => rfl

lemma queueFrame_closed (trace : Trace) (type : MessageType) (payload : Bytes) (sign : Bool) :
    (trace.queueFrame type payload sign).connection.closed = trace.connection.closed := by
  unfold Trace.queueFrame
  cases h : trace.connection.queueFrame type payload sign with
  | error e => rfl
  | ok after =>
    obtain ⟨-, -, encoded, -, rfl⟩ := Outbound.queueFrame_eq_ok h
    rfl

lemma close_isClosed (connection : Connection) (reason : Status) :
    (connection.perform (.close reason)).isClosed = true := by
  cases hclosed : connection.outbound.closed <;>
    simp [Connection.isClosed, Connection.perform, Trace.step, Outbound.close, hclosed]

/-- Only the first reason for which a connection is closed is kept. -/
lemma lifeOf_close (hinOrder : connection.closeReported = true → connection.isClosed = true) (reason : Status) :
    lifeOf (connection.perform (.close reason)) = (lifeOf connection).advance (.closed connection.serial reason) := by
  cases hclosed : connection.outbound.closed with
  | none =>
    have hunreported : connection.closeReported = false := by
      by_contra hreported
      have hsome := hinOrder (Bool.eq_true_of_not_eq_false hreported)
      rw [Connection.isClosed, hclosed] at hsome
      cases hsome
    simp [lifeOf, Connection.perform, Trace.step, Outbound.close, hclosed, hunreported, Life.advance]
  | some first =>
    have hsame : connection.perform (.close reason) = connection := by
      simp [Connection.perform, Trace.step, Outbound.close, hclosed]
    rw [hsame, lifeOf, hclosed]
    simp only
    split <;> rfl

lemma kept_perform (loop : EventLoop) (id : UInt64) (event : Event) : Kept loop (loop.perform id event) := by
  unfold EventLoop.perform
  cases hfind : loop.find id with
  | none => exact .refl loop
  | some connection =>
    cases event with
    | queueFrame type payload sign => exact kept_put_none hfind rfl rfl (queueFrame_closed _ _ _ _) rfl
    | queueMessage type payload => exact kept_put_none hfind rfl rfl (queueFrame_closed _ _ _ _) rfl
    | flush replies => exact kept_put_none hfind rfl rfl (flush_closed _ _) rfl
    | enableSigning key => exact kept_put_none hfind rfl rfl rfl rfl
    | close reason =>
      refine kept_put hfind rfl ?_ (fun hinOrder => lifeOf_close hinOrder reason)
        (fun _ => close_isClosed connection reason) (fun h => h) .inl
      rintro e ⟨⟩
      rfl

lemma kept_emplace (hserial : connection.serial = loop.adoptions) (hopen : connection.outbound.closed = none)
    (hunreported : connection.closeReported = false) : Kept loop (loop.emplace id connection) := by
  by_cases hused : id ∈ loop.connections
  · rw [EventLoop.emplace, if_pos hused]
    exact .refl loop
  · refine ⟨fun h => h.emplace hused hserial hopen hunreported, ?_,
      fun id' c hc => ⟨c, ?_, rfl, fun h => h, fun h => h⟩, ?_⟩
    · rw [EventLoop.emplace, if_neg hused]
    · rw [find_emplace hused, if_neg, hc]
      rintro rfl
      exact hused (mem_of_find hc)
    · rw [EventLoop.emplace, if_neg hused]
      exact List.prefix_append _ _

lemma kept_adopt (loop : EventLoop) (offer : Offer) : Kept loop (loop.adopt offer).2 := by
  unfold EventLoop.adopt
  split
  · exact .refl loop
  · split
    · exact .refl loop
    · have hpassed : Kept loop { loop.pass with nextConnectionId := loop.nextConnectionId + 1 } :=
        .of_same rfl rfl rfl rfl
      exact hpassed.trans (kept_emplace rfl rfl rfl)

lemma kept_fill (loop : EventLoop) (id : UInt64) (socket : NetReactor.Socket) :
    Kept loop (loop.fillConnection id socket).2 := by
  unfold EventLoop.fillConnection
  cases hfind : loop.find id with
  | none => exact .refl loop
  | some connection => exact kept_put_none hfind rfl rfl rfl rfl

lemma kept_act (loop : EventLoop) (action : Action) : Kept loop (loop.act action) := by
  cases action with
  | addListener listener =>
    show Kept loop (loop.addListener listener).2
    unfold EventLoop.addListener
    split
    · exact .refl loop
    · split
      · exact .refl loop
      · exact .of_same rfl rfl rfl rfl
  | adopt offer => exact kept_adopt loop offer
  | perform id event => exact kept_perform loop id event
  | fill id socket => exact kept_fill loop id socket
  | schedule deadline => exact .of_same rfl rfl rfl rfl
  | cancel timerId => exact .of_same rfl rfl rfl rfl
  | setMaxConnections limit => exact .of_same rfl rfl rfl rfl
  | stop => exact .of_same rfl rfl rfl rfl

lemma kept_pass (loop : EventLoop) : Kept loop loop.pass := .of_same rfl rfl rfl rfl

lemma kept_call (loop : EventLoop) (occasion : Occasion) : Kept loop (loop.call occasion).2 :=
  (kept_pass loop).trans (Kept.foldl kept_act _ _)

lemma kept_fireDueTimers (loop : EventLoop) : Kept loop loop.fireDueTimers := by
  unfold EventLoop.fireDueTimers
  have hcall (loop : EventLoop) (timer : Int64 × UInt64) : Kept loop (loop.call (.timer timer.2)).2 := kept_call loop _
  simp only
  refine Kept.trans ?_ (Kept.foldl hcall _ _)
  exact .of_same rfl rfl rfl rfl

lemma kept_dispatchLoop (id : UInt64) (left : ℕ) (loop : EventLoop) :
    Kept loop (EventLoop.dispatchLoop id left loop).2 := by
  induction left generalizing loop with
  | zero => exact .refl loop
  | succ left ih =>
    unfold EventLoop.dispatchLoop
    cases hfind : loop.find id with
    | none => exact .refl loop
    | some connection =>
      simp only
      cases connection.parser.next connection.outbound.config.verifyKey with
      | error status => exact .refl loop
      | ok taken =>
        cases taken with
        | none => exact .refl loop
        | some pair =>
          obtain ⟨frame, parser⟩ := pair
          have htaken : Kept loop (loop.put id { connection with parser } none) := kept_put_none hfind rfl rfl rfl rfl
          have hhandled := htaken.trans (kept_call _ (.frame id frame))
          simp only
          split
          · exact htaken
          · split
            · exact hhandled
            · split
              · exact hhandled
              · exact hhandled.trans (ih _)

lemma kept_touch (loop : EventLoop) (id : UInt64) : Kept loop (loop.touch id) := by
  unfold EventLoop.touch
  cases hfind : loop.find id with
  | none => exact .refl loop
  | some connection => exact (kept_pass loop).trans (kept_put_none hfind rfl rfl rfl rfl)

lemma kept_read (loop : EventLoop) (id : UInt64) : Kept loop (loop.read id).2 := by
  have hread : Kept loop (((loop.pass.fillConnection id loop.moment.socket).2.touch id).dispatch id).2 :=
    (((kept_pass loop).trans (kept_fill _ _ _)).trans (kept_touch _ _)).trans (kept_dispatchLoop _ _ _)
  unfold EventLoop.read
  simp only
  split <;> exact hread

lemma kept_flush (loop : EventLoop) (id : UInt64) : Kept loop (loop.flush id).2 := by
  unfold EventLoop.flush
  cases hfind : loop.find id with
  | none => exact .refl loop
  | some connection => exact (kept_pass loop).trans (kept_put_none hfind rfl rfl (flush_closed _ _) rfl)

lemma kept_acceptLoop (listener : Listener) (left : ℕ) (loop : EventLoop) :
    Kept loop (EventLoop.acceptLoop listener left loop) := by
  induction left generalizing loop with
  | zero => exact .refl loop
  | succ left ih =>
    unfold EventLoop.acceptLoop
    split
    · exact kept_pass loop
    · split
      · exact ((kept_pass loop).trans (kept_call _ _)).trans (ih _)
      · exact (kept_pass loop).trans (ih _)

lemma kept_accept (loop : EventLoop) (item : PollItem) : Kept loop (loop.accept item) := by
  unfold EventLoop.accept
  split
  · exact .refl loop
  · exact Kept.foldl (fun loop listener => kept_acceptLoop listener maxAcceptBurst loop) _ _

/-! Sweeping. -/

/-- The connection is closed, and whoever watches it was told. -/
def Told (loop : EventLoop) (id : UInt64) : Prop :=
  ∃ c, loop.find id = some c ∧ c.isClosed = true ∧ c.closeReported = true

lemma Told.kept (h : Told loop id) (hkept : Kept loop next) : Told next id := by
  obtain ⟨c, hc, hclosed, hreported⟩ := h
  obtain ⟨c', hc', -, hclosed', hreported'⟩ := hkept.stays id c hc
  exact ⟨c', hc', hclosed' hclosed, hreported' hreported⟩

lemma report_spec (hfind : loop.find id = some connection) (hclosed : connection.isClosed = true) :
    Kept loop (loop.report id) ∧ Told (loop.report id) id := by
  obtain ⟨reason, hreason⟩ := Option.isSome_iff_exists.mp hclosed
  unfold EventLoop.report
  simp only [hfind, hreason]
  by_cases hreported : connection.closeReported = true
  · rw [if_pos hreported]
    exact ⟨.refl loop, connection, hfind, hclosed, hreported⟩
  · rw [if_neg hreported]
    set told : Connection := { connection with closeReported := true } with htold
    have hput (entry : Option (Entry ℕ Status)) : Told (loop.put id told entry) id :=
      ⟨told, by rw [find_put, if_pos rfl], hclosed, rfl⟩
    cases hwatched : connection.watched with
    | true =>
      rw [if_pos rfl]
      have hkept : Kept loop (loop.put id told (some (.reported connection.serial reason))) := by
        refine kept_put hfind rfl ?_ (fun _ => ?_) (fun h => h) (fun _ => rfl) fun _ => .inr hclosed
        · rintro e ⟨⟩
          rfl
        · simp [lifeOf, htold, hreason, hreported, hwatched, Life.advance]
      exact ⟨hkept.trans (kept_call _ _), (hput _).kept (kept_call _ _)⟩
    | false =>
      rw [if_neg Bool.false_ne_true]
      refine ⟨kept_put hfind rfl (by simp) (fun _ => ?_) (fun h => h) (fun _ => rfl) fun _ => .inr hclosed, hput _⟩
      simp [lifeOf, htold, hreason, hwatched]

/-- The first loop tells of every connection that is queued. -/
lemma reports_spec {ids : List UInt64} (h : ∀ id ∈ ids, ∃ c, loop.find id = some c ∧ c.isClosed = true) :
    Kept loop (ids.foldl EventLoop.report loop) ∧ ∀ id ∈ ids, Told (ids.foldl EventLoop.report loop) id := by
  induction ids generalizing loop with
  | nil => exact ⟨.refl loop, by simp⟩
  | cons id ids ih =>
    obtain ⟨c, hc, hclosed⟩ := h id (by simp)
    obtain ⟨hkept, htold⟩ := report_spec hc hclosed
    obtain ⟨hrest, htolds⟩ := @ih (loop.report id) fun id' hid' => by
      obtain ⟨c', hc', hclosed'⟩ := h id' (by simp [hid'])
      obtain ⟨c'', hc'', -, hclosed'', -⟩ := hkept.stays id' c' hc'
      exact ⟨c'', hc'', hclosed'' hclosed'⟩
    refine ⟨hkept.trans hrest, ?_⟩
    rintro id' (_ | ⟨_, hid'⟩)
    · exact htold.kept hrest
    · exact htolds id' hid'

/-- What the second loop does: the queued connections go, all others stay, and the journal says which went. -/
structure Erased (ids : List UInt64) (loop next : EventLoop) : Prop where
  books : Books loop → Books next
  find : ∀ id, next.find id = if id ∈ ids then none else loop.find id
  journal : loop.journal <+: next.journal
  removed : ∀ id ∈ ids, ∀ c, loop.find id = some c → .removed c.serial ∈ next.journal

lemma erases_spec {ids : List UInt64} (h : ∀ id ∈ ids, loop.find id = none ∨ Told loop id) :
    Erased ids loop (ids.foldl EventLoop.erase loop) := by
  induction ids generalizing loop with
  | nil => exact ⟨fun h => h, by simp, List.prefix_rfl, by simp⟩
  | cons id ids ih =>
    rcases h id (by simp) with hnone | ⟨c, hc, hclosed, hreported⟩
    · have hsame : loop.erase id = loop := by rw [EventLoop.erase, hnone]
      obtain ⟨hbooks, hfind, hjournal, hremoved⟩ := ih fun id' hid' => h id' (by simp [hid'])
      rw [List.foldl_cons, hsame]
      refine ⟨hbooks, fun id' => ?_, hjournal, fun id' hid' c hc => ?_⟩
      · rw [hfind]
        by_cases heq : id' = id
        · subst heq
          simp [hnone]
        · simp [heq]
      · rcases List.mem_cons.mp hid' with rfl | hmem
        · rw [hnone] at hc
          cases hc
        · exact hremoved id' hmem c hc
    · have herase := find_erase hc
      obtain ⟨hbooks, hfind, hjournal, hremoved⟩ := @ih (loop.erase id) fun id' hid' => by
        by_cases heq : id' = id
        · exact .inl (by rw [herase, if_pos heq])
        · refine (h id' (by simp [hid'])).imp (fun hnone => ?_) fun htold => ?_
          · rw [herase, if_neg heq, hnone]
          · obtain ⟨c', hc', hboth⟩ := htold
            exact ⟨c', by rw [herase, if_neg heq, hc'], hboth⟩
      have hfirst : (loop.erase id).journal = loop.journal ++ [.removed c.serial] := by rw [EventLoop.erase, hc]
      rw [List.foldl_cons]
      refine ⟨fun hb => hbooks (hb.erase hc hclosed hreported), fun id' => ?_, ?_, fun id' hid' c' hc' => ?_⟩
      · rw [hfind, herase]
        by_cases heq : id' = id <;> simp [heq]
      · refine List.IsPrefix.trans ?_ hjournal
        rw [hfirst]
        exact List.prefix_append _ _
      · by_cases heq : id' = id
        · subst heq
          rw [hc] at hc'
          cases hc'
          refine hjournal.subset ?_
          rw [hfirst]
          simp
        · refine hremoved id' ((List.mem_cons.mp hid').resolve_left heq) c' ?_
          rw [herase, if_neg heq, hc']

/-- The journal agrees with the connections, and only closed ones are queued for erasing. -/
structure Inv (loop : EventLoop) : Prop where
  books : Books loop
  queued : ∀ id ∈ loop.pendingErase, ∃ c, loop.find id = some c ∧ c.isClosed = true

/-- Both loops together: what was queued is erased, and what was closed otherwise stays. -/
lemma reportAndErase_spec (h : Inv loop) :
    Inv loop.reportAndErase ∧ loop.journal <+: loop.reportAndErase.journal ∧
      ∀ id c, loop.find id = some c → c.isClosed = true → .removed c.serial ∈ loop.reportAndErase.journal ∨
        id ∉ loop.pendingErase ∧
          ∃ c', loop.reportAndErase.find id = some c' ∧ c'.serial = c.serial ∧ c'.isClosed = true := by
  obtain ⟨hkept, htold⟩ := reports_spec h.queued
  set reported := loop.pendingErase.foldl EventLoop.report loop with hreported
  have hpending := hkept.pending
  have herased : Erased reported.pendingErase reported (reported.pendingErase.foldl EventLoop.erase reported) := by
    refine erases_spec fun id hid => .inr (htold id ?_)
    rwa [hpending] at hid
  set erased := reported.pendingErase.foldl EventLoop.erase reported with herasedDef
  have hresult : loop.reportAndErase = { erased with pendingErase := [] } := rfl
  rw [hresult]
  refine ⟨⟨?_, by simp⟩, hkept.journal.trans herased.journal, fun id c hc hclosed => ?_⟩
  · exact (herased.books (hkept.books h.books)).of_same rfl rfl rfl
  · obtain ⟨c', hc', hserial, hclosed', -⟩ := hkept.stays id c hc
    by_cases hid : id ∈ reported.pendingErase
    · left
      rw [← hserial]
      exact herased.removed id hid c' hc'
    · right
      refine ⟨by rwa [hpending] at hid, c', ?_, hserial, hclosed' hclosed⟩
      have hfind := herased.find id
      rw [if_neg hid, hc'] at hfind
      exact hfind

/-- What happens apart from `report_and_erase`: no connection goes away, and only closed ones are queued. -/
structure Onward (loop next : EventLoop) : Prop where
  inv : Inv loop → Inv next
  stays : ∀ id c, loop.find id = some c →
    ∃ c', next.find id = some c' ∧ c'.serial = c.serial ∧ (c.isClosed = true → c'.isClosed = true)
  pending : loop.pendingErase ⊆ next.pendingErase
  journal : loop.journal <+: next.journal

lemma Kept.onward (h : Kept loop next) : Onward loop next where
  inv hinv := by
    refine ⟨h.books hinv.books, fun id hid => ?_⟩
    rw [h.pending] at hid
    obtain ⟨c, hc, hclosed⟩ := hinv.queued id hid
    obtain ⟨c', hc', -, hclosed', -⟩ := h.stays id c hc
    exact ⟨c', hc', hclosed' hclosed⟩
  stays id c hc := by
    obtain ⟨c', hc', hserial, hclosed, -⟩ := h.stays id c hc
    exact ⟨c', hc', hserial, hclosed⟩
  pending := by rw [h.pending]; exact List.Subset.refl _
  journal := h.journal

lemma Onward.refl (loop : EventLoop) : Onward loop loop := (Kept.refl loop).onward

lemma Onward.trans {last : EventLoop} (h : Onward loop next) (h' : Onward next last) : Onward loop last where
  inv hinv := h'.inv (h.inv hinv)
  stays id c hc := by
    obtain ⟨c₁, hc₁, hserial₁, hclosed₁⟩ := h.stays id c hc
    obtain ⟨c₂, hc₂, hserial₂, hclosed₂⟩ := h'.stays id c₁ hc₁
    exact ⟨c₂, hc₂, hserial₂.trans hserial₁, fun hclosed => hclosed₂ (hclosed₁ hclosed)⟩
  pending := fun _ hid => h'.pending (h.pending hid)
  journal := h.journal.trans h'.journal

lemma Onward.foldl {α : Type} {f : EventLoop → α → EventLoop} (h : ∀ loop x, Onward loop (f loop x)) (xs : List α)
    (loop : EventLoop) : Onward loop (xs.foldl f loop) := by
  induction xs generalizing loop with
  | nil => exact .refl loop
  | cons x xs ih => exact (h loop x).trans (ih (f loop x))

lemma onward_defer {ids : List UInt64} (h : ∀ id ∈ ids, ∃ c, loop.find id = some c ∧ c.isClosed = true) :
    Onward loop (loop.defer ids) where
  inv hinv := by
    refine ⟨hinv.books.of_same rfl rfl rfl, fun id hid => ?_⟩
    rcases List.mem_append.mp hid with hold | hnew
    · exact hinv.queued id hold
    · exact h id hnew
  stays id c hc := ⟨c, hc, rfl, fun h => h⟩
  pending := List.subset_append_left _ _
  journal := List.prefix_rfl

lemma onward_drop (hfind : loop.find id = some connection) (reason : Status) : Onward loop (loop.drop id reason) := by
  refine (kept_perform loop id (.close reason)).onward.trans (onward_defer ?_)
  rintro id' hid'
  rw [List.mem_singleton.mp hid']
  refine ⟨connection.perform (.close reason), ?_, close_isClosed connection reason⟩
  rw [EventLoop.perform, hfind]
  exact (find_put _ _ _ _ _).trans (if_pos rfl)

lemma onward_expire (now : Timestamp) (loop : EventLoop) (id : UInt64) :
    Onward loop (EventLoop.expire now loop id) := by
  unfold EventLoop.expire
  cases hfind : loop.find id with
  | none => exact .refl loop
  | some connection =>
    simp only
    split
    · refine onward_defer fun id' hid' => ?_
      rw [List.mem_singleton.mp hid']
      exact ⟨connection, hfind, ‹_›⟩
    · split
      · exact onward_drop hfind _
      · exact .refl loop

lemma expire_queued (now : Timestamp) (hfind : loop.find id = some connection) (hclosed : connection.isClosed = true) :
    id ∈ (EventLoop.expire now loop id).pendingErase := by
  unfold EventLoop.expire
  simp only [hfind, if_pos hclosed]
  exact List.mem_append_right _ (List.mem_singleton_self id)

/-- Every connection that is closed when the loop of `sweep_connections` starts is queued at its end. -/
lemma expires_queued (now : Timestamp) {ids : List UInt64} (hid : id ∈ ids) (hfind : loop.find id = some connection)
    (hclosed : connection.isClosed = true) : id ∈ (ids.foldl (EventLoop.expire now) loop).pendingErase := by
  induction ids generalizing loop connection with
  | nil => cases hid
  | cons first ids ih =>
    rcases List.mem_cons.mp hid with rfl | hmem
    · exact (Onward.foldl (onward_expire now) ids _).pending (expire_queued now hfind hclosed)
    · obtain ⟨c, hc, -, hclosed'⟩ := (onward_expire now loop first).stays id connection hfind
      exact ih hmem hc (hclosed' hclosed)

/-- A sweep erases every connection that is closed. -/
lemma sweep_spec (h : Inv loop) :
    Inv loop.sweepConnections ∧ loop.journal <+: loop.sweepConnections.journal ∧
      ∀ id c, loop.find id = some c → c.isClosed = true → .removed c.serial ∈ loop.sweepConnections.journal := by
  obtain ⟨hinv, hjournal₁, hfirst⟩ := reportAndErase_spec h
  set swept := loop.reportAndErase with hswept
  set marked := swept.connections.keys.foldl (EventLoop.expire swept.moment.now) swept.pass with hmarked
  have honward : Onward swept marked :=
    (kept_pass swept).onward.trans (Onward.foldl (onward_expire swept.moment.now) _ _)
  obtain ⟨hinv', hjournal₂, hsecond⟩ := reportAndErase_spec (honward.inv hinv)
  refine ⟨hinv', (hjournal₁.trans honward.journal).trans hjournal₂, fun id c hc hclosed => ?_⟩
  rcases hfirst id c hc hclosed with hremoved | ⟨-, c', hc', hserial, hclosed'⟩
  · exact hjournal₂.subset (honward.journal.subset hremoved)
  · obtain ⟨c'', hc'', hserial', hclosed''⟩ := honward.stays id c' hc'
    have hkey : id ∈ swept.connections.keys := Std.ExtTreeMap.mem_keys.mpr (mem_of_find hc')
    have hqueued : id ∈ marked.pendingErase := by
      have hpassed : swept.pass.find id = some c' := hc'
      exact expires_queued swept.moment.now hkey hpassed hclosed'
    rcases hsecond id c'' hc'' (hclosed'' hclosed') with hremoved | ⟨hnot, -⟩
    · rwa [hserial', hserial] at hremoved
    · exact absurd hqueued hnot

/-! Whole runs. -/

lemma onward_flushOrDrop (loop : EventLoop) (id : UInt64) : Onward loop (loop.flushOrDrop id).2 := by
  unfold EventLoop.flushOrDrop
  simp only
  have hflushed := (kept_flush loop id).onward
  cases hfind : loop.find id with
  | none =>
    have hsame : loop.flush id = (.ok (), loop) := by rw [EventLoop.flush, hfind]
    rw [hsame]
    exact .refl loop
  | some connection =>
    obtain ⟨c, hc, -⟩ := hflushed.stays id connection hfind
    split
    · exact hflushed.trans (onward_drop hc _)
    · exact hflushed

lemma onward_write (loop : EventLoop) (id : UInt64) (item : PollItem) : Onward loop (loop.write id item) := by
  unfold EventLoop.write
  simp only
  have hfirst : Onward loop
      (if loop.hasOutput id ∧ (item.writable ∨ item.readable) then loop.flushOrDrop id else (true, loop)).2 := by
    split
    · exact onward_flushOrDrop loop id
    · exact .refl loop
  generalize (if loop.hasOutput id ∧ (item.writable ∨ item.readable) then loop.flushOrDrop id else (true, loop)) = first
    at hfirst ⊢
  split
  · exact hfirst.trans (onward_flushOrDrop _ id)
  · exact hfirst

lemma onward_serve (loop : EventLoop) (id : UInt64) (item : PollItem) : Onward loop (loop.serve id item) := by
  unfold EventLoop.serve
  cases hfind : loop.find id with
  | none => exact .refl loop
  | some connection =>
    simp only
    have hreceived : Onward loop (if item.readable then loop.read id else (.ok (), loop)).2 := by
      split
      · exact (kept_read loop id).onward
      · exact .refl loop
    obtain ⟨c, hc, -⟩ := hreceived.stays id connection hfind
    split
    · exact hreceived.trans (onward_drop hc _)
    · split
      · exact hreceived.trans (onward_drop hc _)
      · exact hreceived.trans (onward_write _ id item)

lemma onward_pump (loop : EventLoop) (timeout : ℤ) : Onward loop (loop.pump timeout).2 := by
  have hwaited : Onward loop
      (loop.defer ((loop.connections.toList.filter fun entry => entry.2.isClosed).map Prod.fst)).pass := by
    refine (onward_defer fun id hid => ?_).trans (kept_pass _).onward
    obtain ⟨entry, hentry, rfl⟩ := List.mem_map.mp hid
    obtain ⟨hmem, hclosed⟩ := List.mem_filter.mp hentry
    exact ⟨entry.2, Std.ExtTreeMap.mem_toList_iff_getElem?_eq_some.mp hmem, hclosed⟩
  unfold EventLoop.pump
  simp only
  split
  · exact hwaited
  · split
    · exact hwaited
    · have haccept (loop : EventLoop) (item : PollItem) : Onward loop (loop.accept item) :=
        (kept_accept loop item).onward
      exact (hwaited.trans (Onward.foldl haccept _ _)).trans
        (Onward.foldl (fun loop (polled : UInt64 × PollItem) => onward_serve loop polled.1 polled.2) _ _)

lemma kept_running (loop : EventLoop) (running : Bool) : Kept loop { loop with running } := .of_same rfl rfl rfl rfl

lemma inv_runLoop (turns : ℕ) (h : Inv loop) : Inv (EventLoop.runLoop turns loop).2 := by
  induction turns generalizing loop with
  | zero => exact h
  | succ turns ih =>
    unfold EventLoop.runLoop
    split
    · exact h
    · have hfired : Inv { loop with iterations := loop.iterations + 1 }.fireDueTimers := by
        have hcounted : Kept loop { loop with iterations := loop.iterations + 1 } := .of_same rfl rfl rfl rfl
        exact (hcounted.trans (kept_fireDueTimers _)).onward.inv h
      set fired := { loop with iterations := loop.iterations + 1 }.fireDueTimers with hfiredDef
      simp only
      split
      · exact hfired
      · have hpumped := (onward_pump fired.sweepConnections.pass fired.sweepConnections.computeTimeout).inv
          ((kept_pass _).onward.inv (sweep_spec hfired).1)
        split
        · exact (kept_running _ false).onward.inv hpumped
        · exact ih hpumped

lemma inv_initial (moments : ℕ → Moment) : Inv { moments } := by
  have hnone : ∀ id, ({ moments } : EventLoop).find id = none := fun id => Std.ExtTreeMap.getElem?_empty
  refine ⟨⟨?_, ?_, ?_, by simp, by simp⟩, by simp⟩
  · intro id id' c c' hc
    rw [hnone] at hc
    cases hc
  · intro id c hc
    rw [hnone] at hc
    cases hc
  · intro id c hc
    rw [hnone] at hc
    cases hc

lemma inv_after (moments : ℕ → Moment) (calls : List Call) : Inv (({ moments } : EventLoop).after calls) := by
  refine LibraryTrace.foldl_invariant (inv_initial moments) fun before call _ _ hbefore => ?_
  cases call with
  | act action => exact (kept_act _ action).onward.inv hbefore
  | run turns => exact inv_runLoop turns ((kept_running _ true).onward.inv hbefore)

/-- No connection is out of order. -/
lemma Books.unbroken (h : Books loop) (serial : ℕ) : life loop.journal serial ≠ .broken := by
  by_cases hlt : serial < loop.adoptions
  · rcases h.inside serial hlt with ⟨id, c, hc, rfl⟩ | ⟨watched, reason, hremoved⟩
    · rw [h.standing id c hc]
      exact lifeOf_ne_broken c
    · rw [hremoved]
      nofun
  · have hunborn : life loop.journal serial = .unborn :=
      life_of_fresh fun entry hentry heq => hlt (heq ▸ h.counted entry hentry)
    rw [hunborn]
    nofun

/-- The connection is closed for the first reason for which it was asked to, and open if there is none. -/
lemma Books.closed_eq (h : Books loop) (hfind : loop.find id = some connection) :
    connection.outbound.closed = (closings loop.journal connection.serial).head? := by
  have hholds := holds_of_life loop.journal connection.serial
  rw [h.standing id connection hfind, lifeOf] at hholds
  cases hclosed : connection.outbound.closed with
  | none =>
    rw [hclosed] at hholds
    rw [hholds.1]
    rfl
  | some reason =>
    rw [hclosed] at hholds
    simp only at hholds
    split at hholds <;> exact hholds.1.symm

lemma Books.fate_eq (h : Books loop) (hfind : loop.find id = some connection) {reason : Status}
    (hclosed : connection.outbound.closed = some reason) :
    (life loop.journal connection.serial).fate = some (connection.watched, reason) := by
  rw [h.standing id connection hfind, lifeOf, hclosed]
  simp only
  split
  · rw [Life.fate, ‹_ ∧ connection.watched = true›.2]
  · rfl

lemma Books.opened (h : Books loop) {serial : ℕ} {watched : Bool} (hopened : .opened serial watched ∈ loop.journal) :
    (∃ id c, loop.find id = some c ∧ c.serial = serial) ∨ .removed serial ∈ loop.journal := by
  refine (h.inside serial (h.counted _ hopened)).imp_right ?_
  rintro ⟨watched', reason, hremoved⟩
  have hholds := holds_of_life loop.journal serial
  rw [hremoved] at hholds
  exact hholds.2.2.2

/-- Whatever happens to the loop and its connections, the close handler of a connection is called at most once, with the
first reason for which the connection was closed. No connection is erased that was not closed before, or whose close
handler was not called, if it has one. A connection that was taken in and not erased is still there, closed for its
first reason or open; once it is closed the next sweep erases it, and its handler has been called exactly once. -/
theorem reported_once_before_erased (moments : ℕ → Moment) (calls : List Call) :
    let loop := ({ moments } : EventLoop).after calls
    (∀ serial, reports loop.journal serial = [] ∨ ∃ reason,
      (closings loop.journal serial).head? = some reason ∧ reports loop.journal serial = [reason]) ∧
    (∀ serial before after, loop.journal = before ++ .removed serial :: after → ∃ watched reason,
      .opened serial watched ∈ before ∧ (closings before serial).head? = some reason ∧
        reports before serial = if watched then [reason] else []) ∧
    (∀ serial watched, .opened serial watched ∈ loop.journal →
      .removed serial ∈ loop.journal ∨ ∃ id connection, loop.find id = some connection ∧ connection.serial = serial ∧
        connection.outbound.closed = (closings loop.journal serial).head?) ∧
    ∀ id connection reason, loop.find id = some connection → connection.outbound.closed = some reason →
      .removed connection.serial ∈ loop.sweepConnections.journal ∧
        reports loop.sweepConnections.journal connection.serial = if connection.watched then [reason] else [] := by
  intro loop
  have hinv : Inv loop := inv_after moments calls
  obtain ⟨hswept, hjournal, hremoved⟩ := sweep_spec hinv
  refine ⟨fun serial => reports_of_life (hinv.books.unbroken serial), fun serial before after heq => ?_,
    fun serial watched hopened => ?_, fun id connection reason hfind hclosed => ?_⟩
  · have hunbroken := hinv.books.unbroken serial
    rw [heq] at hunbroken
    exact removed_of_life hunbroken
  · rcases hinv.books.opened hopened with ⟨id, c, hc, rfl⟩ | hmem
    · exact .inr ⟨id, c, hc, rfl, hinv.books.closed_eq hc⟩
    · exact .inl hmem
  · have hmem := hremoved id connection hfind (by rw [Connection.isClosed, hclosed]; rfl)
    have hunbroken := hswept.books.unbroken connection.serial
    obtain ⟨rest, hrest⟩ := hjournal
    rw [← hrest] at hmem hunbroken ⊢
    exact ⟨hmem, reports_of_removed (hinv.books.fate_eq hfind hclosed) hmem hunbroken⟩

end InterClusterFabric.NetClosing
