import InterClusterFabric.NetReactor

/-! What a turn of the event loop leaves behind: it hands over at most 64 frames, and what arrived beyond them
waits in the buffer. -/
namespace InterClusterFabric.NetBacklog
open CoreStatus CoreBytes LibraryStream WireFrame WireFrame.FrameParser NetReactor

/-! Reading. -/

/-- How many of the readable bytes reach the buffer: all of them, or the whole chunks for which there is room. -/
def arriving (parser : FrameParser) (readable : Bytes) : ℕ :=
  if parser.buffer.length + readable.length ≤ parser.bound then readable.length
  else (parser.bound - parser.buffer.length) / readChunk * readChunk

/-- The parser once the socket was read. -/
def arrived (parser : FrameParser) (readable : Bytes) : FrameParser :=
  { parser with buffer := parser.buffer ++ readable.take (arriving parser readable) }

lemma arriving_short {parser : FrameParser} {readable : Bytes}
    (hover : parser.bound < parser.buffer.length + (readable.take readChunk).length) :
    arriving parser readable = 0 := by
  rw [List.length_take] at hover
  unfold arriving
  rw [if_neg (by omega)]
  unfold readChunk at hover ⊢
  omega

lemma arriving_chunk {parser : FrameParser} {readable : Bytes} (hlong : readChunk ≤ readable.length)
    (hfits : parser.buffer.length + readChunk ≤ parser.bound) :
    arriving parser readable =
      readChunk + arriving { parser with buffer := parser.buffer ++ readable.take readChunk }
        (readable.drop readChunk) := by
  have hchunk : (readable.take readChunk).length = readChunk := by
    rw [List.length_take]
    omega
  have hbuffer : (parser.buffer ++ readable.take readChunk).length = parser.buffer.length + readChunk := by
    rw [List.length_append, hchunk]
  have hdrop : (readable.drop readChunk).length = readable.length - readChunk := List.length_drop
  have hsame : ({ parser with buffer := parser.buffer ++ readable.take readChunk } : FrameParser).bound =
      parser.bound := rfl
  unfold arriving
  simp only [hbuffer, hdrop, hsame]
  by_cases hall : parser.buffer.length + readable.length ≤ parser.bound
  · rw [if_pos hall, if_pos (by omega)]
    omega
  · rw [if_neg hall, if_neg (by omega)]
    unfold readChunk at hlong hfits ⊢
    omega

lemma fillLoop_arrived {fuel : ℕ} {parser : FrameParser} {socket : Socket} (hword : parser.bound < 2 ^ 64)
    (hfuel : socket.readable.length < fuel) :
    (fillLoop fuel parser socket).2 = arrived parser socket.readable := by
  induction fuel generalizing parser socket with
  | zero => omega
  | succ fuel ih =>
    obtain ⟨readable, ending⟩ := socket
    by_cases hnil : readable = []
    · subst hnil
      cases ending <;> simp [fillLoop, Socket.receive, arrived]
    · have hpos := List.length_pos_of_ne_nil hnil
      have hchunk : readable.take readChunk ≠ [] := by
        simp [hnil, readChunk]
      rcases push_eq parser (readable.take readChunk) hword with ⟨hfits, hpush⟩ | ⟨hover, e, hpush⟩
      · by_cases hshort : (readable.take readChunk).length < readChunk
        · have hwhole : readable.take readChunk = readable := by
            rw [List.length_take] at hshort
            exact List.take_of_length_le (by omega)
          have hall : arriving parser readable = readable.length := if_pos (by rwa [hwhole] at hfits)
          simp only [fillLoop, Socket.receive, hnil, if_false, hchunk, hpush, hshort, if_true]
          rw [hwhole, arrived, hall, List.take_length]
        · have hlong : readChunk ≤ readable.length := by
            rw [List.length_take] at hshort
            omega
          have hfull : (readable.take readChunk).length = readChunk := by
            rw [List.length_take]
            omega
          have hmore := @ih { parser with buffer := parser.buffer ++ readable.take readChunk }
            ⟨readable.drop readChunk, ending⟩ hword (by
              have hdrop : (readable.drop readChunk).length = readable.length - readChunk := List.length_drop
              rw [readChunk] at hdrop hlong
              simp only [readChunk] at hdrop ⊢
              simp only at hfuel
              omega)
          simp only [fillLoop, Socket.receive, hnil, if_false, hchunk, hpush, hshort]
          rw [hmore, arrived, arrived, arriving_chunk hlong (by rwa [hfull] at hfits), List.take_add]
          simp only [List.append_assoc]
      · simp only [fillLoop, Socket.receive, hnil, if_false, hchunk, hpush]
        rw [arrived, arriving_short hover, List.take_zero, List.append_nil]

lemma fill_arrived {parser : FrameParser} {socket : Socket} (hparser : parser.maxPayload ≤ maxFramePayload) :
    (fill parser socket).2 = arrived parser socket.readable := by
  have hword : parser.bound < 2 ^ 64 := by
    rw [bound, frameHeaderSize, frameTrailerSize, macSize]
    rw [maxFramePayload] at hparser
    omega
  exact fillLoop_arrived hword (Nat.lt_succ_self _)

/-! Handing over. -/

section Turns

variable {κ : Type}

/-- A complete frame stands in the buffer: the parser would hand it over. -/
def Waiting (connection : Connection κ) : Prop :=
  ∃ frame rest, firstFrame connection.verifyKey connection.parser.buffer = .ok (some (frame, rest))

/-- The connection once its first frame was taken: no error was reported and it is still open. -/
def served (onFrame : FrameHandler κ) (connection : Connection κ) : Option (Connection κ) :=
  match connection.parser.next connection.verifyKey with
  | .ok (some (frame, parser)) =>
    match onFrame { connection with parser } frame with
    | (.ok (), after) => if after.closed.isSome then none else some after
    | (.error _, _) => none
  | _ => none

/-- The same for that many frames in a row. -/
def servedMany (onFrame : FrameHandler κ) : ℕ → Connection κ → Option (Connection κ)
  | 0, connection => some connection
  | count + 1, connection => (served onFrame connection).bind (servedMany onFrame count)

/-- The handler of the first frame closes the connection without reporting an error, in front of a complete frame. -/
def ClosesOver (onFrame : FrameHandler κ) (connection : Connection κ) : Prop :=
  ∃ frame parser after, connection.parser.next connection.verifyKey = .ok (some (frame, parser)) ∧
    onFrame { connection with parser } frame = (.ok (), after) ∧ after.closed.isSome = true ∧ Waiting after

/-- Too much stands in the buffer: a complete frame behind as many as a turn hands over, or behind one whose handler
closes the connection of its own accord. -/
def Overrun (onFrame : FrameHandler κ) (limit : ℕ) (connection : Connection κ) : Prop :=
  (∃ after ∈ servedMany onFrame limit connection, Waiting after) ∨
    ∃ count < limit, ∃ after ∈ servedMany onFrame count connection, ClosesOver onFrame after

variable {onFrame : FrameHandler κ} {connection : Connection κ}

lemma next_eq_some {frame : Frame} {parser : FrameParser}
    (h : connection.parser.next connection.verifyKey = .ok (some (frame, parser))) : Waiting connection := by
  obtain ⟨first, hfirst, h⟩ := LibraryChecked.bind_eq_ok.mp h
  cases first with
  | none => cases h
  | some pair => exact ⟨pair.1, pair.2, hfirst⟩

lemma not_waiting (h : connection.parser.next connection.verifyKey = .ok none) : ¬Waiting connection := by
  rintro ⟨frame, rest, hfirst⟩
  simp [next, hfirst, bind, Except.bind, pure, Except.pure] at h

lemma not_closesOver (h : ∀ frame parser, connection.parser.next connection.verifyKey ≠ .ok (some (frame, parser))) :
    ¬ClosesOver onFrame connection := by
  rintro ⟨frame, parser, -, hnext, -⟩
  exact h frame parser hnext

lemma closesOver_iff {frame : Frame} {parser : FrameParser} {handled : Result Unit} {after : Connection κ}
    (hnext : connection.parser.next connection.verifyKey = .ok (some (frame, parser)))
    (hframe : onFrame { connection with parser } frame = (handled, after)) :
    ClosesOver onFrame connection ↔ handled = .ok () ∧ after.closed.isSome = true ∧ Waiting after := by
  constructor
  · rintro ⟨frame', parser', after', hnext', hframe', hclosed, hwaiting⟩
    rw [hnext] at hnext'
    cases hnext'
    rw [hframe] at hframe'
    cases hframe'
    exact ⟨rfl, hclosed, hwaiting⟩
  · rintro ⟨rfl, hclosed, hwaiting⟩
    exact ⟨frame, parser, after, hnext, hframe, hclosed, hwaiting⟩

/-- If the first frame is not served, nothing can overrun a turn behind it. -/
lemma overrun_succ_of_none {limit : ℕ} (h : served onFrame connection = none) :
    Overrun onFrame (limit + 1) connection ↔ ClosesOver onFrame connection := by
  constructor
  · rintro (⟨after, hafter, -⟩ | ⟨count, -, after, hafter, hcloses⟩)
    · simp [servedMany, h] at hafter
    · cases count with
      | zero =>
        cases hafter
        exact hcloses
      | succ count => simp [servedMany, h] at hafter
  · exact fun hcloses => .inr ⟨0, Nat.succ_pos _, connection, rfl, hcloses⟩

/-- If it is, it does not close the connection, and the turn goes on with one frame less. -/
lemma overrun_succ_of_some {limit : ℕ} {after : Connection κ} (h : served onFrame connection = some after)
    (hcloses : ¬ClosesOver onFrame connection) :
    Overrun onFrame (limit + 1) connection ↔ Overrun onFrame limit after := by
  constructor
  · rintro (⟨last, hlast, hwaiting⟩ | ⟨count, hcount, last, hlast, hover⟩)
    · exact .inl ⟨last, by simpa [servedMany, h] using hlast, hwaiting⟩
    · cases count with
      | zero =>
        cases hlast
        exact absurd hover hcloses
      | succ count => exact .inr ⟨count, by omega, last, by simpa [servedMany, h] using hlast, hover⟩
  · rintro (⟨last, hlast, hwaiting⟩ | ⟨count, hcount, last, hlast, hover⟩)
    · exact .inl ⟨last, by simpa [servedMany, h] using hlast, hwaiting⟩
    · exact .inr ⟨count + 1, by omega, last, by simpa [servedMany, h] using hlast, hover⟩

/-- A turn that reports no error leaves a complete frame behind exactly if there was too much for it. -/
lemma dispatchLoop_waiting_iff (limit : ℕ) (connection : Connection κ) :
    ((Connection.dispatchLoop onFrame limit connection).1 = .ok () ∧
      Waiting (Connection.dispatchLoop onFrame limit connection).2) ↔ Overrun onFrame limit connection := by
  induction limit generalizing connection with
  | zero => simp [Connection.dispatchLoop, Overrun, servedMany]
  | succ limit ih =>
    cases hnext : connection.parser.next connection.verifyKey with
    | error status =>
      have hnone : served onFrame connection = none := by simp [served, hnext]
      rw [overrun_succ_of_none hnone]
      refine iff_of_false ?_ (not_closesOver (by simp [hnext]))
      simp [Connection.dispatchLoop, hnext]
    | ok first =>
      cases first with
      | none =>
        have hnone : served onFrame connection = none := by simp [served, hnext]
        rw [overrun_succ_of_none hnone]
        refine iff_of_false ?_ (not_closesOver (by simp [hnext]))
        simp [Connection.dispatchLoop, hnext, not_waiting hnext]
      | some pair =>
        obtain ⟨frame, parser⟩ := pair
        cases hframe : onFrame { connection with parser } frame with
        | mk handled after =>
          have hcloses := closesOver_iff hnext hframe
          cases handled with
          | error status =>
            have hnone : served onFrame connection = none := by simp [served, hnext, hframe]
            rw [overrun_succ_of_none hnone, hcloses]
            simp [Connection.dispatchLoop, hnext, hframe]
          | ok _ =>
            by_cases hclosed : after.closed.isSome = true
            · have hnone : served onFrame connection = none := by simp [served, hnext, hframe, hclosed]
              rw [overrun_succ_of_none hnone, hcloses]
              simp only [Connection.dispatchLoop, hnext, hframe, hclosed, if_true, true_and]
            · have hsome : served onFrame connection = some after := by simp [served, hnext, hframe, hclosed]
              have hopen : ¬ClosesOver onFrame connection := fun hover => hclosed (hcloses.mp hover).2.1
              rw [overrun_succ_of_some hsome hopen, ← ih after]
              simp only [Connection.dispatchLoop, hnext, hframe, hclosed]
              rfl

/-- A frame or a handler reports an error in the turn. -/
def ReportsError (onFrame : FrameHandler κ) (connection : Connection κ) (socket : Socket) : Prop :=
  ∃ status, (Connection.dispatch onFrame { connection with parser := (fill connection.parser socket).2 }).1 =
    .error status

/-- The turn ends with the connection closed over a reported error, or with no complete frame in the buffer. -/
def Settles (onFrame : FrameHandler κ) (connection : Connection κ) (socket : Socket) : Prop :=
  ((connection.pump onFrame socket).closed.isSome = true ∧ ReportsError onFrame connection socket) ∨
    ¬Waiting (connection.pump onFrame socket)

lemma pump_of_dispatch {socket : Socket} {filled : Result Unit} {parser : FrameParser} {after : Connection κ}
    (hopen : connection.closed = none) (hfill : fill connection.parser socket = (filled, parser))
    (hdispatch : Connection.dispatch onFrame { connection with parser } = (.ok (), after)) :
    connection.pump onFrame socket = match filled with | .error status => after.close status | .ok () => after := by
  have hnot : ¬connection.closed.isSome = true := by simp [hopen]
  simp only [Connection.pump, if_neg hnot, hfill, hdispatch]
  cases filled <;> rfl

lemma waiting_close (connection : Connection κ) (reason : Status) :
    Waiting (connection.close reason) ↔ Waiting connection := Iff.rfl

/-- A turn settles what arrived exactly if it was not too much for it. -/
theorem settles_iff (hopen : connection.closed = none) (hparser : connection.parser.maxPayload ≤ maxFramePayload)
    (socket : Socket) :
    Settles onFrame connection socket ↔
      ¬Overrun onFrame maxFramesPerIteration
        { connection with parser := arrived connection.parser socket.readable } := by
  have hnot : ¬connection.closed.isSome = true := by simp [hopen]
  have hfilled : (fill connection.parser socket).2 = arrived connection.parser socket.readable := fill_arrived hparser
  rw [← dispatchLoop_waiting_iff, ← hfilled, Settles, ReportsError, Connection.pump, if_neg hnot]
  cases hfill : fill connection.parser socket with
  | mk filled parser =>
    simp only
    change _ ↔ ¬((Connection.dispatch onFrame { connection with parser }).1 = .ok () ∧
      Waiting (Connection.dispatch onFrame { connection with parser }).2)
    cases hdispatch : Connection.dispatch onFrame { connection with parser } with
    | mk dispatched after =>
      cases dispatched with
      | error status =>
        -- the error closes the connection
        simp [Connection.close]
      | ok _ =>
        cases filled with
        | error status => simp [waiting_close]
        | ok _ => simp

end Turns

/-- Whatever two frames do is settled by a turn that has no more to do. -/
theorem two_pings_settle_iff :
    Settles (Connection.accepting fun (_ : Unit) _ => ()) ⟨FrameParser.make 8, [], (), none⟩
        { readable := (sent twoPings).flatMap (encodeFrame []) } ↔
      ¬Overrun (Connection.accepting fun (_ : Unit) _ => ()) maxFramesPerIteration
        ⟨arrived (FrameParser.make 8) ((sent twoPings).flatMap (encodeFrame [])), [], (), none⟩ :=
  settles_iff rfl (by decide) _

/-! A burst. -/

/-- An unsigned frame without a payload. -/
def ping : Frame := sentFrame pingHeader []

lemma ping_valid : Valid [] 8 ping :=
  ⟨⟨by decide, by decide, by decide⟩, by decide, by decide, rfl, by decide⟩

/-- That many of them, one after another. -/
def pings (count : ℕ) : Bytes := (List.replicate count ping).flatMap (encodeFrame [])

lemma pings_add (count more : ℕ) : pings (count + more) = pings count ++ pings more := by
  rw [pings, List.replicate_add, List.flatMap_append]
  rfl

lemma pings_length (count : ℕ) : (pings count).length = 24 * count := by
  have hsize : (encodeFrame [] ping).length = 24 := by
    rw [encodeFrame_length]
    decide
  induction count with
  | zero => rfl
  | succ count ih =>
    rw [pings_add, List.length_append, ih, pings]
    simp only [List.replicate_one, List.flatMap_cons, List.flatMap_nil, List.append_nil, hsize]
    ring

lemma takeUpTo_pings (count : ℕ) (rest : Bytes) :
    takeUpTo (firstFrame []) count (pings count ++ rest) = .ok (List.replicate count ping, rest) := by
  have hincremental : Incremental (firstFrame []) (encodeFrame []) (Valid [] 8) :=
    firstFrame_incremental [] (by decide)
  have hvalid : ∀ frame ∈ List.replicate count ping, Valid [] 8 frame := by
    intro frame hframe
    rw [List.eq_of_mem_replicate hframe]
    exact ping_valid
  have hall := takeUpTo_whole hincremental hvalid rest
  rwa [List.length_replicate] at hall

/-- A connection that counts its frames, with so many of them in its buffer. -/
def counting (counted waiting : ℕ) : Connection ℕ := ⟨⟨pings waiting, maxFramePayload⟩, [], counted, none⟩

lemma dispatch_counting (counted waiting : ℕ) :
    (counting counted (maxFramesPerIteration + waiting)).dispatch (Connection.accepting fun count _ => count + 1) =
      (.ok (), counting (counted + maxFramesPerIteration) waiting) := by
  have htake := takeUpTo_pings maxFramesPerIteration (pings waiting)
  rw [← pings_add] at htake
  have hdispatch := @dispatchLoop_accepting ℕ (fun count _ => count + 1) maxFramesPerIteration
    (counting counted (maxFramesPerIteration + waiting)) _ _ rfl htake
  have hcount (frames counted : ℕ) :
      (List.replicate frames ping).foldl (fun count _ => count + 1) counted = counted + frames := by
    induction frames generalizing counted with
    | zero => rfl
    | succ frames ih =>
      rw [List.replicate_succ, List.foldl_cons, ih]
      omega
  rw [hcount] at hdispatch
  exact hdispatch

lemma waiting_counting (counted waiting : ℕ) : Waiting (counting counted (waiting + 1)) := by
  have htake := takeUpTo_pings 1 (pings waiting)
  rw [← pings_add, Nat.add_comm] at htake
  obtain ⟨first, hfirst, htake⟩ := LibraryChecked.bind_eq_ok.mp htake
  cases first with
  | none => cases htake
  | some pair => exact ⟨pair.1, pair.2, hfirst⟩

lemma pump_burst (waiting : ℕ) (hshort : waiting ≤ 1000) :
    (counting 0 0).pump (Connection.accepting fun count _ => count + 1)
      { readable := pings (maxFramesPerIteration + waiting) } = counting maxFramesPerIteration waiting := by
  have hdispatch := dispatch_counting 0 waiting
  rw [Nat.zero_add] at hdispatch
  have hlength := pings_length (maxFramesPerIteration + waiting)
  have hbound : (counting 0 0).parser.bound = 1048632 := rfl
  have hempty : (counting 0 0).parser.buffer.length = 0 := rfl
  rcases @fillLoop_eq ((pings (maxFramesPerIteration + waiting)).length + 1) (counting 0 0).parser
    (pings (maxFramesPerIteration + waiting)) (by rw [hbound]; decide) (Nat.lt_succ_self _)
    (by rw [hempty]; exact Nat.zero_le _) with ⟨-, hfill⟩ | ⟨hover, -⟩
  · exact pump_of_dispatch rfl hfill hdispatch
  · rw [hempty, hbound, hlength, maxFramesPerIteration] at hover
    omega

/-- The status of a connection that the peer has closed. -/
def peerClosed : Status := Status.make .unreachable (ascii "peer closed the connection")

lemma pump_closing (counted waiting : ℕ) :
    (counting counted (maxFramesPerIteration + waiting)).pump (Connection.accepting fun count _ => count + 1)
      { readable := [], ending := .closed } =
    (counting (counted + maxFramesPerIteration) waiting).close peerClosed := by
  have hfill : fill (counting counted (maxFramesPerIteration + waiting)).parser { readable := [], ending := .closed } =
      (.error peerClosed, (counting counted (maxFramesPerIteration + waiting)).parser) := rfl
  exact pump_of_dispatch rfl hfill (dispatch_counting counted waiting)

/-- Of 129 frames that arrive together, a turn hands over 64 and leaves the others in the buffer of an open
connection. The next turn, which finds the connection closed by the peer, hands over 64 more, and the last one is
never handed over. -/
theorem burst_left_waiting :
    (let handler := Connection.accepting fun (count : ℕ) _ => count + 1
     let first := (counting 0 0).pump handler { readable := pings 129 }
     let second := first.pump handler { readable := [], ending := .closed }
     first.closed = none ∧ Waiting first ∧ second.owner = 128 ∧ second.closed = some peerClosed ∧ Waiting second) ∧
    ¬∀ (κ : Type) (onFrame : FrameHandler κ) (connection : Connection κ) (socket : Socket), connection.closed = none →
      connection.parser.maxPayload ≤ maxFramePayload → Settles onFrame connection socket := by
  have hfirst : (counting 0 0).pump (Connection.accepting fun count _ => count + 1) { readable := pings 129 } =
      counting 64 65 := pump_burst 65 (by decide)
  have hsecond : (counting 64 65).pump (Connection.accepting fun count _ => count + 1)
      { readable := [], ending := .closed } = (counting 128 1).close peerClosed := pump_closing 64 1
  refine ⟨?_, fun hclaim => ?_⟩
  · simp only [hfirst, hsecond]
    exact ⟨rfl, waiting_counting 64 64, rfl, rfl, waiting_counting 128 0⟩
  · rcases hclaim ℕ _ (counting 0 0) { readable := pings 129 } rfl le_rfl with ⟨hclosed, -⟩ | hdry
    · rw [hfirst] at hclosed
      cases hclosed
    · rw [hfirst] at hdry
      exact hdry (waiting_counting 64 64)

end InterClusterFabric.NetBacklog
