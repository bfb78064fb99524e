import InterClusterFabric.WireFrame
import Mathlib.Data.List.SplitLengths

/-! A connection of the event loop. When its socket is readable it is read dry into the parser, and then at most 64
frames are handed over. -/
namespace InterClusterFabric.NetReactor
open CoreStatus CoreHash CoreBytes LibraryChecked LibraryReader LibraryStream WireFrame WireFrame.FrameParser

/-! Feeding a parser. -/

/-- Frames appended one after another. -/
def appendFrames (key : Bytes) (out : Bytes) (frames : List (FrameHeader × Bytes)) : Result Bytes :=
  putAll (fun out frame => appendFrame out frame.1 frame.2 key) out frames

/-- The frames as the other side is to see them. -/
def sent (frames : List (FrameHeader × Bytes)) : List Frame := frames.map fun frame => sentFrame frame.1 frame.2

lemma appendFrame_eq {out header payload key stream} (h : appendFrame out header payload key = .ok stream) :
    stream = out ++ encodeFrame key (sentFrame header payload) ∧ payload.length ≤ maxFramePayload := by
  unfold appendFrame at h
  obtain ⟨hbounded, h⟩ := rejectIf_bind_eq_ok.mp h
  obtain ⟨-, h⟩ := rejectIf_bind_eq_ok.mp h
  obtain ⟨_, -, h⟩ := bind_eq_ok.mp h
  cases h
  exact ⟨List.append_assoc _ _ _, not_lt.mp hbounded⟩

lemma appendFrames_eq {key out stream : Bytes} {frames : List (FrameHeader × Bytes)}
    (h : appendFrames key out frames = .ok stream) :
    stream = out ++ (sent frames).flatMap (encodeFrame key) ∧ ∀ frame ∈ frames, frame.2.length ≤ maxFramePayload := by
  induction frames generalizing out with
  | nil =>
    cases h
    exact ⟨by simp [sent], by simp⟩
  | cons frame frames ih =>
    obtain ⟨next, hnext, hrest⟩ := bind_eq_ok.mp h
    obtain ⟨rfl, hbounded⟩ := appendFrame_eq hnext
    obtain ⟨rfl, hall⟩ := ih hrest
    refine ⟨by simp [sent], ?_⟩
    rintro other (_ | ⟨_, hother⟩)
    · exact hbounded
    · exact hall other hother

/-- How many bytes each frame takes. -/
def sizes (key : Bytes) (frames : List Frame) : List ℕ := frames.map (size (encodeFrame key))

lemma sizes_pos (key : Bytes) (frames : List Frame) : ∀ size ∈ sizes key frames, 0 < size := by
  intro size hsize
  obtain ⟨frame, -, rfl⟩ := List.mem_map.mp hsize
  exact encodeFrame_pos key frame

section Feeding

variable {key : Bytes} {maxPayload limit : ℕ}

/-- Draining takes every frame that has arrived as a whole. -/
lemma drain_stream {parser : FrameParser} {frames : List Frame} {future : Bytes} (hmax : maxPayload ≤ maxFramePayload)
    (hvalid : ∀ frame ∈ frames, Valid key maxPayload frame) (hlimit : frames.length ≤ limit)
    (hstream : parser.buffer ++ future = frames.flatMap (encodeFrame key)) :
    ∃ taken left rest, frames = taken ++ left ∧ parser.drain key = .ok (taken, { parser with buffer := rest }) ∧
      rest ++ future = left.flatMap (encodeFrame key) ∧
      consume limit (sizes key frames) parser.buffer.length = (sizes key left, rest.length) := by
  obtain ⟨taken, left, rest, hframes, htake, hrest, hconsume⟩ :=
    takeUpTo_stream (firstFrame_incremental key hmax) (parser.buffer.length + 1) hvalid hstream
  refine ⟨taken, left, rest, hframes, ?_, hrest, ?_⟩
  · rw [drain, drainLoop_eq, htake]
    rfl
  · have hlength : (sizes key frames).length = frames.length := List.length_map _
    have hcongr : consume limit (sizes key frames) parser.buffer.length =
        consume (parser.buffer.length + 1) (sizes key frames) parser.buffer.length :=
      consume_congr (sizes_pos key frames) (by omega) (by omega)
    rw [hcongr]
    exact hconsume

/-- The parser takes the chunks of a stream as long as each of them fits, and refuses the first that does not. -/
lemma feed_stream {parser : FrameParser} {frames : List Frame} {chunks : List Bytes} {future : Bytes}
    (hparser : parser.maxPayload ≤ maxFramePayload) (hmax : maxPayload ≤ maxFramePayload)
    (hvalid : ∀ frame ∈ frames, Valid key maxPayload frame) (hlimit : frames.length ≤ limit)
    (hdrained : Drained (sizes key frames) parser.buffer.length)
    (hstream : parser.buffer ++ (chunks.flatten ++ future) = frames.flatMap (encodeFrame key)) :
    (Fits parser.bound limit (sizes key frames) parser.buffer.length (chunks.map List.length) ∧
      ∃ taken left rest, frames = taken ++ left ∧ feed key parser chunks = .ok (taken, { parser with buffer := rest }) ∧
        rest ++ future = left.flatMap (encodeFrame key) ∧ Drained (sizes key left) rest.length) ∨
    (¬Fits parser.bound limit (sizes key frames) parser.buffer.length (chunks.map List.length) ∧
      ∃ e, feed key parser chunks = .error e) := by
  have hword : parser.bound < 2 ^ 64 := by
    rw [bound, frameHeaderSize, frameTrailerSize, macSize]
    rw [maxFramePayload] at hparser
    omega
  induction chunks generalizing parser frames with
  | nil => exact .inl ⟨trivial, [], frames, parser.buffer, rfl, rfl, hstream, hdrained⟩
  | cons chunk chunks ih =>
    have hflatten : (chunk :: chunks).flatten ++ future = chunk ++ (chunks.flatten ++ future) := by simp
    rw [hflatten, ← List.append_assoc] at hstream
    rcases push_eq parser chunk hword with ⟨hfits, hpush⟩ | ⟨hover, e, hpush⟩
    · obtain ⟨taken, left, rest, rfl, hdrain, hrest, hconsume⟩ :=
        @drain_stream key maxPayload limit { parser with buffer := parser.buffer ++ chunk } frames
          (chunks.flatten ++ future) hmax hvalid hlimit hstream
      rw [List.length_append] at hconsume
      have hleft : left.length ≤ limit := by
        rw [List.length_append] at hlimit
        omega
      have hdry : Drained (sizes key left) rest.length := by
        have hlength : (sizes key (taken ++ left)).length ≤ limit := by
          rw [sizes, List.length_map]
          exact hlimit
        have hboth := consume_drained hlength (parser.buffer.length + chunk.length)
        rwa [hconsume] at hboth
      have hstep : feed key parser (chunk :: chunks) = (feed key { parser with buffer := rest } chunks).map
          fun fed => (taken ++ fed.1, fed.2) := by
        rw [feed, hpush]
        simp only [bind, Except.bind]
        rw [hdrain]
        simp only
        cases feed key { parser with buffer := rest } chunks <;> rfl
      have hfitsIff : Fits parser.bound limit (sizes key (taken ++ left)) parser.buffer.length
          ((chunk :: chunks).map List.length) ↔
          Fits parser.bound limit (sizes key left) rest.length (chunks.map List.length) := by
        rw [List.map_cons, Fits, hconsume]
        exact and_iff_right hfits
      have hnext := @ih { parser with buffer := rest } left hparser
        (fun frame hframe => hvalid frame (List.mem_append_right _ hframe)) hleft hdry hrest hword
      rw [hfitsIff, hstep]
      rcases hnext with ⟨hall, taken', left', rest', rfl, hfeed, hrest', hdry'⟩ | ⟨hnot, e, hfeed⟩
      · refine .inl ⟨hall, taken ++ taken', left', rest', by rw [List.append_assoc], ?_, hrest', hdry'⟩
        rw [hfeed]
        rfl
      · exact .inr ⟨hnot, e, by rw [hfeed]; rfl⟩
    · refine .inr ⟨?_, e, ?_⟩
      · rw [List.map_cons, Fits]
        exact fun hboth => absurd hboth.1 (not_le.mpr hover)
      · rw [feed, hpush]
        rfl

end Feeding

/-! Connections. -/

def maxFramesPerIteration : ℕ := 64
def readChunk : ℕ := 16384

/-- What a socket answers once everything that has arrived was read. -/
inductive Ending
  | blocked
  | closed
  | failed (status : Status)

/-- A socket: the bytes that can be read without waiting, and what comes after them. -/
structure Socket where
  readable : Bytes
  ending : Ending := .blocked

/-- `Socket::receive` into a buffer of `readChunk` bytes. -/
def Socket.receive (socket : Socket) : Result Bytes × Socket :=
  if socket.readable = [] then
    match socket.ending with
    | .blocked => (.error (Status.make .busy (ascii "receive failed: WOULD_BLOCK")), socket)
    | .closed => (.ok [], socket)
    | .failed status => (.error status, socket)
  else (.ok (socket.readable.take readChunk), { socket with readable := socket.readable.drop readChunk })

/-- `Connection::fill`. Every turn but the last takes bytes off the socket, so their number bounds the turns. -/
def fillLoop : ℕ → FrameParser → Socket → Result Unit × FrameParser
  | 0, parser, _ => (.ok (), parser)
  | fuel + 1, parser, socket =>
    match socket.receive with
    | (.error status, _) => (if status.outcome = .busy then .ok () else .error status, parser)
    | (.ok received, socket) =>
      if received = [] then
        (.error (Status.make .unreachable (ascii "peer closed the connection")), parser)
      else
        match parser.push received with
        | .error status => (.error status, parser)
        | .ok parser => if received.length < readChunk then (.ok (), parser) else fillLoop fuel parser socket

def fill (parser : FrameParser) (socket : Socket) : Result Unit × FrameParser :=
  fillLoop (socket.readable.length + 1) parser socket

/-- A connection with the state of whoever handles its frames. -/
structure Connection (κ : Type) where
  parser : FrameParser
  verifyKey : Bytes
  owner : κ
  closed : Option Status := none

/-- A frame handler: its verdict, and the connection as it leaves it. -/
abbrev FrameHandler (κ : Type) := Connection κ → Frame → Result Unit × Connection κ

namespace Connection

variable {κ : Type}

/-- `Connection::close`; the first reason stands. -/
def close (connection : Connection κ) (reason : Status) : Connection κ :=
  { connection with closed := some (connection.closed.getD reason) }

/-- The loop of `Connection::dispatch`; the key is read anew for every frame. -/
def dispatchLoop (onFrame : FrameHandler κ) : ℕ → Connection κ → Result Unit × Connection κ
  | 0, connection => (.ok (), connection)
  | left + 1, connection =>
    match connection.parser.next connection.verifyKey with
    | .error status => (.error status, connection)
    | .ok none => (.ok (), connection)
    | .ok (some (frame, parser)) =>
      match onFrame { connection with parser } frame with
      | (.error status, connection) => (.error status, connection)
      | (.ok (), connection) =>
        if connection.closed.isSome then (.ok (), connection) else dispatchLoop onFrame left connection

def dispatch (onFrame : FrameHandler κ) (connection : Connection κ) : Result Unit × Connection κ :=
  dispatchLoop onFrame maxFramesPerIteration connection

/-- What the event loop does with a connection that is readable. -/
def pump (onFrame : FrameHandler κ) (connection : Connection κ) (socket : Socket) : Connection κ :=
  if connection.closed.isSome then connection
  else
    let (filled, parser) := fill connection.parser socket
    let (dispatched, connection) := dispatch onFrame { connection with parser }
    match dispatched, filled with
    | .error status, _ => connection.close status
    | .ok (), .error status => connection.close status
    | .ok (), .ok () => connection

/-- The connection over several turns of the event loop, with what could be read at each. -/
def run (onFrame : FrameHandler κ) (connection : Connection κ) (rounds : List Bytes) : Connection κ :=
  rounds.foldl (fun connection readable => connection.pump onFrame { readable }) connection

/-- A handler that takes every frame. -/
def accepting (handle : κ → Frame → κ) : FrameHandler κ := fun connection frame =>
  (.ok (), { connection with owner := handle connection.owner frame })

end Connection

section Reading

/-- Reading a socket dry: the whole of it has to fit into the buffer. -/
lemma fillLoop_eq {fuel : ℕ} {parser : FrameParser} {readable : Bytes} (hword : parser.bound < 2 ^ 64)
    (hfuel : readable.length < fuel) (hbuffer : parser.buffer.length ≤ parser.bound) :
    (parser.buffer.length + readable.length ≤ parser.bound ∧
      fillLoop fuel parser { readable } = (.ok (), { parser with buffer := parser.buffer ++ readable })) ∨
    (parser.bound < parser.buffer.length + readable.length ∧
      ∃ e partly, fillLoop fuel parser { readable } = (.error e, partly)) := by
  induction fuel generalizing parser readable with
  | zero => omega
  | succ fuel ih =>
    by_cases hnil : readable = []
    · subst hnil
      refine .inl ⟨by simpa using hbuffer, ?_⟩
      simp [fillLoop, Socket.receive]
    · have hpos := List.length_pos_of_ne_nil hnil
      have hchunk : readable.take readChunk ≠ [] := by
        intro htake
        have hlength := congrArg List.length htake
        rw [List.length_take, List.length_nil, readChunk] at hlength
        omega
      have hsplit : readable.length = (readable.take readChunk).length + (readable.drop readChunk).length := by
        rw [← List.length_append, List.take_append_drop]
      have hchunkPos := List.length_pos_of_ne_nil hchunk
      rcases push_eq parser (readable.take readChunk) hword with ⟨hfits, hpush⟩ | ⟨hover, e, hpush⟩
      · by_cases hshort : (readable.take readChunk).length < readChunk
        · have hwhole : readable.take readChunk = readable := by
            rw [List.length_take] at hshort
            exact List.take_of_length_le (by omega)
          rw [hwhole] at hfits hpush hshort
          refine .inl ⟨hfits, ?_⟩
          simp [fillLoop, Socket.receive, hnil, hwhole, hpush, hshort]
        · have hnext := @ih { parser with buffer := parser.buffer ++ readable.take readChunk }
            (readable.drop readChunk) hword (by omega) (by rw [List.length_append]; exact hfits)
          have hstep : fillLoop (fuel + 1) parser { readable } = fillLoop fuel
              { parser with buffer := parser.buffer ++ readable.take readChunk }
              { readable := readable.drop readChunk } := by
            simp only [fillLoop, Socket.receive, hnil, if_false, hchunk, hpush, hshort]
          rw [hstep]
          simp only [List.append_assoc, List.take_append_drop, List.length_append] at hnext
          rw [hsplit, ← Nat.add_assoc]
          exact hnext
      · refine .inr ⟨by omega, e, parser, ?_⟩
        simp only [fillLoop, Socket.receive, hnil, if_false, hchunk, hpush]

variable {κ : Type} {handle : κ → Frame → κ}

/-- Dispatching to a handler that takes every frame. -/
lemma dispatchLoop_accepting {limit : ℕ} {connection : Connection κ} {taken : List Frame} {rest : Bytes}
    (hopen : connection.closed = none)
    (htake : takeUpTo (firstFrame connection.verifyKey) limit connection.parser.buffer = .ok (taken, rest)) :
    Connection.dispatchLoop (Connection.accepting handle) limit connection = (.ok (), { connection with
      parser := { connection.parser with buffer := rest }, owner := taken.foldl handle connection.owner }) := by
  induction limit generalizing connection taken with
  | zero =>
    cases htake
    rfl
  | succ limit ih =>
    obtain ⟨first, hfirst, htake⟩ := bind_eq_ok.mp htake
    cases first with
    | none =>
      cases htake
      simp [Connection.dispatchLoop, FrameParser.next, hfirst, bind, Except.bind, pure, Except.pure]
    | some pair =>
      obtain ⟨⟨items, left⟩, hitems, htake⟩ := bind_eq_ok.mp htake
      cases htake
      have hnext := @ih { connection with
        parser := { connection.parser with buffer := pair.2 }, owner := handle connection.owner pair.1 } items
        hopen hitems
      simp only [Connection.dispatchLoop, FrameParser.next, hfirst, bind, Except.bind, pure, Except.pure,
        Option.map, Connection.accepting, hopen, Option.isSome_none]
      rw [List.foldl_cons, if_neg Bool.false_ne_true]
      simp only [hopen] at hnext
      exact hnext

lemma closed_run {onFrame : FrameHandler κ} {connection : Connection κ} (h : connection.closed.isSome = true)
    (rounds : List Bytes) : connection.run onFrame rounds = connection := by
  induction rounds with
  | nil => rfl
  | cons readable rounds ih =>
    have hpump : connection.pump onFrame { readable } = connection := by rw [Connection.pump, if_pos h]
    rw [Connection.run, List.foldl_cons, hpump]
    exact ih

/-- A connection on which only valid frames arrive stays open exactly as long as what is waiting fits. -/
lemma run_stream {maxPayload : ℕ} {connection : Connection κ} {frames : List Frame} {rounds : List Bytes}
    {future : Bytes} (hopen : connection.closed = none) (hparser : connection.parser.maxPayload ≤ maxFramePayload)
    (hmax : maxPayload ≤ maxFramePayload) (hvalid : ∀ frame ∈ frames, Valid connection.verifyKey maxPayload frame)
    (hbuffer : connection.parser.buffer.length ≤ connection.parser.bound)
    (hstream : connection.parser.buffer ++ (rounds.flatten ++ future) =
      frames.flatMap (encodeFrame connection.verifyKey)) :
    (connection.run (Connection.accepting handle) rounds).closed = none ↔
      Fits connection.parser.bound maxFramesPerIteration (sizes connection.verifyKey frames)
        connection.parser.buffer.length (rounds.map List.length) := by
  have hword : connection.parser.bound < 2 ^ 64 := by
    rw [bound, frameHeaderSize, frameTrailerSize, macSize]
    rw [maxFramePayload] at hparser
    omega
  induction rounds generalizing connection frames with
  | nil => exact iff_of_true hopen trivial
  | cons readable rounds ih =>
    have hrun : connection.run (Connection.accepting handle) (readable :: rounds) =
        (connection.pump (Connection.accepting handle) { readable }).run (Connection.accepting handle) rounds := rfl
    have hnot : ¬connection.closed.isSome = true := by simp [hopen]
    have hflatten : (readable :: rounds).flatten ++ future = readable ++ (rounds.flatten ++ future) := by simp
    rw [hflatten, ← List.append_assoc] at hstream
    rw [hrun, List.map_cons, Fits]
    have hfill := @fillLoop_eq (readable.length + 1) connection.parser readable hword (Nat.lt_succ_self _) hbuffer
    rcases hfill with ⟨hfits, hfill⟩ | ⟨hover, e, partly, hfill⟩
    · obtain ⟨taken, left, rest, rfl, htake, hrest, hconsume⟩ := takeUpTo_stream
        (firstFrame_incremental connection.verifyKey hmax) maxFramesPerIteration hvalid hstream
      have hdispatch := @dispatchLoop_accepting κ handle maxFramesPerIteration { connection with
        parser := { connection.parser with buffer := connection.parser.buffer ++ readable } } taken rest hopen htake
      have hpump : connection.pump (Connection.accepting handle) { readable } = { connection with
          parser := { connection.parser with buffer := rest }, owner := taken.foldl handle connection.owner } := by
        rw [Connection.pump, if_neg hnot, fill, hfill]
        simp only [Connection.dispatch, hdispatch]
      rw [List.length_append] at hconsume
      rw [hpump, sizes, hconsume]
      have hrestFits : rest.length ≤ connection.parser.bound := by
        have hle := consume_le maxFramesPerIteration
          ((taken ++ left).map (size (encodeFrame connection.verifyKey)))
          (connection.parser.buffer.length + readable.length)
        rw [hconsume] at hle
        exact hle.trans hfits
      have hnext := @ih { connection with
          parser := { connection.parser with buffer := rest }, owner := taken.foldl handle connection.owner } left
        hopen hparser (fun frame hframe => hvalid frame (List.mem_append_right _ hframe)) hrestFits hrest hword
      exact hnext.trans (and_iff_right hfits).symm
    · have hclosed : (connection.pump (Connection.accepting handle) { readable }).closed.isSome = true := by
        rw [Connection.pump, if_neg hnot, fill, hfill]
        simp only
        cases Connection.dispatch (Connection.accepting handle) { connection with parser := partly } with
        | mk dispatched connection' => cases dispatched <;> rfl
      rw [closed_run hclosed]
      refine iff_of_false ?_ fun hboth => absurd hboth.1 (not_le.mpr hover)
      intro hnone
      rw [hnone] at hclosed
      cases hclosed

end Reading

/-! What is never refused. -/

lemma sizes_sent_length (key : Bytes) (frames : List (FrameHeader × Bytes)) :
    (sizes key (sent frames)).length = frames.length := by
  simp [sizes, sent]

/-- What is true of every frame that the parser hands over is true of all that come out of it. -/
lemma feed_forall {key : Bytes} {P : Frame → Prop}
    (hfirst : ∀ buffer frame rest, firstFrame key buffer = .ok (some (frame, rest)) → P frame)
    {parser parser' : FrameParser} {chunks : List Bytes} {frames : List Frame}
    (h : feed key parser chunks = .ok (frames, parser')) : ∀ frame ∈ frames, P frame := by
  induction chunks generalizing parser frames with
  | nil =>
    cases h
    simp
  | cons chunk chunks ih =>
    obtain ⟨pushed, -, h⟩ := bind_eq_ok.mp h
    obtain ⟨⟨taken, drained⟩, hdrain, h⟩ := bind_eq_ok.mp h
    obtain ⟨⟨more, fed⟩, hfeed, h⟩ := bind_eq_ok.mp h
    cases h
    rw [drain, drainLoop_eq] at hdrain
    cases htake : takeUpTo (firstFrame key) (pushed.buffer.length + 1) pushed.buffer with
    | error e =>
      rw [htake] at hdrain
      cases hdrain
    | ok out =>
      rw [htake] at hdrain
      cases hdrain
      have htaken := takeUpTo_forall hfirst htake
      intro frame hframe
      rcases List.mem_append.mp hframe with hmem | hmem
      · exact htaken frame hmem
      · exact ih hfeed frame hmem

/-- Only frames with a known header come out of a parser. -/
lemma feed_supported {key : Bytes} {parser parser' : FrameParser} {chunks : List Bytes} {frames : List Frame}
    (h : feed key parser chunks = .ok (frames, parser')) : ∀ frame ∈ frames, Supported frame.header :=
  feed_forall (fun _ _ _ hfirst => firstFrame_supported hfirst) h

/-- The header of a sent frame is known if the header it was sent with is. -/
lemma supported_sentFrame {header : FrameHeader} {payload : Bytes} :
    Supported (sentFrame header payload).header ↔ Supported header :=
  ⟨fun h => ⟨h.version, h.known, h.flags⟩, fun h => ⟨h.version, h.known, h.flags⟩⟩

section Accepted

variable {key stream : Bytes} {maxPayload : ℕ} {frames : List (FrameHeader × Bytes)}

lemma valid_sent (hbuilt : appendFrames key [] frames = .ok stream)
    (hkeyed : ∀ frame ∈ frames, frame.1.isSigned = true ↔ key ≠ [])
    (hbounded : ∀ frame ∈ frames, frame.2.length ≤ maxPayload)
    (hsupported : ∀ frame ∈ frames, Supported frame.1) :
    ∀ frame ∈ sent frames, Valid key (min maxPayload maxFramePayload) frame := by
  intro frame hframe
  obtain ⟨⟨header, payload⟩, hmem, rfl⟩ := List.mem_map.mp hframe
  have hlength : payload.length ≤ maxFramePayload := (appendFrames_eq hbuilt).2 _ hmem
  refine ⟨supported_sentFrame.mpr (hsupported _ hmem), ?_, le_min (hbounded _ hmem) hlength, rfl, hkeyed _ hmem⟩
  exact UInt32.toNat_ofNat_of_lt' (lt_of_le_of_lt hlength (by decide))

/-- A stream of frames is taken by the parser exactly if the headers are known and every chunk fits into the buffer
behind the frame that has begun; a connection on which it arrives stays open exactly as long as what can be read at
once fits behind what was not handed over yet. -/
theorem stream_accepted_iff (hbuilt : appendFrames key [] frames = .ok stream)
    (hkeyed : ∀ frame ∈ frames, frame.1.isSigned = true ↔ key ≠ [])
    (hbounded : ∀ frame ∈ frames, frame.2.length ≤ maxPayload) :
    (∀ chunks, chunks.flatten = stream →
      ((∃ parser, feed key (FrameParser.make maxPayload) chunks = .ok (sent frames, parser)) ↔
        (∀ frame ∈ frames, Supported frame.1) ∧
          Fits (FrameParser.make maxPayload).bound frames.length (sizes key (sent frames)) 0
            (chunks.map List.length))) ∧
    ((∀ frame ∈ frames, Supported frame.1) →
      ∀ (κ : Type) (handle : κ → Frame → κ) (owner : κ) (rounds : List Bytes), rounds.flatten <+: stream →
        ((Connection.run (Connection.accepting handle) ⟨FrameParser.make maxPayload, key, owner, none⟩ rounds).closed =
            none ↔
          Fits (FrameParser.make maxPayload).bound maxFramesPerIteration (sizes key (sent frames)) 0
            (rounds.map List.length))) := by
  have hstream : stream = (sent frames).flatMap (encodeFrame key) := by simpa using (appendFrames_eq hbuilt).1
  have hmax : min maxPayload maxFramePayload ≤ maxFramePayload := min_le_right _ _
  constructor
  · intro chunks hchunks
    have hfeed (hsupported : ∀ frame ∈ frames, Supported frame.1) :=
      @feed_stream key (min maxPayload maxFramePayload) frames.length (FrameParser.make maxPayload) (sent frames) chunks
        [] hmax hmax (valid_sent hbuilt hkeyed hbounded hsupported) (by simp [sent])
        (by
          intro size hsize
          exact sizes_pos key (sent frames) size (List.mem_of_mem_head? hsize))
        (by simpa [FrameParser.make, hchunks] using hstream)
    constructor
    · rintro ⟨parser, hok⟩
      have hsupported : ∀ frame ∈ frames, Supported frame.1 := by
        intro frame hframe
        exact supported_sentFrame.mp (feed_supported hok _ (List.mem_map_of_mem hframe))
      refine ⟨hsupported, ?_⟩
      rcases hfeed hsupported with ⟨hfits, -⟩ | ⟨-, e, herror⟩
      · exact hfits
      · rw [hok] at herror
        cases herror
    · rintro ⟨hsupported, hfits⟩
      rcases hfeed hsupported with ⟨-, taken, left, rest, hframes, hok, hrest, hdrained⟩ | ⟨hnot, -⟩
      · -- nothing is left over: a frame that is there as a whole would have been taken
        have hnil : left = [] := by
          cases left with
          | nil => rfl
          | cons frame left =>
            have hless : rest.length < size (encodeFrame key) frame := hdrained _ rfl
            have hlength := congrArg List.length hrest
            rw [List.append_nil, List.flatMap_cons, List.length_append] at hlength
            unfold size at hless
            omega
        rw [hnil, List.append_nil] at hframes
        exact ⟨_, hframes ▸ hok⟩
      · exact absurd hfits hnot
  · rintro hsupported κ handle owner rounds ⟨future, hfuture⟩
    exact @run_stream κ handle (min maxPayload maxFramePayload) ⟨FrameParser.make maxPayload, key, owner, none⟩
      (sent frames) rounds future rfl hmax hmax (valid_sent hbuilt hkeyed hbounded hsupported) (Nat.zero_le _)
      (by rw [← hstream, ← hfuture]; rfl)

end Accepted

lemma appendFrame_ok {out payload key : Bytes} {header : FrameHeader} (hpayload : payload.length ≤ maxFramePayload)
    (hkeyed : ¬(header.isSigned = true ∧ key = [])) (hword : out.length < 2 ^ 32) :
    appendFrame out header payload key = .ok (out ++ encodeFrame key (sentFrame header payload)) := by
  have hsize : ¬2 ^ 64 ≤ frameWireSize payload.length header.isSigned + out.length := by
    have hmac : (if header.isSigned then macSize else 0) ≤ 32 := by
      cases header.isSigned <;> simp [macSize]
    rw [frameWireSize, frameHeaderSize, frameTrailerSize]
    rw [maxFramePayload] at hpayload
    omega
  simp only [appendFrame, checkedSum, rejectIf, not_lt.mpr hpayload, hkeyed, hsize, if_false, bind, Except.bind, pure,
    Except.pure]
  exact congrArg Except.ok (List.append_assoc _ _ _)

def pingHeader : FrameHeader := ⟨1, .ping, 0, 0⟩

/-- Two unsigned frames of one byte each. -/
def twoPings : List (FrameHeader × Bytes) := [(pingHeader, [1]), (pingHeader, [2])]

lemma twoPings_built : appendFrames [] [] twoPings = .ok ((sent twoPings).flatMap (encodeFrame [])) := by
  have hfirst := @appendFrame_ok [] [1] [] pingHeader (by decide) (by decide) (by decide)
  have hlength : ([] ++ encodeFrame [] (sentFrame pingHeader [1])).length < 2 ^ 32 := by
    rw [List.nil_append, encodeFrame_length]
    decide
  have hsecond := @appendFrame_ok _ [2] [] pingHeader (by decide) (by decide) hlength
  simp only [appendFrames, twoPings, putAll, hfirst, hsecond, bind, Except.bind]
  simp [sent]

/-- They are taken in any chunks that fit, and on any connection. -/
theorem two_pings_accepted_iff :
    (∀ chunks, chunks.flatten = (sent twoPings).flatMap (encodeFrame []) →
      ((∃ parser, feed [] (FrameParser.make 8) chunks = .ok (sent twoPings, parser)) ↔
        (∀ frame ∈ twoPings, Supported frame.1) ∧
          Fits (FrameParser.make 8).bound twoPings.length (sizes [] (sent twoPings)) 0 (chunks.map List.length))) ∧
    ((∀ frame ∈ twoPings, Supported frame.1) →
      ∀ (κ : Type) (handle : κ → Frame → κ) (owner : κ) (rounds : List Bytes),
        rounds.flatten <+: (sent twoPings).flatMap (encodeFrame []) →
        ((Connection.run (Connection.accepting handle) ⟨FrameParser.make 8, [], owner, none⟩ rounds).closed = none ↔
          Fits (FrameParser.make 8).bound maxFramesPerIteration (sizes [] (sent twoPings)) 0
            (rounds.map List.length))) :=
  stream_accepted_iff twoPings_built (by decide) (by decide)

section Large

variable {payload : Bytes}

/-- Two unsigned frames with the same payload. -/
def twice (payload : Bytes) : List (FrameHeader × Bytes) := [(pingHeader, payload), (pingHeader, payload)]

lemma size_large (hpayload : payload.length = maxFramePayload) :
    size (encodeFrame []) (sentFrame pingHeader payload) = 1048600 := by
  have hlength : (sentFrame pingHeader payload).payload.length = maxFramePayload := hpayload
  have hunsigned : (sentFrame pingHeader payload).signedFrame = false := rfl
  rw [size, encodeFrame_length, hlength, hunsigned]
  rfl

lemma appendFrames_large (hpayload : payload.length = maxFramePayload) :
    appendFrames [] [] (twice payload) = .ok ((sent (twice payload)).flatMap (encodeFrame [])) := by
  have hfirst := @appendFrame_ok [] payload [] pingHeader hpayload.le (by decide) (by decide)
  have hlength : ([] ++ encodeFrame [] (sentFrame pingHeader payload)).length < 2 ^ 32 := by
    have hsize := size_large hpayload
    rw [size] at hsize
    rw [List.nil_append, hsize]
    decide
  have hsecond := @appendFrame_ok _ payload [] pingHeader hpayload.le (by decide) hlength
  simp only [appendFrames, twice, putAll, hfirst, hsecond, bind, Except.bind]
  simp [sent]

lemma sizes_large (hpayload : payload.length = maxFramePayload) :
    sizes [] (sent (twice payload)) = [1048600, 1048600] := by
  simp only [sizes, sent, twice, List.map_cons, List.map_nil, size_large hpayload]

end Large

/-- A frame of the greatest size that arrives together with the beginning of the next one is refused, in chunks of
16 KiB as well as read at once from a connection. -/
theorem large_frames_refused :
    (¬∀ (key stream : Bytes) (maxPayload : ℕ) (frames : List (FrameHeader × Bytes)) (chunks : List Bytes),
      appendFrames key [] frames = .ok stream → (∀ frame ∈ frames, frame.1.isSigned = true ↔ key ≠ []) →
      (∀ frame ∈ frames, frame.2.length ≤ maxPayload) → (∀ frame ∈ frames, Supported frame.1) →
      chunks.flatten = stream → (∀ chunk ∈ chunks, chunk.length ≤ readChunk) →
      ∃ parser, feed key (FrameParser.make maxPayload) chunks = .ok (sent frames, parser)) ∧
    ¬∀ (key stream : Bytes) (maxPayload : ℕ) (frames : List (FrameHeader × Bytes)) (rounds : List Bytes),
      appendFrames key [] frames = .ok stream → (∀ frame ∈ frames, frame.1.isSigned = true ↔ key ≠ []) →
      (∀ frame ∈ frames, frame.2.length ≤ maxPayload) → (∀ frame ∈ frames, Supported frame.1) →
      rounds.flatten <+: stream →
      (Connection.run (Connection.accepting fun (_ : Unit) _ => ()) ⟨FrameParser.make maxPayload, key, (), none⟩
        rounds).closed = none := by
  obtain ⟨payload, hpayload⟩ : ∃ payload : Bytes, payload.length = maxFramePayload :=
    ⟨List.replicate maxFramePayload 0, List.length_replicate⟩
  have hbuilt := appendFrames_large hpayload
  have hsizes := sizes_large hpayload
  have hkeyed : ∀ frame ∈ twice payload, frame.1.isSigned = true ↔ ([] : Bytes) ≠ [] := by
    simp only [twice, List.mem_cons, List.not_mem_nil, or_false, or_self, forall_eq]
    decide
  have hbounded : ∀ frame ∈ twice payload, frame.2.length ≤ maxFramePayload := by
    simp only [twice, List.mem_cons, List.not_mem_nil, or_false, or_self, forall_eq]
    exact hpayload.le
  have hsupported : ∀ frame ∈ twice payload, Supported frame.1 := by
    simp only [twice, List.mem_cons, List.not_mem_nil, or_false, or_self, forall_eq]
    exact ⟨by decide, by decide, by decide⟩
  have hvalid := valid_sent hbuilt hkeyed hbounded hsupported
  rw [min_self] at hvalid
  set stream := (sent (twice payload)).flatMap (encodeFrame []) with hstream
  have hlength : stream.length = 2097200 := by
    have hsum : stream.length = (sizes [] (sent (twice payload))).sum := by
      rw [hstream, List.length_flatMap]
      rfl
    rw [hsum, hsizes]
    rfl
  have hbound : (FrameParser.make maxFramePayload).bound = 1048632 := by decide
  constructor
  · intro hclaim
    set lengths : List ℕ := List.replicate 128 16384 ++ [48] with hlengths
    have hsum : lengths.sum = 2097200 := by simp [hlengths]
    have hchunks : (lengths.splitLengths stream).flatten = stream :=
      List.flatten_splitLengths stream lengths (by rw [hsum, hlength])
    have hmap : (lengths.splitLengths stream).map List.length = lengths :=
      List.map_splitLengths_length stream lengths (by rw [hsum, hlength])
    have hshort : ∀ chunk ∈ lengths.splitLengths stream, chunk.length ≤ readChunk :=
      List.length_mem_splitLengths stream lengths readChunk (by simp [hlengths, readChunk])
    obtain ⟨parser, hok⟩ := hclaim [] stream maxFramePayload (twice payload) _ hbuilt hkeyed hbounded hsupported
      hchunks hshort
    have hfeed := @feed_stream [] maxFramePayload 2 (FrameParser.make maxFramePayload) (sent (twice payload))
      (lengths.splitLengths stream) [] le_rfl le_rfl hvalid (by simp [sent, twice])
      (by rw [hsizes]; simp [Drained, FrameParser.make]) (by rw [hchunks, List.append_nil]; rfl)
    rw [hsizes, hmap, hbound] at hfeed
    have hnot : ¬Fits 1048632 2 [1048600, 1048600] 0 lengths := by decide +kernel
    rcases hfeed with ⟨hfits, -⟩ | ⟨-, e, herror⟩
    · exact hnot hfits
    · rw [hok] at herror
      cases herror
  · intro hclaim
    have hopen := hclaim [] stream maxFramePayload (twice payload) [stream] hbuilt hkeyed hbounded hsupported
      (by simp)
    have hrun := (@run_stream Unit (fun _ _ => ()) maxFramePayload
      ⟨FrameParser.make maxFramePayload, [], (), none⟩ (sent (twice payload)) [stream] [] rfl le_rfl le_rfl hvalid
      (Nat.zero_le _) (by simp [FrameParser.make, hstream])).mp hopen
    rw [List.map_cons, Fits, hlength, hbound] at hrun
    exact absurd hrun.1 (by decide)

end InterClusterFabric.NetReactor
