import InterClusterFabric.LibraryProgram
import InterClusterFabric.NetDelivery
import InterClusterFabric.NetEventLoop

/-! The client of the tools. It sends one request at a time and waits for the reply that carries its identity; what
else arrives meanwhile is passed over. -/
namespace InterClusterFabric.ClientExchange
open CoreStatus CoreIds CoreTime CoreBytes LibraryChecked LibraryReader LibraryStream LibraryProgram
open WireFrame WireFrame.FrameParser WireCodec WireExact WireParses NetParser NetDelivery
open NetReactor (sizes drain_stream feed_stream sizes_pos)
open NetOutbound (Reply outboundHeader)
open NetEventLoop (PollItem Polled pollSockets)
open WireMessages (PeerRole AdminMessage)

structure ClientOptions where
  role : PeerRole := .observer
  cluster : ClusterId := .empty
  domain : AuthorityDomainId := .empty
  channelKey : Bytes := []
  replyDeadline : Duration := .fromSeconds 10

/-- A client, with what its surroundings will answer: readings of the monotonic clock, polls of its socket, what the
socket has room for, and what arrives on it. -/
structure Client where
  options : ClientOptions
  verifyKey : Bytes
  signing : Bool := false
  connected : Bool := true
  parser : FrameParser := .make maxFramePayload
  handed : Bytes := []
  instants : ℕ → ℤ
  index : ℕ := 0
  polls : List Polled
  replies : List Reply
  arrivals : List (Result Bytes)

/-- A call of the client. It fails with a status, or with none while it still waits for an answer from outside. -/
abbrev ClientOp := Program Client (Option Status)

def refuse {α : Type} (outcome : Outcome) (text : String) : ClientOp α :=
  throw (some (Status.make outcome (ascii text)))

def orFail {α : Type} (result : Result α) : ClientOp α := Program.ofResult (result.mapError some)

/-- `monotonic_nanos` -/
def instant : ClientOp ℤ := modifyGet fun c => (c.instants c.index, { c with index := c.index + 1 })

/-- `poll_sockets` for the one socket of the client. -/
def poll (item : PollItem) : ClientOp (List PollItem × ℕ) := do
  match (← get).polls with
  | [] => throw none
  | polled :: polls =>
    modify fun c => { c with polls }
    orFail (pollSockets [item] 250 fun _ _ => polled)

/-! Sending. -/

def sendLoop (deadline : ℤ) : List Reply → Bytes → ClientOp Unit
  | [], bytes => if bytes = [] then pure () else throw none
  | reply :: replies, bytes =>
    if bytes = [] then pure ()
    else do
      modify fun c => { c with replies }
      match reply.send bytes with
      | .ok written =>
        modify fun c => { c with handed := c.handed ++ bytes.take written }
        sendLoop deadline replies (bytes.drop written)
      | .error status =>
        if status.outcome ≠ .busy then throw (some status)
        else
          let _ ← poll { handle := 0, wantRead := false, wantWrite := true }
          if deadline < (← instant) then refuse .unreachable "the send deadline expired"
          else sendLoop deadline replies bytes

def sendRaw (bytes : Bytes) : ClientOp Unit := do
  let c ← get
  let sentAt ← instant
  sendLoop (sentAt + c.options.replyDeadline.nanos.toInt) c.replies bytes

def sendFrame (type : MessageType) (payload : Bytes) : ClientOp Unit := do
  let c ← get
  if c.connected = false then refuse .unreachable "the client is not connected"
  else
    let sign := c.signing && !c.options.channelKey.isEmpty
    let encoded ← orFail (appendFrame [] (outboundHeader type sign) payload (if sign then c.options.channelKey else []))
    sendRaw encoded

/-! Receiving. -/

def waitLoop (limit : ℤ) : List Polled → ClientOp Unit
  | [] => throw none
  | _ :: rest => do
    let answered ← poll { handle := 0, wantRead := true }
    if answered.1.any PollItem.failed then refuse .unreachable "the peer closed the connection"
    else if 0 < answered.2 then pure ()
    else if limit < (← instant) then refuse .unreachable "the reply deadline expired"
    else waitLoop limit rest

def waitReadable (deadline : ℤ) : ClientOp Unit := do
  let startedAt ← instant
  waitLoop (startedAt + deadline) (← get).polls

/-- The next frame that has arrived as a whole. -/
def nextFrame : ClientOp (Option Frame) := do
  let c ← get
  match ← orFail (c.parser.next c.verifyKey) with
  | none => return none
  | some (frame, parser) =>
    modify fun c => { c with parser }
    return some frame

def awaitBytes (limit : ℤ) : ClientOp Unit := do
  waitReadable 250000000
  if limit < (← instant) then refuse .unreachable "the reply deadline expired" else pure ()

def takeIn (arrivals : List (Result Bytes)) (arrival : Result Bytes) : ClientOp Unit := do
  modify fun c => { c with arrivals }
  match arrival with
  | .error status => if status.outcome = .busy then pure () else throw (some status)
  | .ok data =>
    if data = [] then refuse .unreachable "the peer closed the connection"
    else
      let parser ← orFail ((← get).parser.push data)
      modify fun c => { c with parser }

def receiveLoop (limit : ℤ) : List (Result Bytes) → ClientOp Frame
  | [] => do
    match ← nextFrame with
    | some frame => return frame
    | none =>
      awaitBytes limit
      throw none
  | arrival :: arrivals => do
    match ← nextFrame with
    | some frame => return frame
    | none =>
      awaitBytes limit
      takeIn arrivals arrival
      receiveLoop limit arrivals

def receiveFrame : ClientOp Frame := do
  let c ← get
  let startedAt ← instant
  receiveLoop (startedAt + c.options.replyDeadline.nanos.toInt) c.arrivals

/-! Replies. -/

/-- The bytes that have arrived and those that will. -/
def stream (c : Client) : Bytes := c.parser.buffer ++ c.arrivals.flatMap fun arrival => arrival.toOption.getD []

/-- The reply that a request waits for. -/
structure Expected (α : Type) where
  type : MessageType
  unexpected : String
  read : ByteReader α
  own : α → Bool

/-- `query` and `admin` wait for a reply of their type and with their identity, pass over pings and the replies to
other requests, and refuse everything else. -/
structure Exchange (α : Type) extends Expected α where
  onPing : Frame → ClientOp Unit
  onOther : ClientOp Unit

/-- What the payload of a frame is read as. -/
def Expected.decode {α : Type} (expected : Expected α) (frame : Frame) : Result α :=
  ((toEnd expected.read).run frame.payload).map Prod.fst

/-- Every turn takes a frame off the stream, so one more than its bytes are enough. -/
def awaitLoop {α : Type} (exchange : Exchange α) : ℕ → ClientOp α
  | 0 => throw none
  | turns + 1 => do
    let frame ← receiveFrame
    if frame.header.type = .ping then
      exchange.onPing frame
      awaitLoop exchange turns
    else if frame.header.type ≠ exchange.type then refuse .invalid exchange.unexpected
    else
      let reply ← orFail (exchange.decode frame)
      if exchange.own reply = true then return reply
      else
        exchange.onOther
        awaitLoop exchange turns

def await {α : Type} (exchange : Exchange α) : ClientOp α := do awaitLoop exchange ((stream (← get)).length + 1)

/-- A send whose failure is dropped. -/
def dropFailure (p : ClientOp Unit) : ClientOp Unit := do
  match ← p.attempt with
  | .error none => throw none
  | _ => pure ()

/-- A ping that is understood is answered. -/
def answerPing (frame : Frame) : ClientOp Unit :=
  match decodePing.run frame.payload with
  | .ok (ping, _) => dropFailure (sendFrame .pong (encodeMessage (.pong { sequence := ping.sequence })))
  | .error _ => pure ()

def queryReply (request : QueryMessage) : Expected QueryResultMessage where
  type := .queryResult
  unexpected := "unexpected message while waiting for a query result"
  read := decodeQueryResult
  own reply := reply.request == request.request

def queryExchange (request : QueryMessage) (limit : ℤ) : Exchange QueryResultMessage where
  toExpected := queryReply request
  onPing := answerPing
  onOther := do
    if limit < (← instant) then
      refuse .indeterminate "a reply for a different request arrived after the deadline"
    else pure ()

def query (request : QueryMessage) : ClientOp QueryResultMessage := do
  sendFrame .query (encodeMessage (.query request))
  let c ← get
  let sentAt ← instant
  await (queryExchange request (sentAt + c.options.replyDeadline.nanos.toInt))

def adminReply (request : AdminMessage) : Expected AdminResultMessage where
  type := .adminResult
  unexpected := "unexpected message while waiting for an administrative result"
  read := decodeAdminResult
  own reply := reply.request == request.request

def adminExchange (request : AdminMessage) : Exchange AdminResultMessage where
  toExpected := adminReply request
  onPing _ := pure ()
  onOther := pure ()

def admin (request : AdminMessage) : ClientOp AdminResultMessage := do
  sendFrame .admin (encodeMessage (.admin request))
  await (adminExchange request)

/-! What a client takes off the stream, whatever its surroundings answer. -/

/-- Nothing is received. -/
structure Aside (c c' : Client) : Prop where
  key : c'.verifyKey = c.verifyKey
  parser : c'.parser = c.parser
  arrivals : c'.arrivals = c.arrivals

instance : Std.Refl Aside := ⟨fun _ => ⟨rfl, rfl, rfl⟩⟩

instance : IsTrans Client Aside where
  trans _ _ _ h h' := ⟨h'.key.trans h.key, h'.parser.trans h.parser, h'.arrivals.trans h.arrivals⟩

lemma Aside.stream {c c' : Client} (h : Aside c c') : stream c' = stream c := by
  rw [ClientExchange.stream, ClientExchange.stream, h.parser, h.arrivals]

/-- The call receives nothing. -/
abbrev Sends {α : Type} (p : ClientOp α) (c : Client) : Prop := Steps Aside p c fun _ _ => True

section Sends

variable {c : Client}

lemma orFail_sends {α : Type} (result : Result α) : Sends (orFail result) c := Steps.ofResult fun _ _ => trivial

lemma instant_sends : Sends instant c := ⟨⟨rfl, rfl, rfl⟩, fun _ _ => trivial⟩

lemma poll_sends (item : PollItem) : Sends (poll item) c := by
  refine Steps.get_bind ?_
  split
  · exact Steps.throw
  · exact Steps.modify_bind ⟨rfl, rfl, rfl⟩ (orFail_sends _)

lemma sendLoop_sends (deadline : ℤ) (replies : List Reply) (bytes : Bytes) :
    Sends (sendLoop deadline replies bytes) c := by
  induction replies generalizing bytes c with
  | nil =>
    unfold sendLoop
    split
    · exact Steps.pure trivial
    · exact Steps.throw
  | cons reply replies ih =>
    unfold sendLoop
    split
    · exact Steps.pure trivial
    refine Steps.modify_bind ⟨rfl, rfl, rfl⟩ ?_
    split
    · exact Steps.modify_bind ⟨rfl, rfl, rfl⟩ (ih _)
    split
    · exact Steps.throw
    refine (poll_sends _).bind fun _ _ _ _ => instant_sends.bind fun _ _ _ _ => ?_
    split
    · exact Steps.throw
    · exact ih _

lemma sendFrame_sends (type : MessageType) (payload : Bytes) : Sends (sendFrame type payload) c := by
  refine Steps.get_bind ?_
  split
  · exact Steps.throw
  refine (orFail_sends _).bind fun _ _ _ _ => Steps.get_bind (instant_sends.bind fun _ _ _ _ => ?_)
  exact sendLoop_sends _ _ _

lemma waitLoop_sends (limit : ℤ) (polls : List Polled) : Sends (waitLoop limit polls) c := by
  induction polls generalizing c with
  | nil => exact Steps.throw
  | cons polled polls ih =>
    refine (poll_sends _).bind fun answered _ _ _ => ?_
    split
    · exact Steps.throw
    split
    · exact Steps.pure trivial
    refine instant_sends.bind fun _ _ _ _ => ?_
    split
    · exact Steps.throw
    · exact ih

lemma awaitBytes_sends (limit : ℤ) : Sends (awaitBytes limit) c := by
  refine Steps.bind (instant_sends.bind fun _ _ _ _ => Steps.get_bind (waitLoop_sends _ _)) fun _ _ _ _ => ?_
  refine instant_sends.bind fun _ _ _ _ => ?_
  split
  · exact Steps.throw
  · exact Steps.pure trivial

lemma dropFailure_sends {p : ClientOp Unit} (h : Sends p c) : Sends (dropFailure p) c := by
  refine Steps.attempt_bind h (fun _ _ _ _ => Steps.pure trivial) fun e _ _ => ?_
  cases e with
  | none => exact Steps.throw
  | some status => exact Steps.pure trivial

lemma answerPing_sends (frame : Frame) : Sends (answerPing frame) c := by
  unfold answerPing
  split
  · exact dropFailure_sends (sendFrame_sends _ _)
  · exact Steps.pure trivial

end Sends

section Frames

variable {key buffer rest : Bytes} {frame : Frame}

/-- What has arrived after a whole frame does not matter to it. -/
lemma firstFrame_append (h : firstFrame key buffer = .ok (some (frame, rest))) (more : Bytes) :
    firstFrame key (buffer ++ more) = .ok (some (frame, rest ++ more)) := by
  obtain ⟨hlength, hdecode, hkeyed, hwhole, hsound, hframe, rfl⟩ := firstFrame_eq_some h
  set header := frame.header with hheader
  have hwire : wireSize header = frameHeaderSize + header.payloadLength.toNat + frameTrailerSize +
      (if header.isSigned then macSize else 0) := by
    rw [wireSize, frameWireSize, Nat.add_right_comm frameHeaderSize]
  have hslice {offset count : ℕ} (hfits : offset + count ≤ buffer.length) :
      LibraryLayout.slice (buffer ++ more) offset count = LibraryLayout.slice buffer offset count := by
    rw [LibraryLayout.slice, LibraryLayout.slice, List.drop_append_of_le_length (by omega),
      List.take_append_of_le_length (by rw [List.length_drop]; omega)]
  have hcovered : frameHeaderSize + header.payloadLength.toNat + frameTrailerSize ≤ buffer.length := by omega
  have hdamaged : Damaged key (buffer ++ more) header → Damaged key buffer header := by
    rintro (hcrc | ⟨hsigned, hmac⟩)
    · refine .inl ?_
      rwa [LibraryLayout.uintAt, hslice hcovered, hslice (by omega)] at hcrc
    · rw [if_pos hsigned] at hwire
      refine .inr ⟨hsigned, ?_⟩
      rwa [hslice (by omega), List.take_append_of_le_length hcovered] at hmac
  have hlength' : frameHeaderSize ≤ (buffer ++ more).length := by rw [List.length_append]; omega
  have hdecode' : decodeFrameHeader ((buffer ++ more).take frameHeaderSize) = .ok header := by
    rw [List.take_append_of_le_length hlength, hdecode]
  rcases firstFrame_of_header hlength' hdecode' hkeyed with ⟨hshort, -⟩ | ⟨-, hbad, -⟩ | ⟨-, -, hfirst⟩
  · rw [List.length_append] at hshort
    omega
  · exact absurd (hdamaged hbad) hsound
  · rw [hfirst, hslice (by omega), List.drop_append_of_le_length hwhole, ← hframe]

end Frames

lemma orFail_returns {α : Type} (result : Result α) (c : Client) :
    Steps.Returns (orFail result) c fun a c' => c' = c ∧ result = .ok a := by
  refine Steps.ofResult fun a h => ⟨rfl, ?_⟩
  cases result with
  | error status => cases h
  | ok b =>
    cases h
    rfl

/-- The frame is the first of the stream. -/
structure Takes (c : Client) (frame : Frame) (c' : Client) : Prop where
  key : c'.verifyKey = c.verifyKey
  first : firstFrame c.verifyKey (stream c) = .ok (some (frame, stream c'))

section Stream

variable {c : Client}

lemma nextFrame_takes : Steps.Returns nextFrame c fun first c' =>
    (first = none → c' = c) ∧ ∀ frame, first = some frame → Takes c frame c' := by
  refine Steps.get_bind ((orFail_returns _ c).bind fun first c₁ _ h => ?_)
  obtain ⟨rfl, hfirst⟩ := h
  cases first with
  | none => exact Steps.pure ⟨fun _ => rfl, nofun⟩
  | some pair =>
    obtain ⟨frame, parser⟩ := pair
    obtain ⟨rest, hframe, rfl⟩ := next_eq_some hfirst
    refine Steps.modify_bind trivial (Steps.pure ⟨nofun, ?_⟩)
    rintro taken ⟨⟩
    exact ⟨rfl, firstFrame_append hframe _⟩

/-- What arrives moves from outside into the parser. -/
lemma takeIn_keeps {arrival : Result Bytes} {arrivals : List (Result Bytes)} (h : c.arrivals = arrival :: arrivals) :
    Steps.Returns (takeIn arrivals arrival) c fun _ c' =>
      c'.verifyKey = c.verifyKey ∧ c'.arrivals = arrivals ∧ stream c' = stream c := by
  refine Steps.modify_bind trivial ?_
  cases arrival with
  | error status =>
    dsimp only
    split
    · refine Steps.pure ⟨rfl, rfl, ?_⟩
      rw [stream, stream, h]
      rfl
    · exact Steps.throw
  | ok data =>
    dsimp only
    split
    · exact Steps.throw
    refine Steps.get_bind ((orFail_returns _ _).bind fun parser c₁ _ hpush => ?_)
    obtain ⟨rfl, hpush⟩ := hpush
    obtain ⟨-, rfl⟩ := push_eq_ok hpush
    refine Steps.modify trivial ⟨rfl, rfl, ?_⟩
    rw [stream, stream, h]
    exact List.append_assoc _ _ _

lemma receiveLoop_takes {limit : ℤ} {arrivals : List (Result Bytes)} (h : c.arrivals = arrivals) :
    Steps.Returns (receiveLoop limit arrivals) c fun frame c' => Takes c frame c' := by
  induction arrivals generalizing c with
  | nil =>
    refine nextFrame_takes.bind fun first c₁ _ hfirst => ?_
    cases first with
    | some frame => exact Steps.pure (hfirst.2 frame rfl)
    | none => exact (awaitBytes_sends limit).toReturns.bind fun _ _ _ _ => Steps.throw
  | cons arrival arrivals ih =>
    refine nextFrame_takes.bind fun first c₁ _ hfirst => ?_
    cases first with
    | some frame => exact Steps.pure (hfirst.2 frame rfl)
    | none =>
      obtain rfl := hfirst.1 rfl
      refine (awaitBytes_sends limit).toReturns.bind fun _ c₂ _ h₂ => ?_
      refine (takeIn_keeps (h₂.1.arrivals.trans h)).bind fun _ c₃ _ h₃ => ?_
      obtain ⟨hkey, harrivals, hstream⟩ := h₃
      refine (ih harrivals).mono fun frame c₄ h₄ => ⟨h₄.key.trans (hkey.trans h₂.1.key), ?_⟩
      rw [← h₂.1.key, ← hkey, ← h₂.1.stream, ← hstream]
      exact h₄.first

lemma receiveFrame_takes : Steps.Returns receiveFrame c fun frame c' => Takes c frame c' := by
  refine Steps.get_bind (instant_sends.toReturns.bind fun _ c₁ _ h₁ => ?_)
  refine (receiveLoop_takes h₁.1.arrivals).mono fun frame c₂ h₂ => ⟨h₂.key.trans h₁.1.key, ?_⟩
  rw [← h₁.1.key, ← h₁.1.stream]
  exact h₂.first

end Stream

/-- A ping, or the reply to another request. -/
def PassedOver {α : Type} (expected : Expected α) (frame : Frame) : Prop :=
  frame.header.type = .ping ∨
    frame.header.type = expected.type ∧ ∃ other, expected.decode frame = .ok other ∧ expected.own other = false

/-- The reply is the request's own, and is that of the first frame on the stream which is not passed over. -/
structure Found {α : Type} (expected : Expected α) (c : Client) (reply : α) (c' : Client) : Prop where
  own : expected.own reply = true
  taken : ∃ passed answer,
    takeUpTo (firstFrame c.verifyKey) (passed.length + 1) (stream c) = .ok (passed ++ [answer], stream c') ∧
      (∀ frame ∈ passed, PassedOver expected frame) ∧ answer.header.type = expected.type ∧
      expected.decode answer = .ok reply

section Found

variable {α : Type} {expected : Expected α} {c c₁ c' : Client} {reply : α} {frame : Frame}

lemma Found.of_aside (h : Found expected c₁ reply c') (haside : Aside c c₁) : Found expected c reply c' := by
  obtain ⟨hown, htaken⟩ := h
  rw [haside.key, haside.stream] at htaken
  exact ⟨hown, htaken⟩

lemma Found.behind (h : Found expected c₁ reply c') (hframe : Takes c frame c₁) (hpassed : PassedOver expected frame) :
    Found expected c reply c' := by
  obtain ⟨hown, passed, answer, htake, hall, hanswer⟩ := h
  refine ⟨hown, frame :: passed, answer, ?_, ?_, hanswer⟩
  · rw [hframe.key] at htake
    rw [List.length_cons, takeUpTo]
    simp only [hframe.first, htake, bind, Except.bind]
    rfl
  · rintro other (_ | ⟨_, hother⟩)
    · exact hpassed
    · exact hall other hother

lemma found_first (hframe : Takes c frame c') (htype : frame.header.type = expected.type)
    (hdecode : expected.decode frame = .ok reply) (hown : expected.own reply = true) : Found expected c reply c' := by
  refine ⟨hown, [], frame, ?_, by simp, htype, hdecode⟩
  simp only [List.length_nil, takeUpTo, hframe.first, bind, Except.bind]
  rfl

lemma awaitLoop_finds {exchange : Exchange α} (hping : ∀ frame c, Sends (exchange.onPing frame) c)
    (hother : ∀ c, Sends exchange.onOther c) (turns : ℕ) :
    Steps.Returns (awaitLoop exchange turns) c fun reply c' => Found exchange.toExpected c reply c' := by
  induction turns generalizing c with
  | zero => exact Steps.throw
  | succ turns ih =>
    refine receiveFrame_takes.bind fun frame c₁ _ hframe => ?_
    split
    · rename_i htype
      refine (hping frame c₁).toReturns.bind fun _ c₂ _ h₂ => ih.mono fun reply c₃ h₃ => ?_
      exact (h₃.of_aside h₂.1).behind hframe (.inl htype)
    split
    · exact Steps.throw
    rename_i htype
    refine (orFail_returns _ _).bind fun reply c₂ _ hreply => ?_
    obtain ⟨rfl, hdecode⟩ := hreply
    split
    · rename_i hown
      exact Steps.pure (found_first hframe (not_not.mp htype) hdecode hown)
    · rename_i hown
      refine (hother _).toReturns.bind fun _ c₃ _ h₃ => ih.mono fun reply' c₄ h₄ => ?_
      exact (h₄.of_aside h₃.1).behind hframe (.inr ⟨not_not.mp htype, reply, hdecode, by simpa using hown⟩)

end Found

/-- Whatever arrives, in whatever pieces and however the socket, its polls and the clock behave: a reply that `query` or
`admin` returns carries the identity of the request, and is read from the first frame on the stream that is neither a
ping nor the reply to another request. -/
theorem reply_is_own (c : Client) :
    (∀ request, Steps.Returns (query request) c fun reply c' => Found (queryReply request) c reply c') ∧
    ∀ request, Steps.Returns (admin request) c fun reply c' => Found (adminReply request) c reply c' := by
  constructor
  · intro request
    refine (sendFrame_sends _ _).toReturns.bind fun _ c₁ _ h₁ => Steps.get_bind ?_
    refine instant_sends.toReturns.bind fun limit c₂ _ h₂ => Steps.get_bind ?_
    refine (awaitLoop_finds (fun frame _ => answerPing_sends frame) (fun c => ?_) _).mono fun reply c₃ h₃ =>
      (h₃.of_aside h₂.1).of_aside h₁.1
    refine instant_sends.bind fun _ _ _ _ => ?_
    split
    · exact Steps.throw
    · exact Steps.pure trivial
  · intro request
    refine (sendFrame_sends _ _).toReturns.bind fun _ c₁ _ h₁ => Steps.get_bind ?_
    exact (awaitLoop_finds (fun _ _ => Steps.pure trivial) (fun _ => Steps.pure trivial) _).mono fun reply c₂ h₂ =>
      h₂.of_aside h₁.1

/-! Surroundings that keep up with the client. -/

/-- The key under which the client sends. -/
def outKey (c : Client) : Bytes := if c.signing = true then c.options.channelKey else []

/-- Every arrival is announced by a poll, the socket has room for `n` frames, and no deadline passes. -/
structure Prompt (n : ℕ) (c : Client) : Prop where
  connected : c.connected = true
  readable : ∀ polled ∈ c.polls, ∃ flags : ℕ → Bool × Bool × Bool,
    polled = .answered flags ∧ (flags 0).1 = true ∧ (flags 0).2.2 = false
  announced : c.arrivals.length ≤ c.polls.length
  room : ∀ reply ∈ c.replies, ∃ count, reply = .room count ∧ frameWireSize maxFramePayload true ≤ count
  replies : n ≤ c.replies.length
  quick : ∀ i j, c.instants j ≤ c.instants i + c.options.replyDeadline.nanos.toInt

/-- The client with the same surroundings and the same keys. -/
structure Like (base c : Client) : Prop where
  options : c.options = base.options
  signing : c.signing = base.signing
  key : c.verifyKey = base.verifyKey
  instants : c.instants = base.instants

lemma Like.outKey {base c : Client} (h : Like base c) : outKey c = outKey base := by
  rw [ClientExchange.outKey, ClientExchange.outKey, h.options, h.signing]

lemma Like.step {base c c' : Client} (h : Like base c) (hoptions : c'.options = c.options)
    (hsigning : c'.signing = c.signing) (hkey : c'.verifyKey = c.verifyKey) (hinstants : c'.instants = c.instants) :
    Like base c' :=
  ⟨hoptions.trans h.options, hsigning.trans h.signing, hkey.trans h.key, hinstants.trans h.instants⟩

lemma Prompt.fewer {n : ℕ} {c : Client} (h : Prompt (n + 1) c) : Prompt n c :=
  { h with replies := Nat.le_of_succ_le h.replies }

section Sending

variable {c : Client} {n : ℕ} {message : Message}

/-- The client after it has sent some bytes. -/
def sent (c : Client) (bytes : Bytes) : Client :=
  { c with index := c.index + 1, replies := c.replies.tail, handed := c.handed ++ bytes }

lemma Prompt.sent (h : Prompt (n + 1) c) (bytes : Bytes) : Prompt n (sent c bytes) where
  connected := h.connected
  readable := h.readable
  announced := h.announced
  room reply hreply := h.room reply (List.mem_of_mem_tail hreply)
  replies := by
    show n ≤ c.replies.tail.length
    rw [List.length_tail]
    exact Nat.le_sub_one_of_lt h.replies
  quick := h.quick

lemma encodeFrame_length_le {key : Bytes} (hsmall : (encodeMessage message).length ≤ maxFramePayload) :
    (encodeFrame key (frameOf key message)).length ≤ frameWireSize maxFramePayload true := by
  rw [encodeFrame_length, frameWireSize, frameWireSize, if_pos rfl]
  have hpayload : (frameOf key message).payload = encodeMessage message := rfl
  rw [hpayload]
  split <;> omega

/-- A message goes out as one frame. -/
lemma sendFrame_run (h : Prompt (n + 1) c) (hsmall : (encodeMessage message).length ≤ maxFramePayload) :
    sendFrame (typeOf message) (encodeMessage message) c =
      (.ok (), sent c (encodeFrame (outKey c) (frameOf (outKey c) message))) := by
  obtain ⟨reply, replies, hreplies⟩ := List.exists_cons_of_length_pos (Nat.lt_of_lt_of_le (Nat.succ_pos n) h.replies)
  obtain ⟨count, rfl, hcount⟩ := h.room reply (by rw [hreplies]; exact List.mem_cons_self)
  have hkey : (if (c.signing && !c.options.channelKey.isEmpty) = true then c.options.channelKey else []) =
      outKey c := by
    rw [outKey]
    cases c.signing <;> cases c.options.channelKey <;> rfl
  have hsign : (c.signing && !c.options.channelKey.isEmpty) = !(outKey c).isEmpty := by
    rw [outKey]
    cases c.signing <;> rfl
  have hkeyed : ¬((outboundHeader (typeOf message) !(outKey c).isEmpty).isSigned = true ∧ outKey c = []) := by
    rw [isSigned_outboundHeader]
    rintro ⟨hsigned, hnil⟩
    rw [hnil] at hsigned
    cases hsigned
  have hbuilt : appendFrame [] (outboundHeader (typeOf message) !(outKey c).isEmpty) (encodeMessage message)
      (outKey c) = .ok (encodeFrame (outKey c) (frameOf (outKey c) message)) :=
    NetReactor.appendFrame_ok hsmall hkeyed (by simp)
  have hfits := (@encodeFrame_length_le message (outKey c) hsmall).trans hcount
  have hne : encodeFrame (outKey c) (frameOf (outKey c) message) ≠ [] :=
    List.ne_nil_of_length_pos (encodeFrame_pos _ _)
  rw [sent]
  set encoded := encodeFrame (outKey c) (frameOf (outKey c) message) with hencoded
  have hsend : (Reply.room count).send encoded = .ok encoded.length := by
    rw [Reply.send, if_neg hne, min_eq_right hfits]
  have hloop (deadline : ℤ) (c₁ : Client) : sendLoop deadline (.room count :: replies) encoded c₁ =
      (.ok (), { c₁ with replies, handed := c₁.handed ++ encoded }) := by
    rw [sendLoop, if_neg hne, Program.modify_bind_run, hsend]
    dsimp only
    rw [Program.modify_bind_run, List.take_length, List.drop_length]
    cases replies <;> rfl
  rw [sendFrame, Program.get_bind_run, if_neg (by simp [h.connected]), hkey, hsign, hbuilt]
  show sendRaw encoded c = _
  rw [sendRaw, Program.get_bind_run, hreplies]
  exact hloop _ _

end Sending

/-! What arrives is a stream of frames, in pieces that the parser takes. -/

structure Ahead (limit : ℕ) (c : Client) (frames : List Frame) (chunks : List Bytes) : Prop where
  valid : ∀ frame ∈ frames, Valid c.verifyKey maxFramePayload frame
  few : frames.length ≤ limit
  arrivals : c.arrivals = chunks.map .ok
  filled : ∀ chunk ∈ chunks, chunk ≠ []
  stream : c.parser.buffer ++ chunks.flatten = frames.flatMap (encodeFrame c.verifyKey)
  bounded : c.parser.maxPayload ≤ maxFramePayload
  fits : Fits c.parser.bound limit (consume limit (sizes c.verifyKey frames) c.parser.buffer.length).1
    (consume limit (sizes c.verifyKey frames) c.parser.buffer.length).2 (chunks.map List.length)

section Receiving

variable {c : Client} {n limit : ℕ} {deadline : ℤ} {frame : Frame} {frames : List Frame} {chunks : List Bytes}

/-- The first frame of a stream has arrived as a whole, or the parser waits for the rest of it. -/
lemma firstFrame_stream {key buffer future : Bytes}
    (hvalid : ∀ other ∈ frame :: frames, Valid key maxFramePayload other)
    (hstream : buffer ++ future = (frame :: frames).flatMap (encodeFrame key)) :
    (∃ rest, firstFrame key buffer = .ok (some (frame, rest)) ∧ rest ++ future = frames.flatMap (encodeFrame key) ∧
      buffer.length = size (encodeFrame key) frame + rest.length) ∨
    buffer.length < size (encodeFrame key) frame ∧ firstFrame key buffer = .ok none := by
  have hincremental := @firstFrame_incremental maxFramePayload key le_rfl
  have hframe := hvalid frame List.mem_cons_self
  rw [List.flatMap_cons] at hstream
  have hbuffer : buffer <+: encodeFrame key frame ++ frames.flatMap (encodeFrame key) := ⟨future, hstream⟩
  have hfirst : encodeFrame key frame <+: encodeFrame key frame ++ frames.flatMap (encodeFrame key) :=
    List.prefix_append _ _
  by_cases hwhole : size (encodeFrame key) frame ≤ buffer.length
  · obtain ⟨rest, rfl⟩ := List.prefix_of_prefix_length_le hfirst hbuffer hwhole
    rw [List.append_assoc, List.append_cancel_left_eq] at hstream
    exact .inl ⟨rest, hincremental.whole rest hframe, hstream, List.length_append⟩
  · obtain ⟨back, hback⟩ := List.prefix_of_prefix_length_le hbuffer hfirst (not_le.mp hwhole).le
    refine .inr ⟨not_le.mp hwhole, hincremental.begun hframe hback ?_⟩
    rintro rfl
    rw [size, ← hback, List.append_nil] at hwhole
    exact hwhole le_rfl

/-- The client with some other bytes in its parser and some calls further. -/
def advanced (c : Client) (rest : Bytes) (arrivals : List (Result Bytes)) (polls : List Polled) (index : ℕ) : Client :=
  { c with parser := { c.parser with buffer := rest }, arrivals, polls, index }

lemma awaitBytes_run (h : Prompt n c) {polled : Polled} {polls : List Polled} (hpolls : c.polls = polled :: polls)
    (hdeadline : ∀ j, c.instants j ≤ deadline) :
    awaitBytes deadline c = (.ok (), { c with polls, index := c.index + 2 }) := by
  obtain ⟨flags, rfl, hreadable, hsound⟩ := h.readable polled (by rw [hpolls]; exact List.mem_cons_self)
  have hpoll (c₁ : Client) (hc₁ : c₁.polls = .answered flags :: polls) :
      poll { handle := 0, wantRead := true } c₁ = (.ok ([{
        handle := 0, wantRead := true, readable := true, writable := (flags 0).2.1, failed := false }], 1),
        { c₁ with polls }) := by
    rw [poll, Program.get_bind_run, hc₁]
    dsimp only
    rw [Program.modify_bind_run]
    simp [pollSockets, orFail, Program.ofResult, hreadable, hsound, PollItem.ready, Except.mapError,
      NetEventLoop.kMaxConnections]
  have hwait (limit : ℤ) (c₁ : Client) (hc₁ : c₁.polls = .answered flags :: polls) :
      waitLoop limit (.answered flags :: polls) c₁ = (.ok (), { c₁ with polls }) := by
    rw [waitLoop, Program.bind_ok (hpoll c₁ hc₁)]
    rfl
  have hreadable : waitReadable 250000000 c = (.ok (), { c with polls, index := c.index + 1 }) := by
    have hrun := hwait (c.instants c.index + 250000000) { c with index := c.index + 1 } hpolls
    rw [← hpolls] at hrun
    exact hrun
  rw [awaitBytes, Program.bind_ok hreadable]
  have hinstant : instant { c with polls, index := c.index + 1 } =
      (.ok (c.instants (c.index + 1)), { c with polls, index := c.index + 2 }) := rfl
  rw [Program.bind_ok hinstant, if_neg (not_lt.mpr (hdeadline _))]
  rfl

lemma nextFrame_run {rest : Bytes} (h : firstFrame c.verifyKey c.parser.buffer = .ok (some (frame, rest))) :
    nextFrame c = (.ok (some frame), advanced c rest c.arrivals c.polls c.index) := by
  have hnext : c.parser.next c.verifyKey = .ok (some (frame, { c.parser with buffer := rest })) := by
    rw [next, h]
    rfl
  rw [nextFrame, Program.get_bind_run, hnext]
  rfl

lemma nextFrame_waits (h : firstFrame c.verifyKey c.parser.buffer = .ok none) : nextFrame c = (.ok none, c) := by
  have hnext : c.parser.next c.verifyKey = .ok none := by
    rw [next, h]
    rfl
  rw [nextFrame, Program.get_bind_run, hnext]
  rfl

lemma stream_pieces (h : c.arrivals = chunks.map .ok) : stream c = c.parser.buffer ++ chunks.flatten := by
  rw [stream, h, List.flatMap_map, ← List.flatMap_id]
  rfl

/-- A frame that is there is taken. -/
lemma receiveLoop_whole {rest : Bytes} (hfirst : firstFrame c.verifyKey c.parser.buffer = .ok (some (frame, rest)))
    (arrivals : List (Result Bytes)) :
    receiveLoop deadline arrivals c = (.ok frame, advanced c rest c.arrivals c.polls c.index) := by
  cases arrivals <;> rw [receiveLoop, Program.bind_ok (nextFrame_run hfirst)] <;> rfl

/-- The next piece is taken in. -/
lemma receiveLoop_waits (hprompt : Prompt n c) (hdeadline : ∀ j, c.instants j ≤ deadline)
    (hnone : firstFrame c.verifyKey c.parser.buffer = .ok none) {chunk : Bytes} (hchunk : chunk ≠ [])
    (harrivals : c.arrivals = .ok chunk :: chunks.map .ok) {polled : Polled} {polls : List Polled}
    (hpolls : c.polls = polled :: polls)
    (hpush : c.parser.push chunk = .ok { c.parser with buffer := c.parser.buffer ++ chunk }) :
    receiveLoop deadline c.arrivals c = receiveLoop deadline (chunks.map .ok)
      (advanced c (c.parser.buffer ++ chunk) (chunks.map .ok) polls (c.index + 2)) := by
  have htake : takeIn (chunks.map .ok) (.ok chunk) { c with polls, index := c.index + 2 } =
      (.ok (), advanced c (c.parser.buffer ++ chunk) (chunks.map .ok) polls (c.index + 2)) := by
    rw [takeIn, Program.modify_bind_run]
    dsimp only
    rw [if_neg hchunk, Program.get_bind_run]
    dsimp only
    rw [hpush]
    rfl
  rw [harrivals, receiveLoop, Program.bind_ok (nextFrame_waits hnone)]
  dsimp only
  rw [Program.bind_ok (awaitBytes_run hprompt hpolls hdeadline), Program.bind_ok htake]

lemma stream_advanced (rest : Bytes) (left : List Bytes) (polls : List Polled) (index : ℕ) :
    stream (advanced c rest (left.map .ok) polls index) = rest ++ left.flatten :=
  stream_pieces rfl

lemma Prompt.advanced (h : Prompt n c) {rest : Bytes} {left : List Bytes} {polls : List Polled} {index : ℕ}
    (hpolls : ∀ polled ∈ polls, polled ∈ c.polls) (hannounced : left.length ≤ polls.length) :
    Prompt n (advanced c rest (left.map .ok) polls index) where
  connected := h.connected
  readable polled hpolled := h.readable polled (hpolls polled hpolled)
  announced := by
    show (left.map Except.ok).length ≤ polls.length
    rwa [List.length_map]
  room := h.room
  replies := h.replies
  quick := h.quick

lemma Ahead.announced (h : Ahead limit c frames chunks) (hprompt : Prompt n c) : chunks.length ≤ c.polls.length := by
  have hannounced := hprompt.announced
  rwa [h.arrivals, List.length_map] at hannounced

/-- The stream without its first frame. -/
lemma Ahead.rest (h : Ahead limit c (frame :: frames) chunks) {rest : Bytes}
    (hrest : rest ++ chunks.flatten = frames.flatMap (encodeFrame c.verifyKey))
    (hlength : c.parser.buffer.length = size (encodeFrame c.verifyKey) frame + rest.length) (polls : List Polled)
    (index : ℕ) : Ahead limit (advanced c rest (chunks.map .ok) polls index) frames chunks where
  valid other hother := h.valid other (List.mem_cons_of_mem _ hother)
  few := Nat.le_of_succ_le h.few
  arrivals := rfl
  filled := h.filled
  stream := hrest
  bounded := h.bounded
  fits := by
    have hfew : (sizes c.verifyKey frames).length < limit := by
      rw [sizes, List.length_map]
      exact h.few
    have hfits := h.fits
    rw [hlength, show sizes c.verifyKey (frame :: frames) =
      size (encodeFrame c.verifyKey) frame :: sizes c.verifyKey frames from List.map_cons,
      consume_first (sizes_pos _ _) hfew] at hfits
    exact hfits

/-- The next piece fits, and the stream is as long as before. -/
lemma Ahead.piece {chunk : Bytes} (h : Ahead limit c (frame :: frames) (chunk :: chunks))
    (hshort : c.parser.buffer.length < size (encodeFrame c.verifyKey) frame) (polls : List Polled) (index : ℕ) :
    c.parser.push chunk = .ok { c.parser with buffer := c.parser.buffer ++ chunk } ∧
      Ahead limit (advanced c (c.parser.buffer ++ chunk) (chunks.map .ok) polls index) (frame :: frames) chunks := by
  have hfits := h.fits
  rw [show sizes c.verifyKey (frame :: frames) =
    size (encodeFrame c.verifyKey) frame :: sizes c.verifyKey frames from List.map_cons, consume_short hshort,
    List.map_cons, Fits] at hfits
  have hword : c.parser.bound < 2 ^ 64 := by
    have hbounded := h.bounded
    rw [bound, frameHeaderSize, frameTrailerSize, macSize]
    rw [maxFramePayload] at hbounded
    omega
  have hfilled : ∀ other ∈ chunks, other ≠ [] := fun other hother => h.filled other (List.mem_cons_of_mem _ hother)
  refine ⟨?_, h.valid, h.few, rfl, hfilled, ?_, h.bounded, ?_⟩
  · rcases push_eq c.parser chunk hword with ⟨-, hpush⟩ | ⟨hover, -⟩
    · exact hpush
    · exact absurd hfits.1 (not_le.mpr hover)
  · show (c.parser.buffer ++ chunk) ++ chunks.flatten = _
    rw [List.append_assoc]
    exact h.stream
  · show Fits c.parser.bound limit (consume limit _ (c.parser.buffer ++ chunk).length).1
      (consume limit _ (c.parser.buffer ++ chunk).length).2 _
    rw [List.length_append]
    exact hfits.2

/-- The next frame is received, however many pieces it comes in. -/
lemma receiveLoop_run (hprompt : Prompt n c) (hdeadline : ∀ j, c.instants j ≤ deadline)
    (h : Ahead limit c (frame :: frames) chunks) :
    ∃ rest left polls index, receiveLoop deadline c.arrivals c =
        (.ok frame, advanced c rest (left.map .ok) polls index) ∧
      Ahead limit (advanced c rest (left.map .ok) polls index) frames left ∧
      Prompt n (advanced c rest (left.map .ok) polls index) ∧
      (stream (advanced c rest (left.map .ok) polls index)).length < (stream c).length := by
  induction chunks generalizing c with
  | nil =>
    rcases firstFrame_stream h.valid h.stream with ⟨rest, hfirst, hrest, hlength⟩ | ⟨hshort, -⟩
    · refine ⟨rest, [], c.polls, c.index, ?_, h.rest hrest hlength _ _,
        hprompt.advanced (fun _ hp => hp) (Nat.zero_le _), ?_⟩
      · rw [receiveLoop_whole hfirst, h.arrivals]
      · rw [stream_advanced, stream_pieces h.arrivals, List.length_append, List.length_append, hlength]
        have hpos : 0 < size (encodeFrame c.verifyKey) frame := encodeFrame_pos _ _
        omega
    · have hstream := congrArg List.length h.stream
      rw [List.flatten_nil, List.append_nil, List.flatMap_cons, List.length_append] at hstream
      rw [size] at hshort
      omega
  | cons chunk chunks ih =>
    rcases firstFrame_stream h.valid h.stream with ⟨rest, hfirst, hrest, hlength⟩ | ⟨hshort, hnone⟩
    · refine ⟨rest, chunk :: chunks, c.polls, c.index, ?_, h.rest hrest hlength _ _,
        hprompt.advanced (fun _ hp => hp) (h.announced hprompt), ?_⟩
      · rw [receiveLoop_whole hfirst, h.arrivals]
      · rw [stream_advanced, stream_pieces h.arrivals, List.length_append, List.length_append, hlength]
        have hpos : 0 < size (encodeFrame c.verifyKey) frame := encodeFrame_pos _ _
        omega
    · have hannounced := h.announced hprompt
      obtain ⟨polled, polls, hpolls⟩ := List.exists_cons_of_length_pos (Nat.lt_of_lt_of_le (Nat.succ_pos _) hannounced)
      rw [hpolls, List.length_cons, List.length_cons] at hannounced
      obtain ⟨hpush, hahead⟩ := h.piece hshort polls (c.index + 2)
      have hnext : Prompt n (advanced c (c.parser.buffer ++ chunk) (chunks.map .ok) polls (c.index + 2)) :=
        hprompt.advanced (fun other hother => by rw [hpolls]; exact List.mem_cons_of_mem _ hother)
          (Nat.le_of_succ_le_succ hannounced)
      obtain ⟨rest, left, polls', index, hrun, hahead', hprompt', hless⟩ := ih hnext hdeadline hahead
      refine ⟨rest, left, polls', index, ?_, hahead', hprompt', ?_⟩
      · rw [receiveLoop_waits hprompt hdeadline hnone (h.filled chunk List.mem_cons_self) h.arrivals hpolls hpush]
        exact hrun
      · refine hless.trans_eq ?_
        rw [stream_advanced, stream_pieces h.arrivals, List.flatten_cons, List.append_assoc]

/-- At the end of the stream the client waits. -/
lemma receiveLoop_ends (hprompt : Prompt n c) (hdeadline : ∀ j, c.instants j ≤ deadline) (h : Ahead limit c [] chunks) :
    ∃ polls index, receiveLoop deadline c.arrivals c = (.error none, { c with polls, index }) := by
  have hstream := h.stream
  rw [List.flatMap_nil, List.append_eq_nil_iff, List.flatten_eq_nil_iff] at hstream
  have hchunks : chunks = [] := List.eq_nil_iff_forall_not_mem.mpr fun chunk hchunk =>
    h.filled chunk hchunk (hstream.2 chunk hchunk)
  have hnone : firstFrame c.verifyKey c.parser.buffer = .ok none := by
    rw [hstream.1]
    exact (@firstFrame_incremental maxFramePayload c.verifyKey le_rfl).empty
  have harrivals : c.arrivals = [] := by rw [h.arrivals, hchunks, List.map_nil]
  have hends : ∃ polls index, receiveLoop deadline [] c = (.error none, { c with polls, index }) := by
    rw [receiveLoop, Program.bind_ok (nextFrame_waits hnone)]
    dsimp only
    cases hpolls : c.polls with
    | nil =>
      have hwait : waitReadable 250000000 c = (.error none, { c with index := c.index + 1 }) := by
        show waitLoop _ c.polls { c with index := c.index + 1 } = _
        rw [hpolls]
        rfl
      have hwaits : awaitBytes deadline c = (.error none, { c with index := c.index + 1 }) := Program.bind_error hwait
      exact ⟨c.polls, c.index + 1, Program.bind_error hwaits⟩
    | cons polled polls =>
      refine ⟨polls, c.index + 2, ?_⟩
      rw [Program.bind_ok (awaitBytes_run hprompt hpolls hdeadline)]
      rfl
  obtain ⟨polls, index, hends⟩ := hends
  exact ⟨polls, index, by rw [harrivals, hends, harrivals]⟩

end Receiving

/-! The outcome of an exchange, by the messages that arrive. -/

section Verdicts

variable {α : Type} (expected : Expected α) (asReply : Message → Option α)

/-- A message that the client passes over. -/
def skips (message : Message) : Bool :=
  typeOf message == .ping || (asReply message).any fun reply => !expected.own reply

/-- The first message that is not passed over decides; before that the client waits. -/
def verdict (messages : List Message) : Except (Option Status) α :=
  match messages.find? fun message => !skips expected asReply message with
  | none => .error none
  | some message =>
    match asReply message with
    | some reply => .ok reply
    | none => .error (some (Status.make .invalid (ascii expected.unexpected)))

/-- The messages that are replies are read back from their frames. -/
structure Reads : Prop where
  awaited : expected.type ≠ .ping
  typed : ∀ message, typeOf message = expected.type ↔ ∃ reply, asReply message = some reply
  decoded : ∀ key message reply, InBounds message → Canonical message → asReply message = some reply →
    expected.decode (frameOf key message) = .ok reply

end Verdicts

def queryResultOf : Message → Option QueryResultMessage
  | .queryResult reply => some reply
  | _ => none

def adminResultOf : Message → Option AdminResultMessage
  | .adminResult reply => some reply
  | _ => none

/-- The answer of `query` to a ping; `admin` answers nothing. -/
def pongOf : Message → List Message
  | .ping ping => [.pong { sequence := ping.sequence }]
  | _ => []

section Verdicts

variable {α : Type} {expected : Expected α} {asReply : Message → Option α} {message : Message} {messages : List Message}

lemma verdict_skipped (h : skips expected asReply message = true) :
    verdict expected asReply (message :: messages) = verdict expected asReply messages := by
  rw [verdict, List.find?_cons_of_neg (by rw [h]; decide), verdict]

lemma verdict_reply {reply : α} (h : skips expected asReply message = false) (hreply : asReply message = some reply) :
    verdict expected asReply (message :: messages) = .ok reply := by
  rw [verdict, List.find?_cons_of_pos (by rw [h]; rfl)]
  dsimp only
  rw [hreply]

lemma verdict_unexpected (h : skips expected asReply message = false) (hreply : asReply message = none) :
    verdict expected asReply (message :: messages) =
      .error (some (Status.make .invalid (ascii expected.unexpected))) := by
  rw [verdict, List.find?_cons_of_pos (by rw [h]; rfl)]
  dsimp only
  rw [hreply]

lemma toEnd_of_returns {read : ByteReader α} {bytes : Bytes} {a : α} (h : read.run bytes = .ok (a, [])) :
    (toEnd read).run bytes = .ok (a, []) := by
  rw [toEnd, StateT.run_bind, h]
  rfl

/-- What decodes to the message under its constructor decodes to its content. -/
lemma read_of_map {read : ByteReader α} {wrap : α → Message} (hwrap : Function.Injective wrap) {bytes : Bytes} {a : α}
    (h : (wrap <$> read).run bytes = .ok (wrap a, [])) : read.run bytes = .ok (a, []) := by
  rw [StateT.run_map] at h
  cases hread : read.run bytes with
  | error status =>
    rw [hread] at h
    cases h
  | ok pair =>
    rw [hread] at h
    obtain ⟨b, rest⟩ := pair
    have hpair : (wrap b, rest) = (wrap a, []) := Except.ok.inj h
    rw [Prod.mk.injEq] at hpair
    rw [hwrap hpair.1, hpair.2]

end Verdicts

lemma queryReply_reads (request : QueryMessage) : Reads (queryReply request) queryResultOf where
  awaited := by simp [queryReply]
  typed message := by cases message <;> simp [typeOf, queryReply, queryResultOf]
  decoded key message reply hbounds hcanonical hreply := by
    cases message <;> cases hreply
    have hread := read_of_map (fun _ _ => Message.queryResult.inj) (decodes hbounds hcanonical)
    show ((toEnd decodeQueryResult).run (encodeMessage (.queryResult reply))).map Prod.fst = _
    rw [toEnd_of_returns hread]
    rfl

lemma adminReply_reads (request : AdminMessage) : Reads (adminReply request) adminResultOf where
  awaited := by simp [adminReply]
  typed message := by cases message <;> simp [typeOf, adminReply, adminResultOf]
  decoded key message reply hbounds hcanonical hreply := by
    cases message <;> cases hreply
    have hread := read_of_map (fun _ _ => Message.adminResult.inj) (decodes hbounds hcanonical)
    show ((toEnd decodeAdminResult).run (encodeMessage (.adminResult reply))).map Prod.fst = _
    rw [toEnd_of_returns hread]
    rfl

/-! Exchanges whose surroundings keep up. -/

/-- The frames in which the client sends messages. -/
def outFrames (base : Client) (messages : List Message) : Bytes :=
  messages.flatMap fun message => encodeFrame (outKey base) (frameOf (outKey base) message)

/-- The client has sent these messages and received nothing. -/
structure Sent (n : ℕ) (base c : Client) (messages : List Message) (c' : Client) : Prop where
  aside : Aside c c'
  like : Like base c'
  prompt : Prompt n c'
  handed : c'.handed = c.handed ++ outFrames base messages

/-- What is passed over is answered by `echo`. -/
structure Attends {α : Type} (exchange : Exchange α) (base : Client) (echo : Message → List Message) : Prop where
  ping : ∀ n c message, Like base c → Prompt (n + 1) c → typeOf message = .ping → InBounds message → Canonical message →
    ∃ c', exchange.onPing (frameOf c.verifyKey message) c = (.ok (), c') ∧ Sent n base c (echo message) c'
  other : ∀ n c, Like base c → Prompt n c → ∃ c', exchange.onOther c = (.ok (), c') ∧ Sent n base c [] c'
  pings : ∀ message, typeOf message ≠ .ping → echo message = []

section Exchanging

variable {base c : Client} {n limit : ℕ} {chunks : List Bytes}

lemma outFrames_append (base : Client) (messages more : List Message) :
    outFrames base (messages ++ more) = outFrames base messages ++ outFrames base more := List.flatMap_append

lemma sent_nothing (hlike : Like base c) (hprompt : Prompt n c) : Sent n base c [] c :=
  ⟨⟨rfl, rfl, rfl⟩, hlike, hprompt, (List.append_nil _).symm⟩

lemma Ahead.of_aside {c' : Client} {frames : List Frame} (h : Ahead limit c frames chunks) (haside : Aside c c') :
    Ahead limit c' frames chunks := by
  obtain ⟨hvalid, hfew, harrivals, hfilled, hstream, hbounded, hfits⟩ := h
  rw [← haside.parser, ← haside.key] at hfits
  rw [← haside.parser, ← haside.key] at hstream
  exact ⟨by rw [haside.key]; exact hvalid, hfew, by rw [haside.arrivals]; exact harrivals, hfilled, hstream,
    by rw [haside.parser]; exact hbounded, hfits⟩

/-- The clock has been read. -/
lemma Prompt.later (h : Prompt n c) (index : ℕ) : Prompt n { c with index } :=
  ⟨h.connected, h.readable, h.announced, h.room, h.replies, h.quick⟩

lemma sendFrame_sent {message : Message} (hlike : Like base c) (h : Prompt (n + 1) c)
    (hsmall : (encodeMessage message).length ≤ maxFramePayload) :
    ∃ c', sendFrame (typeOf message) (encodeMessage message) c = (.ok (), c') ∧ Sent n base c [message] c' := by
  refine ⟨_, sendFrame_run h hsmall, ⟨rfl, rfl, rfl⟩, hlike.step rfl rfl rfl rfl, h.sent _, ?_⟩
  rw [hlike.outKey]
  exact congrArg (c.handed ++ ·) (List.append_nil _).symm

lemma queryExchange_attends {deadline : ℤ} (request : QueryMessage) (hdeadline : ∀ j, base.instants j ≤ deadline) :
    Attends (queryExchange request deadline) base pongOf where
  ping n c message hlike hprompt htype hbounds hcanonical := by
    cases message <;> cases htype
    rename_i ping
    have hread := read_of_map (fun _ _ => Message.ping.inj) (decodes hbounds hcanonical)
    have hsmall : (encodeMessage (.pong { sequence := ping.sequence })).length ≤ maxFramePayload := by
      rw [show encodeMessage (.pong { sequence := ping.sequence }) = putU64 ping.sequence.value from rfl, putU64,
        beBytes_length]
      decide
    obtain ⟨c', hsend, hsent⟩ := sendFrame_sent hlike hprompt hsmall
    refine ⟨c', ?_, hsent⟩
    show answerPing _ c = _
    rw [answerPing, show (frameOf c.verifyKey (.ping ping)).payload = encodeMessage (.ping ping) from rfl, hread]
    dsimp only
    have hattempt : (sendFrame .pong (encodeMessage (.pong { sequence := ping.sequence }))).attempt c =
        (.ok (.ok ()), c') := by
      rw [Program.attempt]
      exact congrArg (fun out => ((.ok out.1 : Except _ _), out.2)) hsend
    rw [dropFailure, Program.bind_ok hattempt]
    rfl
  other n c hlike hprompt := by
    refine ⟨{ c with index := c.index + 1 }, ?_, ⟨rfl, rfl, rfl⟩, hlike.step rfl rfl rfl rfl, hprompt.later _, ?_⟩
    have hinstant : instant c = (.ok (c.instants c.index), { c with index := c.index + 1 }) := rfl
    have hquick : ¬deadline < c.instants c.index := by
      rw [hlike.instants, not_lt]
      exact hdeadline _
    · show (instant >>= _) c = _
      rw [Program.bind_ok hinstant, if_neg hquick]
      rfl
    · exact (List.append_nil _).symm
  pings message h := by cases message <;> first | rfl | exact absurd rfl h

lemma adminExchange_attends (request : AdminMessage) : Attends (adminExchange request) base fun _ => [] where
  ping _ c _ hlike hprompt _ _ _ := ⟨c, rfl, sent_nothing hlike hprompt.fewer⟩
  other _ c hlike hprompt := ⟨c, rfl, sent_nothing hlike hprompt⟩
  pings _ _ := rfl

/-- A message is received, whatever pieces its frame comes in. -/
lemma receiveFrame_run {frame : Frame} {frames : List Frame} (hlike : Like base c) (hprompt : Prompt n c)
    (h : Ahead limit c (frame :: frames) chunks) :
    ∃ c' left, receiveFrame c = (.ok frame, c') ∧ Like base c' ∧ Prompt n c' ∧ Ahead limit c' frames left ∧
      c'.handed = c.handed ∧ (stream c').length < (stream c).length := by
  obtain ⟨rest, left, polls, index, hrun, hahead, hprompt', hless⟩ := receiveLoop_run (hprompt.later (c.index + 1))
    (fun j => hprompt.quick c.index j) (h.of_aside ⟨rfl, rfl, rfl⟩)
  exact ⟨_, left, hrun, hlike.step rfl rfl rfl rfl, hprompt', hahead, rfl, hless⟩

lemma receiveFrame_ends (hprompt : Prompt n c) (h : Ahead limit c [] chunks) :
    ∃ c', receiveFrame c = (.error none, c') ∧ c'.handed = c.handed := by
  obtain ⟨polls, index, hrun⟩ := receiveLoop_ends (hprompt.later (c.index + 1))
    (fun j => hprompt.quick c.index j) (h.of_aside ⟨rfl, rfl, rfl⟩)
  exact ⟨_, hrun, rfl⟩

/-- The messages that are answered before the outcome is known. -/
def echoes {α : Type} (expected : Expected α) (asReply : Message → Option α) (echo : Message → List Message)
    (messages : List Message) : List Message :=
  (messages.takeWhile (skips expected asReply)).flatMap echo

lemma awaitLoop_run {α : Type} {exchange : Exchange α} {asReply : Message → Option α} {echo : Message → List Message}
    {messages : List Message} {turns : ℕ} (hreads : Reads exchange.toExpected asReply)
    (hattends : Attends exchange base echo) (hwire : ∀ message ∈ messages, InBounds message ∧ Canonical message)
    (hlike : Like base c) (hprompt : Prompt messages.length c)
    (hahead : Ahead limit c (messages.map (frameOf base.verifyKey)) chunks) (hturns : (stream c).length < turns) :
    ∃ c', awaitLoop exchange turns c = (verdict exchange.toExpected asReply messages, c') ∧
      c'.handed = c.handed ++ outFrames base (echoes exchange.toExpected asReply echo messages) := by
  induction messages generalizing c chunks turns with
  | nil =>
    obtain ⟨turns, rfl⟩ := Nat.exists_eq_add_one_of_ne_zero (Nat.ne_zero_of_lt hturns)
    obtain ⟨c', hrun, hhanded⟩ := receiveFrame_ends hprompt hahead
    refine ⟨c', ?_, by rw [hhanded]; exact (List.append_nil _).symm⟩
    rw [awaitLoop, Program.bind_error hrun]
    rfl
  | cons message messages ih =>
    obtain ⟨turns, rfl⟩ := Nat.exists_eq_add_one_of_ne_zero (Nat.ne_zero_of_lt hturns)
    obtain ⟨hbounds, hcanonical⟩ := hwire message List.mem_cons_self
    have hlater : ∀ other ∈ messages, InBounds other ∧ Canonical other := fun other hother =>
      hwire other (List.mem_cons_of_mem _ hother)
    obtain ⟨c₁, left, hrun, hlike₁, hprompt₁, hahead₁, hhanded₁, hless⟩ := receiveFrame_run hlike hprompt hahead
    have htypeOf : (frameOf base.verifyKey message).header.type = typeOf message := rfl
    rw [awaitLoop, Program.bind_ok hrun, htypeOf]
    -- what follows a message that is passed over
    have hpassed {c₂ : Client} (hsent : Sent messages.length base c₁ (echo message) c₂)
        (hskips : skips exchange.toExpected asReply message = true) :
        ∃ c', awaitLoop exchange turns c₂ = (verdict exchange.toExpected asReply (message :: messages), c') ∧
          c'.handed = c.handed ++ outFrames base (echoes exchange.toExpected asReply echo (message :: messages)) := by
      have hstream : (stream c₂).length < turns := by
        rw [hsent.aside.stream]
        omega
      obtain ⟨c', hloop, hhanded⟩ := ih hlater hsent.like hsent.prompt (hahead₁.of_aside hsent.aside) hstream
      refine ⟨c', by rw [hloop, verdict_skipped hskips], ?_⟩
      rw [hhanded, hsent.handed, hhanded₁, echoes, echoes, List.takeWhile_cons_of_pos hskips, List.flatMap_cons,
        outFrames_append, List.append_assoc]
    -- what is left when the outcome is known
    have hdecided (hskips : skips exchange.toExpected asReply message = false) :
        c₁.handed = c.handed ++ outFrames base (echoes exchange.toExpected asReply echo (message :: messages)) := by
      rw [echoes, List.takeWhile_cons_of_neg (by rw [hskips]; decide), hhanded₁]
      exact (List.append_nil _).symm
    by_cases hping : typeOf message = .ping
    · obtain ⟨c₂, hanswer, hsent⟩ := hattends.ping messages.length c₁ message hlike₁ hprompt₁ hping hbounds hcanonical
      rw [hlike₁.key] at hanswer
      obtain ⟨c', hloop, hhanded⟩ := hpassed hsent (by rw [skips, hping]; rfl)
      refine ⟨c', ?_, hhanded⟩
      rw [if_pos hping, Program.bind_ok hanswer, hloop]
    rw [if_neg hping]
    cases hreply : asReply message with
    | none =>
      have hskips : skips exchange.toExpected asReply message = false := by
        rw [skips, hreply, beq_eq_false_iff_ne.mpr hping]
        rfl
      have htype : typeOf message ≠ exchange.type := by
        rintro htype
        obtain ⟨reply, hsome⟩ := (hreads.typed message).mp htype
        rw [hreply] at hsome
        cases hsome
      refine ⟨c₁, ?_, hdecided hskips⟩
      rw [if_pos htype, verdict_unexpected hskips hreply]
      rfl
    | some reply =>
      have htype : typeOf message = exchange.type := (hreads.typed message).mpr ⟨reply, hreply⟩
      have hdecode := hreads.decoded base.verifyKey message reply hbounds hcanonical hreply
      have hread : orFail (exchange.decode (frameOf base.verifyKey message)) c₁ = (.ok reply, c₁) := by
        rw [hdecode]
        rfl
      rw [if_neg (not_not.mpr htype), Program.bind_ok hread]
      by_cases hown : exchange.own reply = true
      · have hskips : skips exchange.toExpected asReply message = false := by
          rw [skips, hreply, beq_eq_false_iff_ne.mpr hping, Option.any_some, hown]
          rfl
        refine ⟨c₁, ?_, hdecided hskips⟩
        rw [if_pos hown, verdict_reply hskips hreply]
        rfl
      · have hskips : skips exchange.toExpected asReply message = true := by
          rw [skips, hreply, Option.any_some, Bool.eq_false_iff.mpr hown, Bool.not_false, Bool.or_true]
        obtain ⟨c₂, hother, hsent⟩ := hattends.other messages.length c₁ hlike₁ hprompt₁.fewer
        rw [← hattends.pings message hping] at hsent
        obtain ⟨c', hloop, hhanded⟩ := hpassed hsent hskips
        refine ⟨c', ?_, hhanded⟩
        rw [if_neg hown, Program.bind_ok hother, hloop]

end Exchanging

/-- The frames of these messages arrive at a client that has received nothing yet, in pieces that its parser takes. -/
structure Arriving (c : Client) (messages : List Message) (chunks : List Bytes) : Prop where
  wire : ∀ message ∈ messages, InBounds message ∧ Canonical message ∧ (encodeMessage message).length ≤ maxFramePayload
  fresh : c.parser.buffer = []
  bounded : c.parser.maxPayload ≤ maxFramePayload
  arrivals : c.arrivals = chunks.map .ok
  filled : ∀ chunk ∈ chunks, chunk ≠ []
  whole : chunks.flatten = messages.flatMap fun message => encodeFrame c.verifyKey (frameOf c.verifyKey message)
  accepted : Accepted c.verifyKey c.parser chunks

lemma Arriving.ahead {c : Client} {messages : List Message} {chunks : List Bytes} (h : Arriving c messages chunks) :
    Ahead messages.length c (messages.map (frameOf c.verifyKey)) chunks := by
  set frames := messages.map (frameOf c.verifyKey) with hframes
  have hvalid : ∀ frame ∈ frames, Valid c.verifyKey maxFramePayload frame := by
    intro frame hframe
    obtain ⟨message, hmessage, rfl⟩ := List.mem_map.mp hframe
    exact frameOf_valid (h.wire message hmessage).2.2
  have hfew : frames.length ≤ messages.length := (List.length_map _).le
  have hstream : c.parser.buffer ++ chunks.flatten = frames.flatMap (encodeFrame c.verifyKey) := by
    rw [h.fresh, List.nil_append, h.whole, hframes, List.flatMap_map]
  have hstream' : c.parser.buffer ++ (chunks.flatten ++ []) = frames.flatMap (encodeFrame c.verifyKey) := by
    rw [List.append_nil, hstream]
  have hempty : c.parser.buffer.length = 0 := by rw [h.fresh, List.length_nil]
  have hdrained : Drained (sizes c.verifyKey frames) c.parser.buffer.length := by
    rw [hempty]
    exact fun size hsize => sizes_pos c.verifyKey frames size (List.mem_of_mem_head? hsize)
  refine ⟨hvalid, hfew, h.arrivals, h.filled, hstream, h.bounded, ?_⟩
  have hconsume : consume messages.length (sizes c.verifyKey frames) c.parser.buffer.length =
      (sizes c.verifyKey frames, c.parser.buffer.length) := consume_waits hdrained
  rw [hconsume]
  obtain ⟨taken, left, rest, -, hfeed, -⟩ := feed_accepted hvalid hdrained hstream' h.accepted
  rcases feed_stream h.bounded le_rfl hvalid hfew hdrained hstream' with ⟨hfits, -⟩ | ⟨-, status, herror⟩
  · exact hfits
  · rw [hfeed] at herror
    cases herror

/-- When the surroundings keep up, the outcome of a request depends on the messages that arrive and not on how they are
cut: pings and the replies to other requests are passed over, and the first other message is returned, if it is a reply,
and refused otherwise. What is sent meanwhile is the request and, by `query`, a pong for every ping passed over. -/
theorem reply_is_found {c : Client} {messages : List Message} {chunks : List Bytes}
    (hprompt : Prompt (messages.length + 1) c) (harriving : Arriving c messages chunks) :
    (∀ request, (encodeMessage (.query request)).length ≤ maxFramePayload →
      (query request c).1 = verdict (queryReply request) queryResultOf messages ∧
      (query request c).2.handed = c.handed ++
        outFrames c (.query request :: echoes (queryReply request) queryResultOf pongOf messages)) ∧
    ∀ request, (encodeMessage (.admin request)).length ≤ maxFramePayload →
      (admin request c).1 = verdict (adminReply request) adminResultOf messages ∧
      (admin request c).2.handed = c.handed ++ outFrames c [.admin request] := by
  have hwire : ∀ message ∈ messages, InBounds message ∧ Canonical message := fun message hmessage =>
    ⟨(harriving.wire message hmessage).1, (harriving.wire message hmessage).2.1⟩
  have hlike : Like c c := ⟨rfl, rfl, rfl, rfl⟩
  constructor
  · intro request hsmall
    obtain ⟨c₁, hsend, hsent⟩ := @sendFrame_sent c c messages.length (.query request) hlike hprompt hsmall
    rw [typeOf] at hsend
    set deadline := c₁.instants c₁.index + c₁.options.replyDeadline.nanos.toInt with hdeadline
    have hquick : ∀ j, c.instants j ≤ deadline := by
      intro j
      rw [← hsent.like.instants]
      exact hsent.prompt.quick c₁.index j
    have hlike₂ : Like c { c₁ with index := c₁.index + 1 } := hsent.like.step rfl rfl rfl rfl
    obtain ⟨c', hloop, hhanded⟩ := awaitLoop_run (queryReply_reads request) (queryExchange_attends request hquick) hwire
      hlike₂ (hsent.prompt.later _) ((harriving.ahead.of_aside hsent.aside).of_aside ⟨rfl, rfl, rfl⟩)
      (Nat.lt_succ_self _)
    have hrun : query request c = (verdict (queryReply request) queryResultOf messages, c') := by
      rw [query, Program.bind_ok hsend]
      exact hloop
    rw [hrun]
    refine ⟨rfl, hhanded.trans ?_⟩
    show c₁.handed ++ _ = _
    rw [hsent.handed, List.append_assoc, ← outFrames_append]
    rfl
  · intro request hsmall
    obtain ⟨c₁, hsend, hsent⟩ := @sendFrame_sent c c messages.length (.admin request) hlike hprompt hsmall
    rw [typeOf] at hsend
    obtain ⟨c', hloop, hhanded⟩ := awaitLoop_run (adminReply_reads request) (adminExchange_attends request) hwire
      hsent.like hsent.prompt (harriving.ahead.of_aside hsent.aside) (Nat.lt_succ_self _)
    have hrun : admin request c = (verdict (adminReply request) adminResultOf messages, c') := by
      rw [admin, Program.bind_ok hsend]
      exact hloop
    rw [hrun]
    refine ⟨rfl, hhanded.trans ?_⟩
    have hnone : outFrames c (echoes (adminReply request) adminResultOf (fun _ => []) messages) = [] := by
      rw [echoes, List.flatMap_eq_nil_iff.mpr fun _ _ => rfl]
      rfl
    show c₁.handed ++ outFrames c (echoes (adminReply request) adminResultOf (fun _ => []) messages) = _
    rw [hnone, List.append_nil, hsent.handed]

def sampleMessages : List Message :=
  [.ping { sequence := ⟨7⟩ }, .adminResult { request := 3 }, .adminResult { request := 5 }]

def sampleStream : Bytes := sampleMessages.flatMap fun message => encodeFrame [] (frameOf [] message)

/-- A client to which a ping, the reply to another request and its own reply arrive together. -/
def sampleClient : Client where
  options := {}
  verifyKey := []
  instants _ := 0
  polls := [.answered fun _ => (true, false, false)]
  replies := List.replicate 4 (.room (frameWireSize maxFramePayload true))
  arrivals := [.ok sampleStream]

/-- It returns its own. -/
theorem reply_is_found_third : (admin { request := 5 } sampleClient).1 = .ok { request := 5 } := by
  have hprompt : Prompt (sampleMessages.length + 1) sampleClient := by
    refine ⟨rfl, ?_, le_rfl, fun reply hreply => ?_, le_rfl, fun _ _ => ?_⟩
    · exact List.forall_mem_singleton.mpr ⟨_, rfl, rfl, rfl⟩
    · exact ⟨_, List.eq_of_mem_replicate hreply, le_rfl⟩
    · show (0 : ℤ) ≤ 0 + ({} : ClientOptions).replyDeadline.nanos.toInt
      decide
  have hwire : ∀ message ∈ sampleMessages,
      InBounds message ∧ Canonical message ∧ (encodeMessage message).length ≤ maxFramePayload := by
    rw [sampleMessages, List.forall_mem_cons, List.forall_mem_cons, List.forall_mem_singleton]
    exact ⟨⟨Nat.le_of_ble_eq_true rfl, trivial, by decide⟩, ⟨⟨⟨Nat.zero_le _, rfl⟩, Nat.zero_le _⟩, trivial, by decide⟩,
      ⟨⟨⟨Nat.zero_le _, rfl⟩, Nat.zero_le _⟩, trivial, by decide⟩⟩
  have hlength : 0 < sampleStream.length ∧ sampleStream.length ≤ 1024 := by
    rw [sampleStream, sampleMessages, List.flatMap_cons, List.flatMap_cons, List.flatMap_singleton,
      List.length_append, List.length_append, encodeFrame_length, encodeFrame_length, encodeFrame_length]
    decide
  have hfilled : ∀ chunk ∈ [sampleStream], chunk ≠ [] :=
    List.forall_mem_singleton.mpr (List.ne_nil_of_length_pos hlength.1)
  have haccepted : Accepted [] (.make maxFramePayload) [sampleStream] := by
    rcases push_eq (.make maxFramePayload) sampleStream (by decide) with ⟨-, hpush⟩ | ⟨hover, -⟩
    · exact ⟨_, hpush, fun _ _ _ => trivial⟩
    · have hbound : 1024 ≤ (FrameParser.make maxFramePayload).bound := by decide
      have hempty : (FrameParser.make maxFramePayload).buffer.length = 0 := rfl
      omega
  have hfound := (reply_is_found hprompt
    ⟨hwire, rfl, le_rfl, rfl, hfilled, List.append_nil _, haccepted⟩).2 { request := 5 } (by decide)
  exact hfound.1.trans rfl

end InterClusterFabric.ClientExchange
