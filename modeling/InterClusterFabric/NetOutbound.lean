import InterClusterFabric.LibraryTrace
import InterClusterFabric.NetReactor

/-! The sending side of a connection. Encoded frames wait in a queue, of which the first may have gone out in
part, and a counter says how many bytes are still to go. -/
namespace InterClusterFabric.NetOutbound
open CoreStatus CoreBytes LibraryChecked WireFrame NetReactor

structure Config where
  maxPayload : UInt32 := 1048576
  maxQueuedBytes : UInt64 := 8388608
  maxPendingFrames : ℕ := 256
  verifyKey : Bytes := []
  signOutbound : Bool := false

/-- What the socket answers to a send: room for some bytes, or an error. -/
inductive Reply
  | room (count : ℕ)
  | failed (status : Status)

/-- `Socket::send`; no more bytes go out than are offered. -/
def Reply.send (reply : Reply) (data : Bytes) : Result ℕ :=
  if data = [] then .ok 0
  else match reply with
    | .room count => .ok (min count data.length)
    | .failed status => .error status

/-- The sending fields of a connection, with the bytes its socket has taken and whether a subtraction from
`queuedBytes` has ever gone below zero, which the code does not look at. -/
structure Outbound where
  config : Config
  queue : List Bytes := []
  queueOffset : ℕ := 0
  queuedBytes : UInt64 := 0
  closed : Option Status := none
  handed : Bytes := []
  underflowed : Bool := false

def outboundHeader (type : MessageType) (sign : Bool) : FrameHeader :=
  ⟨protocolVersionMax, type, if sign then flagSigned else 0, 0⟩

namespace Outbound

/-- `Connection::queue_frame`. The queue lies in memory: an encoded frame that finds no room in the address space
is not allocated, and the exception leaves the connection as it was. -/
def queueFrame (connection : Outbound) (type : MessageType) (payload : Bytes) (sign : Bool) : Result Outbound := do
  rejectIf (connection.closed.isSome = true) (Status.make .cancelled (ascii "connection is closed"))
  rejectIf (connection.config.maxPayload.toNat < payload.length)
    (Status.make .capacityExceeded (ascii "outbound frame exceeds the negotiated payload limit"))
  rejectIf (connection.config.maxPendingFrames ≤ connection.queue.length)
    (Status.make .busy (ascii "outbound frame queue is full"))
  rejectIf (sign = true ∧ connection.config.verifyKey = [])
    (Status.make .unauthorized (ascii "cannot sign a frame without a channel key"))
  rejectIf (2 ^ 64 ≤ connection.queue.flatten.length + frameWireSize payload.length sign)
    (Status.make .internal (ascii "std::bad_alloc"))
  let key := if sign then connection.config.verifyKey else []
  let encoded ← appendFrame [] (outboundHeader type sign) payload key
  let total := connection.queuedBytes + UInt64.ofNat encoded.length
  rejectIf (connection.config.maxQueuedBytes < total) (Status.make .busy (ascii "outbound byte queue is full"))
  return { connection with queuedBytes := total, queue := connection.queue ++ [encoded] }

/-- `Connection::enable_signing`. -/
def enableSigning (connection : Outbound) (key : Bytes) : Outbound :=
  { connection with config := { connection.config with verifyKey := key, signOutbound := !key.isEmpty } }

/-- `Connection::close`; the first reason stands. -/
def close (connection : Outbound) (reason : Status) : Outbound :=
  if connection.closed.isSome then connection
  else { connection with closed := some reason, queue := [], queueOffset := 0, queuedBytes := 0 }

/-- The bookkeeping of `Connection::flush` once the socket has taken the next `written` bytes of the front frame. -/
def advance (connection : Outbound) (front : Bytes) (rest : List Bytes) (written : ℕ) : Outbound :=
  let offset := connection.queueOffset + written
  { connection with
    handed := connection.handed ++ (front.drop connection.queueOffset).take written
    underflowed := connection.underflowed || decide (connection.queuedBytes.toNat < written)
    queuedBytes := connection.queuedBytes - UInt64.ofNat written
    queue := if offset = front.length then rest else front :: rest
    queueOffset := if offset = front.length then 0 else offset }

/-- `Connection::flush`, with the answers of the socket to one send after another; it is busy when they run out. -/
def flush : List Reply → Outbound → Result Unit × Outbound
  | [], connection => (.ok (), connection)
  | reply :: replies, connection =>
    match connection.queue with
    | [] => (.ok (), connection)
    | front :: rest =>
      match reply.send (front.drop connection.queueOffset) with
      | .error status => (if status.outcome = .busy then .ok () else .error status, connection)
      | .ok written =>
        if written = 0 then (.ok (), connection) else flush replies (connection.advance front rest written)

/-- The bytes that are still to go. -/
def pending (connection : Outbound) : Bytes := connection.queue.flatten.drop connection.queueOffset

end Outbound

/-- A connection with the frames that it has accepted. -/
structure Trace where
  connection : Outbound
  accepted : List Bytes := []

/-- What is done with a connection; `queueMessage` is `Connection::queue`. -/
inductive Event
  | queueFrame (type : MessageType) (payload : Bytes) (sign : Bool)
  | queueMessage (type : MessageType) (payload : Bytes)
  | flush (replies : List Reply)
  | enableSigning (key : Bytes)
  | close (reason : Status)

/-- The bytes of a frame as `queue_frame` encodes it on a connection with this key. -/
def outboundFrame (verifyKey : Bytes) (type : MessageType) (payload : Bytes) (sign : Bool) : Bytes :=
  encodeFrame (if sign then verifyKey else []) (sentFrame (outboundHeader type sign) payload)

namespace Trace

/-- A call of `queue_frame`, whose frame counts as accepted if it returns OK. -/
def queueFrame (trace : Trace) (type : MessageType) (payload : Bytes) (sign : Bool) : Trace :=
  match trace.connection.queueFrame type payload sign with
  | .error _ => trace
  | .ok connection =>
    ⟨connection, trace.accepted ++ [outboundFrame trace.connection.config.verifyKey type payload sign]⟩

def step (trace : Trace) : Event → Trace
  | .queueFrame type payload sign => trace.queueFrame type payload sign
  | .queueMessage type payload => trace.queueFrame type payload trace.connection.config.signOutbound
  | .flush replies => { trace with connection := (trace.connection.flush replies).2 }
  | .enableSigning key => { trace with connection := trace.connection.enableSigning key }
  | .close reason => { trace with connection := trace.connection.close reason }

def run (trace : Trace) (events : List Event) : Trace := events.foldl step trace

end Trace

/-! The queue. -/

namespace Outbound

variable {connection : Outbound} {front : Bytes} {rest : List Bytes} {written : ℕ}

/-- The queue, its offset and the counter agree. -/
structure Sound (connection : Outbound) : Prop where
  whole : ∀ block ∈ connection.queue, block ≠ []
  begun : ∀ front ∈ connection.queue.head?, connection.queueOffset < front.length
  idle : connection.queue = [] → connection.queueOffset = 0
  inMemory : connection.queue.flatten.length < 2 ^ 64
  counted : connection.queuedBytes.toNat = connection.pending.length
  exact : connection.underflowed = false

lemma sound_of_empty (hqueue : connection.queue = []) (hoffset : connection.queueOffset = 0)
    (hbytes : connection.queuedBytes = 0) (hexact : connection.underflowed = false) : connection.Sound where
  whole := by simp [hqueue]
  begun := by simp [hqueue]
  idle := fun _ => hoffset
  inMemory := by simp [hqueue]
  counted := by simp [pending, hqueue, hbytes]
  exact := hexact

lemma pending_eq (hqueue : connection.queue = front :: rest) (hbegun : connection.queueOffset < front.length) :
    connection.pending = front.drop connection.queueOffset ++ rest.flatten := by
  rw [pending, hqueue, List.flatten_cons, List.drop_append_of_le_length hbegun.le]

lemma pending_advance (hqueue : connection.queue = front :: rest) (hbegun : connection.queueOffset < front.length) :
    (connection.advance front rest written).pending = connection.pending.drop written := by
  rw [pending_eq hqueue hbegun]
  by_cases hlast : connection.queueOffset + written = front.length
  · have hall : written = (front.drop connection.queueOffset).length := by
      rw [List.length_drop]
      omega
    rw [hall, List.drop_left, ← hall]
    simp [pending, advance, hlast]
  · have hfront : (front :: rest).flatten.drop (connection.queueOffset + written) =
        (front.drop connection.queueOffset ++ rest.flatten).drop written := by
      rw [← List.drop_drop, List.flatten_cons, List.drop_append_of_le_length hbegun.le]
    rw [← hfront]
    simp [pending, advance, hlast]

lemma handed_advance (hqueue : connection.queue = front :: rest) (hbegun : connection.queueOffset < front.length)
    (hwritten : written ≤ (front.drop connection.queueOffset).length) :
    (connection.advance front rest written).handed = connection.handed ++ connection.pending.take written := by
  rw [pending_eq hqueue hbegun, List.take_append_of_le_length hwritten]
  rfl

lemma send_le {reply : Reply} {data : Bytes} (h : reply.send data = .ok written) : written ≤ data.length := by
  unfold Reply.send at h
  split at h
  · cases h
    exact Nat.zero_le _
  · cases reply with
    | room count =>
      cases h
      exact min_le_right _ _
    | failed status => cases h

/-- A send of some bytes of the front frame keeps the books. -/
lemma Sound.advance (h : connection.Sound) (hqueue : connection.queue = front :: rest)
    (hwritten : written ≤ (front.drop connection.queueOffset).length) :
    (connection.advance front rest written).Sound := by
  have hbegun : connection.queueOffset < front.length := h.begun front (by rw [hqueue]; rfl)
  have hcounted : written ≤ connection.queuedBytes.toNat := by
    rw [h.counted, pending_eq hqueue hbegun, List.length_append]
    omega
  have hword : written < 2 ^ 64 := hcounted.trans_lt (UInt64.toNat_lt _)
  have hwhole := h.whole
  rw [hqueue] at hwhole
  constructor
  · intro block hblock
    simp only [Outbound.advance] at hblock
    split at hblock
    · exact hwhole block (List.mem_cons_of_mem _ hblock)
    · exact hwhole block hblock
  · intro next hnext
    simp only [Outbound.advance] at hnext ⊢
    split at hnext
    · rw [if_pos ‹_›]
      exact List.length_pos_of_ne_nil (hwhole next (List.mem_cons_of_mem _ (List.mem_of_mem_head? hnext)))
    · rw [if_neg ‹_›]
      cases hnext
      rw [List.length_drop] at hwritten
      omega
  · intro hempty
    simp only [Outbound.advance] at hempty ⊢
    split at hempty
    · exact if_pos ‹_›
    · cases hempty
  · have hmemory := h.inMemory
    rw [hqueue, List.flatten_cons, List.length_append] at hmemory
    simp only [Outbound.advance]
    split
    · omega
    · rw [List.flatten_cons, List.length_append]
      exact hmemory
  · have hle : UInt64.ofNat written ≤ connection.queuedBytes := by
      rw [UInt64.le_iff_toNat_le, UInt64.toNat_ofNat_of_lt' hword]
      exact hcounted
    rw [pending_advance hqueue hbegun, List.length_drop, ← h.counted]
    simp only [Outbound.advance]
    rw [UInt64.toNat_sub_of_le _ _ hle, UInt64.toNat_ofNat_of_lt' hword]
  · simp [Outbound.advance, h.exact, hcounted]

/-- What a flush does: some of the pending bytes go out, and nothing else changes. -/
structure Flushed (connection after : Outbound) : Prop where
  sound : after.Sound
  moved : after.handed ++ after.pending = connection.handed ++ connection.pending
  closed : after.closed = connection.closed
  config : after.config = connection.config

lemma Sound.flush (replies : List Reply) (h : connection.Sound) : Flushed connection (connection.flush replies).2 := by
  fun_induction Outbound.flush replies connection with
  | case1 connection => exact ⟨h, rfl, rfl, rfl⟩
  | case2 reply replies connection hqueue => exact ⟨h, rfl, rfl, rfl⟩
  | case3 reply replies connection front rest hqueue status hsend => exact ⟨h, rfl, rfl, rfl⟩
  | case4 reply replies connection front rest hqueue hsend => exact ⟨h, rfl, rfl, rfl⟩
  | case5 reply replies connection front rest hqueue written hsend hsome ih =>
    have hbegun : connection.queueOffset < front.length := h.begun front (by rw [hqueue]; rfl)
    have hwritten := send_le hsend
    have hrest := ih (h.advance hqueue hwritten)
    refine ⟨hrest.sound, ?_, hrest.closed, hrest.config⟩
    rw [hrest.moved, handed_advance hqueue hbegun hwritten, pending_advance hqueue hbegun, List.append_assoc,
      List.take_append_drop]

/-- What an accepted frame does: it is put at the end of the queue and counted. -/
lemma queueFrame_eq_ok {type : MessageType} {payload : Bytes} {sign : Bool} {after : Outbound}
    (h : connection.queueFrame type payload sign = .ok after) :
    connection.closed = none ∧
    connection.queue.flatten.length + frameWireSize payload.length sign < 2 ^ 64 ∧
    ∃ encoded, encoded = outboundFrame connection.config.verifyKey type payload sign ∧
      after = { connection with
        queuedBytes := connection.queuedBytes + UInt64.ofNat encoded.length, queue := connection.queue ++ [encoded] } := by
  unfold queueFrame at h
  obtain ⟨hclosed, h⟩ := rejectIf_bind_eq_ok.mp h
  obtain ⟨-, h⟩ := rejectIf_bind_eq_ok.mp h
  obtain ⟨-, h⟩ := rejectIf_bind_eq_ok.mp h
  obtain ⟨-, h⟩ := rejectIf_bind_eq_ok.mp h
  obtain ⟨hmemory, h⟩ := rejectIf_bind_eq_ok.mp h
  obtain ⟨encoded, hencoded, h⟩ := bind_eq_ok.mp h
  obtain ⟨-, h⟩ := rejectIf_bind_eq_ok.mp h
  cases h
  exact ⟨by simpa using hclosed, not_le.mp hmemory, encoded, (appendFrame_eq hencoded).1.trans (List.nil_append _), rfl⟩

lemma outboundFrame_length (verifyKey : Bytes) (type : MessageType) (payload : Bytes) (sign : Bool) :
    (outboundFrame verifyKey type payload sign).length = frameWireSize payload.length sign := by
  have hsigned : (outboundHeader type sign).isSigned = sign := by
    cases sign <;> simp [outboundHeader, FrameHeader.isSigned, flagSigned]
  rw [outboundFrame, encodeFrame_length]
  simp only [sentFrame, hsigned]

lemma outboundFrame_ne_nil (verifyKey : Bytes) (type : MessageType) (payload : Bytes) (sign : Bool) :
    outboundFrame verifyKey type payload sign ≠ [] := by
  apply List.ne_nil_of_length_pos
  rw [outboundFrame_length, frameWireSize, frameHeaderSize]
  omega

lemma Sound.offset_le (h : connection.Sound) : connection.queueOffset ≤ connection.queue.flatten.length := by
  cases hqueue : connection.queue with
  | nil => simp [h.idle hqueue]
  | cons front rest =>
    have hbegun := h.begun front (by rw [hqueue]; rfl)
    rw [List.flatten_cons, List.length_append]
    omega

lemma pending_queued (h : connection.Sound) (encoded : Bytes) (queuedBytes : UInt64) :
    pending { connection with queuedBytes, queue := connection.queue ++ [encoded] } =
      connection.pending ++ encoded := by
  simp only [pending]
  rw [List.flatten_append, List.drop_append_of_le_length h.offset_le]
  simp

lemma Sound.queued (h : connection.Sound) {encoded : Bytes} (hne : encoded ≠ [])
    (hmemory : connection.queue.flatten.length + encoded.length < 2 ^ 64) :
    Sound { connection with
      queuedBytes := connection.queuedBytes + UInt64.ofNat encoded.length, queue := connection.queue ++ [encoded] } := by
  constructor
  · intro block hblock
    rcases List.mem_append.mp hblock with hmem | hmem
    · exact h.whole block hmem
    · rw [List.mem_singleton.mp hmem]
      exact hne
  · intro front hfront
    cases hqueue : connection.queue with
    | nil =>
      simp only [hqueue, List.nil_append, List.head?_cons, Option.mem_some_iff] at hfront
      subst hfront
      simp only [h.idle hqueue]
      exact List.length_pos_of_ne_nil hne
    | cons first rest =>
      simp only [hqueue, List.cons_append, List.head?_cons, Option.mem_some_iff] at hfront
      exact h.begun front (by rw [hqueue, hfront]; rfl)
  · intro hempty
    simp at hempty
  · simpa using hmemory
  · have hcounted : connection.pending.length ≤ connection.queue.flatten.length := by
      rw [pending, List.length_drop]
      exact Nat.sub_le _ _
    have hlength : encoded.length < 2 ^ 64 := by omega
    have hsum : connection.queuedBytes.toNat + encoded.length < 2 ^ 64 := by
      rw [h.counted]
      omega
    rw [pending_queued h, List.length_append, UInt64.toNat_add, UInt64.toNat_ofNat_of_lt' hlength, Nat.mod_eq_of_lt hsum,
      h.counted]
  · exact h.exact

end Outbound

/-! Runs. -/

namespace Trace

/-- What has gone out begins what was accepted; on an open connection the rest of it is still to go. -/
structure Faithful (trace : Trace) : Prop where
  sound : trace.connection.Sound
  handed : trace.connection.handed <+: trace.accepted.flatten
  rest : trace.connection.closed = none →
    trace.connection.handed ++ trace.connection.pending = trace.accepted.flatten
  emptied : trace.connection.closed.isSome = true → trace.connection.queue = []

lemma Faithful.initial (config : Config) : Faithful ⟨{ config }, []⟩ where
  sound := Outbound.sound_of_empty rfl rfl rfl rfl
  handed := List.nil_prefix
  rest := fun _ => rfl
  emptied := fun _ => rfl

lemma Faithful.queueFrame {trace : Trace} (h : trace.Faithful) (type : MessageType) (payload : Bytes) (sign : Bool) :
    (trace.queueFrame type payload sign).Faithful := by
  unfold Trace.queueFrame
  split
  · exact h
  · rename_i connection hqueue
    obtain ⟨hopen, hmemory, encoded, hencoded, rfl⟩ := Outbound.queueFrame_eq_ok hqueue
    rw [← hencoded]
    rw [← Outbound.outboundFrame_length trace.connection.config.verifyKey type payload sign, ← hencoded] at hmemory
    constructor
    · exact h.sound.queued (hencoded ▸ Outbound.outboundFrame_ne_nil _ _ _ _) hmemory
    · rw [List.flatten_append]
      exact h.handed.trans (List.prefix_append _ _)
    · intro _
      rw [Outbound.pending_queued h.sound, ← List.append_assoc, h.rest hopen, List.flatten_append]
      simp
    · intro hclosed
      rw [hopen] at hclosed
      cases hclosed

lemma Faithful.flush {trace : Trace} (h : trace.Faithful) (replies : List Reply) :
    (trace.step (.flush replies)).Faithful := by
  have hflushed := h.sound.flush replies
  cases hclosed : trace.connection.closed with
  | none =>
    have hmoved := hflushed.moved
    rw [h.rest hclosed] at hmoved
    refine ⟨hflushed.sound, ⟨_, hmoved⟩, fun _ => hmoved, fun hsome => ?_⟩
    rw [step, hflushed.closed, hclosed] at hsome
    cases hsome
  | some reason =>
    -- the queue of a closed connection is empty, and a flush does nothing
    have hempty := h.emptied (by rw [hclosed]; rfl)
    have hsame : (trace.connection.flush replies).2 = trace.connection := by
      cases replies with
      | nil => rfl
      | cons reply replies => simp only [Outbound.flush, hempty]
    rw [step, hsame]
    exact h

lemma Faithful.close {trace : Trace} (h : trace.Faithful) (reason : Status) :
    (trace.step (.close reason)).Faithful := by
  simp only [step, Outbound.close]
  split
  · exact h
  · constructor
    · exact Outbound.sound_of_empty rfl rfl rfl h.sound.exact
    · exact h.handed
    · intro hopen
      cases hopen
    · exact fun _ => rfl

lemma Faithful.step {trace : Trace} (h : trace.Faithful) (event : Event) : (trace.step event).Faithful := by
  cases event with
  | queueFrame type payload sign => exact h.queueFrame type payload sign
  | queueMessage type payload => exact h.queueFrame type payload _
  | flush replies => exact h.flush replies
  | enableSigning key => exact ⟨{ h.sound with counted := h.sound.counted }, h.handed, h.rest, h.emptied⟩
  | close reason => exact h.close reason

lemma run_faithful (config : Config) (events : List Event) : (run ⟨{ config }, []⟩ events).Faithful :=
  LibraryTrace.foldl_invariant (Faithful.initial config) fun _ event _ _ h => h.step event

/-- Whatever is queued and however the socket takes it, the bytes handed over begin the accepted frames in their
order; on an open connection the counter is the number of bytes that remain of them, and nothing was ever subtracted
from it that it did not hold. -/
theorem handed_faithful (config : Config) (events : List Event) :
    let trace := run ⟨{ config }, []⟩ events
    trace.connection.handed <+: trace.accepted.flatten ∧
    trace.connection.underflowed = false ∧
    (trace.connection.closed = none →
      trace.connection.queuedBytes.toNat = trace.accepted.flatten.length - trace.connection.handed.length ∧
      trace.connection.pending = trace.accepted.flatten.drop trace.connection.handed.length) := by
  have h := run_faithful config events
  refine ⟨h.handed, h.sound.exact, fun hopen => ?_⟩
  have hrest := h.rest hopen
  refine ⟨?_, ?_⟩
  · rw [h.sound.counted, ← hrest, List.length_append, Nat.add_sub_cancel_left]
  · rw [← hrest, List.drop_left]

end Trace

end InterClusterFabric.NetOutbound
