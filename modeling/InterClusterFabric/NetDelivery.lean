import InterClusterFabric.NetOutbound
import InterClusterFabric.NetParser
import InterClusterFabric.WireParses

/-! Messages from one end of a connection to the other: encoded, framed and queued, taken by the socket in parts, cut
anew by the network, parsed and decoded. -/
namespace InterClusterFabric.NetDelivery
open CoreStatus CoreBytes LibraryChecked LibraryReader LibraryStream LibraryTrace WireFrame WireFrame.FrameParser
open WireCodec WireExact WireParses NetReactor NetParser NetOutbound

/-- The type under which a message is sent. -/
def typeOf : Message → MessageType
  | .hello _ => .hello
  | .helloAck _ => .helloAck
  | .refuse _ => .refuse
  | .ping _ => .ping
  | .pong _ => .pong
  | .reportCluster _ => .reportCluster
  | .reportAck _ => .reportAck
  | .proposeContract _ => .proposeContract
  | .contractConsent _ => .contractConsent
  | .prepareGrant _ => .prepareGrant
  | .grantPrepared _ => .grantPrepared
  | .commitGrant _ => .commitGrant
  | .grantCommitted _ => .grantCommitted
  | .abortGrant _ => .abortGrant
  | .grantAborted _ => .grantAborted
  | .fence _ => .fence
  | .fenceAck _ => .fenceAck
  | .withdraw _ => .withdraw
  | .withdrawAck _ => .withdrawAck
  | .statusRequest _ => .statusRequest
  | .statusReport _ => .statusReport
  | .query _ => .query
  | .queryResult _ => .queryResult
  | .admin _ => .admin
  | .adminResult _ => .adminResult
  | .error _ => .error

/-- The decoder for the payload of a frame of that type. -/
def readerOf : MessageType → Option (ByteReader Message)
  | .invalid => none
  | .hello => some (.hello <$> decodeHello)
  | .helloAck => some (.helloAck <$> decodeHelloAck)
  | .refuse => some (.refuse <$> decodeRefuse)
  | .ping => some (.ping <$> decodePing)
  | .pong => some (.pong <$> decodePong)
  | .reportCluster => some (.reportCluster <$> decodeReportCluster)
  | .reportAck => some (.reportAck <$> decodeReportAck)
  | .proposeContract => some (.proposeContract <$> decodeProposeContract)
  | .contractConsent => some (.contractConsent <$> decodeContractConsent)
  | .prepareGrant => some (.prepareGrant <$> decodePrepareGrant)
  | .grantPrepared => some (.grantPrepared <$> decodeGrantPrepared)
  | .commitGrant => some (.commitGrant <$> decodeCommitGrant)
  | .grantCommitted => some (.grantCommitted <$> decodeGrantCommitted)
  | .abortGrant => some (.abortGrant <$> decodeAbortGrant)
  | .grantAborted => some (.grantAborted <$> decodeGrantAborted)
  | .fence => some (.fence <$> decodeFence)
  | .fenceAck => some (.fenceAck <$> decodeFenceAck)
  | .withdraw => some (.withdraw <$> decodeWithdraw)
  | .withdrawAck => some (.withdrawAck <$> decodeWithdrawAck)
  | .statusRequest => some (.statusRequest <$> decodeStatusRequest)
  | .statusReport => some (.statusReport <$> decodeStatusReport)
  | .query => some (.query <$> decodeQuery)
  | .queryResult => some (.queryResult <$> decodeQueryResult)
  | .admin => some (.admin <$> decodeAdmin)
  | .adminResult => some (.adminResult <$> decodeAdminResult)
  | .error => some (.error <$> decodeError)

/-- What a handler makes of a frame. -/
def received (frame : Frame) : Option Message :=
  (readerOf frame.header.type).bind fun reader => (reader.run frame.payload).toOption.map Prod.fst

/-- `send_to` -/
def sendTo (connection : Outbound) (message : Message) : Result Outbound :=
  connection.queueFrame (typeOf message) (encodeMessage message) connection.config.signOutbound

/-- A connection with the messages that it has accepted. -/
structure Sender where
  connection : Outbound
  messages : List Message := []

inductive Act
  | send (message : Message)
  | flush (replies : List Reply)
  | close (reason : Status)

/-- A new connection, on a channel with that key or without one. -/
def opened (config : Config) (key : Bytes) : Sender := ⟨({ config } : Outbound).enableSigning key, []⟩

def step (sender : Sender) : Act → Sender
  | .send message =>
    match sendTo sender.connection message with
    | .error _ => sender
    | .ok connection => ⟨connection, sender.messages ++ [message]⟩
  | .flush replies => { sender with connection := (sender.connection.flush replies).2 }
  | .close reason => { sender with connection := sender.connection.close reason }

def run (sender : Sender) (acts : List Act) : Sender := acts.foldl step sender

/-! The frames of messages. -/

/-- The frame in which a message is sent on the channel. -/
def frameOf (key : Bytes) (message : Message) : Frame :=
  sentFrame (outboundHeader (typeOf message) (!key.isEmpty)) (encodeMessage message)

section Frames

variable {key : Bytes} {message : Message}

lemma isSigned_outboundHeader (type : MessageType) (sign : Bool) : (outboundHeader type sign).isSigned = sign := by
  cases sign <;> simp [outboundHeader, FrameHeader.isSigned, flagSigned]

lemma supported_outboundHeader (message : Message) (sign : Bool) :
    Supported (outboundHeader (typeOf message) sign) where
  version := ⟨UInt16.le_refl protocolVersionMax, UInt16.le_refl protocolVersionMax⟩
  known := by cases message <;> rfl
  flags := by
    have hknown : ∀ sign : Bool, (if sign then flagSigned else 0) &&& ~~~knownFlags = 0 := by decide
    exact hknown sign

lemma frameOf_valid (h : (encodeMessage message).length ≤ maxFramePayload) :
    Valid key maxFramePayload (frameOf key message) where
  supported := supported_sentFrame.mpr (supported_outboundHeader message _)
  length_eq := UInt32.toNat_ofNat_of_lt' (h.trans_lt (by decide))
  bounded := h
  signed_eq := rfl
  signed_iff := by
    show (outboundHeader (typeOf message) (!key.isEmpty)).isSigned = true ↔ key ≠ []
    rw [isSigned_outboundHeader]
    simp

lemma outboundFrame_eq (key : Bytes) (message : Message) :
    outboundFrame key (typeOf message) (encodeMessage message) (!key.isEmpty) =
      encodeFrame key (frameOf key message) := by
  cases key <;> rfl

lemma received_frameOf (hbounds : InBounds message) (hcanonical : Canonical message) :
    received (frameOf key message) = some message := by
  have hreader : readerOf (typeOf message) = some (decoderOf message) := by cases message <;> rfl
  show ((readerOf (typeOf message)).bind fun reader => (reader.run (encodeMessage message)).toOption.map Prod.fst) = _
  rw [hreader, Option.bind_some, decodes hbounds hcanonical]
  rfl

end Frames

/-! Runs of the sender. -/

/-- What has gone out begins the frames of the accepted messages, under the key of the channel. -/
structure Sends (key : Bytes) (sender : Sender) : Prop where
  faithful : Trace.Faithful
    ⟨sender.connection, sender.messages.map fun message => encodeFrame key (frameOf key message)⟩
  keyed : sender.connection.config.verifyKey = key
  signs : sender.connection.config.signOutbound = !key.isEmpty
  small : ∀ message ∈ sender.messages, (encodeMessage message).length ≤ maxFramePayload

section Run

variable {key : Bytes} {sender : Sender}

lemma sends_opened (config : Config) (key : Bytes) : Sends key (opened config key) where
  faithful := Trace.Faithful.initial _
  keyed := rfl
  signs := rfl
  small := by simp [opened]

lemma step_send {message : Message} {connection : Outbound} (h : sendTo sender.connection message = .ok connection) :
    step sender (.send message) = ⟨connection, sender.messages ++ [message]⟩ := by
  simp only [step, h]

lemma step_refused {message : Message} {status : Status} (h : sendTo sender.connection message = .error status) :
    step sender (.send message) = sender := by
  simp only [step, h]

/-- No frame is queued that is too large for its header. -/
lemma small_of_sendTo {connection : Outbound} {message : Message} {after : Outbound}
    (h : sendTo connection message = .ok after) : (encodeMessage message).length ≤ maxFramePayload := by
  unfold sendTo Outbound.queueFrame at h
  obtain ⟨-, h⟩ := rejectIf_bind_eq_ok.mp h
  obtain ⟨-, h⟩ := rejectIf_bind_eq_ok.mp h
  obtain ⟨-, h⟩ := rejectIf_bind_eq_ok.mp h
  obtain ⟨-, h⟩ := rejectIf_bind_eq_ok.mp h
  obtain ⟨-, h⟩ := rejectIf_bind_eq_ok.mp h
  obtain ⟨encoded, hencoded, -⟩ := bind_eq_ok.mp h
  exact (appendFrame_eq hencoded).2

lemma Sends.send (h : Sends key sender) (message : Message) : Sends key (step sender (.send message)) := by
  cases hsent : sendTo sender.connection message with
  | error status =>
    rw [step_refused hsent]
    exact h
  | ok connection =>
    have hqueued : sender.connection.queueFrame (typeOf message) (encodeMessage message)
        sender.connection.config.signOutbound = .ok connection := hsent
    obtain ⟨-, -, encoded, -, hconnection⟩ := Outbound.queueFrame_eq_ok hqueued
    have hconfig : connection.config = sender.connection.config := by rw [hconnection]
    have hfaithful := h.faithful.queueFrame (typeOf message) (encodeMessage message)
      sender.connection.config.signOutbound
    rw [step_send hsent]
    refine ⟨?_, by rw [hconfig]; exact h.keyed, by rw [hconfig]; exact h.signs, fun other hother => ?_⟩
    · simp only [Trace.queueFrame, hqueued] at hfaithful
      rw [h.keyed, h.signs, outboundFrame_eq] at hfaithful
      rw [List.map_append]
      exact hfaithful
    · rcases List.mem_append.mp hother with hold | hnew
      · exact h.small other hold
      · rw [List.mem_singleton.mp hnew]
        exact small_of_sendTo hsent

lemma Sends.step (h : Sends key sender) (act : Act) : Sends key (step sender act) := by
  cases act with
  | send message => exact h.send message
  | flush replies =>
    have hflushed := h.faithful.sound.flush replies
    exact ⟨h.faithful.flush replies, by rw [NetDelivery.step, hflushed.config]; exact h.keyed,
      by rw [NetDelivery.step, hflushed.config]; exact h.signs, h.small⟩
  | close reason =>
    have hconfig : (sender.connection.close reason).config = sender.connection.config := by
      unfold Outbound.close
      split <;> rfl
    exact ⟨h.faithful.close reason, by rw [NetDelivery.step, hconfig]; exact h.keyed,
      by rw [NetDelivery.step, hconfig]; exact h.signs, h.small⟩

lemma run_sends (config : Config) (key : Bytes) (acts : List Act) : Sends key (run (opened config key) acts) :=
  foldl_invariant (sends_opened config key) fun _ act _ _ h => h.step act

end Run

def samplePing : Message := .ping { sequence := ⟨7⟩ }

/-- A ping that the socket takes in two parts. -/
def pinged : Sender := run (opened {} []) [.send samplePing, .flush [.room 7, .room 100]]

end InterClusterFabric.NetDelivery
