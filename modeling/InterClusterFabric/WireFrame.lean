import InterClusterFabric.CoreBytes
import InterClusterFabric.LibraryLayout
import InterClusterFabric.LibraryStream

/-! The framed transport: a fixed header under a checksum, the payload, its checksum, and on a keyed channel a tag
over all of it. The parser gathers what it receives in a buffer that holds at most one maximal frame. -/
namespace InterClusterFabric.WireFrame
open CoreStatus CoreHash CoreBytes LibraryChecked LibraryReader LibraryLayout LibraryStream

inductive MessageType
  | invalid | hello | helloAck | refuse | ping | pong | reportCluster | reportAck | proposeContract | contractConsent
  | prepareGrant | grantPrepared | commitGrant | grantCommitted | abortGrant | grantAborted | fence | fenceAck
  | withdraw | withdrawAck | statusRequest | statusReport | query | queryResult | admin | adminResult | error
deriving DecidableEq, Repr, Inhabited

def messageTypeKnown (type : MessageType) : Bool := decide (type ≠ .invalid)

def frameHeaderSize : ℕ := 20
def frameTrailerSize : ℕ := 4
def macSize : ℕ := 32
def maxFramePayload : ℕ := 1048576
def protocolVersionMin : UInt16 := 1
def protocolVersionMax : UInt16 := 1
def flagSigned : UInt32 := 1
def knownFlags : UInt32 := flagSigned
def magic : Bytes := ascii "ICF1"

structure FrameHeader where
  version : UInt16
  type : MessageType
  flags : UInt32
  payloadLength : UInt32
deriving DecidableEq

def FrameHeader.isSigned (header : FrameHeader) : Bool := decide (header.flags &&& flagSigned ≠ 0)

structure Frame where
  header : FrameHeader
  payload : Bytes
  signedFrame : Bool
deriving DecidableEq

def frameWireSize (payloadLength : ℕ) (signedFrame : Bool) : ℕ :=
  frameHeaderSize + frameTrailerSize + payloadLength + if signedFrame then macSize else 0

/-- The first 16 bytes of a frame header, which its checksum covers. -/
def frameFields (header : FrameHeader) : Bytes := List.flatten [
  magic, putU16 header.version.toNat, putU16 header.type.ctorIdx, putU32 header.flags, putU32 header.payloadLength]

def encodeFrameHeader (header : FrameHeader) : Bytes :=
  frameFields header ++ putU32 (crc32c (frameFields header))

def decodeFrameHeader (header : Bytes) : Result FrameHeader := do
  rejectIf (header.length < frameHeaderSize)
    (Status.make .incomplete (ascii "frame header is shorter than 20 bytes"))
  rejectIf (header.take 4 ≠ magic) (Status.invalid "frame magic does not match ICF1")
  rejectIf (UInt32.ofNat (uintAt header 16 4) ≠ crc32c (header.take 16))
    (Status.make .corrupt (ascii "frame header CRC32C mismatch"))
  let version := UInt16.ofNat (uintAt header 4 2)
  rejectIf (version < protocolVersionMin ∨ protocolVersionMax < version)
    (Status.make .incompatible (ascii "frame protocol version is not supported"))
  let rawType := uintAt header 6 2
  rejectIf (rawType = 0 ∨ MessageType.error.ctorIdx < rawType)
    (Status.invalid "frame message type is not recognised")
  let flags := UInt32.ofNat (uintAt header 8 4)
  rejectIf (flags &&& ~~~knownFlags ≠ 0) (Status.invalid "frame carries unknown flags")
  let payloadLength := UInt32.ofNat (uintAt header 12 4)
  rejectIf (maxFramePayload < payloadLength.toNat) (Status.invalid "frame payload length exceeds the maximum")
  return ⟨version, MessageType.ofNat rawType, flags, payloadLength⟩

/-- A sum of sizes that does not fit a machine word is refused. -/
def checkedSum (a b : ℕ) : Result ℕ := do
  rejectIf (2 ^ 64 ≤ a + b) (Status.make .overflow (ascii "size computation overflow"))
  return a + b

def padBlock (key : Bytes) (pad : UInt8) : Bytes :=
  let blockKey := if 64 < key.length then putDigest (sha256 key) else key
  (blockKey ++ List.replicate (64 - blockKey.length) 0).map fun byte => byte ^^^ pad

def hmacSha256 (key message : Bytes) : Digest :=
  sha256 (padBlock key 0x5c ++ putDigest (sha256 (padBlock key 0x36 ++ message)))

/-- The bytes of a frame in front of its tag. -/
def frameBody (header : FrameHeader) (payload : Bytes) : Bytes :=
  encodeFrameHeader { header with payloadLength := UInt32.ofNat payload.length } ++ payload ++ putU32 (crc32c payload)

/-- `append_frame`, with the bytes of `out` behind which the frame is put. -/
def appendFrame (out : Bytes) (header : FrameHeader) (payload key : Bytes) : Result Bytes := do
  rejectIf (maxFramePayload < payload.length) (Status.invalid "frame payload exceeds the maximum")
  rejectIf (header.isSigned = true ∧ key = []) (Status.invalid "a signed frame requires a channel key")
  let _ ← checkedSum (frameWireSize payload.length header.isSigned) out.length
  let body := frameBody header payload
  return out ++ body ++ if header.isSigned then putDigest (hmacSha256 key body) else []

structure FrameParser where
  buffer : Bytes := []
  maxPayload : ℕ
deriving DecidableEq

namespace FrameParser

def make (maxPayload : ℕ) : FrameParser := { maxPayload := min maxPayload maxFramePayload }

/-- The most the buffer may hold: one maximal frame. -/
def bound (parser : FrameParser) : ℕ := parser.maxPayload + frameHeaderSize + frameTrailerSize + macSize

def push (parser : FrameParser) (data : Bytes) : Result FrameParser := do
  let total ← checkedSum parser.buffer.length data.length
  rejectIf (parser.bound < total) (Status.invalid "framed input exceeds the maximum frame size")
  return { parser with buffer := parser.buffer ++ data }

/-- The first frame of a buffer, with what follows it; `none` while it is incomplete. -/
def firstFrame (key buffer : Bytes) : Result (Option (Frame × Bytes)) :=
  if buffer.length < frameHeaderSize then .ok none
  else do
    let header ← decodeFrameHeader (buffer.take frameHeaderSize)
    let signedFrame := header.isSigned
    rejectIf (signedFrame = true ∧ key = [])
      (Status.invalid "received a signed frame but no channel key is configured")
    rejectIf (signedFrame = false ∧ key ≠ [])
      (Status.invalid "received an unsigned frame on a channel that requires signing")
    let length := header.payloadLength.toNat
    let total := frameWireSize length signedFrame
    if buffer.length < total then return none
    let payload := slice buffer frameHeaderSize length
    rejectIf (UInt32.ofNat (uintAt buffer (frameHeaderSize + length) frameTrailerSize) ≠ crc32c payload)
      (Status.make .corrupt (ascii "frame payload CRC32C mismatch"))
    let covered := buffer.take (frameHeaderSize + length + frameTrailerSize)
    rejectIf (signedFrame = true ∧ putDigest (hmacSha256 key covered) ≠ slice buffer (total - macSize) macSize)
      (Status.make .unauthorized (ascii "frame MAC does not verify under the channel key"))
    return some (⟨header, payload, signedFrame⟩, buffer.drop total)

/-- `FrameParser::next`, with the parser it leaves behind. -/
def next (parser : FrameParser) (key : Bytes) : Result (Option (Frame × FrameParser)) := do
  let first ← firstFrame key parser.buffer
  return first.map fun (frame, rest) => (frame, { parser with buffer := rest })

/-- `next` until it has nothing more to hand over. Every frame takes bytes off the buffer, so the length of the
buffer bounds the turns. -/
def drainLoop (key : Bytes) : ℕ → FrameParser → Result (List Frame × FrameParser)
  | 0, parser => .ok ([], parser)
  | fuel + 1, parser => do
    match ← parser.next key with
    | none => return ([], parser)
    | some (frame, parser) =>
      let (frames, parser) ← drainLoop key fuel parser
      return (frame :: frames, parser)

def drain (parser : FrameParser) (key : Bytes) : Result (List Frame × FrameParser) :=
  drainLoop key (parser.buffer.length + 1) parser

/-- The chunks pushed one after another, with a drain after each. -/
def feed (key : Bytes) : FrameParser → List Bytes → Result (List Frame × FrameParser)
  | parser, [] => .ok ([], parser)
  | parser, chunk :: chunks => do
    let parser ← parser.push chunk
    let (frames, parser) ← parser.drain key
    let (more, parser) ← feed key parser chunks
    return (frames ++ more, parser)

end FrameParser

/-! Headers. -/

/-- A header that this version of the protocol knows. -/
structure Supported (header : FrameHeader) : Prop where
  version : protocolVersionMin ≤ header.version ∧ header.version ≤ protocolVersionMax
  known : messageTypeKnown header.type = true
  flags : header.flags &&& ~~~knownFlags = 0

lemma magic_length : magic.length = 4 := by decide

lemma frameFields_length (header : FrameHeader) : (frameFields header).length = 16 := by
  simp [frameFields, magic_length, putU16, putU32]

lemma encodeFrameHeader_length (header : FrameHeader) : (encodeFrameHeader header).length = frameHeaderSize := by
  simp [encodeFrameHeader, frameFields_length, putU32, frameHeaderSize]

lemma type_code (type : MessageType) : type.ctorIdx ≤ MessageType.error.ctorIdx := by
  cases type <;> decide

lemma ofNat_type (type : MessageType) : MessageType.ofNat type.ctorIdx = type := by
  cases type <;> rfl

lemma type_code_ne_zero {type : MessageType} (h : messageTypeKnown type = true) : type.ctorIdx ≠ 0 := by
  revert h
  cases type <;> decide

/-- A header is read back as it was written. -/
lemma decodeFrameHeader_encode {header : FrameHeader} (h : Supported header)
    (hlength : header.payloadLength.toNat ≤ maxFramePayload) :
    decodeFrameHeader (encodeFrameHeader header) = .ok header := by
  have hlayout : encodeFrameHeader header = List.flatten [
      magic, putU16 header.version.toNat, putU16 header.type.ctorIdx, putU32 header.flags,
      putU32 header.payloadLength, putU32 (crc32c (frameFields header))] := by
    simp [encodeFrameHeader, frameFields]
  have hsize : ¬(encodeFrameHeader header).length < frameHeaderSize := by rw [encodeFrameHeader_length]; omega
  have hmagic : (encodeFrameHeader header).take 4 = magic := take_eq hlayout magic_length
  have hversion : uintAt (encodeFrameHeader header) 4 2 = header.version.toNat :=
    uintAt_flatten hlayout 1 rfl (by simp [magic_length]) header.version.toNat_lt
  have hcode : uintAt (encodeFrameHeader header) 6 2 = header.type.ctorIdx :=
    uintAt_flatten hlayout 2 rfl (by simp [magic_length, putU16]) (lt_of_le_of_lt (type_code _) (by decide))
  have hflags : uintAt (encodeFrameHeader header) 8 4 = header.flags.toNat :=
    uintAt_flatten hlayout 3 rfl (by simp [magic_length, putU16]) (UInt32.toNat_lt _)
  have hpayload : uintAt (encodeFrameHeader header) 12 4 = header.payloadLength.toNat :=
    uintAt_flatten hlayout 4 rfl (by simp [magic_length, putU16, putU32]) (UInt32.toNat_lt _)
  have hcrc : uintAt (encodeFrameHeader header) 16 4 = (crc32c (frameFields header)).toNat :=
    uintAt_flatten hlayout 5 rfl (by simp [magic_length, putU16, putU32]) (UInt32.toNat_lt _)
  have hfields : (encodeFrameHeader header).take 16 = frameFields header := take_eq rfl (frameFields_length header)
  have hinRange : ¬(header.version < protocolVersionMin ∨ protocolVersionMax < header.version) := by
    rw [not_or, UInt16.not_lt, UInt16.not_lt]
    exact h.version
  have hknown : ¬(header.type.ctorIdx = 0 ∨ MessageType.error.ctorIdx < header.type.ctorIdx) := by
    rw [not_or, not_lt]
    exact ⟨type_code_ne_zero h.known, type_code _⟩
  simp only [decodeFrameHeader, rejectIf, hsize, hmagic, hversion, hcode, hflags, hpayload, hcrc, hfields,
    UInt32.ofNat_toNat, UInt16.ofNat_toNat, hinRange, hknown, h.flags, not_lt.mpr hlength, ofNat_type, ne_eq,
    not_true_eq_false, if_false]
  rfl

lemma known_ofNat {code : ℕ} (hzero : code ≠ 0) (hmax : code ≤ MessageType.error.ctorIdx) :
    messageTypeKnown (MessageType.ofNat code) = true := by
  have hmax' : code ≤ 26 := hmax
  interval_cases code
  · exact absurd rfl hzero
  all_goals decide

/-- Only known headers are read. -/
lemma decodeFrameHeader_supported {bytes : Bytes} {header : FrameHeader}
    (h : decodeFrameHeader bytes = .ok header) : Supported header := by
  unfold decodeFrameHeader at h
  obtain ⟨-, h⟩ := rejectIf_bind_eq_ok.mp h
  obtain ⟨-, h⟩ := rejectIf_bind_eq_ok.mp h
  obtain ⟨-, h⟩ := rejectIf_bind_eq_ok.mp h
  obtain ⟨hversion, h⟩ := rejectIf_bind_eq_ok.mp h
  obtain ⟨htype, h⟩ := rejectIf_bind_eq_ok.mp h
  obtain ⟨hflags, h⟩ := rejectIf_bind_eq_ok.mp h
  obtain ⟨-, h⟩ := rejectIf_bind_eq_ok.mp h
  cases h
  rw [not_or, UInt16.not_lt, UInt16.not_lt] at hversion
  rw [not_or, not_lt] at htype
  exact ⟨hversion, known_ofNat htype.1 htype.2, not_not.mp hflags⟩

/-! Frames. -/

/-- The frame that `append_frame` makes of a header and a payload. -/
def sentFrame (header : FrameHeader) (payload : Bytes) : Frame where
  header := { header with payloadLength := UInt32.ofNat payload.length }
  payload := payload
  signedFrame := header.isSigned

/-- The bytes of a frame. -/
def encodeFrame (key : Bytes) (frame : Frame) : Bytes :=
  let body := encodeFrameHeader frame.header ++ frame.payload ++ putU32 (crc32c frame.payload)
  body ++ if frame.signedFrame then putDigest (hmacSha256 key body) else []

/-- A frame that may be sent on a channel with this key. -/
structure Valid (key : Bytes) (maxPayload : ℕ) (frame : Frame) : Prop where
  supported : Supported frame.header
  length_eq : frame.header.payloadLength.toNat = frame.payload.length
  bounded : frame.payload.length ≤ maxPayload
  signed_eq : frame.signedFrame = frame.header.isSigned
  signed_iff : frame.header.isSigned = true ↔ key ≠ []

lemma encodeFrame_length (key : Bytes) (frame : Frame) :
    (encodeFrame key frame).length = frameWireSize frame.payload.length frame.signedFrame := by
  unfold encodeFrame frameWireSize
  rw [List.length_append, List.length_append, List.length_append, encodeFrameHeader_length]
  cases frame.signedFrame <;> simp [putU32, putDigest, frameHeaderSize, frameTrailerSize, macSize] <;> omega

section Frames

variable {key : Bytes} {maxPayload : ℕ} {frame : Frame}

/-- A header that has arrived is read, whatever has arrived behind it. -/
lemma firstFrame_header (h : Valid key maxPayload frame) (hmax : maxPayload ≤ maxFramePayload) {buffer : Bytes}
    (hheader : buffer.take frameHeaderSize = encodeFrameHeader frame.header) :
    FrameParser.firstFrame key buffer =
      if buffer.length < frameWireSize frame.payload.length frame.signedFrame then .ok none
      else do
        let payload := slice buffer frameHeaderSize frame.payload.length
        rejectIf (UInt32.ofNat (uintAt buffer (frameHeaderSize + frame.payload.length) frameTrailerSize) ≠
            crc32c payload)
          (Status.make .corrupt (ascii "frame payload CRC32C mismatch"))
        let covered := buffer.take (frameHeaderSize + frame.payload.length + frameTrailerSize)
        rejectIf (frame.signedFrame = true ∧ putDigest (hmacSha256 key covered) ≠
            slice buffer (frameWireSize frame.payload.length frame.signedFrame - macSize) macSize)
          (Status.make .unauthorized (ascii "frame MAC does not verify under the channel key"))
        return some (⟨frame.header, payload, frame.signedFrame⟩,
          buffer.drop (frameWireSize frame.payload.length frame.signedFrame)) := by
  have hlength : ¬buffer.length < frameHeaderSize := by
    have htake := congrArg List.length hheader
    rw [encodeFrameHeader_length, List.length_take] at htake
    omega
  have hdecode := decodeFrameHeader_encode h.supported (by rw [h.length_eq]; exact h.bounded.trans hmax)
  have hsigned := h.signed_iff
  rw [← h.signed_eq] at hsigned
  have hkeyed : ¬(frame.signedFrame = true ∧ key = []) := fun hboth => hsigned.mp hboth.1 hboth.2
  have hunkeyed : ¬(frame.signedFrame = false ∧ key ≠ []) := by
    intro hboth
    have htrue := hsigned.mpr hboth.2
    rw [hboth.1] at htrue
    cases htrue
  rw [FrameParser.firstFrame, if_neg hlength, hheader, hdecode]
  simp only [bind, Except.bind, rejectIf, hkeyed, hunkeyed, if_false, h.length_eq, ← h.signed_eq]
  rfl

lemma firstFrame_whole (h : Valid key maxPayload frame) (hmax : maxPayload ≤ maxFramePayload) (rest : Bytes) :
    FrameParser.firstFrame key (encodeFrame key frame ++ rest) = .ok (some (frame, rest)) := by
  set body := encodeFrameHeader frame.header ++ frame.payload ++ putU32 (crc32c frame.payload) with hbody
  set tag := if frame.signedFrame then putDigest (hmacSha256 key body) else [] with htag
  have hbytes : encodeFrame key frame = body ++ tag := rfl
  have hheaderLength := encodeFrameHeader_length frame.header
  have hbodyLength : body.length = frameHeaderSize + frame.payload.length + frameTrailerSize := by
    rw [hbody, List.length_append, List.length_append, hheaderLength]
    rfl
  have hheader : (encodeFrame key frame ++ rest).take frameHeaderSize = encodeFrameHeader frame.header :=
    take_eq (r := frame.payload ++ (putU32 (crc32c frame.payload) ++ (tag ++ rest)))
      (by rw [hbytes, hbody]; simp only [List.append_assoc]) hheaderLength
  have hpayload : slice (encodeFrame key frame ++ rest) frameHeaderSize frame.payload.length = frame.payload :=
    slice_eq (r := putU32 (crc32c frame.payload) ++ (tag ++ rest))
      (by rw [hbytes, hbody]; simp only [List.append_assoc]) hheaderLength rfl
  have hcrc : uintAt (encodeFrame key frame ++ rest) (frameHeaderSize + frame.payload.length) frameTrailerSize =
      (crc32c frame.payload).toNat := by
    have hslice : slice (encodeFrame key frame ++ rest) (frameHeaderSize + frame.payload.length) frameTrailerSize =
        putU32 (crc32c frame.payload) :=
      slice_eq (p := encodeFrameHeader frame.header ++ frame.payload) (r := tag ++ rest)
        (by rw [hbytes, hbody]; simp only [List.append_assoc])
        (by rw [List.length_append, hheaderLength]) (beBytes_length _ _)
    rw [uintAt, hslice, putU32, beNat_beBytes (UInt32.toNat_lt _)]
  have hcovered : (encodeFrame key frame ++ rest).take (frameHeaderSize + frame.payload.length + frameTrailerSize) =
      body := take_eq (by rw [hbytes, List.append_assoc]) hbodyLength
  have hmac : ¬(frame.signedFrame = true ∧ putDigest (hmacSha256 key body) ≠ slice (encodeFrame key frame ++ rest)
      (frameWireSize frame.payload.length frame.signedFrame - macSize) macSize) := by
    rintro ⟨hsigned, hne⟩
    apply hne
    refine (slice_eq (p := body) (r := rest) ?_ ?_ ?_).symm
    · rw [hbytes, htag, hsigned, List.append_assoc]
      rfl
    · rw [hbodyLength, hsigned, frameWireSize, if_pos rfl]
      omega
    · exact beBytes_length _ _
  have hlong : ¬(encodeFrame key frame ++ rest).length < frameWireSize frame.payload.length frame.signedFrame := by
    rw [List.length_append, encodeFrame_length]
    omega
  have hrest : (encodeFrame key frame ++ rest).drop (frameWireSize frame.payload.length frame.signedFrame) = rest :=
    drop_eq rfl (encodeFrame_length key frame)
  rw [firstFrame_header h hmax hheader, if_neg hlong]
  simp only [hpayload, hcrc, hcovered, hrest, rejectIf, UInt32.ofNat_toNat, ne_eq, not_true_eq_false, if_false, hmac]
  rfl

lemma firstFrame_begun (h : Valid key maxPayload frame) (hmax : maxPayload ≤ maxFramePayload) {front back : Bytes}
    (hsplit : front ++ back = encodeFrame key frame) (hback : back ≠ []) :
    FrameParser.firstFrame key front = .ok none := by
  by_cases hshort : front.length < frameHeaderSize
  · rw [FrameParser.firstFrame, if_pos hshort]
  · have hheader : front.take frameHeaderSize = encodeFrameHeader frame.header := by
      have htake : (front ++ back).take frameHeaderSize = front.take frameHeaderSize :=
        List.take_append_of_le_length (by omega)
      rw [← htake, hsplit]
      exact take_eq (by rw [encodeFrame, List.append_assoc, List.append_assoc])
        (encodeFrameHeader_length frame.header)
    have hlength := congrArg List.length hsplit
    rw [List.length_append, encodeFrame_length] at hlength
    have hpos := List.length_pos_of_ne_nil hback
    rw [firstFrame_header h hmax hheader, if_pos (by omega)]

lemma firstFrame_incremental (key : Bytes) (hmax : maxPayload ≤ maxFramePayload) :
    Incremental (FrameParser.firstFrame key) (encodeFrame key) (Valid key maxPayload) where
  empty := rfl
  whole := fun rest h => firstFrame_whole h hmax rest
  begun := fun h => firstFrame_begun h hmax

lemma encodeFrame_pos (key : Bytes) (frame : Frame) : 0 < size (encodeFrame key) frame := by
  rw [size, encodeFrame_length, frameWireSize, frameHeaderSize]
  omega

/-- Only frames with a known header are handed over. -/
lemma firstFrame_supported {buffer rest : Bytes}
    (h : FrameParser.firstFrame key buffer = .ok (some (frame, rest))) : Supported frame.header := by
  unfold FrameParser.firstFrame at h
  split at h
  · cases h
  · obtain ⟨header, hdecode, h⟩ := bind_eq_ok.mp h
    obtain ⟨-, h⟩ := rejectIf_bind_eq_ok.mp h
    obtain ⟨-, h⟩ := rejectIf_bind_eq_ok.mp h
    simp only at h
    split at h
    · cases h
    · obtain ⟨-, h⟩ := rejectIf_bind_eq_ok.mp h
      obtain ⟨-, h⟩ := rejectIf_bind_eq_ok.mp h
      cases h
      exact decodeFrameHeader_supported hdecode

end Frames

/-! Streams of frames. -/

namespace FrameParser

variable {key : Bytes} {parser : FrameParser}

lemma drainLoop_eq (key : Bytes) (fuel : ℕ) (parser : FrameParser) :
    drainLoop key fuel parser = (takeUpTo (firstFrame key) fuel parser.buffer).map fun (frames, rest) =>
      (frames, { parser with buffer := rest }) := by
  induction fuel generalizing parser with
  | zero => rfl
  | succ fuel ih =>
    simp only [drainLoop, next, takeUpTo]
    cases firstFrame key parser.buffer with
    | error e => rfl
    | ok first =>
      cases first with
      | none => rfl
      | some pair =>
        have hrest := ih { parser with buffer := pair.2 }
        simp only [bind, Except.bind, pure, Except.pure, Option.map] at hrest ⊢
        rw [hrest]
        cases takeUpTo (firstFrame key) fuel pair.2 <;> rfl

/-- A push either fits or is refused. -/
lemma push_eq (parser : FrameParser) (data : Bytes) (hbound : parser.bound < 2 ^ 64) :
    (parser.buffer.length + data.length ≤ parser.bound ∧
      parser.push data = .ok { parser with buffer := parser.buffer ++ data }) ∨
    (parser.bound < parser.buffer.length + data.length ∧ ∃ e, parser.push data = .error e) := by
  by_cases hfits : parser.buffer.length + data.length ≤ parser.bound
  · left
    refine ⟨hfits, ?_⟩
    have hword : ¬2 ^ 64 ≤ parser.buffer.length + data.length := by omega
    simp only [push, checkedSum, rejectIf, hword, if_false, bind, Except.bind, pure, Except.pure, not_lt.mpr hfits]
  · right
    refine ⟨not_le.mp hfits, ?_⟩
    by_cases hword : 2 ^ 64 ≤ parser.buffer.length + data.length
    · exact ⟨_, by simp only [push, checkedSum, rejectIf, hword, if_true]; rfl⟩
    · refine ⟨Status.invalid "framed input exceeds the maximum frame size", ?_⟩
      simp only [push, checkedSum, rejectIf, hword, if_false, bind, Except.bind, pure, Except.pure, not_le.mp hfits,
        if_true]
      rfl

end FrameParser

end InterClusterFabric.WireFrame
