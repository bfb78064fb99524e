import InterClusterFabric.LibraryTrace
import InterClusterFabric.NetReactor

/-! What the frame parser makes of arbitrary bytes and of streams in any pieces, and what it makes of its limit. -/
namespace InterClusterFabric.NetParser
open CoreStatus CoreHash CoreBytes LibraryChecked LibraryLayout LibraryReader LibraryStream LibraryTrace WireFrame
open WireFrame.FrameParser NetReactor

/-! One frame. -/

/-- A frame with this header stands in front, but its checksum or its tag is wrong. -/
def Damaged (key buffer : Bytes) (header : FrameHeader) : Prop :=
  let length := header.payloadLength.toNat
  let covered := frameHeaderSize + length + frameTrailerSize
  UInt32.ofNat (uintAt buffer (frameHeaderSize + length) frameTrailerSize) ≠
      crc32c (slice buffer frameHeaderSize length) ∨
    header.isSigned = true ∧ putDigest (hmacSha256 key (buffer.take covered)) ≠ slice buffer covered macSize

section Frames

variable {key buffer rest : Bytes} {header : FrameHeader} {frame : Frame}

/-- The bytes of the frame with this header. -/
def wireSize (header : FrameHeader) : ℕ := frameWireSize header.payloadLength.toNat header.isSigned

/-- What the parser does with a header that it can read and whose signing fits the channel. -/
lemma firstFrame_of_header (hlength : frameHeaderSize ≤ buffer.length)
    (hdecode : decodeFrameHeader (buffer.take frameHeaderSize) = .ok header)
    (hkeyed : header.isSigned = true ↔ key ≠ []) :
    (buffer.length < wireSize header ∧ firstFrame key buffer = .ok none) ∨
    (wireSize header ≤ buffer.length ∧ Damaged key buffer header ∧ ∃ status, firstFrame key buffer = .error status) ∨
    (wireSize header ≤ buffer.length ∧ ¬Damaged key buffer header ∧ firstFrame key buffer =
      .ok (some (⟨header, slice buffer frameHeaderSize header.payloadLength.toNat, header.isSigned⟩,
        buffer.drop (wireSize header)))) := by
  have hsigned : ¬(header.isSigned = true ∧ key = []) := fun hboth => hkeyed.mp hboth.1 hboth.2
  have hunsigned : ¬(header.isSigned = false ∧ key ≠ []) := by
    rintro ⟨hfalse, hne⟩
    rw [hkeyed.mpr hne] at hfalse
    cases hfalse
  have htag : header.isSigned = true → wireSize header - macSize =
      frameHeaderSize + header.payloadLength.toNat + frameTrailerSize := by
    intro htrue
    rw [wireSize, frameWireSize, if_pos htrue]
    omega
  have hfirst : firstFrame key buffer =
      if buffer.length < wireSize header then .ok none
      else do
        rejectIf (UInt32.ofNat (uintAt buffer (frameHeaderSize + header.payloadLength.toNat) frameTrailerSize) ≠
            crc32c (slice buffer frameHeaderSize header.payloadLength.toNat))
          (Status.make .corrupt (ascii "frame payload CRC32C mismatch"))
        rejectIf (header.isSigned = true ∧ putDigest (hmacSha256 key
            (buffer.take (frameHeaderSize + header.payloadLength.toNat + frameTrailerSize))) ≠
            slice buffer (wireSize header - macSize) macSize)
          (Status.make .unauthorized (ascii "frame MAC does not verify under the channel key"))
        return some (⟨header, slice buffer frameHeaderSize header.payloadLength.toNat, header.isSigned⟩,
          buffer.drop (wireSize header)) := by
    rw [firstFrame, if_neg (not_lt.mpr hlength), hdecode]
    simp only [bind, Except.bind, rejectIf, hsigned, hunsigned, if_false]
    rfl
  by_cases hshort : buffer.length < wireSize header
  · exact .inl ⟨hshort, by rw [hfirst, if_pos hshort]⟩
  · have hwhole : wireSize header ≤ buffer.length := not_lt.mp hshort
    rw [if_neg hshort] at hfirst
    refine .inr ?_
    by_cases hcrc : UInt32.ofNat (uintAt buffer (frameHeaderSize + header.payloadLength.toNat) frameTrailerSize) ≠
        crc32c (slice buffer frameHeaderSize header.payloadLength.toNat)
    · refine .inl ⟨hwhole, .inl hcrc, Status.make .corrupt (ascii "frame payload CRC32C mismatch"), ?_⟩
      rw [hfirst]
      simp only [rejectIf, if_pos hcrc]
      rfl
    · by_cases hmac : header.isSigned = true ∧ putDigest (hmacSha256 key
          (buffer.take (frameHeaderSize + header.payloadLength.toNat + frameTrailerSize))) ≠
          slice buffer (wireSize header - macSize) macSize
      · refine .inl ⟨hwhole, .inr ⟨hmac.1, htag hmac.1 ▸ hmac.2⟩,
          Status.make .unauthorized (ascii "frame MAC does not verify under the channel key"), ?_⟩
        rw [hfirst]
        simp only [rejectIf, if_neg hcrc, if_pos hmac]
        rfl
      · refine .inr ⟨hwhole, ?_, ?_⟩
        · rintro (hwrong | ⟨htrue, hwrong⟩)
          · exact hcrc hwrong
          · exact hmac ⟨htrue, by rw [htag htrue]; exact hwrong⟩
        · rw [hfirst]
          simp only [rejectIf, if_neg hcrc, if_neg hmac]
          rfl

/-- Every frame that is handed over has a header that was read, with the right checksum and tag. -/
lemma firstFrame_eq_some (h : firstFrame key buffer = .ok (some (frame, rest))) :
    frameHeaderSize ≤ buffer.length ∧ decodeFrameHeader (buffer.take frameHeaderSize) = .ok frame.header ∧
    (frame.header.isSigned = true ↔ key ≠ []) ∧ wireSize frame.header ≤ buffer.length ∧
    ¬Damaged key buffer frame.header ∧
    frame = ⟨frame.header, slice buffer frameHeaderSize frame.header.payloadLength.toNat, frame.header.isSigned⟩ ∧
    rest = buffer.drop (wireSize frame.header) := by
  have h' := h
  unfold firstFrame at h
  split at h
  · cases h
  · rename_i hlength
    obtain ⟨header, hdecode, h⟩ := bind_eq_ok.mp h
    obtain ⟨hsigned, h⟩ := rejectIf_bind_eq_ok.mp h
    obtain ⟨hunsigned, -⟩ := rejectIf_bind_eq_ok.mp h
    have hkeyed : header.isSigned = true ↔ key ≠ [] := by
      constructor
      · exact fun htrue hnil => hsigned ⟨htrue, hnil⟩
      · intro hne
        by_contra hfalse
        exact hunsigned ⟨Bool.eq_false_iff.mpr hfalse, hne⟩
    rcases firstFrame_of_header (not_lt.mp hlength) hdecode hkeyed with
      ⟨-, hnone⟩ | ⟨-, -, status, herror⟩ | ⟨hwhole, hsound, hsome⟩
    · rw [h'] at hnone
      cases hnone
    · rw [h'] at herror
      cases herror
    · rw [h'] at hsome
      cases hsome
      exact ⟨not_lt.mp hlength, hdecode, hkeyed, hwhole, hsound, rfl, rfl⟩

end Frames

lemma next_eq_some {parser after : FrameParser} {key : Bytes} {frame : Frame}
    (h : parser.next key = .ok (some (frame, after))) :
    ∃ rest, firstFrame key parser.buffer = .ok (some (frame, rest)) ∧ after = { parser with buffer := rest } := by
  obtain ⟨first, hfirst, h⟩ := bind_eq_ok.mp h
  cases first with
  | none => cases h
  | some pair =>
    cases h
    exact ⟨pair.2, hfirst, rfl⟩

/-- A frame that is handed over stood at the front of the buffer, of which just its bytes are taken; on a channel
with a key it is signed, and its last 32 bytes are the tag of the others under that key. -/
structure TakenOff (key : Bytes) (parser : FrameParser) (frame : Frame) (after : FrameParser) : Prop where
  whole : frameWireSize frame.payload.length frame.signedFrame ≤ parser.buffer.length
  rest : after =
    { parser with buffer := parser.buffer.drop (frameWireSize frame.payload.length frame.signedFrame) }
  signed_iff : frame.signedFrame = true ↔ key ≠ []
  tag : key ≠ [] →
    let bytes := parser.buffer.take (frameWireSize frame.payload.length frame.signedFrame)
    bytes.drop (bytes.length - macSize) = putDigest (hmacSha256 key (bytes.take (bytes.length - macSize)))

lemma takenOff {parser after : FrameParser} {key : Bytes} {frame : Frame}
    (h : parser.next key = .ok (some (frame, after))) : TakenOff key parser frame after := by
  obtain ⟨rest, hfirst, rfl⟩ := next_eq_some h
  obtain ⟨-, -, hkeyed, hwhole, hsound, hframe, rfl⟩ := firstFrame_eq_some hfirst
  have hsigned : frame.signedFrame = frame.header.isSigned := by rw [hframe]
  have hpayload : frame.payload.length = frame.header.payloadLength.toNat := by
    rw [hframe]
    refine slice_length ?_
    rw [wireSize, frameWireSize] at hwhole
    omega
  have hsize : frameWireSize frame.payload.length frame.signedFrame = wireSize frame.header := by
    rw [hpayload, hsigned, wireSize]
  refine ⟨hsize ▸ hwhole, by rw [hsize], by rw [hsigned]; exact hkeyed, fun hkey => ?_⟩
  have htrue := hkeyed.mpr hkey
  -- the tag is the last field of the frame
  have hcovered : wireSize frame.header =
      frameHeaderSize + frame.header.payloadLength.toNat + frameTrailerSize + macSize := by
    rw [wireSize, frameWireSize, if_pos htrue]
    omega
  have hlength : (parser.buffer.take (wireSize frame.header)).length = wireSize frame.header :=
    List.length_take_of_le hwhole
  have htag : putDigest (hmacSha256 key
      (parser.buffer.take (frameHeaderSize + frame.header.payloadLength.toNat + frameTrailerSize))) =
      slice parser.buffer (frameHeaderSize + frame.header.payloadLength.toNat + frameTrailerSize) macSize := by
    by_contra hwrong
    exact hsound (.inr ⟨htrue, hwrong⟩)
  simp only [hsize, hlength]
  rw [hcovered, Nat.add_sub_cancel, List.take_take, min_eq_left (Nat.le_add_right _ _), htag, take_eq_append_slice,
    List.drop_left' (List.length_take_of_le (by omega))]

/-! Streams. -/

lemma push_eq_ok {parser pushed : FrameParser} {data : Bytes} (h : parser.push data = .ok pushed) :
    parser.buffer.length + data.length ≤ parser.bound ∧ pushed = { parser with buffer := parser.buffer ++ data } := by
  obtain ⟨total, htotal, h⟩ := bind_eq_ok.mp h
  obtain ⟨hfits, h⟩ := rejectIf_bind_eq_ok.mp h
  obtain ⟨-, htotal⟩ := rejectIf_bind_eq_ok.mp htotal
  cases h
  cases htotal
  exact ⟨not_lt.mp hfits, rfl⟩

/-- No push of these chunks is refused, if the parser is drained after each. -/
def Accepted (key : Bytes) : FrameParser → List Bytes → Prop
  | _, [] => True
  | parser, chunk :: chunks => ∃ pushed, parser.push chunk = .ok pushed ∧
      ∀ frames drained, pushed.drain key = .ok (frames, drained) → Accepted key drained chunks

lemma accepted_of_feed {key : Bytes} {parser : FrameParser} {chunks : List Bytes} {out : List Frame × FrameParser}
    (h : feed key parser chunks = .ok out) : Accepted key parser chunks := by
  induction chunks generalizing parser out with
  | nil => trivial
  | cons chunk chunks ih =>
    obtain ⟨pushed, hpush, h⟩ := bind_eq_ok.mp h
    obtain ⟨⟨taken, drained⟩, hdrain, h⟩ := bind_eq_ok.mp h
    obtain ⟨more, hfeed, -⟩ := bind_eq_ok.mp h
    refine ⟨pushed, hpush, fun frames drained' hdrain' => ?_⟩
    rw [hdrain] at hdrain'
    cases hdrain'
    exact ih hfeed

/-- However a stream is cut, a parser that takes its pieces hands over the frames that have arrived as a whole. -/
lemma feed_accepted {key : Bytes} {parser : FrameParser} {frames : List Frame} {chunks : List Bytes} {future : Bytes}
    (hvalid : ∀ frame ∈ frames, Valid key maxFramePayload frame)
    (hdrained : Drained (sizes key frames) parser.buffer.length)
    (hstream : parser.buffer ++ (chunks.flatten ++ future) = frames.flatMap (encodeFrame key))
    (haccepted : Accepted key parser chunks) :
    ∃ taken left rest, frames = taken ++ left ∧ feed key parser chunks = .ok (taken, { parser with buffer := rest }) ∧
      rest ++ future = left.flatMap (encodeFrame key) ∧ Drained (sizes key left) rest.length := by
  induction chunks generalizing parser frames with
  | nil => exact ⟨[], frames, parser.buffer, rfl, rfl, hstream, hdrained⟩
  | cons chunk chunks ih =>
    obtain ⟨pushed, hpush, hnext⟩ := haccepted
    obtain ⟨-, hpushed⟩ := push_eq_ok hpush
    have hbuffer : pushed.buffer ++ (chunks.flatten ++ future) = frames.flatMap (encodeFrame key) := by
      rw [← hstream, hpushed]
      simp
    obtain ⟨taken, left, rest, rfl, hdrain, hrest, hconsume⟩ :=
      drain_stream le_rfl hvalid (le_refl frames.length) hbuffer
    have hdry : Drained (sizes key left) rest.length := by
      have hlength : (sizes key (taken ++ left)).length ≤ (taken ++ left).length := by rw [sizes, List.length_map]
      have hboth := consume_drained hlength pushed.buffer.length
      rwa [hconsume] at hboth
    obtain ⟨more, last, rest', rfl, hfeed, hrest', hdry'⟩ := @ih { pushed with buffer := rest } left
      (fun frame hframe => hvalid frame (List.mem_append_right _ hframe)) hdry hrest (hnext _ _ hdrain)
    refine ⟨taken ++ more, last, rest', (List.append_assoc _ _ _).symm, ?_, hrest', hdry'⟩
    have hkept : pushed.maxPayload = parser.maxPayload := by rw [hpushed]
    rw [hkept] at hdrain hfeed
    rw [feed, hpush]
    simp only [bind, Except.bind, hdrain, hfeed, pure, Except.pure]

/-- Frames with known headers, signed exactly if there is a key, come out of a parser as they went in, whatever pieces
of their stream it takes: each as soon as its last byte has arrived. Whatever the bytes are, a frame that is handed
over takes just its own bytes off the buffer and carries the tag of the channel. -/
theorem feed_exact {key stream : Bytes} {maxPayload : ℕ} {frames : List (FrameHeader × Bytes)} {chunks : List Bytes}
    {future : Bytes} (hbuilt : appendFrames key [] frames = .ok stream)
    (hsupported : ∀ frame ∈ frames, Supported frame.1)
    (hkeyed : ∀ frame ∈ frames, frame.1.isSigned = true ↔ key ≠ []) (hchunks : chunks.flatten ++ future = stream)
    (haccepted : Accepted key (FrameParser.make maxPayload) chunks) :
    (∃ taken left rest, sent frames = taken ++ left ∧
      feed key (FrameParser.make maxPayload) chunks = .ok (taken, { FrameParser.make maxPayload with buffer := rest }) ∧
      chunks.flatten = taken.flatMap (encodeFrame key) ++ rest ∧
      (∀ frame ∈ left.head?, rest.length < (encodeFrame key frame).length) ∧
      (future = [] → taken = sent frames ∧ rest = [])) ∧
    ∀ key parser frame after, FrameParser.next parser key = .ok (some (frame, after)) →
      TakenOff key parser frame after := by
  refine ⟨?_, fun key parser frame after hnext => takenOff hnext⟩
  obtain ⟨hstream, hbounded⟩ := appendFrames_eq hbuilt
  rw [List.nil_append] at hstream
  have hvalid := valid_sent hbuilt hkeyed hbounded hsupported
  rw [min_self] at hvalid
  obtain ⟨taken, left, rest, hframes, hfeed, hrest, hdrained⟩ :=
    @feed_accepted key (FrameParser.make maxPayload) (sent frames) chunks future hvalid
      (fun size hsize => sizes_pos key (sent frames) size (List.mem_of_mem_head? hsize))
      (by rw [hchunks, ← hstream]; rfl) haccepted
  have hwaits : ∀ frame ∈ left.head?, rest.length < (encodeFrame key frame).length := by
    intro frame hframe
    refine hdrained _ ?_
    rw [sizes, List.head?_map, hframe]
    rfl
  have harrived : chunks.flatten = taken.flatMap (encodeFrame key) ++ rest := by
    rw [hframes, List.flatMap_append, ← hrest, ← List.append_assoc] at hstream
    exact List.append_cancel_right (hchunks.trans hstream)
  refine ⟨taken, left, rest, hframes, hfeed, harrived, hwaits, ?_⟩
  rintro rfl
  rw [List.append_nil] at hrest
  -- a frame that is left over would have arrived
  cases left with
  | nil => exact ⟨by rw [hframes, List.append_nil], hrest⟩
  | cons frame left =>
    have hless := hwaits frame rfl
    rw [hrest, List.flatMap_cons, List.length_append] at hless
    omega

lemma twoPings_supported : ∀ frame ∈ twoPings, Supported frame.1 := by
  have hping : Supported pingHeader := ⟨by decide, by decide, by decide⟩
  simp only [twoPings, List.mem_cons, List.not_mem_nil, or_false, forall_eq_or_imp, forall_eq]
  exact ⟨hping, hping⟩

/-- Two frames, cut inside the first payload and inside the second header. -/
theorem two_pings_fed :
    (∃ taken left rest, sent twoPings = taken ++ left ∧
      feed [] (FrameParser.make 8) (List.splitLengths [21, 20, 9] ((sent twoPings).flatMap (encodeFrame []))) =
        .ok (taken, { FrameParser.make 8 with buffer := rest }) ∧
      (List.splitLengths [21, 20, 9] ((sent twoPings).flatMap (encodeFrame []))).flatten =
        taken.flatMap (encodeFrame []) ++ rest ∧
      (∀ frame ∈ left.head?, rest.length < (encodeFrame [] frame).length) ∧
      (([] : Bytes) = [] → taken = sent twoPings ∧ rest = [])) ∧
    ∀ key parser frame after, FrameParser.next parser key = .ok (some (frame, after)) →
      TakenOff key parser frame after := by
  have hsizes : sizes [] (sent twoPings) = [25, 25] := by
    simp only [sizes, sent, twoPings, List.map_cons, List.map_nil, size, encodeFrame_length]
    rfl
  have hlength : ((sent twoPings).flatMap (encodeFrame [])).length = 50 := by
    rw [List.length_flatMap]
    change (sizes [] (sent twoPings)).sum = 50
    rw [hsizes]
    rfl
  have hchunks : (List.splitLengths [21, 20, 9] ((sent twoPings).flatMap (encodeFrame []))).flatten ++ [] =
      (sent twoPings).flatMap (encodeFrame []) := by
    rw [List.append_nil, List.flatten_splitLengths _ _ hlength.le]
  have hmap : (List.splitLengths [21, 20, 9] ((sent twoPings).flatMap (encodeFrame []))).map List.length =
      [21, 20, 9] := List.map_splitLengths_length _ _ hlength.ge
  have haccepted : Accepted [] (FrameParser.make 8)
      (List.splitLengths [21, 20, 9] ((sent twoPings).flatMap (encodeFrame []))) := by
    have hvalid : ∀ frame ∈ sent twoPings, Valid [] (min 8 maxFramePayload) frame :=
      valid_sent twoPings_built (by decide) (by decide) twoPings_supported
    have hfed := @feed_stream [] (min 8 maxFramePayload) 2 (FrameParser.make 8) (sent twoPings) _ [] (by decide)
      (by decide) hvalid (by simp [sent, twoPings])
      (by rw [hsizes]; simp [Drained, FrameParser.make]) (by rw [hchunks]; rfl)
    rw [hsizes, hmap] at hfed
    rcases hfed with ⟨-, taken, left, rest, -, hfeed, -⟩ | ⟨hnot, -⟩
    · exact accepted_of_feed hfeed
    · exact absurd (by decide) hnot
  exact feed_exact twoPings_built twoPings_supported (by decide) hchunks haccepted

lemma accepted_single {key data : Bytes} {maxPayload : ℕ} (h : data.length ≤ 56) :
    Accepted key (FrameParser.make maxPayload) [data] := by
  have hbound : 56 ≤ (FrameParser.make maxPayload).bound ∧ (FrameParser.make maxPayload).bound < 2 ^ 64 := by
    simp only [FrameParser.make, bound, frameHeaderSize, frameTrailerSize, macSize, maxFramePayload]
    omega
  have hempty : (FrameParser.make maxPayload).buffer.length = 0 := rfl
  rcases push_eq (FrameParser.make maxPayload) data hbound.2 with ⟨-, hpush⟩ | ⟨hover, -⟩
  · exact ⟨_, hpush, fun _ _ _ => trivial⟩
  · rw [hempty] at hover
    omega

/-- `append_frame` also writes headers that the parser does not know, and unsigned frames under a key; neither comes
out of a parser. -/
theorem foreign_frames_refused :
    (¬∀ (key stream : Bytes) (maxPayload : ℕ) (frames : List (FrameHeader × Bytes)) (chunks : List Bytes),
      appendFrames key [] frames = .ok stream → chunks.flatten = stream →
      Accepted key (FrameParser.make maxPayload) chunks →
      ∃ parser, feed key (FrameParser.make maxPayload) chunks = .ok (sent frames, parser)) ∧
    ¬∀ (key stream : Bytes) (maxPayload : ℕ) (frames : List (FrameHeader × Bytes)) (chunks : List Bytes),
      appendFrames key [] frames = .ok stream → (∀ frame ∈ frames, Supported frame.1) → chunks.flatten = stream →
      Accepted key (FrameParser.make maxPayload) chunks →
      ∃ parser, feed key (FrameParser.make maxPayload) chunks = .ok (sent frames, parser) := by
  have hbuilt (key : Bytes) (version : UInt16) :
      appendFrames key [] [(⟨version, .ping, 0, 0⟩, [])] =
        .ok (encodeFrame key (sentFrame ⟨version, .ping, 0, 0⟩ [])) := by
    have hframe := @appendFrame_ok [] [] key ⟨version, .ping, 0, 0⟩ (by decide)
      (by simp [FrameHeader.isSigned]) (by decide)
    rw [List.nil_append] at hframe
    simp only [appendFrames, putAll, hframe, bind, Except.bind]
  have haccepted (key : Bytes) (version : UInt16) : Accepted key (FrameParser.make 8)
      [encodeFrame key (sentFrame ⟨version, .ping, 0, 0⟩ [])] := by
    apply accepted_single
    rw [encodeFrame_length]
    simp [sentFrame, FrameHeader.isSigned, frameWireSize, frameHeaderSize, frameTrailerSize]
  constructor
  · intro hclaim
    -- version 0
    obtain ⟨parser, hok⟩ := hclaim [] _ 8 _ [_] (hbuilt [] 0) (by simp) (haccepted [] 0)
    have hversion := (feed_supported hok _ (List.mem_singleton_self _)).version.1
    exact absurd hversion (by decide)
  · intro hclaim
    -- no tag under a key of one byte
    obtain ⟨parser, hok⟩ := hclaim [7] _ 8 _ [_] (hbuilt [7] 1) (by
      simp only [List.mem_singleton, forall_eq]
      exact ⟨by decide, by decide, by decide⟩) (by simp) (haccepted [7] 1)
    have hsigned := feed_forall (P := fun frame => frame.signedFrame = true) (fun buffer frame rest hfirst => by
      obtain ⟨-, -, hkeyed, -, -, hframe, -⟩ := firstFrame_eq_some hfirst
      rw [hframe]
      exact hkeyed.mpr (by simp)) hok _ (List.mem_singleton_self _)
    exact absurd hsigned (by decide)

/-! The payload limit. -/

/-- Twenty bytes stand in the buffer whose length field exceeds the limit. -/
def Declares (maxPayload : ℕ) (buffer : Bytes) : Prop :=
  frameHeaderSize ≤ buffer.length ∧ maxPayload < uintAt buffer 12 4

/-- What the limit is to achieve: no frame with a longer payload is handed over, and no header that announces one
is let pass. -/
structure LimitHolds (maxPayload : ℕ) (key : Bytes) (parser : FrameParser) : Prop where
  yielded : ∀ frame after, parser.next key = .ok (some (frame, after)) → frame.payload.length ≤ maxPayload
  refused : Declares maxPayload parser.buffer → ∃ status, parser.next key = .error status

/-- There is another reason to refuse what stands at the front: the header cannot be read, its signing does not fit
the channel, or the whole frame is there and damaged. -/
def Refutable (key buffer : Bytes) : Prop :=
  (∃ status, decodeFrameHeader (buffer.take frameHeaderSize) = .error status) ∨
  ∃ header, decodeFrameHeader (buffer.take frameHeaderSize) = .ok header ∧
    (¬(header.isSigned = true ↔ key ≠ []) ∨ wireSize header ≤ buffer.length ∧ Damaged key buffer header)

section Limits

variable {key buffer : Bytes} {header : FrameHeader} {maxPayload : ℕ} {parser : FrameParser}

lemma decodeFrameHeader_payloadLength (h : decodeFrameHeader (buffer.take frameHeaderSize) = .ok header)
    (hlength : frameHeaderSize ≤ buffer.length) : header.payloadLength.toNat = uintAt buffer 12 4 := by
  have hslice : slice (buffer.take frameHeaderSize) 12 4 = slice buffer 12 4 := by
    rw [slice, slice, List.drop_take, List.take_take]
    rfl
  have hword : uintAt buffer 12 4 < 2 ^ 32 := by
    have hlt := uintAt_lt 12 4 (le_trans (by decide) hlength)
    exact lt_of_lt_of_eq hlt (by norm_num)
  unfold decodeFrameHeader at h
  obtain ⟨-, h⟩ := rejectIf_bind_eq_ok.mp h
  obtain ⟨-, h⟩ := rejectIf_bind_eq_ok.mp h
  obtain ⟨-, h⟩ := rejectIf_bind_eq_ok.mp h
  obtain ⟨-, h⟩ := rejectIf_bind_eq_ok.mp h
  obtain ⟨-, h⟩ := rejectIf_bind_eq_ok.mp h
  obtain ⟨-, h⟩ := rejectIf_bind_eq_ok.mp h
  obtain ⟨-, h⟩ := rejectIf_bind_eq_ok.mp h
  cases h
  simp only [uintAt, hslice] at hword ⊢
  exact UInt32.toNat_ofNat_of_lt' hword

/-- A header whose signing does not fit the channel is refused. -/
lemma firstFrame_unfit (hlength : frameHeaderSize ≤ buffer.length)
    (hdecode : decodeFrameHeader (buffer.take frameHeaderSize) = .ok header)
    (hunfit : ¬(header.isSigned = true ↔ key ≠ [])) : ∃ status, firstFrame key buffer = .error status := by
  cases hresult : firstFrame key buffer with
  | error status => exact ⟨status, rfl⟩
  | ok first =>
    rw [firstFrame, if_neg (not_lt.mpr hlength)] at hresult
    obtain ⟨header', hdecode', hresult⟩ := bind_eq_ok.mp hresult
    obtain ⟨hsigned, hresult⟩ := rejectIf_bind_eq_ok.mp hresult
    obtain ⟨hunsigned, -⟩ := rejectIf_bind_eq_ok.mp hresult
    rw [hdecode] at hdecode'
    cases hdecode'
    refine absurd ⟨fun htrue hnil => hsigned ⟨htrue, hnil⟩, fun hne => ?_⟩ hunfit
    by_contra hfalse
    exact hunsigned ⟨Bool.eq_false_iff.mpr hfalse, hne⟩

/-- What the parser refuses once a header is there. -/
lemma firstFrame_error_iff (hlength : frameHeaderSize ≤ buffer.length) :
    (∃ status, firstFrame key buffer = .error status) ↔ Refutable key buffer := by
  cases hdecode : decodeFrameHeader (buffer.take frameHeaderSize) with
  | error status =>
    refine iff_of_true ⟨status, ?_⟩ (.inl ⟨status, hdecode⟩)
    rw [firstFrame, if_neg (not_lt.mpr hlength), hdecode]
    rfl
  | ok header =>
    have hrefutable : Refutable key buffer ↔
        ¬(header.isSigned = true ↔ key ≠ []) ∨ wireSize header ≤ buffer.length ∧ Damaged key buffer header := by
      constructor
      · rintro (⟨status, herror⟩ | ⟨header', hdecode', hwhy⟩)
        · rw [hdecode] at herror
          cases herror
        · rw [hdecode] at hdecode'
          cases hdecode'
          exact hwhy
      · exact fun hwhy => .inr ⟨header, hdecode, hwhy⟩
    rw [hrefutable]
    by_cases hkeyed : header.isSigned = true ↔ key ≠ []
    · rcases firstFrame_of_header hlength hdecode hkeyed with
        ⟨hshort, hfirst⟩ | ⟨hwhole, hdamaged, hfirst⟩ | ⟨-, hsound, hfirst⟩
      · rw [hfirst]
        refine iff_of_false (by simp) ?_
        rintro (hunfit | ⟨hwhole, -⟩)
        · exact hunfit hkeyed
        · omega
      · exact iff_of_true hfirst (.inr ⟨hwhole, hdamaged⟩)
      · rw [hfirst]
        refine iff_of_false (by simp) ?_
        rintro (hunfit | ⟨-, hdamaged⟩)
        · exact hunfit hkeyed
        · exact hsound hdamaged
    · exact iff_of_true (firstFrame_unfit hlength hdecode hkeyed) (.inl hkeyed)

lemma next_error_iff : (∃ status, parser.next key = .error status) ↔
    ∃ status, firstFrame key parser.buffer = .error status := by
  unfold FrameParser.next
  cases firstFrame key parser.buffer with
  | error status => simp [bind, Except.bind]
  | ok first => simp [bind, Except.bind, pure, Except.pure]

/-- The limit holds exactly where whatever announces too much is refused for another reason. -/
lemma limitHolds_iff : LimitHolds maxPayload key parser ↔
    (Declares maxPayload parser.buffer → Refutable key parser.buffer) := by
  constructor
  · intro h hdeclares
    exact (firstFrame_error_iff hdeclares.1).mp (next_error_iff.mp (h.refused hdeclares))
  · intro h
    have hrefused (hdeclares : Declares maxPayload parser.buffer) : ∃ status, parser.next key = .error status :=
      next_error_iff.mpr ((firstFrame_error_iff hdeclares.1).mpr (h hdeclares))
    refine ⟨fun frame after hnext => ?_, hrefused⟩
    obtain ⟨rest, hfirst, -⟩ := next_eq_some hnext
    obtain ⟨hlength, hdecode, -, hwhole, -, hframe, -⟩ := firstFrame_eq_some hfirst
    have hpayload : frame.payload.length = uintAt parser.buffer 12 4 := by
      rw [← decodeFrameHeader_payloadLength hdecode hlength, hframe]
      refine slice_length ?_
      rw [wireSize, frameWireSize] at hwhole
      omega
    by_contra hlong
    obtain ⟨status, herror⟩ := hrefused ⟨hlength, by omega⟩
    rw [hnext] at herror
    cases herror

end Limits

/-- What is done with a parser. -/
inductive Call
  | push (data : Bytes)
  | next (key : Bytes)

/-- A refused call leaves the parser as it is. -/
def call (parser : FrameParser) : Call → FrameParser
  | .push data => match parser.push data with
    | .ok pushed => pushed
    | .error _ => parser
  | .next key => match parser.next key with
    | .ok (some (_, after)) => after
    | _ => parser

/-- The limit holds throughout a run exactly if, whenever the next frame is asked for while a header that announces
too much stands at the front, that frame can be refused for another reason. -/
theorem run_limitHolds_iff (maxPayload : ℕ) (calls : List Call) :
    EachStep call (fun parser c => ∀ key, c = .next key → LimitHolds maxPayload key parser)
      (FrameParser.make maxPayload) calls ↔
    EachStep call (fun parser c => ∀ key, c = .next key → Declares maxPayload parser.buffer →
      Refutable key parser.buffer) (FrameParser.make maxPayload) calls := by
  constructor
  · exact fun h => h.mono fun parser c hlimit key hc => limitHolds_iff.mp (hlimit key hc)
  · exact fun h => h.mono fun parser c hrefutable key hc => limitHolds_iff.mpr (hrefutable key hc)

/-- What the bound on the buffer gives in any case: the limit for signed frames, and the size of a tag more for
others. -/
lemma yielded_le (maxPayload : ℕ) (calls : List Call) {key : Bytes} {frame : Frame} {after : FrameParser}
    (h : (calls.foldl call (FrameParser.make maxPayload)).next key = .ok (some (frame, after))) :
    frame.payload.length + (if frame.signedFrame then macSize else 0) ≤ maxPayload + macSize := by
  let Fitting (parser : FrameParser) : Prop := parser.buffer.length ≤ (FrameParser.make maxPayload).bound ∧
    parser.maxPayload = (FrameParser.make maxPayload).maxPayload
  have hinitial : Fitting (FrameParser.make maxPayload) := ⟨Nat.zero_le _, rfl⟩
  have hinvariant : Fitting (calls.foldl call (FrameParser.make maxPayload)) := by
    refine foldl_invariant hinitial fun before c _ _ hparser => ?_
    revert hparser
    generalize before.foldl call (FrameParser.make maxPayload) = parser
    intro hparser
    cases c with
    | push data =>
      simp only [call]
      split
      · rename_i pushed hpush
        obtain ⟨hfits, rfl⟩ := push_eq_ok hpush
        rw [bound, hparser.2] at hfits
        exact ⟨by rw [List.length_append]; exact hfits, hparser.2⟩
      · exact hparser
    | next key =>
      simp only [call]
      split
      · rename_i frame after hnext
        have htaken := takenOff hnext
        rw [htaken.rest]
        refine ⟨?_, hparser.2⟩
        rw [List.length_drop]
        omega
      · exact hparser
  have hwhole := (takenOff h).whole
  have hbound := hinvariant.1
  simp only [bound, FrameParser.make, frameWireSize] at hwhole hbound
  omega

/-- An unsigned frame of nine bytes. -/
def nineBytes : Frame := sentFrame pingHeader [1, 2, 3, 4, 5, 6, 7, 8, 9]

/-- Under a limit of eight bytes it is handed over, and its header alone is not refused. -/
theorem nine_bytes_pass :
    (∃ parser after, (FrameParser.make 8).push (encodeFrame [] nineBytes) = .ok parser ∧
      parser.next [] = .ok (some (nineBytes, after)) ∧ 8 < nineBytes.payload.length) ∧
    (∃ parser, (FrameParser.make 8).push (encodeFrameHeader nineBytes.header) = .ok parser ∧
      Declares 8 parser.buffer ∧ parser.next [] = .ok none) ∧
    ¬∀ (maxPayload : ℕ) (calls : List Call),
      EachStep call (fun parser c => ∀ key, c = .next key → LimitHolds maxPayload key parser)
        (FrameParser.make maxPayload) calls := by
  have hvalid : Valid [] 9 nineBytes := ⟨⟨by decide, by decide, by decide⟩, by decide, by decide, rfl, by decide⟩
  have hpush (data : Bytes) (hlength : data.length ≤ 33) :
      (FrameParser.make 8).push data = .ok { FrameParser.make 8 with buffer := data } := by
    rcases push_eq (FrameParser.make 8) data (by decide) with ⟨-, hpush⟩ | ⟨hover, -⟩
    · exact hpush
    · have hbound : (FrameParser.make 8).bound = 64 := by decide
      have hempty : (FrameParser.make 8).buffer.length = 0 := rfl
      omega
  have hpushed := hpush (encodeFrame [] nineBytes) (by rw [encodeFrame_length]; decide)
  have hnext : FrameParser.next { FrameParser.make 8 with buffer := encodeFrame [] nineBytes } [] =
      .ok (some (nineBytes, FrameParser.make 8)) := by
    have hwhole := firstFrame_whole hvalid (by decide) []
    rw [List.append_nil] at hwhole
    simp only [FrameParser.next, hwhole, bind, Except.bind, pure, Except.pure]
    rfl
  refine ⟨⟨_, _, hpushed, hnext, by decide⟩, ⟨_, hpush (encodeFrameHeader nineBytes.header) ?_, ⟨?_, ?_⟩, ?_⟩, ?_⟩
  · rw [encodeFrameHeader_length]
    decide
  · exact (encodeFrameHeader_length _).ge
  · have htake : (encodeFrameHeader nineBytes.header).take frameHeaderSize = encodeFrameHeader nineBytes.header :=
      List.take_of_length_le (encodeFrameHeader_length _).le
    have hdecode := decodeFrameHeader_encode hvalid.supported (by decide)
    rw [← htake] at hdecode
    have hdeclared := decodeFrameHeader_payloadLength hdecode (encodeFrameHeader_length _).ge
    rw [← hdeclared]
    decide
  · have hbegun := @firstFrame_begun [] 9 nineBytes hvalid (by decide) (encodeFrameHeader nineBytes.header)
      (nineBytes.payload ++ putU32 (crc32c nineBytes.payload))
      (by rw [encodeFrame, ← List.append_assoc]; exact (List.append_nil _).symm) (by decide)
    simp only [FrameParser.next, hbegun, bind, Except.bind, pure, Except.pure]
    rfl
  · intro hclaim
    have hlimit := hclaim 8 [.push (encodeFrame [] nineBytes), .next []] [.push (encodeFrame [] nineBytes)] (.next [])
      [] rfl [] rfl
    simp only [List.foldl_cons, List.foldl_nil, call, hpushed] at hlimit
    exact absurd (hlimit.yielded _ _ hnext) (by decide)

end InterClusterFabric.NetParser
