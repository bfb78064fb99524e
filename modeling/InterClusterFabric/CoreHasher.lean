import InterClusterFabric.CoreHash
import InterClusterFabric.LibraryBlocks
import InterClusterFabric.LibraryReader

/-! The streaming digest: a hasher that takes its message in pieces of any length ends with the
digest of the whole message. -/
namespace InterClusterFabric.CoreHasher
open CoreStatus CoreHash LibraryBlocks LibraryReader

/-- Bytes written over a buffer from a position on. -/
def memcpy (buffer : Bytes) (position : ℕ) (data : Bytes) : Bytes :=
  buffer.take position ++ data ++ buffer.drop (position + data.length)

lemma memcpy_length {buffer data : Bytes} {position : ℕ} (h : position + data.length ≤ buffer.length) :
    (memcpy buffer position data).length = buffer.length := by
  simp only [memcpy, List.length_append, List.length_take, List.length_drop]
  omega

lemma memcpy_take {buffer : Bytes} (data : Bytes) {position : ℕ} (h : position ≤ buffer.length) :
    (memcpy buffer position data).take (position + data.length) = buffer.take position ++ data := by
  have hlen : (buffer.take position ++ data).length = position + data.length := by
    rw [List.length_append, List.length_take, Nat.min_eq_left h]
  rw [memcpy, ← hlen, List.take_left]

/-- The buffer always has room for one byte more. -/
structure Sha256 where
  state : Sha256State
  buffer : Bytes
  bufferLength : ℕ
  totalLength : UInt64
  sized : buffer.length = 64
  fits : bufferLength < 64

namespace Sha256

lemma blank_sized : (List.replicate 64 (0 : UInt8)).length = 64 := List.length_replicate

lemma empty_fits : 0 < 64 := by decide

def reset : Sha256 := ⟨.initial, List.replicate 64 0, 0, 0, blank_sized, empty_fits⟩

lemma copied_sized (hasher : Sha256) {data : Bytes} (h : hasher.bufferLength + data.length ≤ 64) :
    (memcpy hasher.buffer hasher.bufferLength data).length = 64 := by
  rw [memcpy_length (by rw [hasher.sized]; exact h), hasher.sized]

lemma copied_fits (hasher : Sha256) {data : Bytes} (h : hasher.bufferLength + data.length ≤ 64)
    (hfull : hasher.bufferLength + data.length ≠ 64) : hasher.bufferLength + data.length < 64 :=
  lt_of_le_of_ne h hfull

/-- Copies data the buffer has room for; a full buffer is compressed. -/
def fill (hasher : Sha256) (data : Bytes) (h : hasher.bufferLength + data.length ≤ 64) : Sha256 :=
  let buffer := memcpy hasher.buffer hasher.bufferLength data
  if hfull : hasher.bufferLength + data.length = 64 then
    ⟨compress hasher.state buffer, buffer, 0, hasher.totalLength, hasher.copied_sized h, empty_fits⟩
  else
    ⟨hasher.state, buffer, hasher.bufferLength + data.length, hasher.totalLength, hasher.copied_sized h,
      hasher.copied_fits h hfull⟩

/-- How much of the data one turn of the loop takes. -/
def taken (hasher : Sha256) (data : Bytes) : ℕ :=
  let freeSpace := 64 - hasher.bufferLength
  if data.length > freeSpace then freeSpace else data.length

lemma taken_fits (hasher : Sha256) (data : Bytes) :
    hasher.bufferLength + (data.take (hasher.taken data)).length ≤ 64 := by
  have := hasher.fits
  rw [List.length_take, taken]
  split <;> omega

lemma taken_shrinks (hasher : Sha256) {data : Bytes} (h : data ≠ []) :
    (data.drop (hasher.taken data)).length < data.length := by
  have := hasher.fits
  have := List.length_pos_iff.mpr h
  rw [List.length_drop, taken]
  split <;> omega

/-- The loop of `update`, on what is left of the data. -/
def fillAll (hasher : Sha256) (data : Bytes) : Sha256 :=
  if data = [] then hasher
  else fillAll (hasher.fill (data.take (hasher.taken data)) (hasher.taken_fits data)) (data.drop (hasher.taken data))
termination_by data.length
decreasing_by exact hasher.taken_shrinks ‹_›

def update (hasher : Sha256) (data : Bytes) : Sha256 :=
  fillAll { hasher with totalLength := hasher.totalLength + UInt64.ofNat data.length } data

def padding : Bytes := 0x80 :: List.replicate 63 0

/-- The bit length, the highest byte first. -/
def lengthBytes (bitLength : UInt64) : Bytes :=
  (List.range 8).map fun i => ((bitLength >>> UInt64.ofNat (56 - i * 8)) &&& 0xFF).toUInt8

def digestOf (state : Sha256State) : Digest :=
  BitVec.ofNat 256 (state.words.foldl (fun value word => value * 2 ^ 32 + word.toNat) 0)

/-- The digest and the hasher it leaves behind: all the work is done on a copy. -/
def digest (hasher : Sha256) : Digest × Sha256 :=
  let copy := hasher
  let bitLength := copy.totalLength * 8
  let padLength := if copy.bufferLength < 56 then 56 - copy.bufferLength else 120 - copy.bufferLength
  let copy := copy.update (padding.take padLength)
  (digestOf (compress copy.state (memcpy copy.buffer 56 (lengthBytes bitLength))), hasher)

def hash (data : Bytes) : Digest := (reset.update data).digest.1

/-! What the hasher holds of the message. -/

lemma compressBlocks_eq (count : ℕ) (state : Sha256State) (data : Bytes) :
    compressBlocks count state data = foldBlocks 64 compress count state data := by
  induction count generalizing state data with
  | zero => rfl
  | succ count ih => exact ih _ _

/-- The whole blocks of the message are compressed, and the rest of it is in the buffer. -/
def Holds (message : Bytes) (hasher : Sha256) : Prop :=
  Absorbed 64 compress .initial message hasher.state (hasher.buffer.take hasher.bufferLength)

lemma reset_holds : Holds [] reset := Absorbed.nil

lemma Holds.bufferLength_eq {message : Bytes} {hasher : Sha256} (h : Holds message hasher) :
    hasher.bufferLength = message.length % 64 := by
  have := hasher.fits
  rw [← h.length_held, List.length_take, hasher.sized, Nat.min_eq_left (by omega)]

lemma fill_holds {message data : Bytes} {hasher : Sha256} (h : Holds message hasher)
    (hroom : hasher.bufferLength + data.length ≤ 64) : Holds (message ++ data) (hasher.fill data hroom) := by
  have hposition : hasher.bufferLength ≤ hasher.buffer.length := by
    rw [hasher.sized]
    omega
  have hheld : (hasher.buffer.take hasher.bufferLength).length = hasher.bufferLength := by
    rw [List.length_take, Nat.min_eq_left hposition]
  have hcopied := memcpy_take data hposition
  by_cases hfull : hasher.bufferLength + data.length = 64
  · have hbuffer : memcpy hasher.buffer hasher.bufferLength data = hasher.buffer.take hasher.bufferLength ++ data := by
      rw [← hcopied, List.take_of_length_le]
      rw [hasher.copied_sized hroom, hfull]
    have hflush := h.flush data (by decide) (by rw [hheld, hfull])
    rw [← hbuffer] at hflush
    simpa only [Holds, fill, hfull, dif_pos, List.take_zero] using hflush
  · have hkeep := h.keep data (by omega)
    rw [← hcopied] at hkeep
    simpa only [Holds, fill, hfull, dif_neg, not_false_eq_true] using hkeep

lemma fill_totalLength (hasher : Sha256) (data : Bytes) (h : hasher.bufferLength + data.length ≤ 64) :
    (hasher.fill data h).totalLength = hasher.totalLength := by
  unfold fill
  simp only
  split <;> rfl

lemma fillAll_holds {message data : Bytes} {hasher : Sha256} (h : Holds message hasher) :
    Holds (message ++ data) (hasher.fillAll data) ∧ (hasher.fillAll data).totalLength = hasher.totalLength := by
  induction hasher, data using fillAll.induct generalizing message with
  | case1 hasher =>
    rw [fillAll, if_pos rfl, List.append_nil]
    exact ⟨h, rfl⟩
  | case2 hasher data hdata ih =>
    obtain ⟨hholds, htotal⟩ := ih (fill_holds h (hasher.taken_fits data))
    rw [List.append_assoc, List.take_append_drop] at hholds
    rw [fillAll, if_neg hdata]
    exact ⟨hholds, htotal.trans (fill_totalLength _ _ _)⟩

lemma update_holds {message : Bytes} {hasher : Sha256} (h : Holds message hasher) (data : Bytes) :
    Holds (message ++ data) (hasher.update data) ∧
      (hasher.update data).totalLength = hasher.totalLength + UInt64.ofNat data.length :=
  fillAll_holds h

/-- After any sequence of updates the hasher holds the whole message, and counts its bytes. -/
lemma updates_hold (chunks : List Bytes) :
    Holds chunks.flatten (chunks.foldl update reset) ∧
      (chunks.foldl update reset).totalLength = UInt64.ofNat chunks.flatten.length := by
  induction chunks using List.reverseRecOn with
  | nil => exact ⟨reset_holds, rfl⟩
  | append_singleton chunks chunk ih =>
    obtain ⟨hholds, htotal⟩ := update_holds ih.1 chunk
    rw [List.foldl_concat, List.flatten_concat, List.length_append, UInt64.ofNat_add, ← ih.2]
    exact ⟨hholds, htotal⟩

/-! The padding. -/

lemma padding_take {count : ℕ} (hpos : 0 < count) (hle : count ≤ 64) :
    padding.take count = 0x80 :: List.replicate (count - 1) 0 := by
  obtain ⟨n, rfl⟩ : ∃ n, count = n + 1 := ⟨count - 1, by omega⟩
  rw [padding, List.take_succ_cons, List.take_replicate, Nat.min_eq_left (by omega)]
  rfl

lemma beBytes_eq_map (width n : ℕ) :
    beBytes width n = (List.range width).map fun i => UInt8.ofNat (n / 256 ^ (width - 1 - i)) := by
  induction width with
  | zero => rfl
  | succ width ih =>
    rw [beBytes, ih, List.range_succ_eq_map, List.map_cons, List.map_map]
    congr 1
    apply List.map_congr_left
    intro i _
    simp only [Function.comp_apply]
    congr 3
    omega

lemma shifted_byte (bitLength : UInt64) {shift : ℕ} (h : shift ≤ 56) :
    ((bitLength >>> UInt64.ofNat shift) &&& 0xFF).toUInt8 = UInt8.ofNat (bitLength.toNat / 2 ^ shift) := by
  have hmask : (0xFF : UInt64).toNat = 2 ^ 8 - 1 := by decide
  have hshift : (UInt64.ofNat shift).toNat % 64 = shift := by
    rw [UInt64.toNat_ofNat']
    omega
  apply UInt8.toNat_inj.mp
  rw [UInt64.toNat_toUInt8, UInt64.toNat_and, hmask, Nat.and_two_pow_sub_one_eq_mod, UInt64.toNat_shiftRight,
    hshift, Nat.shiftRight_eq_div_pow, UInt8.toNat_ofNat', Nat.mod_mod]

lemma lengthBytes_eq (bitLength : UInt64) : lengthBytes bitLength = beBytes 8 bitLength.toNat := by
  rw [beBytes_eq_map, lengthBytes]
  apply List.map_congr_left
  intro i hi
  have hlt := List.mem_range.mp hi
  have hpow : 256 ^ (8 - 1 - i) = 2 ^ (56 - i * 8) := by
    rw [show 256 = 2 ^ 8 from rfl, ← pow_mul]
    congr 1
    omega
  rw [shifted_byte _ (by omega), hpow]

lemma bitLength_toNat (length : ℕ) : (UInt64.ofNat length * 8).toNat = length * 8 % 2 ^ 64 := by
  rw [UInt64.toNat_mul, UInt64.toNat_ofNat']
  exact Nat.mod_mul_mod _ _ _

lemma sha256_eq (message : Bytes) :
    sha256 message =
      digestOf (compressBlocks ((sha256Padded message).length / 64) .initial (sha256Padded message)) := by
  unfold sha256 digestOf
  rfl

lemma sha256Padded_eq (message : Bytes) :
    sha256Padded message =
      message ++
        padding.take (if message.length % 64 < 56 then 56 - message.length % 64 else 120 - message.length % 64) ++
        beBytes 8 (message.length * 8 % 2 ^ 64) := by
  have := Nat.mod_lt message.length (show 64 > 0 by decide)
  rw [padding_take (by split <;> omega) (by split <;> omega), beBytes_eq_map]
  rfl

/-- The digest of what the hasher was given, whatever the pieces were. -/
lemma digest_holds {message : Bytes} {hasher : Sha256} (h : Holds message hasher)
    (htotal : hasher.totalLength = UInt64.ofNat message.length) : hasher.digest = (sha256 message, hasher) := by
  set padLength := if message.length % 64 < 56 then 56 - message.length % 64 else 120 - message.length % 64 with hpad
  have hlast := Nat.mod_lt message.length (show 64 > 0 by decide)
  have hle : padLength ≤ 64 := by
    rw [hpad]
    split <;> omega
  have hlen : (padding.take padLength).length = padLength := by
    rw [List.length_take, Nat.min_eq_left]
    exact hle
  obtain ⟨hcopy, -⟩ := update_holds h (padding.take padLength)
  set copy := hasher.update (padding.take padLength) with hdef
  have hposition : copy.bufferLength = 56 := by
    rw [hcopy.bufferLength_eq, List.length_append, hlen, hpad]
    split <;> omega
  have hbits := lengthBytes_eq (hasher.totalLength * 8)
  rw [htotal, bitLength_toNat] at hbits
  set tail := beBytes 8 (message.length * 8 % 2 ^ 64) with htail
  have htailLength : tail.length = 8 := beBytes_length _ _
  have hbuffer : memcpy copy.buffer 56 tail = copy.buffer.take copy.bufferLength ++ tail := by
    rw [hposition, ← memcpy_take tail (by rw [copy.sized]; decide), htailLength, List.take_of_length_le]
    rw [memcpy_length (by rw [copy.sized, htailLength]), copy.sized]
  have hheld : (copy.buffer.take copy.bufferLength).length = 56 :=
    hcopy.length_held.trans (hcopy.bufferLength_eq.symm.trans hposition)
  have hflush := Absorbed.flush hcopy tail (by decide) (by rw [hheld, htailLength])
  rw [sha256_eq, sha256Padded_eq, ← hpad, compressBlocks_eq, ← hflush.state_eq, ← hbuffer]
  simp only [digest, htotal, hbits, h.bufferLength_eq, ← hpad, ← hdef]

lemma hash_eq (data : Bytes) : hash data = sha256 data := by
  have hholds := update_holds reset_holds data
  rw [hash, digest_holds hholds.1 (hholds.2.trans (UInt64.zero_add _)), List.nil_append]

/-- The message, the marker, zeros, and the bit length in eight bytes. -/
def paddedWith (zeros : ℕ) (message : Bytes) : Bytes :=
  message ++ 0x80 :: List.replicate zeros 0 ++ beBytes 8 (8 * message.length)

theorem streaming_digest (chunks : List Bytes) (hlen : chunks.flatten.length < 2 ^ 61) :
    ∃ zeros, IsLeast {zeros | (chunks.flatten.length + 1 + zeros) % 64 = 56} zeros ∧
      (chunks.foldl update reset).digest =
        (digestOf (compressBlocks ((paddedWith zeros chunks.flatten).length / 64) .initial
          (paddedWith zeros chunks.flatten)), chunks.foldl update reset) := by
  set message := chunks.flatten with hmessage
  set padLength := if message.length % 64 < 56 then 56 - message.length % 64 else 120 - message.length % 64 with hpad
  have hlast := Nat.mod_lt message.length (show 64 > 0 by decide)
  have hbounds : 0 < padLength ∧ padLength ≤ 64 ∧ (message.length + padLength) % 64 = 56 := by
    rw [hpad]
    split <;> omega
  refine ⟨padLength - 1, ⟨?_, ?_⟩, ?_⟩
  · have hzeros : (message.length + 1 + (padLength - 1)) % 64 = 56 := by omega
    exact hzeros
  · intro zeros hzeros
    have hmod : (message.length + 1 + zeros) % 64 = 56 := hzeros
    omega
  · have hpadded : sha256Padded message = paddedWith (padLength - 1) message := by
      rw [sha256Padded_eq, ← hpad, padding_take hbounds.1 hbounds.2.1, paddedWith, Nat.mul_comm,
        Nat.mod_eq_of_lt (by omega)]
    obtain ⟨hholds, htotal⟩ := updates_hold chunks
    rw [digest_holds hholds htotal, sha256_eq, ← hmessage, hpadded]

/-- Three pieces, one of them empty. -/
theorem streaming_digest_abc :
    ∃ zeros, IsLeast {zeros | ([[0x61, 0x62], [], [0x63]].flatten.length + 1 + zeros) % 64 = 56} zeros ∧
      ([[0x61, 0x62], [], [0x63]].foldl update reset).digest =
        (digestOf (compressBlocks ((paddedWith zeros [[0x61, 0x62], [], [0x63]].flatten).length / 64) .initial
          (paddedWith zeros [[0x61, 0x62], [], [0x63]].flatten)), [[0x61, 0x62], [], [0x63]].foldl update reset) :=
  streaming_digest [[0x61, 0x62], [], [0x63]] (by decide)

end Sha256

end InterClusterFabric.CoreHasher
