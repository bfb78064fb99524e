import InterClusterFabric.CoreChecksum
import InterClusterFabric.LibraryRegister

/-! The table-driven checksum is the one computed a bit at a time, it can be continued from where
it stopped, and it tells texts apart that differ in a burst of at most 32 bits. -/
namespace InterClusterFabric.CoreBursts
open CoreStatus CoreHash CoreChecksum LibraryRegister

def castagnoli : BitVec 32 := 0x82F63B78

/-- The bits of a text, the least significant bit of each byte first. -/
def messageBits (data : Bytes) : List Bool := data.flatMap fun byte => lowBits byte.toBitVec 8

/-- The reflected checksum, one message bit at a time. -/
def crc32cBitwise (seed : UInt32) (data : Bytes) : UInt32 :=
  ~~~UInt32.ofBitVec (run castagnoli (~~~seed).toBitVec (messageBits data))

/-- The bits at which two texts differ lie within `width` consecutive positions. -/
def DifferWithin (width : ℕ) (a b : Bytes) : Prop :=
  ∃ start, ∀ i, (messageBits a)[i]? ≠ (messageBits b)[i]? → start ≤ i ∧ i < start + width

lemma castagnoli_top : castagnoli.getLsbD (32 - 1) = true := by decide

lemma crc32cExtend_eq_foldl (seed : UInt32) (data : Bytes) :
    crc32cExtend seed data = ~~~data.foldl crcStep (~~~seed) := by
  unfold crc32cExtend crcStep
  rfl

/-! A step through the table is eight shifts of the register. -/

lemma low_bit (c : UInt32) : (c &&& 1 = 0) = (c.toBitVec.getLsbD 0 = false) := by
  have hbit : (c &&& 1).toBitVec = BitVec.setWidth 32 (BitVec.ofBool (c.toBitVec.getLsbD 0)) := by
    rw [UInt32.toBitVec_and]
    exact BitVec.and_one_eq_setWidth_ofBool_getLsbD
  have hzero : (c &&& 1 = 0) = ((c &&& 1).toBitVec = 0#32) :=
    propext ⟨fun h => by rw [h]; rfl, fun h => UInt32.toBitVec_inj.mp h⟩
  rw [hzero, hbit]
  cases c.toBitVec.getLsbD 0 <;> simp

lemma halve_toBitVec (c : UInt32) :
    (if c &&& 1 = 0 then c >>> 1 else c >>> 1 ^^^ 0x82F63B78).toBitVec = shift castagnoli c.toBitVec false := by
  simp only [low_bit, shift, Bool.xor_false]
  cases c.toBitVec.getLsbD 0
  · simp only [if_true, Bool.false_eq_true, if_false]
    rfl
  · simp only [if_true, Bool.true_eq_false, if_false]
    rfl

lemma entry_toBitVec (index : UInt32) :
    (crc32cEntry index).toBitVec = run castagnoli index.toBitVec (List.replicate 8 false) := by
  have hsteps (n : ℕ) : ((List.range n).foldl
      (fun (crc : UInt32) _ => if crc &&& 1 = 0 then crc >>> 1 else crc >>> 1 ^^^ 0x82F63B78) index).toBitVec =
        run castagnoli index.toBitVec (List.replicate n false) := by
    induction n with
    | zero => rfl
    | succ n ih =>
      rw [List.range_succ, List.foldl_append, List.replicate_succ', run_append, ← ih]
      exact halve_toBitVec _
  exact hsteps 8

lemma lowBits_byte (byte : UInt8) : lowBits byte.toUInt32.toBitVec 8 = lowBits byte.toBitVec 8 := by
  apply List.map_congr_left
  intro i hi
  have hlt : i < 32 := by
    have := List.mem_range.mp hi
    omega
  simp [UInt8.toBitVec_toUInt32, hlt]

lemma getLsbD_low (x : UInt32) {i : ℕ} (hi : i < 8) :
    x.toBitVec.getLsbD i = (x &&& 0xFF).toBitVec.getLsbD i := by
  have hmask : (0xFF : UInt32).toBitVec = BitVec.setWidth 32 (BitVec.allOnes 8) := by decide
  rw [UInt32.toBitVec_and, hmask, BitVec.getLsbD_and, BitVec.getLsbD_setWidth, BitVec.getLsbD_allOnes]
  have hlt : i < 32 := by omega
  simp [hi, hlt]

lemma low_shift (x : UInt32) : (x &&& 0xFF).toBitVec >>> 8 = 0#32 := by
  apply BitVec.eq_of_toNat_eq
  rw [BitVec.toNat_ushiftRight, Nat.shiftRight_eq_div_pow]
  exact Nat.div_eq_of_lt (low_lt x)

lemma byte_shift (byte : UInt8) : byte.toUInt32.toBitVec >>> 8 = 0#32 := by
  apply BitVec.eq_of_toNat_eq
  rw [BitVec.toNat_ushiftRight, Nat.shiftRight_eq_div_pow]
  apply Nat.div_eq_of_lt
  simpa using byte.toNat_lt

/-- One byte through the table is its eight bits through the register. -/
lemma crcStep_toBitVec (crc : UInt32) (byte : UInt8) :
    (crcStep crc byte).toBitVec = run castagnoli crc.toBitVec (lowBits byte.toBitVec 8) := by
  set x := crc ^^^ byte.toUInt32 with hx
  have hbyte : run castagnoli crc.toBitVec (lowBits byte.toBitVec 8) =
      run castagnoli x.toBitVec (List.replicate 8 false) := by
    rw [← lowBits_byte, run_lowBits, byte_shift, BitVec.xor_zero, hx, UInt32.toBitVec_xor]
  have hsplit := run_split castagnoli x.toBitVec (x &&& 0xFF).toBitVec 8 (fun i hi => getLsbD_low x hi) (low_shift x)
  have hhigh : x.toBitVec >>> 8 = (crc >>> 8).toBitVec := by
    rw [hx, UInt32.toBitVec_xor, BitVec.ushiftRight_xor_distrib, byte_shift, BitVec.xor_zero]
    rfl
  rw [hbyte, hsplit, crcStep, UInt32.toBitVec_xor, entry_toBitVec, hhigh]

lemma foldl_crcStep_toBitVec (crc : UInt32) (data : Bytes) :
    (data.foldl crcStep crc).toBitVec = run castagnoli crc.toBitVec (messageBits data) := by
  induction data generalizing crc with
  | nil => rfl
  | cons byte rest ih =>
    rw [List.foldl_cons, ih, crcStep_toBitVec, messageBits, messageBits, List.flatMap_cons, run_append]

lemma crc32cExtend_bitwise (seed : UInt32) (data : Bytes) : crc32cExtend seed data = crc32cBitwise seed data := by
  rw [crc32cExtend_eq_foldl, crc32cBitwise, ← foldl_crcStep_toBitVec]

/-! Texts and their bits. -/

lemma lowBits_injective : Function.Injective fun byte : UInt8 => lowBits byte.toBitVec 8 := by
  intro byte byte' h
  apply UInt8.toBitVec_inj.mp
  apply BitVec.eq_of_getLsbD_eq
  intro i hi
  have hbit := congrArg (fun bits => bits[i]?) h
  simpa [lowBits, hi] using hbit

lemma length_messageBits (data : Bytes) : (messageBits data).length = 8 * data.length := by
  simp [messageBits, List.length_flatMap, Nat.mul_comm]

lemma messageBits_injective : Function.Injective messageBits := by
  intro a b h
  induction a generalizing b with
  | nil =>
    have hlen := congrArg List.length h
    rw [length_messageBits, length_messageBits, List.length_nil] at hlen
    exact (List.eq_nil_of_length_eq_zero (by omega)).symm
  | cons byte rest ih =>
    cases b with
    | nil =>
      have hlen := congrArg List.length h
      simp [length_messageBits] at hlen
    | cons byte' rest' =>
      obtain ⟨hfirst, hrest⟩ := List.append_inj h (by simp)
      rw [lowBits_injective hfirst, ih hrest]

/-- Outside of the window the two texts have the same bits. -/
lemma window_split {a b : List Bool} {start width : ℕ}
    (h : ∀ i, a[i]? ≠ b[i]? → start ≤ i ∧ i < start + width) :
    a.take start = b.take start ∧ a.drop (start + width) = b.drop (start + width) := by
  constructor
  · apply List.ext_getElem?
    intro i
    by_contra hi
    have hlt : i < start := by
      by_contra hge
      rw [List.getElem?_take_eq_none (by omega), List.getElem?_take_eq_none (by omega)] at hi
      exact hi rfl
    rw [List.getElem?_take_of_lt hlt, List.getElem?_take_of_lt hlt] at hi
    have := (h i hi).1
    omega
  · apply List.ext_getElem?
    intro i
    by_contra hi
    rw [List.getElem?_drop, List.getElem?_drop] at hi
    have := (h _ hi).2
    omega

/-- A burst of at most 32 bits changes the checksum. -/
lemma crc32c_burst {a b : Bytes} (hlen : a.length = b.length) (hne : a ≠ b) (h : DifferWithin 32 a b) :
    crc32c a ≠ crc32c b := by
  intro hsame
  obtain ⟨start, hstart⟩ := h
  have hbits : (messageBits a).length = (messageBits b).length := by
    rw [length_messageBits, length_messageBits, hlen]
  obtain ⟨hbefore, hafter⟩ := window_split hstart
  have hcut (bits : List Bool) :
      bits = bits.take start ++ (bits.drop start).take 32 ++ bits.drop (start + 32) := by
    rw [List.append_assoc, ← List.drop_drop, List.take_append_drop, List.take_append_drop]
  have hrun : run castagnoli (~~~0 : UInt32).toBitVec (messageBits a) =
      run castagnoli (~~~0 : UInt32).toBitVec (messageBits b) := by
    rw [crc32c_eq_foldl, crc32c_eq_foldl] at hsame
    rw [← foldl_crcStep_toBitVec, ← foldl_crcStep_toBitVec]
    exact congrArg UInt32.toBitVec (by simpa using hsame)
  rw [hcut (messageBits a), hcut (messageBits b), ← hbefore, ← hafter] at hrun
  have hwindow := run_window castagnoli_top (by simp [hbits]) (by simp) hrun
  apply hne
  apply messageBits_injective
  rw [hcut (messageBits a), hcut (messageBits b), hbefore, hafter, hwindow]

/-- The table-driven checksum composes, is the bitwise one, and detects bursts. -/
theorem crc32c_is_bitwise :
    (∀ (seed : UInt32) (a b : Bytes), crc32cExtend seed (a ++ b) = crc32cExtend (crc32cExtend seed a) b) ∧
    (∀ (seed : UInt32) (data : Bytes), crc32cExtend seed data = crc32cBitwise seed data) ∧
    (∀ a b : Bytes, a.length = b.length → a ≠ b → DifferWithin 32 a b → crc32c a ≠ crc32c b) := by
  refine ⟨?_, crc32cExtend_bitwise, fun _ _ => crc32c_burst⟩
  intro seed a b
  rw [crc32cExtend_eq_foldl, crc32cExtend_eq_foldl, crc32cExtend_eq_foldl, List.foldl_append, UInt32.not_not]

/-- Four bytes that are all different in every bit still differ within 32 bits. -/
lemma differ_four : DifferWithin 32 [0, 0, 0, 0] [255, 255, 255, 255] := by
  refine ⟨0, fun i hi => ⟨i.zero_le, ?_⟩⟩
  by_contra hge
  apply hi
  rw [List.getElem?_eq_none, List.getElem?_eq_none] <;> rw [length_messageBits] <;> simpa using hge

theorem crc32c_is_bitwise_four : crc32c [0, 0, 0, 0] ≠ crc32c [255, 255, 255, 255] :=
  crc32c_is_bitwise.2.2 _ _ (by decide) (by decide) differ_four

end InterClusterFabric.CoreBursts
