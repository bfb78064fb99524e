import InterClusterFabric.CoreHash
import Mathlib.Tactic

/-! The checksum of stored frames tells any two texts apart that differ in one byte: a step of the
computation loses nothing of the state it starts from, nor of the byte it takes in. -/
namespace InterClusterFabric.CoreChecksum
open CoreStatus CoreHash

/-- One byte of the computation. -/
def crcStep (crc : UInt32) (byte : UInt8) : UInt32 :=
  crc32cEntry ((crc ^^^ byte.toUInt32) &&& 0xFF) ^^^ (crc >>> 8)

lemma crc32c_eq_foldl (data : Bytes) : crc32c data = ~~~data.foldl crcStep (~~~0) := by
  unfold crc32c crc32cExtend crcStep
  rfl

/-- The index of a table entry, recomputed from the highest byte of the entry. -/
def indexOf (top : UInt32) : UInt32 :=
  (List.range 8).foldl
    (fun (crc : UInt32) _ => if crc < 0x80000000 then crc <<< 1 else ((crc ^^^ 0x82F63B78) <<< 1) ||| 1)
    (top <<< 24) &&& 0xFF

lemma indexOf_entry : ∀ index : Fin 256,
    indexOf (crc32cEntry (UInt32.ofNat index) >>> 24) = UInt32.ofNat index := by
  decide +kernel

/-- No two entries of the table agree in their highest byte. -/
lemma entry_injective {i j : UInt32} (hi : i < 256) (hj : j < 256)
    (h : crc32cEntry i >>> 24 = crc32cEntry j >>> 24) : i = j := by
  have hi' : i = UInt32.ofNat i.toNat := by simp
  have hj' : j = UInt32.ofNat j.toNat := by simp
  have hleft := indexOf_entry ⟨i.toNat, hi⟩
  have hright := indexOf_entry ⟨j.toNat, hj⟩
  simp only at hleft hright
  rw [← hi'] at hleft
  rw [← hj'] at hright
  rw [← hleft, ← hright, h]

lemma low_lt (x : UInt32) : x &&& 0xFF < 256 := by
  rw [UInt32.lt_iff_toNat_lt, UInt32.toNat_and]
  exact lt_of_le_of_lt Nat.and_le_right (by decide)

lemma shiftRight_top (x : UInt32) : x >>> 8 >>> 24 = 0 := by
  apply UInt32.toBitVec_inj.mp
  simp only [UInt32.toBitVec_shiftRight]
  ext i hi
  simp

/-- The highest byte after a step is that of the table entry. -/
lemma crcStep_top (crc : UInt32) (byte : UInt8) :
    crcStep crc byte >>> 24 = crc32cEntry ((crc ^^^ byte.toUInt32) &&& 0xFF) >>> 24 := by
  rw [crcStep, UInt32.shiftRight_xor, shiftRight_top, UInt32.xor_zero]

/-- What a step gives determines the entry it used, and the rest of the state before it. -/
lemma crcStep_eq {crc crc' : UInt32} {byte byte' : UInt8} (h : crcStep crc byte = crcStep crc' byte') :
    (crc ^^^ byte.toUInt32) &&& 0xFF = (crc' ^^^ byte'.toUInt32) &&& 0xFF ∧ crc >>> 8 = crc' >>> 8 := by
  have hindex : (crc ^^^ byte.toUInt32) &&& 0xFF = (crc' ^^^ byte'.toUInt32) &&& 0xFF := by
    apply entry_injective (low_lt _) (low_lt _)
    rw [← crcStep_top, ← crcStep_top, h]
  refine ⟨hindex, ?_⟩
  unfold crcStep at h
  rw [hindex] at h
  simpa using h

/-- The low byte of a word that took in a byte. -/
lemma toNat_low (crc : UInt32) (byte : UInt8) :
    ((crc ^^^ byte.toUInt32) &&& 0xFF).toNat = crc.toNat % 2 ^ 8 ^^^ byte.toNat := by
  have hbyte : byte.toNat % 2 ^ 8 = byte.toNat := Nat.mod_eq_of_lt byte.toNat_lt
  have hmask : (0xFF : UInt32).toNat = 2 ^ 8 - 1 := by decide
  rw [UInt32.toNat_and, hmask, Nat.and_two_pow_sub_one_eq_mod, UInt32.toNat_xor, UInt8.toNat_toUInt32,
    Nat.xor_mod_two_pow, hbyte]

lemma toNat_high (crc : UInt32) : (crc >>> 8).toNat = crc.toNat / 2 ^ 8 := by
  rw [UInt32.toNat_shiftRight, Nat.shiftRight_eq_div_pow]
  rfl

/-- A step loses nothing of the state. -/
lemma crcStep_state {crc crc' : UInt32} {byte : UInt8} (h : crcStep crc byte = crcStep crc' byte) : crc = crc' := by
  obtain ⟨hlow, hhigh⟩ := crcStep_eq h
  have hlow' := congrArg UInt32.toNat hlow
  have hhigh' := congrArg UInt32.toNat hhigh
  rw [toNat_low, toNat_low] at hlow'
  rw [toNat_high, toNat_high] at hhigh'
  have hsame : crc.toNat % 2 ^ 8 = crc'.toNat % 2 ^ 8 := by
    simpa [Nat.xor_assoc] using congrArg (fun n => n ^^^ byte.toNat) hlow'
  apply UInt32.toNat_inj.mp
  omega

/-- Nor of the byte. -/
lemma crcStep_byte {crc : UInt32} {byte byte' : UInt8} (h : crcStep crc byte = crcStep crc byte') : byte = byte' := by
  have hlow := congrArg UInt32.toNat (crcStep_eq h).1
  rw [toNat_low, toNat_low] at hlow
  generalize crc.toNat % 2 ^ 8 = low at hlow
  apply UInt8.toNat_inj.mp
  have hcancel := congrArg (fun n => low ^^^ n) hlow
  simpa [← Nat.xor_assoc] using hcancel

lemma foldl_crcStep_injective (data : Bytes) : Function.Injective fun crc => data.foldl crcStep crc := by
  induction data with
  | nil => exact fun _ _ h => h
  | cons byte rest ih => exact fun _ _ h => crcStep_state (ih h)

/-- A byte that is replaced by another one changes the checksum. -/
lemma crc32c_set_ne {data : Bytes} {i : ℕ} {byte : UInt8} (hi : i < data.length) (hbyte : byte ≠ data[i]) :
    crc32c (data.set i byte) ≠ crc32c data := by
  intro h
  rw [crc32c_eq_foldl, crc32c_eq_foldl] at h
  have hstates : (data.set i byte).foldl crcStep (~~~0) = data.foldl crcStep (~~~0) := by simpa using h
  have hsplit : data = data.take i ++ data[i] :: data.drop (i + 1) := by simp
  rw [List.set_eq_take_append_cons_drop, if_pos hi] at hstates
  nth_rewrite 3 [hsplit] at hstates
  rw [List.foldl_append, List.foldl_append, List.foldl_cons, List.foldl_cons] at hstates
  exact hbyte (crcStep_byte (foldl_crcStep_injective _ hstates))

end InterClusterFabric.CoreChecksum
