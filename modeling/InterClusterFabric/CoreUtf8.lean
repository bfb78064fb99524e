import InterClusterFabric.CoreBytes
import Mathlib.Data.List.GetD

/-! The text check accepts exactly the encodings of sequences of characters, and a text is cut
at the last character boundary within a limit. -/
namespace InterClusterFabric.CoreUtf8
open CoreStatus CoreBytes String

/-- Walks back over continuation bytes, so that the cut is a character boundary. -/
def walkBack (text : Bytes) : ℕ → ℕ
  | 0 => 0
  | n + 1 => if isContinuation (text.getD (n + 1) 0) then walkBack text n else n + 1

def utf8PrefixLength (text : Bytes) (maxBytes : ℕ) : ℕ :=
  if text.length ≤ maxBytes then text.length else walkBack text maxBytes

/-! Bytes as numbers. -/

lemma byte_all {P : UInt8 → Prop} (h : ∀ n : Fin 256, P (UInt8.ofNat n)) (byte : UInt8) : P byte := by
  have hbyte := h ⟨byte.toNat, byte.toNat_lt⟩
  simpa using hbyte

lemma continuation_iff (c : UInt8) : isContinuation c = true ↔ 128 ≤ c.toNat ∧ c.toNat < 192 := by
  apply byte_all (P := fun c => isContinuation c = true ↔ 128 ≤ c.toNat ∧ c.toNat < 192)
  decide +kernel

lemma ascii_iff (c : UInt8) : c < 0x80 ↔ c.toNat < 128 := UInt8.lt_iff_toNat_lt

lemma lead2_iff (c : UInt8) : c &&& 0xE0 = 0xC0 ↔ 192 ≤ c.toNat ∧ c.toNat < 224 := by
  revert c
  apply byte_all
  decide +kernel

lemma lead3_iff (c : UInt8) : c &&& 0xF0 = 0xE0 ↔ 224 ≤ c.toNat ∧ c.toNat < 240 := by
  revert c
  apply byte_all
  decide +kernel

lemma lead4_iff (c : UInt8) : c &&& 0xF8 = 0xF0 ↔ 240 ≤ c.toNat ∧ c.toNat < 248 := by
  revert c
  apply byte_all
  decide +kernel

lemma low_bits (c : UInt8) (n : ℕ) (hn : n < 8) :
    (c &&& UInt8.ofNat (2 ^ n - 1)).toUInt32.toNat = c.toNat % 2 ^ n := by
  have hlt : 2 ^ n < 2 ^ 8 := Nat.pow_lt_pow_right (by decide) hn
  rw [UInt8.toNat_toUInt32, UInt8.toNat_and, UInt8.toNat_ofNat', Nat.mod_eq_of_lt (by omega),
    Nat.and_two_pow_sub_one_eq_mod]

/-- Six more bits of the code point. -/
lemma extend_toNat (codePoint : UInt32) (c : UInt8) (h : codePoint.toNat < 2 ^ 26) :
    (extendCodePoint codePoint c).toNat = codePoint.toNat * 64 + c.toNat % 64 := by
  have hlow : (c &&& 0x3F).toUInt32.toNat = c.toNat % 2 ^ 6 := low_bits c 6 (by decide)
  have hsix : (6 : UInt32).toNat % 32 = 6 := rfl
  have hshift : (codePoint <<< 6).toNat = codePoint.toNat <<< 6 := by
    rw [UInt32.toNat_shiftLeft, hsix, Nat.shiftLeft_eq]
    apply Nat.mod_eq_of_lt
    omega
  rw [extendCodePoint, UInt32.toNat_or, hlow, hshift, ← Nat.shiftLeft_add_eq_or_of_lt (Nat.mod_lt _ (by decide)),
    Nat.shiftLeft_eq]

lemma codePointOk_iff (codePoint minimum : UInt32) :
    codePointOk codePoint minimum = true ↔ minimum.toNat ≤ codePoint.toNat ∧ codePoint.toNat.isValidChar := by
  have h1 : (0x10FFFF : UInt32).toNat = 0x10FFFF := rfl
  have h2 : (0xD800 : UInt32).toNat = 0xD800 := rfl
  have h3 : (0xDFFF : UInt32).toNat = 0xDFFF := rfl
  simp only [codePointOk, Bool.and_eq_true, Bool.not_eq_true', decide_eq_true_eq, decide_eq_false_iff_not,
    UInt32.le_iff_toNat_le, h1, h2, h3, Nat.isValidChar, Bool.and_eq_false_iff]
  omega

/-! One sequence of bytes. -/

lemma isValidUtf8_one {a : UInt8} (ha : a.toNat < 128) (rest : Bytes) : isValidUtf8 (a :: rest) = isValidUtf8 rest := by
  rw [isValidUtf8.eq_def]
  simp only [ascii_iff, ha, if_true]

lemma isValidUtf8_two {a : UInt8} (ha : 192 ≤ a.toNat ∧ a.toNat < 224) (rest : Bytes) :
    isValidUtf8 (a :: rest) = true ↔ ∃ b tail, rest = b :: tail ∧ isContinuation b = true ∧
      0x80 ≤ a.toNat % 32 * 64 + b.toNat % 64 ∧ isValidUtf8 tail = true := by
  have h1 : ¬ a.toNat < 128 := by omega
  have hlow : (a &&& 0x1F).toUInt32.toNat = a.toNat % 2 ^ 5 := low_bits a 5 (by decide)
  have hmin : (0x80 : UInt32).toNat = 0x80 := rfl
  rw [isValidUtf8.eq_def]
  simp only [ascii_iff, h1, lead2_iff, ha, and_self, if_true, if_false]
  cases rest with
  | nil => simp
  | cons b tail =>
    have hcode := extend_toNat (a &&& 0x1F).toUInt32 b (by omega)
    rw [hlow] at hcode
    simp only [Bool.and_eq_true, codePointOk_iff, hmin, hcode]
    constructor
    · rintro ⟨⟨hb, hle, -⟩, htail⟩
      exact ⟨b, tail, rfl, hb, hle, htail⟩
    · rintro ⟨b', tail', heq, hb, hle, htail⟩
      cases heq
      refine ⟨⟨hb, hle, ?_⟩, htail⟩
      simp only [Nat.isValidChar]
      omega

lemma isValidUtf8_three {a : UInt8} (ha : 224 ≤ a.toNat ∧ a.toNat < 240) (rest : Bytes) :
    isValidUtf8 (a :: rest) = true ↔ ∃ b c tail, rest = b :: c :: tail ∧ isContinuation b = true ∧
      isContinuation c = true ∧ 0x800 ≤ (a.toNat % 16 * 64 + b.toNat % 64) * 64 + c.toNat % 64 ∧
      ((a.toNat % 16 * 64 + b.toNat % 64) * 64 + c.toNat % 64).isValidChar ∧ isValidUtf8 tail = true := by
  have h1 : ¬ a.toNat < 128 := by omega
  have h2 : ¬ (192 ≤ a.toNat ∧ a.toNat < 224) := by omega
  have hlow : (a &&& 0x0F).toUInt32.toNat = a.toNat % 2 ^ 4 := low_bits a 4 (by decide)
  have hmin : (0x800 : UInt32).toNat = 0x800 := rfl
  rw [isValidUtf8.eq_def]
  simp only [ascii_iff, h1, lead2_iff, h2, lead3_iff, ha, and_self, if_true, if_false]
  rcases rest with _ | ⟨b, _ | ⟨c, tail⟩⟩
  · simp
  · simp
  · have hfirst := extend_toNat (a &&& 0x0F).toUInt32 b (by omega)
    have hcode := extend_toNat (extendCodePoint (a &&& 0x0F).toUInt32 b) c (by omega)
    rw [hfirst, hlow] at hcode
    simp only [Bool.and_eq_true, codePointOk_iff, hmin, hcode]
    constructor
    · rintro ⟨⟨⟨hb, hc⟩, hle, hchar⟩, htail⟩
      exact ⟨b, c, tail, rfl, hb, hc, hle, hchar, htail⟩
    · rintro ⟨b', c', tail', heq, hb, hc, hle, hchar, htail⟩
      cases heq
      exact ⟨⟨⟨hb, hc⟩, hle, hchar⟩, htail⟩

lemma isValidUtf8_four {a : UInt8} (ha : 240 ≤ a.toNat ∧ a.toNat < 248) (rest : Bytes) :
    isValidUtf8 (a :: rest) = true ↔ ∃ b c d tail, rest = b :: c :: d :: tail ∧ isContinuation b = true ∧
      isContinuation c = true ∧ isContinuation d = true ∧
      0x10000 ≤ ((a.toNat % 8 * 64 + b.toNat % 64) * 64 + c.toNat % 64) * 64 + d.toNat % 64 ∧
      (((a.toNat % 8 * 64 + b.toNat % 64) * 64 + c.toNat % 64) * 64 + d.toNat % 64).isValidChar ∧
      isValidUtf8 tail = true := by
  have h1 : ¬ a.toNat < 128 := by omega
  have h2 : ¬ (192 ≤ a.toNat ∧ a.toNat < 224) := by omega
  have h3 : ¬ (224 ≤ a.toNat ∧ a.toNat < 240) := by omega
  have hlow : (a &&& 0x07).toUInt32.toNat = a.toNat % 2 ^ 3 := low_bits a 3 (by decide)
  have hmin : (0x10000 : UInt32).toNat = 0x10000 := rfl
  rw [isValidUtf8.eq_def]
  simp only [ascii_iff, h1, lead2_iff, h2, lead3_iff, h3, lead4_iff, ha, and_self, if_true, if_false]
  rcases rest with _ | ⟨b, _ | ⟨c, _ | ⟨d, tail⟩⟩⟩
  · simp
  · simp
  · simp
  · have hfirst := extend_toNat (a &&& 0x07).toUInt32 b (by omega)
    have hsecond := extend_toNat (extendCodePoint (a &&& 0x07).toUInt32 b) c (by omega)
    have hcode := extend_toNat (extendCodePoint (extendCodePoint (a &&& 0x07).toUInt32 b) c) d (by omega)
    rw [hsecond, hfirst, hlow] at hcode
    simp only [Bool.and_eq_true, codePointOk_iff, hmin, hcode]
    constructor
    · rintro ⟨⟨⟨⟨hb, hc⟩, hd⟩, hle, hchar⟩, htail⟩
      exact ⟨b, c, d, tail, rfl, hb, hc, hd, hle, hchar, htail⟩
    · rintro ⟨b', c', d', tail', heq, hb, hc, hd, hle, hchar, htail⟩
      cases heq
      exact ⟨⟨⟨⟨hb, hc⟩, hd⟩, hle, hchar⟩, htail⟩

lemma isValidUtf8_stray {a : UInt8} (ha : 128 ≤ a.toNat ∧ a.toNat < 192 ∨ 248 ≤ a.toNat) (rest : Bytes) :
    isValidUtf8 (a :: rest) = false := by
  have h1 : ¬ a.toNat < 128 := by omega
  have h2 : ¬ (192 ≤ a.toNat ∧ a.toNat < 224) := by omega
  have h3 : ¬ (224 ≤ a.toNat ∧ a.toNat < 240) := by omega
  have h4 : ¬ (240 ≤ a.toNat ∧ a.toNat < 248) := by omega
  rw [isValidUtf8.eq_def]
  simp only [ascii_iff, h1, lead2_iff, h2, lead3_iff, h3, lead4_iff, h4, if_false]

/-! Characters and their sequences. -/

lemma char_of_code (code : ℕ) (h : code.isValidChar) : ∃ c : Char, c.val.toNat = code :=
  ⟨Char.ofNatAux code h, rfl⟩

lemma code_bounds (c : Char) : c.val.toNat < 0xD800 ∨ 0xDFFF < c.val.toNat ∧ c.val.toNat < 0x110000 := c.valid

lemma encode_one {c : Char} (h : c.val.toNat < 0x80) : utf8EncodeChar c = [UInt8.ofNat c.val.toNat] := by
  unfold utf8EncodeChar
  exact if_pos (by omega)

lemma encode_two {c : Char} (h : 0x80 ≤ c.val.toNat ∧ c.val.toNat < 0x800) :
    utf8EncodeChar c = [UInt8.ofNat (c.val.toNat / 64 % 32 + 192), UInt8.ofNat (c.val.toNat % 64 + 128)] := by
  unfold utf8EncodeChar
  exact (if_neg (by omega)).trans (if_pos (by omega))

lemma encode_three {c : Char} (h : 0x800 ≤ c.val.toNat ∧ c.val.toNat < 0x10000) :
    utf8EncodeChar c = [UInt8.ofNat (c.val.toNat / 4096 % 16 + 224), UInt8.ofNat (c.val.toNat / 64 % 64 + 128),
      UInt8.ofNat (c.val.toNat % 64 + 128)] := by
  unfold utf8EncodeChar
  exact (if_neg (by omega)).trans ((if_neg (by omega)).trans (if_pos (by omega)))

lemma encode_four {c : Char} (h : 0x10000 ≤ c.val.toNat) :
    utf8EncodeChar c = [UInt8.ofNat (c.val.toNat / 262144 % 8 + 240), UInt8.ofNat (c.val.toNat / 4096 % 64 + 128),
      UInt8.ofNat (c.val.toNat / 64 % 64 + 128), UInt8.ofNat (c.val.toNat % 64 + 128)] := by
  unfold utf8EncodeChar
  exact (if_neg (by omega)).trans ((if_neg (by omega)).trans (if_neg (by omega)))

lemma ofNat_eq {n : ℕ} (byte : UInt8) (h : n = byte.toNat) : UInt8.ofNat n = byte := by
  rw [h, UInt8.ofNat_toNat]

lemma toNat_ofNat_lt {n : ℕ} (h : n < 256) : (UInt8.ofNat n).toNat = n := by
  rw [UInt8.toNat_ofNat']
  exact Nat.mod_eq_of_lt h

/-- An accepted text starts with the bytes of a character. -/
lemma accepted_head {text : Bytes} (h : isValidUtf8 text = true) (hne : text ≠ []) :
    ∃ c rest, text = utf8EncodeChar c ++ rest ∧ isValidUtf8 rest = true := by
  obtain ⟨a, rest, rfl⟩ := List.exists_cons_of_ne_nil hne
  have hlt := a.toNat_lt
  by_cases h1 : a.toNat < 128
  · obtain ⟨ch, hch⟩ := char_of_code a.toNat (by simp only [Nat.isValidChar]; omega)
    rw [isValidUtf8_one h1] at h
    refine ⟨ch, rest, ?_, h⟩
    rw [encode_one (by omega), ofNat_eq a hch]
    rfl
  by_cases h2 : 192 ≤ a.toNat ∧ a.toNat < 224
  · obtain ⟨b, tail, rfl, hb, hle, htail⟩ := (isValidUtf8_two h2 rest).mp h
    rw [continuation_iff] at hb
    obtain ⟨ch, hch⟩ := char_of_code (a.toNat % 32 * 64 + b.toNat % 64) (by simp only [Nat.isValidChar]; omega)
    refine ⟨ch, tail, ?_, htail⟩
    rw [encode_two (by omega), ofNat_eq a (by omega), ofNat_eq b (by omega)]
    rfl
  by_cases h3 : 224 ≤ a.toNat ∧ a.toNat < 240
  · obtain ⟨b, c, tail, rfl, hb, hc, hle, hchar, htail⟩ := (isValidUtf8_three h3 rest).mp h
    rw [continuation_iff] at hb hc
    obtain ⟨ch, hch⟩ := char_of_code _ hchar
    refine ⟨ch, tail, ?_, htail⟩
    rw [encode_three (by omega), ofNat_eq a (by omega), ofNat_eq b (by omega),
      ofNat_eq c (by omega)]
    rfl
  by_cases h4 : 240 ≤ a.toNat ∧ a.toNat < 248
  · obtain ⟨b, c, d, tail, rfl, hb, hc, hd, hle, hchar, htail⟩ := (isValidUtf8_four h4 rest).mp h
    rw [continuation_iff] at hb hc hd
    obtain ⟨ch, hch⟩ := char_of_code _ hchar
    refine ⟨ch, tail, ?_, htail⟩
    rw [encode_four (by omega), ofNat_eq a (by omega), ofNat_eq b (by omega),
      ofNat_eq c (by omega), ofNat_eq d (by omega)]
    rfl
  · rw [isValidUtf8_stray (by omega)] at h
    cases h

/-- The bytes of a character are a lead byte and as many continuation bytes as it announces. -/
lemma encode_shape (ch : Char) :
    (∃ a, utf8EncodeChar ch = [a] ∧ a.toNat < 128) ∨
    (∃ a b, utf8EncodeChar ch = [a, b] ∧ (192 ≤ a.toNat ∧ a.toNat < 224) ∧ isContinuation b = true ∧
      0x80 ≤ a.toNat % 32 * 64 + b.toNat % 64) ∨
    (∃ a b c, utf8EncodeChar ch = [a, b, c] ∧ (224 ≤ a.toNat ∧ a.toNat < 240) ∧ isContinuation b = true ∧
      isContinuation c = true ∧ 0x800 ≤ (a.toNat % 16 * 64 + b.toNat % 64) * 64 + c.toNat % 64 ∧
      ((a.toNat % 16 * 64 + b.toNat % 64) * 64 + c.toNat % 64).isValidChar) ∨
    (∃ a b c d, utf8EncodeChar ch = [a, b, c, d] ∧ (240 ≤ a.toNat ∧ a.toNat < 248) ∧ isContinuation b = true ∧
      isContinuation c = true ∧ isContinuation d = true ∧
      0x10000 ≤ ((a.toNat % 8 * 64 + b.toNat % 64) * 64 + c.toNat % 64) * 64 + d.toNat % 64 ∧
      (((a.toNat % 8 * 64 + b.toNat % 64) * 64 + c.toNat % 64) * 64 + d.toNat % 64).isValidChar) := by
  have hbounds := code_bounds ch
  by_cases h1 : ch.val.toNat < 0x80
  · refine .inl ⟨_, encode_one h1, ?_⟩
    rw [toNat_ofNat_lt (by omega)]
    exact h1
  by_cases h2 : ch.val.toNat < 0x800
  · refine .inr (.inl ⟨_, _, encode_two ⟨by omega, h2⟩, ?_⟩)
    rw [continuation_iff, toNat_ofNat_lt (by omega), toNat_ofNat_lt (by omega)]
    omega
  by_cases h3 : ch.val.toNat < 0x10000
  · refine .inr (.inr (.inl ⟨_, _, _, encode_three ⟨by omega, h3⟩, ?_⟩))
    rw [continuation_iff, continuation_iff, toNat_ofNat_lt (by omega), toNat_ofNat_lt (by omega),
      toNat_ofNat_lt (by omega)]
    simp only [Nat.isValidChar]
    omega
  · refine .inr (.inr (.inr ⟨_, _, _, _, encode_four (by omega), ?_⟩))
    rw [continuation_iff, continuation_iff, continuation_iff, toNat_ofNat_lt (by omega), toNat_ofNat_lt (by omega),
      toNat_ofNat_lt (by omega), toNat_ofNat_lt (by omega)]
    simp only [Nat.isValidChar]
    omega

/-- A character in front of a text changes nothing for the check. -/
lemma accepted_append (ch : Char) (rest : Bytes) : isValidUtf8 (utf8EncodeChar ch ++ rest) = isValidUtf8 rest := by
  apply Bool.eq_iff_iff.mpr
  obtain ⟨a, heq, ha⟩ | ⟨a, b, heq, ha, hb, hle⟩ | ⟨a, b, c, heq, ha, hb, hc, hle, hchar⟩ |
    ⟨a, b, c, d, heq, ha, hb, hc, hd, hle, hchar⟩ := encode_shape ch
  · rw [heq, List.singleton_append, isValidUtf8_one ha]
  · rw [heq, List.cons_append, isValidUtf8_two ha]
    simp [hb, hle]
  · rw [heq, List.cons_append, isValidUtf8_three ha]
    simp [hb, hc, hle, hchar]
  · rw [heq, List.cons_append, isValidUtf8_four ha]
    simp [hb, hc, hd, hle, hchar]

lemma accepted_encoding (chars : List Char) : isValidUtf8 (chars.flatMap utf8EncodeChar) = true := by
  induction chars with
  | nil => rfl
  | cons ch chars ih => rwa [List.flatMap_cons, accepted_append]

lemma encoding_of_accepted {text : Bytes} (h : isValidUtf8 text = true) :
    ∃ chars : List Char, text = chars.flatMap utf8EncodeChar := by
  induction hlen : text.length using Nat.strong_induction_on generalizing text with
  | _ n ih =>
    by_cases hne : text = []
    · exact ⟨[], hne⟩
    · obtain ⟨ch, rest, rfl, hrest⟩ := accepted_head h hne
      have hpos := ch.utf8Size_pos
      rw [List.length_append, length_utf8EncodeChar] at hlen
      obtain ⟨chars, rfl⟩ := ih rest.length (by omega) hrest rfl
      exact ⟨ch :: chars, by rw [List.flatMap_cons]⟩

/-! Where a text may be cut. -/

/-- Within the bytes of a character there is no place for a cut, and only continuation bytes. -/
lemma cut_within {ch : Char} {n : ℕ} (hpos : 0 < n) (hlt : n < (utf8EncodeChar ch).length) :
    isValidUtf8 ((utf8EncodeChar ch).take n) = false ∧ isContinuation ((utf8EncodeChar ch).getD n 0) = true := by
  rw [← Bool.not_eq_true]
  obtain ⟨a, heq, ha⟩ | ⟨a, b, heq, ha, hb, hle⟩ | ⟨a, b, c, heq, ha, hb, hc, hle, hchar⟩ |
    ⟨a, b, c, d, heq, ha, hb, hc, hd, hle, hchar⟩ := encode_shape ch
  · rw [heq, List.length_singleton] at hlt
    omega
  · rw [heq] at hlt ⊢
    have hn : n = 1 := by simp at hlt; omega
    subst hn
    rw [List.take_succ_cons, isValidUtf8_two ha]
    simpa using hb
  · rw [heq] at hlt ⊢
    have hn : n = 1 ∨ n = 2 := by simp at hlt; omega
    rcases hn with rfl | rfl <;> rw [List.take_succ_cons, isValidUtf8_three ha] <;> simp [hb, hc]
  · rw [heq] at hlt ⊢
    have hn : n = 1 ∨ n = 2 ∨ n = 3 := by simp at hlt; omega
    rcases hn with rfl | rfl | rfl <;> rw [List.take_succ_cons, isValidUtf8_four ha] <;> simp [hb, hc, hd]

lemma head_not_continuation (ch : Char) : isContinuation ((utf8EncodeChar ch).getD 0 0) = false := by
  rw [← Bool.not_eq_true, continuation_iff]
  obtain ⟨a, heq, ha⟩ | ⟨a, b, heq, ha, hb⟩ | ⟨a, b, c, heq, ha, hb⟩ | ⟨a, b, c, d, heq, ha, hb⟩ := encode_shape ch <;>
    rw [heq, List.getD_cons_zero] <;> omega

/-- An accepted text can be cut before a byte exactly if that is no continuation byte. -/
lemma cut_iff (chars : List Char) {n : ℕ} (hn : n < (chars.flatMap utf8EncodeChar).length) :
    isValidUtf8 ((chars.flatMap utf8EncodeChar).take n) = true ↔
      isContinuation ((chars.flatMap utf8EncodeChar).getD n 0) = false := by
  induction chars generalizing n with
  | nil => simp at hn
  | cons ch chars ih =>
    rw [List.flatMap_cons] at hn ⊢
    by_cases hwithin : n < (utf8EncodeChar ch).length
    · rw [List.take_append_of_le_length hwithin.le, List.getD_append _ _ _ _ hwithin]
      rcases Nat.eq_zero_or_pos n with rfl | hpos
      · simp only [List.take_zero, head_not_continuation, iff_true]
        rfl
      · rw [(cut_within hpos hwithin).1, (cut_within hpos hwithin).2]
        simp
    · rw [List.take_append, List.take_of_length_le (by omega), accepted_append,
        List.getD_append_right _ _ _ _ (by omega)]
      rw [List.length_append] at hn
      exact ih (by omega)

lemma walkBack_le (text : Bytes) (n : ℕ) : walkBack text n ≤ n := by
  induction n with
  | zero => rfl
  | succ n ih =>
    rw [walkBack]
    split <;> omega

/-- The walk ends at the start of the text, or before a byte that is no continuation byte. -/
lemma walkBack_stops (text : Bytes) (n : ℕ) :
    walkBack text n = 0 ∨ isContinuation (text.getD (walkBack text n) 0) = false := by
  induction n with
  | zero => exact .inl rfl
  | succ n ih =>
    rw [walkBack]
    split
    case isTrue => exact ih
    case isFalse h => exact .inr (by simpa using h)

lemma walkBack_passes (text : Bytes) {n k : ℕ} (hlt : walkBack text n < k) (hle : k ≤ n) :
    isContinuation (text.getD k 0) = true := by
  induction n with
  | zero => omega
  | succ n ih =>
    rw [walkBack] at hlt
    split at hlt
    case isTrue h =>
      rcases Nat.lt_or_eq_of_le hle with hlt' | rfl
      · exact ih hlt (by omega)
      · exact h
    case isFalse => omega

lemma prefixLength_greatest {text : Bytes} (h : isValidUtf8 text = true) (maxBytes : ℕ) :
    IsGreatest {n | n ≤ text.length ∧ n ≤ maxBytes ∧ isValidUtf8 (text.take n) = true}
      (utf8PrefixLength text maxBytes) := by
  obtain ⟨chars, hchars⟩ := encoding_of_accepted h
  have hcut {n : ℕ} (hn : n < text.length) :
      isValidUtf8 (text.take n) = true ↔ isContinuation (text.getD n 0) = false := by
    rw [hchars] at hn ⊢
    exact cut_iff chars hn
  unfold utf8PrefixLength
  split
  case isTrue hle => exact ⟨⟨le_rfl, hle, by rwa [List.take_length]⟩, fun n hn => hn.1⟩
  case isFalse hgt =>
    have hwalk := walkBack_le text maxBytes
    refine ⟨⟨by omega, hwalk, ?_⟩, ?_⟩
    · rcases walkBack_stops text maxBytes with hzero | hstop
      · rw [hzero]
        rfl
      · exact (hcut (by omega)).mpr hstop
    · rintro n ⟨hlen, hmax, hvalid⟩
      by_contra hbeyond
      have hpass := walkBack_passes text (k := n) (by omega) hmax
      rw [(hcut (by omega)).mp hvalid] at hpass
      cases hpass

/-- Accepted are exactly the encodings of characters, and a cut is as long as the limit allows. -/
theorem utf8_exact :
    (∀ text, isValidUtf8 text = true ↔ ∃ chars : List Char, text = chars.flatMap utf8EncodeChar) ∧
    (∀ text, isValidUtf8 text = true → ∀ maxBytes,
      IsGreatest {n | n ≤ text.length ∧ n ≤ maxBytes ∧ isValidUtf8 (text.take n) = true}
        (utf8PrefixLength text maxBytes)) := by
  refine ⟨fun text => ⟨encoding_of_accepted, ?_⟩, fun _ => prefixLength_greatest⟩
  rintro ⟨chars, rfl⟩
  exact accepted_encoding chars

/-- A three-byte character does not fit into two bytes. -/
theorem utf8_exact_euro :
    IsGreatest {n | n ≤ [0xE2, 0x82, 0xAC].length ∧ n ≤ 2 ∧ isValidUtf8 ([0xE2, 0x82, 0xAC].take n) = true}
      (utf8PrefixLength [0xE2, 0x82, 0xAC] 2) :=
  utf8_exact.2 [0xE2, 0x82, 0xAC] (by decide) 2

end InterClusterFabric.CoreUtf8
