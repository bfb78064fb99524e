import Mathlib.Tactic

/-! Decimal digits in ASCII: the value of a string of digits, and the digits of a number at a fixed
width. Each determines the other. -/
namespace InterClusterFabric.LibraryDigits

def isDigit (c : UInt8) : Bool := 48 ≤ c && c ≤ 57

def digitValue (c : UInt8) : ℕ := c.toNat - 48

/-- The number read so far, continued by the digits of a text. -/
def valueFrom (value : ℕ) (text : List UInt8) : ℕ := text.foldl (fun value c => value * 10 + digitValue c) value

/-- The lowest `width` digits of a number, the highest one first. -/
def fixedDigits : ℕ → ℕ → List UInt8
  | 0, _ => []
  | width + 1, n => fixedDigits width (n / 10) ++ [UInt8.ofNat (48 + n % 10)]

lemma isDigit_iff (c : UInt8) : isDigit c = true ↔ 48 ≤ c.toNat ∧ c.toNat ≤ 57 := by
  simp only [isDigit, Bool.and_eq_true, decide_eq_true_eq, UInt8.le_iff_toNat_le]
  rfl

lemma toNat_digit (n : ℕ) : (UInt8.ofNat (48 + n % 10)).toNat = 48 + n % 10 := by
  rw [UInt8.toNat_ofNat']
  omega

lemma isDigit_digit (n : ℕ) : isDigit (UInt8.ofNat (48 + n % 10)) = true := by
  rw [isDigit_iff, toNat_digit]
  omega

lemma digitValue_digit (n : ℕ) : digitValue (UInt8.ofNat (48 + n % 10)) = n % 10 := by
  rw [digitValue, toNat_digit]
  omega

lemma digitValue_lt {c : UInt8} (h : isDigit c = true) : digitValue c < 10 := by
  rw [isDigit_iff] at h
  rw [digitValue]
  omega

lemma digit_digitValue {c : UInt8} (h : isDigit c = true) : UInt8.ofNat (48 + digitValue c % 10) = c := by
  rw [isDigit_iff] at h
  apply UInt8.toNat_inj.mp
  rw [toNat_digit, digitValue]
  omega

@[simp] lemma valueFrom_nil (value : ℕ) : valueFrom value [] = value := rfl

lemma valueFrom_concat (value : ℕ) (text : List UInt8) (c : UInt8) :
    valueFrom value (text ++ [c]) = valueFrom value text * 10 + digitValue c := by
  rw [valueFrom, List.foldl_concat]
  rfl

lemma valueFrom_append (value : ℕ) (text more : List UInt8) :
    valueFrom value (text ++ more) = valueFrom (valueFrom value text) more := List.foldl_append

@[simp] lemma length_fixedDigits (width n : ℕ) : (fixedDigits width n).length = width := by
  induction width generalizing n with
  | zero => rfl
  | succ width ih => rw [fixedDigits, List.length_append, ih, List.length_singleton]

lemma isDigit_fixedDigits {width n : ℕ} : ∀ c ∈ fixedDigits width n, isDigit c = true := by
  induction width generalizing n with
  | zero => simp [fixedDigits]
  | succ width ih =>
    intro c hc
    rw [fixedDigits, List.mem_append, List.mem_singleton] at hc
    rcases hc with hc | rfl
    · exact ih c hc
    · exact isDigit_digit n

lemma valueFrom_fixedDigits (value : ℕ) {width n : ℕ} (h : n < 10 ^ width) :
    valueFrom value (fixedDigits width n) = value * 10 ^ width + n := by
  induction width generalizing n with
  | zero =>
    rw [pow_zero] at h
    simp only [fixedDigits, valueFrom_nil, pow_zero]
    omega
  | succ width ih =>
    rw [pow_succ] at h
    rw [fixedDigits, valueFrom_concat, ih (by omega), digitValue_digit, pow_succ, add_mul, mul_assoc]
    omega

/-- A string of digits is that of its value. -/
lemma eq_fixedDigits {text : List UInt8} (h : ∀ c ∈ text, isDigit c = true) :
    text = fixedDigits text.length (valueFrom 0 text) := by
  induction text using List.reverseRecOn with
  | nil => rfl
  | append_singleton text c ih =>
    have hc := h c (by simp)
    have hlt := digitValue_lt hc
    have htext := ih fun c hmem => h c (by simp [hmem])
    have hdiv : (valueFrom 0 text * 10 + digitValue c) / 10 = valueFrom 0 text := by omega
    have hmod : (valueFrom 0 text * 10 + digitValue c) % 10 = digitValue c % 10 := by omega
    rw [valueFrom_concat, List.length_append, List.length_singleton, fixedDigits, hdiv, hmod, ← htext,
      digit_digitValue hc]

lemma valueFrom_lt {text : List UInt8} (h : ∀ c ∈ text, isDigit c = true) : valueFrom 0 text < 10 ^ text.length := by
  induction text using List.reverseRecOn with
  | nil => decide
  | append_singleton text c ih =>
    have hlt := digitValue_lt (h c (by simp))
    have htext := ih fun c hmem => h c (by simp [hmem])
    rw [valueFrom_concat, List.length_append, List.length_singleton, pow_succ]
    omega

end InterClusterFabric.LibraryDigits
