import Mathlib.Tactic

/-! A reflected shift register with feedback: message bits enter at the low end, and a bit that
leaves the register as one adds the polynomial. Everything follows from linearity over exclusive
or and, where the polynomial's highest bit is set, from what a clear highest bit says of the step. -/
namespace InterClusterFabric.LibraryRegister

variable {w : ℕ} (poly : BitVec w)

/-- One message bit enters. -/
def shift (c : BitVec w) (bit : Bool) : BitVec w :=
  if c.getLsbD 0 ^^ bit then c >>> 1 ^^^ poly else c >>> 1

def run (c : BitVec w) (bits : List Bool) : BitVec w := bits.foldl (shift poly) c

/-- The lowest `n` bits of a word, the least significant first. -/
def lowBits (b : BitVec w) (n : ℕ) : List Bool := (List.range n).map b.getLsbD

@[simp] lemma run_nil (c : BitVec w) : run poly c [] = c := rfl

@[simp] lemma run_cons (c : BitVec w) (bit : Bool) (bits : List Bool) :
    run poly c (bit :: bits) = run poly (shift poly c bit) bits := rfl

lemma run_append (c : BitVec w) (bits more : List Bool) :
    run poly c (bits ++ more) = run poly (run poly c bits) more := List.foldl_append

@[simp] lemma length_lowBits (b : BitVec w) (n : ℕ) : (lowBits b n).length = n := by simp [lowBits]

lemma lowBits_succ (b : BitVec w) (n : ℕ) : lowBits b (n + 1) = lowBits b n ++ [b.getLsbD n] := by
  simp [lowBits, List.range_succ]

/-! Linearity. -/

lemma shift_xor (c d : BitVec w) (bit bit' : Bool) :
    shift poly (c ^^^ d) (bit ^^ bit') = shift poly c bit ^^^ shift poly d bit' := by
  have hlow : ((c ^^^ d).getLsbD 0 ^^ (bit ^^ bit')) = ((c.getLsbD 0 ^^ bit) ^^ (d.getLsbD 0 ^^ bit')) := by
    rw [BitVec.getLsbD_xor]
    cases c.getLsbD 0 <;> cases d.getLsbD 0 <;> cases bit <;> cases bit' <;> rfl
  simp only [shift, hlow, BitVec.ushiftRight_xor_distrib]
  generalize c >>> 1 = x
  generalize d >>> 1 = y
  cases c.getLsbD 0 ^^ bit with
  | false =>
    cases d.getLsbD 0 ^^ bit' with
    | false => rfl
    | true => exact BitVec.xor_assoc x y poly
  | true =>
    cases d.getLsbD 0 ^^ bit' with
    | false =>
      show x ^^^ y ^^^ poly = x ^^^ poly ^^^ y
      rw [BitVec.xor_assoc, BitVec.xor_comm y, ← BitVec.xor_assoc]
    | true =>
      show x ^^^ y = x ^^^ poly ^^^ (y ^^^ poly)
      rw [BitVec.xor_comm y, BitVec.xor_assoc, ← BitVec.xor_assoc poly, BitVec.xor_self, BitVec.zero_xor]

lemma run_xor {bits bits' : List Bool} (h : bits.length = bits'.length) (c d : BitVec w) :
    run poly (c ^^^ d) (List.zipWith xor bits bits') = run poly c bits ^^^ run poly d bits' := by
  induction bits generalizing bits' c d with
  | nil =>
    cases bits' with
    | nil => rfl
    | cons => simp at h
  | cons bit bits ih =>
    cases bits' with
    | nil => simp at h
    | cons bit' bits' =>
      have hrest : bits.length = bits'.length := by simpa using h
      rw [List.zipWith_cons_cons, run_cons, run_cons, run_cons, shift_xor]
      exact ih hrest _ _

/-- Bits that are already in the register cancel against the same bits coming in. -/
lemma run_lowBits (c b : BitVec w) (n : ℕ) :
    run poly c (lowBits b n) = run poly (c ^^^ b) (List.replicate n false) ^^^ b >>> n := by
  induction n with
  | zero => simp [lowBits, BitVec.xor_assoc]
  | succ n ih =>
    have hbit : shift poly (b >>> n) (b.getLsbD n) = b >>> (n + 1) := by
      simp [shift, BitVec.shiftRight_add]
    have hlast : shift poly (run poly c (lowBits b n)) (b.getLsbD n) =
        shift poly (run poly (c ^^^ b) (List.replicate n false)) false ^^^ b >>> (n + 1) := by
      rw [ih, ← hbit, ← shift_xor, Bool.false_xor]
    rw [lowBits_succ, run_append, List.replicate_succ', run_append]
    exact hlast

lemma run_zero (n : ℕ) : run poly (0#w) (List.replicate n false) = 0#w := by
  induction n with
  | zero => rfl
  | succ n ih =>
    have hzero : shift poly (0#w) false = 0#w := by simp [shift]
    rwa [List.replicate_succ, run_cons, hzero]

/-- A word whose lowest bits are clear only moves down. -/
lemma run_high {b : BitVec w} {n : ℕ} (h : ∀ i < n, b.getLsbD i = false) :
    run poly b (List.replicate n false) = b >>> n := by
  have hlow : lowBits b n = List.replicate n false := by
    apply List.eq_replicate_iff.mpr
    simpa [lowBits] using h
  rw [← hlow, run_lowBits, BitVec.xor_self, run_zero, BitVec.zero_xor]

/-- The shifts of a word are those of its lowest bits, and the rest of it moved down. -/
lemma run_split (c low : BitVec w) (n : ℕ) (h : ∀ i < n, c.getLsbD i = low.getLsbD i) (hlow : low >>> n = 0#w) :
    run poly c (List.replicate n false) = run poly low (List.replicate n false) ^^^ c >>> n := by
  have hhigh : ∀ i < n, (low ^^^ c).getLsbD i = false := by
    intro i hi
    rw [BitVec.getLsbD_xor, h i hi, Bool.xor_self]
  have hsum := run_xor poly (c := low) (d := low ^^^ c) (rfl : (List.replicate n false).length = _)
  have hzeros : List.zipWith xor (List.replicate n false) (List.replicate n false) = List.replicate n false := by
    simp
  rw [hzeros, run_high poly hhigh, BitVec.ushiftRight_xor_distrib, hlow, ← BitVec.xor_assoc, BitVec.xor_self,
    BitVec.zero_xor, BitVec.zero_xor] at hsum
  exact hsum

/-! A polynomial whose highest bit is set. -/

section TopBit
variable {poly} (htop : poly.getLsbD (w - 1) = true)
include htop

lemma shift_top (c : BitVec w) (bit : Bool) : (shift poly c bit).getLsbD (w - 1) = (c.getLsbD 0 ^^ bit) := by
  have hpos : 0 < w := by
    by_contra hw
    rw [BitVec.getLsbD_of_ge _ _ (by omega)] at htop
    cases htop
  have hshift : (c >>> 1).getLsbD (w - 1) = false := by
    rw [BitVec.getLsbD_ushiftRight]
    exact BitVec.getLsbD_of_ge _ _ (by omega)
  cases hlow : c.getLsbD 0 ^^ bit <;> simp only [shift, hlow]
  · simpa using hshift
  · simp [BitVec.getLsbD_xor, hshift, htop]

/-- A step loses nothing of the register. -/
lemma shift_injective (bit : Bool) : Function.Injective fun c => shift poly c bit := by
  intro c d h
  have hlow : c.getLsbD 0 = d.getLsbD 0 := by
    have hsame := congrArg (fun x => x.getLsbD (w - 1)) h
    simp only [shift_top htop] at hsame
    simpa using hsame
  have hhigh : c >>> 1 = d >>> 1 := by
    simp only [shift, hlow] at h
    split at h
    · exact BitVec.xor_right_inj poly |>.mp (by simpa [BitVec.xor_comm] using h)
    · exact h
  apply BitVec.eq_of_getLsbD_eq
  intro i hi
  cases i with
  | zero => exact hlow
  | succ i =>
    have hbit := congrArg (fun x => x.getLsbD i) hhigh
    simpa [BitVec.getLsbD_ushiftRight, Nat.add_comm] using hbit

lemma run_injective (bits : List Bool) : Function.Injective fun c => run poly c bits := by
  induction bits with
  | nil => exact fun _ _ h => h
  | cons bit bits ih => exact fun _ _ h => shift_injective htop bit (ih h)

/-- Where the highest bits of the result are clear, nothing was fed back: the bits that came in
are those the register held. -/
lemma run_clear {c : BitVec w} {bits : List Bool} (hlen : bits.length ≤ w)
    (h : ∀ i, w ≤ i + bits.length → (run poly c bits).getLsbD i = false) :
    run poly c bits = c >>> bits.length ∧ bits = lowBits c bits.length := by
  induction bits generalizing c with
  | nil => simp [lowBits]
  | cons bit bits ih =>
    rw [List.length_cons] at hlen h
    obtain ⟨hrun, hbits⟩ := ih (c := shift poly c bit) (by omega) (fun i hi => h i (by omega))
    have hbit : (c.getLsbD 0 ^^ bit) = false := by
      have hclear := h (w - 1 - bits.length) (by omega)
      rw [run_cons, hrun, BitVec.getLsbD_ushiftRight] at hclear
      rwa [← shift_top htop, show w - 1 = bits.length + (w - 1 - bits.length) by omega]
    have hshift : shift poly c bit = c >>> 1 := by simp [shift, hbit]
    constructor
    · rw [run_cons, hrun, hshift, List.length_cons, Nat.add_comm, BitVec.shiftRight_add]
    · rw [hshift] at hbits
      have hfirst : bit = c.getLsbD 0 := by
        cases bit <;> simpa using hbit
      rw [List.length_cons, lowBits, List.range_succ_eq_map, List.map_cons, ← hfirst]
      nth_rewrite 1 [hbits]
      simp [lowBits, BitVec.getLsbD_ushiftRight, Nat.add_comm, Function.comp_def]

/-- Two messages of one length that the register does not tell apart agree everywhere, as soon as
they differ only inside a window no longer than the register. -/
lemma run_window {c : BitVec w} {before bits bits' after : List Bool} (hsame : bits.length = bits'.length)
    (hlen : bits.length ≤ w)
    (h : run poly c (before ++ bits ++ after) = run poly c (before ++ bits' ++ after)) : bits = bits' := by
  have hmid : run poly (run poly c before) bits = run poly (run poly c before) bits' := by
    rw [run_append, run_append, run_append, run_append] at h
    exact run_injective htop after h
  have hdiff : run poly (0#w) (List.zipWith xor bits bits') = 0#w := by
    have hsum := run_xor poly hsame (run poly c before) (run poly c before)
    rwa [hmid, BitVec.xor_self, BitVec.xor_self] at hsum
  have hzip : (List.zipWith xor bits bits').length = bits.length := by
    rw [List.length_zipWith, hsame, Nat.min_self]
  have hclear := (run_clear htop (hzip.trans_le hlen) (fun i _ => by rw [hdiff]; simp)).2
  apply List.ext_getElem hsame
  intro i hi hi'
  have hbit := congrArg (fun xs => xs[i]?) hclear
  simp only [lowBits] at hbit
  rw [List.getElem?_zipWith, List.getElem?_map, List.getElem?_range (by omega)] at hbit
  simpa [hi, hi'] using hbit

end TopBit

end InterClusterFabric.LibraryRegister
