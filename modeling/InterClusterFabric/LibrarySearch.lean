import Mathlib.Tactic

/-! Binary search for the first position of a list at which a test stops holding. -/
namespace InterClusterFabric.LibrarySearch

variable {α : Type}

/-- The halving loop of `std::lower_bound` on the window of `count` items from `first`;
the window shrinks at every turn, so `count` turns are enough. -/
def lowerBoundLoop (before : α → Bool) (xs : List α) : ℕ → ℕ → ℕ → ℕ
  | 0, first, _ => first
  | fuel + 1, first, count =>
    if count = 0 then first
    else
      let step := count / 2
      match xs[first + step]? with
      | none => first
      | some x =>
        if before x then lowerBoundLoop before xs fuel (first + step + 1) (count - step - 1)
        else lowerBoundLoop before xs fuel first step

def lowerBound (before : α → Bool) (xs : List α) : ℕ :=
  lowerBoundLoop before xs xs.length 0 xs.length

/-- The test holds on the first `k` items and on none of the others. -/
def SplitsAt (before : α → Bool) (xs : List α) (k : ℕ) : Prop :=
  k ≤ xs.length ∧ (∀ i x, xs[i]? = some x → (before x = true ↔ i < k))

lemma lowerBoundLoop_eq {before : α → Bool} {xs : List α} {k : ℕ} (hk : SplitsAt before xs k)
    (fuel first count : ℕ) (hfuel : count ≤ fuel) (hlo : first ≤ k) (hhi : k ≤ first + count)
    (hlen : first + count ≤ xs.length) : lowerBoundLoop before xs fuel first count = k := by
  induction fuel generalizing first count with
  | zero =>
    have : count = 0 := by omega
    simp only [lowerBoundLoop]
    omega
  | succ fuel ih =>
    by_cases hcount : count = 0
    · simp only [lowerBoundLoop, hcount, if_true]
      omega
    · have hstep : count / 2 < count := Nat.div_lt_self (by omega) (by omega)
      have hget : xs[first + count / 2]? = some (xs[first + count / 2]) :=
        List.getElem?_eq_getElem (by omega)
      have hsplit := hk.2 _ _ hget
      simp only [lowerBoundLoop, hcount, if_false, hget]
      by_cases hb : before xs[first + count / 2] = true
      · rw [if_pos hb]
        have := hsplit.mp hb
        exact ih _ _ (by omega) (by omega) (by omega) (by omega)
      · rw [if_neg hb]
        have : ¬first + count / 2 < k := fun h => hb (hsplit.mpr h)
        exact ih _ _ (by omega) (by omega) (by omega) (by omega)

lemma lowerBound_eq {before : α → Bool} {xs : List α} {k : ℕ} (hk : SplitsAt before xs k) :
    lowerBound before xs = k :=
  lowerBoundLoop_eq hk _ _ _ le_rfl (Nat.zero_le k) (by simpa using hk.1) (by omega)

/-- On a list ordered by a test, the items that pass come first. -/
lemma splitsAt_of_pairwise {before : α → Bool} {xs : List α}
    (h : xs.Pairwise fun x y => before y = true → before x = true) :
    SplitsAt before xs (xs.countP before) := by
  induction xs with
  | nil => exact ⟨le_rfl, by simp⟩
  | cons x xs ih =>
    obtain ⟨hhead, htail⟩ := List.pairwise_cons.mp h
    obtain ⟨hle, hsplit⟩ := ih htail
    by_cases hx : before x = true
    · refine ⟨by simpa [List.countP_cons, hx] using hle, fun i y hy => ?_⟩
      cases i with
      | zero =>
        simp only [List.getElem?_cons_zero, Option.some.injEq] at hy
        simp [← hy, hx]
      | succ i =>
        simp only [List.getElem?_cons_succ] at hy
        simpa [List.countP_cons, hx] using hsplit i y hy
    · have hnone : ∀ y ∈ xs, ¬before y = true := fun y hy hb => hx (hhead y hy hb)
      have hzero : (x :: xs).countP before = 0 := by
        simpa [List.countP_eq_zero, hx] using hnone
      refine ⟨by omega, fun i y hy => ?_⟩
      have hmem : y ∈ x :: xs := List.mem_of_getElem? hy
      have : ¬before y = true := by
        rcases List.mem_cons.mp hmem with rfl | hmem
        · exact hx
        · exact hnone y hmem
      simp [hzero, this]

end InterClusterFabric.LibrarySearch
