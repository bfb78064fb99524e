import Mathlib.Tactic

/-! A state that takes a text in blocks of a fixed size. What does not fill a block is held back
until more of the text comes. -/
namespace InterClusterFabric.LibraryBlocks

variable {σ α : Type} (size : ℕ) (step : σ → List α → σ)

/-- Takes the first `count` blocks of a text. -/
def foldBlocks : ℕ → σ → List α → σ
  | 0, state, _ => state
  | count + 1, state, text => foldBlocks count (step state (text.take size)) (text.drop size)

variable {size step}

lemma foldBlocks_succ (count : ℕ) (state : σ) (text : List α) :
    foldBlocks size step (count + 1) state text =
      step (foldBlocks size step count state text) ((text.drop (size * count)).take size) := by
  induction count generalizing state text with
  | zero => simp [foldBlocks]
  | succ count ih =>
    have hdrop : (text.drop size).drop (size * count) = text.drop (size * (count + 1)) := by
      rw [List.drop_drop, Nat.mul_succ, Nat.add_comm]
    rw [foldBlocks, ih, hdrop, foldBlocks]

/-- Blocks that are complete do not depend on what follows them. -/
lemma foldBlocks_append {count : ℕ} (state : σ) {text : List α} (more : List α) (h : size * count ≤ text.length) :
    foldBlocks size step count state (text ++ more) = foldBlocks size step count state text := by
  induction count generalizing state text with
  | zero => rfl
  | succ count ih =>
    rw [Nat.mul_succ] at h
    have hsize : size ≤ text.length := by omega
    have hrest : size * count ≤ (text.drop size).length := by
      rw [List.length_drop]
      omega
    rw [foldBlocks, foldBlocks, List.take_append_of_le_length hsize, List.drop_append_of_le_length hsize, ih _ hrest]

/-- The state has taken every complete block of the text, and the rest of the text is held. -/
structure Absorbed (size : ℕ) (step : σ → List α → σ) (init : σ) (text : List α) (state : σ) (held : List α) :
    Prop where
  state_eq : state = foldBlocks size step (text.length / size) init text
  held_eq : held = text.drop (size * (text.length / size))

namespace Absorbed
variable {init state : σ} {text held : List α}

lemma nil : Absorbed size step init [] init [] := ⟨by simp [foldBlocks], by simp⟩

lemma length_held (h : Absorbed size step init text state held) : held.length = text.length % size := by
  rw [h.held_eq, List.length_drop]
  have := Nat.div_add_mod text.length size
  omega

lemma length_text (h : Absorbed size step init text state held) :
    text.length = size * (text.length / size) + held.length := by
  rw [h.length_held, Nat.div_add_mod]

/-- More text that does not complete the block is held as well. -/
lemma keep (h : Absorbed size step init text state held) (more : List α) (hroom : held.length + more.length < size) :
    Absorbed size step init (text ++ more) state (held ++ more) := by
  have hlen := h.length_text
  have hcount : (text ++ more).length / size = text.length / size := by
    rw [List.length_append]
    apply Nat.div_eq_of_lt_le
    · rw [Nat.mul_comm]
      omega
    · rw [Nat.mul_comm, Nat.mul_succ]
      omega
  constructor
  · rw [hcount, foldBlocks_append init more (by omega)]
    exact h.state_eq
  · rw [hcount, List.drop_append_of_le_length (by omega), ← h.held_eq]

/-- Text that completes the block lets the state take it. -/
lemma flush (h : Absorbed size step init text state held) (more : List α) (hsize : 0 < size)
    (hfull : held.length + more.length = size) :
    Absorbed size step init (text ++ more) (step state (held ++ more)) [] := by
  have hlen := h.length_text
  have hcount : (text ++ more).length / size = text.length / size + 1 := by
    rw [List.length_append]
    apply Nat.div_eq_of_lt_le
    · rw [Nat.mul_comm, Nat.mul_succ]
      omega
    · rw [Nat.mul_comm, Nat.mul_succ, Nat.mul_succ]
      omega
  constructor
  · rw [hcount, foldBlocks_succ, foldBlocks_append init more (by omega), List.drop_append_of_le_length (by omega),
      ← h.held_eq, ← h.state_eq, List.take_of_length_le (by simp [hfull])]
  · rw [hcount, List.drop_eq_nil_of_le]
    rw [List.length_append, Nat.mul_succ]
    omega

end Absorbed

end InterClusterFabric.LibraryBlocks
