import InterClusterFabric.LibraryReader

/-! Readers that do not look ahead: what such a reader did on some bytes it does on any longer input, and it leaves
what was added where it is. One that also gives a value back on some bytes refuses every strict prefix of them. -/
namespace InterClusterFabric.LibraryStable
open LibraryChecked LibraryReader

variable {ε α β σ : Type}

class Stable (p : Reader ε α) : Prop where
  extend : ∀ {bytes rest : List UInt8} {a : α} (tail : List UInt8),
    p.run bytes = .ok (a, rest) → p.run (bytes ++ tail) = .ok (a, rest ++ tail)

/-! How stable readers compose. -/

instance (a : α) : Stable (pure a : Reader ε α) where
  extend tail h := by
    cases h
    rfl

instance (e : ε) : Stable (throw e : Reader ε α) where
  extend tail h := by cases h

instance (p : Reader ε α) (f : α → Reader ε β) [Stable p] [∀ a, Stable (f a)] : Stable (p >>= f) where
  extend {bytes rest b} tail h := by
    have run_bind (input : List UInt8) : (p >>= f).run input = p.run input >>= fun x => (f x.1).run x.2 := rfl
    rw [run_bind] at h ⊢
    obtain ⟨⟨a, mid⟩, hp, hf⟩ := bind_eq_ok.mp h
    apply bind_eq_ok.mpr
    exact ⟨(a, mid ++ tail), Stable.extend tail hp, Stable.extend tail hf⟩

instance (g : α → β) (p : Reader ε α) [Stable p] : Stable (g <$> p) :=
  inferInstanceAs (Stable (p >>= fun x => pure (g x)))

instance (c : Prop) [Decidable c] (p q : Reader ε α) [Stable p] [Stable q] : Stable (if c then p else q) := by
  split <;> infer_instance

instance (c : Prop) [Decidable c] (e : ε) : Stable (rejectIf c e : Reader ε Unit) := by
  unfold rejectIf
  infer_instance

instance (r : Except ε α) : Stable (liftM r : Reader ε α) where
  extend tail h := by
    cases r with
    | error e => cases h
    | ok a =>
      cases h
      rfl

instance (item : Reader ε α) (put : σ → α → Except ε σ) [Stable item] (n : ℕ) (acc : σ) :
    Stable (readFold item put n acc) := by
  induction n generalizing acc with
  | zero =>
    unfold readFold
    infer_instance
  | succ n ih =>
    unfold readFold
    infer_instance

instance (short : ε) (count : ℕ) : Stable (takeBytes short count) where
  extend {bytes rest a} tail h := by
    simp only [takeBytes, StateT.run] at h ⊢
    split at h
    · cases h
    · rename_i hlength
      cases h
      have hle : count ≤ bytes.length := by omega
      rw [List.length_append, if_neg (by omega), List.take_append_of_le_length hle, List.drop_append_of_le_length hle]

instance (short : ε) (w : ℕ) : Stable (readNat short w) := by
  unfold readNat
  infer_instance

/-! Exactness. -/

/-- On `bytes` alone `p` returns `a`; it takes no strict prefix of them and no strict extension. -/
structure Exact (p : Reader ε α) (bytes : List UInt8) (a : α) : Prop where
  returns : p.run bytes = .ok (a, [])
  truncated : ∀ part, part <+: bytes → part ≠ bytes → ∃ e, p.run part = .error e
  extended : ∀ whole, bytes <+: whole → whole ≠ bytes → ∃ e, p.run whole = .error e

lemma Exact.map {p : Reader ε α} {bytes : List UInt8} {a : α} (g : α → β) (h : Exact p bytes a) :
    Exact (g <$> p) bytes (g a) := by
  have hrun (input : List UInt8) : (g <$> p).run input = p.run input >>= fun x => .ok (g x.1, x.2) := rfl
  refine ⟨?_, fun part hpart hne => ?_, fun whole hwhole hne => ?_⟩
  · rw [hrun, h.returns]
    rfl
  · obtain ⟨e, he⟩ := h.truncated part hpart hne
    exact ⟨e, by rw [hrun, he]; rfl⟩
  · obtain ⟨e, he⟩ := h.extended whole hwhole hne
    exact ⟨e, by rw [hrun, he]; rfl⟩

/-- Reads with `p`, and then nothing may be left. -/
def thenEnd (p : Reader ε α) (e : ε) : Reader ε α := do
  let a ← p
  let rest ← get
  rejectIf (rest ≠ []) e
  return a

lemma thenEnd_run (p : Reader ε α) (e : ε) (bytes : List UInt8) :
    (thenEnd p e).run bytes = p.run bytes >>= fun x => if x.2 ≠ [] then .error e else .ok x := by
  have hrun : (thenEnd p e).run bytes = p.run bytes >>= fun x =>
      (do rejectIf (x.2 ≠ []) e; return x.1 : Reader ε α).run x.2 := rfl
  rw [hrun]
  congr 1
  funext x
  by_cases h : x.2 = []
  · simp only [h, ne_eq, not_true_eq_false, if_false, rejectIf]
    cases x
    subst h
    rfl
  · simp only [h, ne_eq, not_false_eq_true, if_true, rejectIf]
    rfl

lemma thenEnd_ok {p : Reader ε α} {e : ε} {bytes rest : List UInt8} {a : α}
    (h : (thenEnd p e).run bytes = .ok (a, rest)) : p.run bytes = .ok (a, []) := by
  rw [thenEnd_run] at h
  obtain ⟨⟨b, mid⟩, hp, hend⟩ := bind_eq_ok.mp h
  split at hend
  · cases hend
  · rename_i hmid
    cases hend
    have hrest : rest = [] := not_not.mp hmid
    rw [hp, hrest]

/-- A stable reader that gives a value back on some bytes and then insists on the end is exact on them. -/
lemma exact_of_reads {p : Reader ε α} [Stable p] {e : ε} {bytes : List UInt8} {ok : Prop} {a : α}
    (h : Reads p bytes ok a) (hok : ok) : Exact (thenEnd p e) bytes a := by
  refine ⟨?_, ?_, ?_⟩
  · rw [thenEnd_run, h.run_eq hok]
    rfl
  · rintro part ⟨tail, rfl⟩ hne
    cases hrun : (thenEnd p e).run part with
    | error e => exact ⟨e, rfl⟩
    | ok x =>
      -- the reader would have stopped there on the whole input as well
      have hlong := Stable.extend tail (thenEnd_ok hrun)
      rw [h.run_eq hok] at hlong
      have htail : tail = [] := by
        cases hlong
        rfl
      exact absurd (by simp [htail]) hne
  · rintro whole ⟨tail, rfl⟩ hne
    have htail : tail ≠ [] := by
      intro htail
      exact hne (by simp [htail])
    refine ⟨e, ?_⟩
    rw [thenEnd_run, h.accept hok]
    exact if_pos htail

end InterClusterFabric.LibraryStable
