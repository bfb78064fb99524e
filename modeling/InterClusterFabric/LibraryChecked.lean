import Mathlib.Tactic

/-! Early returns. A checked function is a chain of tests in `Except`; these lemmas take a
successful chain apart again. -/
namespace InterClusterFabric.LibraryChecked

variable {ε α β : Type}

/-- Return the error at once if the condition holds. -/
def rejectIf {m : Type → Type} [Monad m] [MonadExcept ε m] (c : Prop) [Decidable c] (e : ε) : m Unit :=
  if c then throw e else pure ()

/-- The value looked up, or the error if there is none. -/
def orReject {m : Type → Type} [Monad m] [MonadExcept ε m] (o : Option α) (e : ε) : m α :=
  match o with
  | some a => pure a
  | none => throw e

lemma throw_ne_ok {e : ε} {a : α} : (throw e : Except ε α) ≠ .ok a := by
  intro h
  cases h

lemma orReject_eq_ok {o : Option α} {e : ε} {a : α} :
    (orReject o e : Except ε α) = .ok a ↔ o = some a := by
  cases o with
  | none => simp [orReject, throw_ne_ok]
  | some b => simp [orReject, pure, Except.pure]

lemma bind_eq_ok {x : Except ε α} {f : α → Except ε β} {b : β} :
    (x >>= f) = .ok b ↔ ∃ a, x = .ok a ∧ f a = .ok b := by
  cases x with
  | error e => simp [bind, Except.bind]
  | ok a => simp [bind, Except.bind]

lemma rejectIf_eq_ok {c : Prop} [Decidable c] {e : ε} {u : Unit} :
    (rejectIf c e : Except ε Unit) = .ok u ↔ ¬c := by
  by_cases h : c
  · simp [rejectIf, h, throw, throwThe, MonadExceptOf.throw]
  · simp [rejectIf, h, pure, Except.pure]

/-- A successful chain passed its first test. -/
lemma rejectIf_bind_eq_ok {c : Prop} [Decidable c] {e : ε} {f : Unit → Except ε β} {b : β} :
    ((rejectIf c e : Except ε Unit) >>= f) = .ok b ↔ ¬c ∧ f () = .ok b := by
  rw [bind_eq_ok]
  constructor
  · rintro ⟨a, ha, hf⟩
    exact ⟨rejectIf_eq_ok.mp ha, hf⟩
  · rintro ⟨hc, hf⟩
    exact ⟨(), rejectIf_eq_ok.mpr hc, hf⟩

/-- Whatever error comes out satisfies `P`. -/
def ErrorsIn (P : ε → Prop) (x : Except ε α) : Prop := ∀ e, x = .error e → P e

namespace ErrorsIn

variable {P : ε → Prop}

lemma pure (a : α) : ErrorsIn P (Pure.pure a : Except ε α) := by
  intro e h
  cases h

lemma throw {e : ε} (h : P e) : ErrorsIn P (MonadExcept.throw e : Except ε α) := by
  rintro e' ⟨⟩
  exact h

lemma reject {c : Prop} [Decidable c] {e : ε} (h : P e) : ErrorsIn P (rejectIf c e : Except ε Unit) := by
  unfold rejectIf
  split
  · exact throw h
  · exact pure ()

lemma lookup {o : Option α} {e : ε} (h : P e) : ErrorsIn P (orReject o e : Except ε α) := by
  cases o with
  | none => exact throw h
  | some a => exact pure a

lemma bind {x : Except ε α} {f : α → Except ε β} (hx : ErrorsIn P x) (hf : ∀ a, ErrorsIn P (f a)) :
    ErrorsIn P (x >>= f) := by
  intro e h
  cases x with
  | error e' =>
    have he : e' = e := Except.error.inj h
    exact he ▸ hx e' rfl
  | ok a => exact hf a e h

/-- A test that is passed gives no error. -/
lemma passed {c : Prop} [Decidable c] {e : ε} {f : Unit → Except ε β} (hc : ¬c) (hf : ErrorsIn P (f ())) :
    ErrorsIn P ((rejectIf c e : Except ε Unit) >>= f) := by
  intro e' h
  rw [rejectIf, if_neg hc] at h
  exact hf e' h

end ErrorsIn

end InterClusterFabric.LibraryChecked
