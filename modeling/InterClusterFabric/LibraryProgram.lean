import InterClusterFabric.LibraryReader
import Mathlib.Logic.Relation
import Mathlib.Tactic

/-! Stateful programs with early returns. An error ends the program and keeps the state reached so
far. `Steps R p s Q` says of the run of `p` from `s` that it ends in a state related to `s`, however
it ends, and that `Q` holds of the value and the state it returns. -/
namespace InterClusterFabric.LibraryProgram
open LibraryReader

variable {σ τ ε α β : Type}

/-- A program over the state `σ` that returns an `α` or fails with an `ε`. -/
def Program (σ ε α : Type) : Type := σ → Except ε α × σ

namespace Program

instance : Monad (Program σ ε) where
  pure a := fun s => (.ok a, s)
  bind p f := fun s =>
    match p s with
    | (.ok a, s') => f a s'
    | (.error e, s') => (.error e, s')

instance : MonadExcept ε (Program σ ε) where
  throw e := fun s => (.error e, s)
  tryCatch p handler := fun s =>
    match p s with
    | (.ok a, s') => (.ok a, s')
    | (.error e, s') => handler e s'

instance : MonadStateOf σ (Program σ ε) where
  get := fun s => (.ok s, s)
  set s := fun _ => (.ok (), s)
  modifyGet f := fun s => (.ok (f s).1, (f s).2)

/-- A computation that does not touch the state. -/
def ofResult (r : Except ε α) : Program σ ε α := fun s => (r, s)

/-- The program run to its end; a failure is returned as a value. -/
def attempt (p : Program σ ε α) : Program σ ε (Except ε α) := fun s => (.ok (p s).1, (p s).2)

/-- The program run to its end; a failure is dropped. -/
def ignore (p : Program σ ε α) : Program σ ε Unit := fun s => (.ok (), (p s).2)

/-- The program, if the condition holds. -/
def onlyIf (c : Prop) [Decidable c] (p : Program σ ε Unit) : Program σ ε Unit := if c then p else pure ()

/-- A change of the state that may be refused, and then leaves it as it is. -/
def update (f : σ → Except ε σ) : Program σ ε Unit := fun s =>
  match f s with
  | .ok s' => (.ok (), s')
  | .error e => (.error e, s)

/-- A program on a part of the state. -/
def focus (view : σ → τ) (update : σ → τ → σ) (p : Program τ ε α) : Program σ ε α := fun s =>
  ((p (view s)).1, update s (p (view s)).2)

/-- A loop that the first failure ends. -/
def forEach : List α → (α → Program σ ε Unit) → Program σ ε Unit
  | [], _ => pure ()
  | x :: xs, f => do
    f x
    forEach xs f

/-- A loop that carries a value and that the first failure ends. -/
def foldEach : List α → β → (β → α → Program σ ε β) → Program σ ε β
  | [], acc, _ => pure acc
  | x :: xs, acc, f => do
    let next ← f acc x
    foldEach xs next f

lemma bind_ok {p : Program σ ε α} {f : α → Program σ ε β} {s s' : σ} {a : α} (h : p s = (.ok a, s')) :
    (p >>= f) s = f a s' := by
  show (match p s with
    | (.ok a, s') => f a s'
    | (.error e, s') => (.error e, s')) = _
  rw [h]

/-- A program that begins by reading the state. -/
lemma get_bind_run (f : σ → Program σ ε β) (s : σ) : (MonadState.get >>= f) s = f s s := rfl

/-- A program that begins by changing the state. -/
lemma modify_bind_run (f : σ → σ) (g : Unit → Program σ ε β) (s : σ) :
    ((modify f : Program σ ε Unit) >>= g) s = g () (f s) := rfl

lemma bind_error {p : Program σ ε α} {f : α → Program σ ε β} {s s' : σ} {e : ε} (h : p s = (.error e, s')) :
    (p >>= f) s = (.error e, s') := by
  show (match p s with
    | (.ok a, s') => f a s'
    | (.error e, s') => (.error e, s')) = _
  rw [h]

lemma bind_assoc_run {γ : Type} (p : Program σ ε α) (f : α → Program σ ε β) (g : β → Program σ ε γ) (s : σ) :
    (p >>= f >>= g) s = (p >>= fun a => f a >>= g) s := by
  cases hp : p s with
  | mk r s' =>
    cases r with
    | error e =>
      have hleft : (p >>= f) s = (.error e, s') := bind_error hp
      rw [bind_error hleft, bind_error hp]
    | ok a =>
      have hleft : (p >>= f) s = f a s' := bind_ok hp
      rw [bind_ok hp]
      show (match (p >>= f) s with
        | (.ok b, s'') => g b s''
        | (.error e, s'') => (.error e, s'')) = _
      rw [hleft]
      rfl

/-- A loop over two lists, one after the other. -/
lemma foldEach_append (xs ys : List α) (acc : β) (f : β → α → Program σ ε β) (s : σ) :
    foldEach (xs ++ ys) acc f s = (foldEach xs acc f >>= fun b => foldEach ys b f) s := by
  induction xs generalizing acc s with
  | nil => rfl
  | cons x xs ih =>
    cases hx : f acc x s with
    | mk result s' =>
      cases result with
      | error e =>
        have hleft : foldEach (x :: xs ++ ys) acc f s = (.error e, s') := bind_error hx
        have hright : foldEach (x :: xs) acc f s = (.error e, s') := bind_error hx
        rw [hleft, bind_error hright]
      | ok b =>
        have hleft : foldEach (x :: xs ++ ys) acc f s = foldEach (xs ++ ys) b f s' := bind_ok hx
        have hright : foldEach (x :: xs) acc f s = foldEach xs b f s' := bind_ok hx
        rw [hleft, ih]
        show (match foldEach xs b f s' with
          | (.ok a, s'') => foldEach ys a f s''
          | (.error e, s'') => (.error e, s'')) = (match foldEach (x :: xs) acc f s with
          | (.ok a, s'') => foldEach ys a f s''
          | (.error e, s'') => (.error e, s''))
        rw [hright]

/-! Programs that look first and write last are a single change that may be refused. -/

lemma update_error {f : σ → Except ε σ} {s s' : σ} {e : ε} (h : update f s = (.error e, s')) : s' = s := by
  cases hf : f s with
  | ok next => simp [update, hf] at h
  | error e' =>
    rw [update, hf, Prod.mk.injEq] at h
    exact h.2.symm

lemma update_eq_ok {f : σ → Except ε σ} {s s' : σ} : update f s = (.ok (), s') ↔ f s = .ok s' := by
  cases hf : f s <;> simp [update, hf]

lemma modify_eq_update (f : σ → σ) : (modify f : Program σ ε Unit) = update fun s => .ok (f s) := rfl

lemma ofResult_bind_update (r : Except ε α) (f : α → σ → Except ε σ) :
    ((ofResult r : Program σ ε α) >>= fun a => update (f a)) = update fun s => r >>= fun a => f a s := by
  funext s
  cases r <;> rfl

lemma get_bind_update (f : σ → σ → Except ε σ) :
    ((MonadState.get : Program σ ε σ) >>= fun a => update (f a)) = update fun s => f s s := rfl

lemma focus_update {view : σ → τ} {put : σ → τ → σ} (hput : ∀ s, put s (view s) = s) (f : τ → Except ε τ) :
    focus view put (update f) = update fun s => f (view s) >>= fun t => pure (put s t) := by
  funext s
  cases hf : f (view s) with
  | ok t =>
    simp only [focus, update, hf]
    rfl
  | error e =>
    simp only [focus, update, hf, hput]
    rfl

/-- A loop of changes that may be refused, to its end. -/
lemma forEach_update {f : σ → α → Except ε σ} {p : α → Program σ ε Unit} (hp : ∀ x, p x = update (f · x)) {xs : List α}
    {s s' : σ} : forEach xs p s = (.ok (), s') ↔ putAll f s xs = .ok s' := by
  induction xs generalizing s with
  | nil => simp [forEach, putAll, pure]
  | cons x xs ih =>
    rw [forEach, putAll]
    cases hf : f s x with
    | error e =>
      have hstep : p x s = (.error e, s) := by rw [hp, update, hf]
      rw [bind_error hstep]
      simp [bind, Except.bind]
    | ok next =>
      have hstep : p x s = (.ok (), next) := by rw [hp, update_eq_ok, hf]
      rw [bind_ok hstep]
      exact ih

end Program

/-- The run of `p` from `s` stays within `R`, and returns only what `Q` allows. -/
structure Steps (R : σ → σ → Prop) (p : Program σ ε α) (s : σ) (Q : α → σ → Prop) : Prop where
  related : R s (p s).2
  returns : ∀ a, (p s).1 = .ok a → Q a (p s).2

namespace Steps

variable {R : σ → σ → Prop} {s : σ}

lemma mono {p : Program σ ε α} {Q Q' : α → σ → Prop} (h : Steps R p s Q) (hQ : ∀ a s', Q a s' → Q' a s') :
    Steps R p s Q' :=
  ⟨h.related, fun a ha => hQ a _ (h.returns a ha)⟩

/-- Two programs that run alike from the state. -/
lemma of_run {p q : Program σ ε α} {Q : α → σ → Prop} (hrun : p s = q s) (h : Steps R q s Q) : Steps R p s Q := by
  refine ⟨?_, fun a ha => ?_⟩
  · rw [hrun]
    exact h.related
  · rw [hrun] at ha ⊢
    exact h.returns a ha

/-- A weaker relation. -/
lemma weaken {R' : σ → σ → Prop} {p : Program σ ε α} {Q : α → σ → Prop} (h : Steps R p s Q)
    (hR : ∀ s', R s s' → R' s s') : Steps R' p s fun a s' => R s s' ∧ Q a s' :=
  ⟨hR _ h.related, fun a ha => ⟨h.related, h.returns a ha⟩⟩

/-- Two accounts of one run. -/
lemma and {R' : σ → σ → Prop} {p : Program σ ε α} {Q Q' : α → σ → Prop} (h : Steps R p s Q)
    (h' : Steps R' p s Q') : Steps (fun a b => R a b ∧ R' a b) p s fun a s' => Q a s' ∧ Q' a s' :=
  ⟨⟨h.related, h'.related⟩, fun a ha => ⟨h.returns a ha, h'.returns a ha⟩⟩

lemma get_bind {f : σ → Program σ ε β} {Q : β → σ → Prop} (h : Steps R (f s) s Q) :
    Steps R (MonadState.get >>= f) s Q :=
  ⟨h.related, h.returns⟩

section Refl

variable [Std.Refl R]

lemma pure {a : α} {Q : α → σ → Prop} (h : Q a s) : Steps R (Pure.pure a : Program σ ε α) s Q :=
  ⟨Std.Refl.refl s, fun b hb => by cases hb; exact h⟩

lemma throw {e : ε} {Q : α → σ → Prop} : Steps R (MonadExcept.throw e : Program σ ε α) s Q :=
  ⟨Std.Refl.refl s, fun _ hb => by cases hb⟩

lemma get {Q : σ → σ → Prop} (h : Q s s) : Steps R (MonadState.get : Program σ ε σ) s Q :=
  ⟨Std.Refl.refl s, fun b hb => by cases hb; exact h⟩

lemma onlyIf {c : Prop} [Decidable c] {p : Program σ ε Unit} {Q : Unit → σ → Prop}
    (hp : c → Steps R p s Q) (h : ¬c → Q () s) : Steps R (Program.onlyIf c p) s Q := by
  unfold Program.onlyIf
  split
  · exact hp ‹c›
  · exact pure (h ‹¬c›)

lemma ofResult {r : Except ε α} {Q : α → σ → Prop} (h : ∀ a, r = .ok a → Q a s) :
    Steps R (Program.ofResult r : Program σ ε α) s Q :=
  ⟨Std.Refl.refl s, h⟩

end Refl

lemma modify {f : σ → σ} {Q : Unit → σ → Prop} (hR : R s (f s)) (h : Q () (f s)) :
    Steps R (MonadState.modifyGet (fun s => ((), f s)) : Program σ ε Unit) s Q :=
  ⟨hR, fun _ _ => h⟩

lemma update [Std.Refl R] {f : σ → Except ε σ} {Q : Unit → σ → Prop}
    (h : ∀ s', f s = .ok s' → R s s' ∧ Q () s') : Steps R (Program.update f) s Q := by
  cases hf : f s with
  | error e =>
    have hrun : Program.update f s = (.error e, s) := by simp only [Program.update, hf]
    constructor
    · rw [hrun]
      exact Std.Refl.refl s
    · intro a ha
      rw [hrun] at ha
      cases ha
  | ok s' =>
    have hrun : Program.update f s = (.ok (), s') := by simp only [Program.update, hf]
    constructor
    · rw [hrun]
      exact (h s' hf).1
    · intro a _
      rw [hrun]
      exact (h s' hf).2

lemma attempt {p : Program σ ε α} {Q : α → σ → Prop} (h : Steps R p s Q) :
    Steps R p.attempt s fun r s' => ∀ a, r = .ok a → Q a s' := by
  refine ⟨h.related, fun r hr a ha => ?_⟩
  have hr' : (p s).1 = r := Except.ok.inj hr
  exact h.returns a (hr'.trans ha)

lemma ignore {p : Program σ ε α} {Q : α → σ → Prop} (h : Steps R p s Q) :
    Steps R p.ignore s fun _ _ => True :=
  ⟨h.related, fun _ _ => trivial⟩

section Trans

variable [IsTrans σ R]

/-- Sequencing: the second program starts from wherever the first may return. -/
lemma bind {p : Program σ ε α} {f : α → Program σ ε β} {P : α → σ → Prop} {Q : β → σ → Prop}
    (hp : Steps R p s P) (hf : ∀ a s', R s s' → P a s' → Steps R (f a) s' Q) : Steps R (p >>= f) s Q := by
  obtain ⟨hrelated, hreturns⟩ := hp
  cases hps : p s with
  | mk r s' =>
    rw [hps] at hrelated hreturns
    cases r with
    | error e =>
      have hrun := Program.bind_error (f := f) hps
      constructor
      · rw [hrun]
        exact hrelated
      · intro b hb
        rw [hrun] at hb
        cases hb
    | ok a =>
      have hrun := Program.bind_ok (f := f) hps
      have hnext := hf a s' hrelated (hreturns a rfl)
      constructor
      · rw [hrun]
        exact IsTrans.trans _ _ _ hrelated hnext.related
      · intro b hb
        rw [hrun] at hb ⊢
        exact hnext.returns b hb

omit [IsTrans σ R] in
/-- What follows a program starts where the program has ended. -/
lemma after [Std.Refl R] {p : Program σ ε α} {f : α → Program σ ε β} {Q : β → σ → Prop}
    (hf : ∀ a, Steps R (f a) (p s).2 Q) : R (p s).2 ((p >>= f) s).2 := by
  cases hps : p s with
  | mk r s' =>
    cases r with
    | error e =>
      rw [Program.bind_error hps]
      exact Std.Refl.refl s'
    | ok a =>
      have hnext := (hf a).related
      rw [hps] at hnext
      rw [Program.bind_ok hps]
      exact hnext

/-- What comes first may be taken together. -/
lemma bind_assoc {γ : Type} {p : Program σ ε α} {f : α → Program σ ε β} {g : β → Program σ ε γ} {P : β → σ → Prop}
    {Q : γ → σ → Prop} (hp : Steps R (p >>= f) s P) (hg : ∀ b s', R s s' → P b s' → Steps R (g b) s' Q) :
    Steps R (p >>= fun a => f a >>= g) s Q :=
  of_run (Program.bind_assoc_run p f g s).symm (bind hp hg)

lemma modify_bind {f : σ → σ} {g : Unit → Program σ ε β} {Q : β → σ → Prop} (hR : R s (f s))
    (h : Steps R (g ()) (f s) Q) :
    Steps R ((MonadState.modifyGet fun s => ((), f s)) >>= g) s Q :=
  bind (P := fun _ s' => s' = f s) (modify hR rfl) fun _ s' _ hs' => by
    rw [hs']
    exact h

/-- A failure that is a value decides how to go on. -/
lemma attempt_bind {p : Program σ ε α} {f : Except ε α → Program σ ε β} {P : α → σ → Prop} {Q : β → σ → Prop}
    (hp : Steps R p s P) (hok : ∀ a s', R s s' → P a s' → Steps R (f (.ok a)) s' Q)
    (herror : ∀ e s', R s s' → Steps R (f (.error e)) s' Q) : Steps R (p.attempt >>= f) s Q := by
  refine bind hp.attempt fun r s' hR hP => ?_
  cases r with
  | ok a => exact hok a s' hR (hP a rfl)
  | error e => exact herror e s' hR

/-- A loop whose invariant speaks of the items still to come. -/
lemma foldEach_rest [Std.Refl R] {I : List α → β → σ → Prop} {f : β → α → Program σ ε β} {xs : List α} {acc : β}
    (hI : I xs acc s)
    (hf : ∀ x rest b s', R s s' → I (x :: rest) b s' → Steps R (f b x) s' (I rest)) :
    Steps R (Program.foldEach xs acc f) s (I []) := by
  induction xs generalizing s acc with
  | nil => exact pure hI
  | cons x rest ih =>
    refine bind (hf x rest acc s (Std.Refl.refl s) hI) fun b s' hR hI' => ih hI' fun y ys b' s'' hR' hI'' => ?_
    exact hf y ys b' s'' (IsTrans.trans _ _ _ hR hR') hI''

/-- An invariant of a loop that every turn keeps. -/
lemma forEach [Std.Refl R] {xs : List α} {f : α → Program σ ε Unit} {I : σ → Prop} (hI : I s)
    (hf : ∀ x ∈ xs, ∀ s', R s s' → I s' → Steps R (f x) s' fun _ => I) :
    Steps R (Program.forEach xs f) s fun _ => I := by
  induction xs generalizing s with
  | nil => exact pure hI
  | cons x xs ih =>
    refine bind (hf x (by simp) s (Std.Refl.refl s) hI) fun _ s' hR hI' => ih hI' fun y hy s'' hR' hI'' => ?_
    exact hf y (by simp [hy]) s'' (IsTrans.trans _ _ _ hR hR') hI''

/-- What each turn of a loop achieves, and no later one undoes. -/
lemma forEach_each [Std.Refl R] {xs : List α} {f : α → Program σ ε Unit} {P : α → σ → Prop}
    (hf : ∀ x ∈ xs, ∀ s', R s s' → Steps R (f x) s' fun _ => P x)
    (hkeep : ∀ x ∈ xs, ∀ s' s'', R s s' → R s' s'' → P x s' → P x s'') :
    Steps R (Program.forEach xs f) s fun _ s' => ∀ x ∈ xs, P x s' := by
  induction xs generalizing s with
  | nil => exact pure (by simp)
  | cons x xs ih =>
    refine bind (hf x (by simp) s (Std.Refl.refl s)) fun _ s₁ h₁ hx => ?_
    have hrest : Steps R (Program.forEach xs f) s₁ fun _ s' => ∀ y ∈ xs, P y s' :=
      ih (fun y hy s' h => hf y (by simp [hy]) s' (IsTrans.trans _ _ _ h₁ h))
        fun y hy s' s'' h h' => hkeep y (by simp [hy]) s' s'' (IsTrans.trans _ _ _ h₁ h) h'
    refine (hrest.weaken fun _ h => h).mono fun _ s₂ h₂ y hy => ?_
    rcases List.mem_cons.mp hy with rfl | hmem
    · exact hkeep y (by simp) s₁ s₂ h₁ h₂.1 hx
    · exact h₂.2 y hmem

/-- An invariant of a loop with a value that every turn keeps. -/
lemma foldEach [Std.Refl R] {xs : List α} {acc : β} {f : β → α → Program σ ε β} {I : β → σ → Prop}
    (hI : I acc s)
    (hf : ∀ x ∈ xs, ∀ b s', R s s' → I b s' → Steps R (f b x) s' I) :
    Steps R (Program.foldEach xs acc f) s I := by
  induction xs generalizing s acc with
  | nil => exact pure hI
  | cons x xs ih =>
    refine bind (hf x (by simp) acc s (Std.Refl.refl s) hI) fun b s' hR hI' => ih hI' fun y hy b' s'' hR' hI'' => ?_
    exact hf y (by simp [hy]) b' s'' (IsTrans.trans _ _ _ hR hR') hI''

end Trans

/-- Nothing is said of how two states are related. -/
def Anything (_ _ : σ) : Prop := True

instance : Std.Refl (@Anything σ) := ⟨fun _ => trivial⟩
instance : IsTrans σ Anything := ⟨fun _ _ _ _ _ => trivial⟩

/-- What holds if the program returns. -/
abbrev Returns (p : Program σ ε α) (s : σ) (Q : α → σ → Prop) : Prop := Steps Anything p s Q

/-- What an operation does, as what holds once it returns. -/
lemma toReturns {p : Program σ ε α} {Q : α → σ → Prop} (h : Steps R p s Q) :
    Returns p s fun a s' => R s s' ∧ Q a s' :=
  h.weaken fun _ _ => trivial

/-- A program on a part of the state, by what it does to that part. -/
lemma focus {view : σ → τ} {update : σ → τ → σ} {S : τ → τ → Prop} {p : Program τ ε α}
    {P : α → τ → Prop} {Q : α → σ → Prop} (hp : Steps S p (view s) P)
    (hR : ∀ t, S (view s) t → R s (update s t)) (hQ : ∀ a t, S (view s) t → P a t → Q a (update s t)) :
    Steps R (Program.focus view update p) s Q :=
  ⟨hR _ hp.related, fun a ha => hQ a _ hp.related (hp.returns a ha)⟩

end Steps

end InterClusterFabric.LibraryProgram
