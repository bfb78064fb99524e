import Mathlib.Tactic

/-! The least of the items seen so far, kept in an optional cell. -/
namespace InterClusterFabric.LibraryLeast

variable {α : Type} (rank : α → ℕ)

/-- The cell holds an item of least rank, or nothing if there are none. -/
structure Least (P : α → Prop) (cell : Option α) : Prop where
  absent : cell = none → ∀ x, ¬P x
  present : ∀ m, cell = some m → P m ∧ ∀ x, P x → rank m ≤ rank x

/-- A later item replaces the one in the cell if its rank is smaller. -/
def keepLeast (cell : Option α) (x : α) : Option α :=
  match cell with
  | none => some x
  | some y => if rank x < rank y then some x else some y

/-- The cell after another cell has been taken in. -/
def mergeLeast (cell other : Option α) : Option α :=
  match other with
  | none => cell
  | some x => keepLeast rank cell x

variable {rank} {P Q : α → Prop} {cell other : Option α}

lemma Least.empty (h : ∀ x, ¬P x) : Least rank P none :=
  ⟨fun _ => h, fun _ hm => by cases hm⟩

lemma Least.congr (h : Least rank P cell) (hPQ : ∀ x, P x ↔ Q x) : Least rank Q cell := by
  have hsame : P = Q := funext fun x => propext (hPQ x)
  rwa [← hsame]

lemma Least.keep (h : Least rank P cell) (x : α) :
    Least rank (fun y => P y ∨ y = x) (keepLeast rank cell x) := by
  cases hcell : cell with
  | none =>
    have hnone := h.absent hcell
    refine ⟨fun hkept => (by cases hkept), fun m hm => ?_⟩
    cases hm
    refine ⟨.inr rfl, fun y hy => ?_⟩
    rcases hy with hP | rfl
    · exact absurd hP (hnone y)
    · exact le_rfl
  | some y =>
    obtain ⟨hy, hleast⟩ := h.present y hcell
    simp only [keepLeast]
    split
    · rename_i hlt
      refine ⟨fun hkept => (by cases hkept), fun m hm => ?_⟩
      cases hm
      refine ⟨.inr rfl, fun z hz => ?_⟩
      rcases hz with hP | rfl
      · exact hlt.le.trans (hleast z hP)
      · exact le_rfl
    · rename_i hge
      refine ⟨fun hkept => (by cases hkept), fun m hm => ?_⟩
      cases hm
      refine ⟨.inl hy, fun z hz => ?_⟩
      rcases hz with hP | rfl
      · exact hleast z hP
      · exact not_lt.mp hge

lemma Least.merge (h : Least rank P cell) (h' : Least rank Q other) :
    Least rank (fun y => P y ∨ Q y) (mergeLeast rank cell other) := by
  cases hother : other with
  | none =>
    have hnone := h'.absent hother
    refine h.congr fun x => ⟨.inl, fun hx => ?_⟩
    exact hx.resolve_right (hnone x)
  | some x =>
    obtain ⟨hx, hleast⟩ := h'.present x hother
    obtain ⟨habsent, hpresent⟩ := h.keep x
    refine ⟨fun hkept => absurd (.inr rfl) (habsent hkept x), fun m hm => ?_⟩
    obtain ⟨hmem, hrank⟩ := hpresent m hm
    refine ⟨hmem.imp_right fun hmx => by rw [hmx]; exact hx, fun y hy => ?_⟩
    rcases hy with hP | hQ
    · exact hrank y (.inl hP)
    · exact (hrank x (.inr rfl)).trans (hleast y hQ)

/-- Where no two items share a rank, the cell is determined by the items. -/
lemma Least.unique (hrank : Function.Injective rank) (h : Least rank P cell) (h' : Least rank P other) :
    cell = other := by
  cases hcell : cell with
  | none =>
    cases hother : other with
    | none => rfl
    | some m => exact absurd (h'.present m hother).1 (h.absent hcell m)
  | some m =>
    obtain ⟨hm, hleast⟩ := h.present m hcell
    cases hother : other with
    | none => exact absurd hm (h'.absent hother m)
    | some m' =>
      obtain ⟨hm', hleast'⟩ := h'.present m' hother
      exact congrArg some (hrank ((hleast m' hm').antisymm (hleast' m hm)))

end InterClusterFabric.LibraryLeast
