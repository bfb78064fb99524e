import Mathlib.Tactic

/-! The lives of objects that are closed before they are removed, and whose closing is reported in between to those who
watch them. A journal records what happens to all of them; the life of one is read off its own entries. -/
namespace InterClusterFabric.LibraryLifecycle

variable {κ ρ : Type}

inductive Entry (κ ρ : Type)
  | opened (key : κ) (watched : Bool)
  | closed (key : κ) (reason : ρ)
  | reported (key : κ) (reason : ρ)
  | removed (key : κ)

def Entry.key : Entry κ ρ → κ
  | .opened key _ => key
  | .closed key _ => key
  | .reported key _ => key
  | .removed key => key

inductive Life (ρ : Type)
  | unborn
  | live (watched : Bool)
  | closed (watched : Bool) (reason : ρ)
  | reported (reason : ρ)
  | removed (watched : Bool) (reason : ρ)
  | broken
deriving DecidableEq

/-- Only the first reason to close counts, and it is the one that is reported. Everything else that is not listed
breaks the order. -/
def Life.advance [DecidableEq ρ] : Life ρ → Entry κ ρ → Life ρ
  | .unborn, .opened _ watched => .live watched
  | .live watched, .closed _ reason => .closed watched reason
  | .closed watched reason, .closed _ _ => .closed watched reason
  | .reported reason, .closed _ _ => .reported reason
  | .closed true reason, .reported _ told => if told = reason then .reported reason else .broken
  | .reported reason, .removed _ => .removed true reason
  | .closed false reason, .removed _ => .removed false reason
  | _, _ => .broken

lemma advance_broken [DecidableEq ρ] (entry : Entry κ ρ) : (Life.broken : Life ρ).advance entry = .broken := by
  cases entry <;> rfl

/-- Whether it is watched and why it was closed, once it is. -/
def Life.fate : Life ρ → Option (Bool × ρ)
  | .closed watched reason => some (watched, reason)
  | .reported reason => some (true, reason)
  | .removed watched reason => some (watched, reason)
  | _ => none

lemma fate_advance [DecidableEq ρ] {life : Life ρ} {entry : Entry κ ρ} {fate : Bool × ρ} (h : life.fate = some fate)
    (hunbroken : life.advance entry ≠ .broken) : (life.advance entry).fate = some fate := by
  cases life with
  | closed watched reason =>
    cases watched <;> cases entry <;> simp_all [Life.advance, Life.fate]
  | reported reason => cases entry <;> simp_all [Life.advance, Life.fate]
  | removed watched reason => cases entry <;> simp_all [Life.advance]
  | _ => cases h

lemma advance_removed [DecidableEq ρ] {life : Life ρ} {key : κ} (h : life.advance (Entry.removed key) ≠ .broken) :
    ∃ watched reason, life.advance (Entry.removed key) = .removed watched reason := by
  cases life with
  | closed watched reason =>
    cases watched with
    | false => exact ⟨false, reason, rfl⟩
    | true => exact absurd rfl h
  | reported reason => exact ⟨true, reason, rfl⟩
  | _ => exact absurd rfl h

section Entries

variable [DecidableEq κ] {journal : List (Entry κ ρ)} {key : κ}

/-- The reason for which the entry closes the object. -/
def Entry.closing (key : κ) : Entry κ ρ → Option ρ
  | .closed other reason => if other = key then some reason else none
  | _ => none

/-- The reason that the entry reports for it. -/
def Entry.reporting (key : κ) : Entry κ ρ → Option ρ
  | .reported other reason => if other = key then some reason else none
  | _ => none

def closings (journal : List (Entry κ ρ)) (key : κ) : List ρ := journal.filterMap (Entry.closing key)

def reports (journal : List (Entry κ ρ)) (key : κ) : List ρ := journal.filterMap (Entry.reporting key)

lemma closings_snoc (entry : Entry κ ρ) :
    closings (journal ++ [entry]) key = closings journal key ++ (entry.closing key).toList := by
  cases h : entry.closing key <;> simp [closings, h]

lemma reports_snoc (entry : Entry κ ρ) :
    reports (journal ++ [entry]) key = reports journal key ++ (entry.reporting key).toList := by
  cases h : entry.reporting key <;> simp [reports, h]

lemma closing_other {entry : Entry κ ρ} (h : entry.key ≠ key) : entry.closing key = none := by
  cases entry with
  | closed other reason => exact if_neg h
  | _ => rfl

lemma reporting_other {entry : Entry κ ρ} (h : entry.key ≠ key) : entry.reporting key = none := by
  cases entry with
  | reported other reason => exact if_neg h
  | _ => rfl

/-- What the journal holds of an object at each point of its life. -/
def Holds (journal : List (Entry κ ρ)) (key : κ) : Life ρ → Prop
  | .unborn => closings journal key = [] ∧ reports journal key = []
  | .live watched => closings journal key = [] ∧ reports journal key = [] ∧ .opened key watched ∈ journal
  | .closed watched reason =>
    (closings journal key).head? = some reason ∧ reports journal key = [] ∧ .opened key watched ∈ journal
  | .reported reason =>
    (closings journal key).head? = some reason ∧ reports journal key = [reason] ∧ .opened key true ∈ journal
  | .removed watched reason =>
    (closings journal key).head? = some reason ∧ reports journal key = (if watched then [reason] else []) ∧
      .opened key watched ∈ journal ∧ .removed key ∈ journal
  | .broken => True

lemma Holds.snoc_other {entry : Entry κ ρ} {life : Life ρ} (h : Holds journal key life) (hkey : entry.key ≠ key) :
    Holds (journal ++ [entry]) key life := by
  have hclosings : closings (journal ++ [entry]) key = closings journal key := by
    rw [closings_snoc, closing_other hkey, Option.toList_none, List.append_nil]
  have hreports : reports (journal ++ [entry]) key = reports journal key := by
    rw [reports_snoc, reporting_other hkey, Option.toList_none, List.append_nil]
  cases life <;> simp_all [Holds]

lemma Holds.snoc_self [DecidableEq ρ] {entry : Entry κ ρ} {life : Life ρ} (h : Holds journal entry.key life) :
    Holds (journal ++ [entry]) entry.key (life.advance entry) := by
  cases entry with
  | opened key watched =>
    cases life <;>
      simp_all [Holds, Life.advance, Entry.key, closings_snoc, reports_snoc, Entry.closing, Entry.reporting]
  | closed key reason =>
    cases life <;>
      simp_all [Holds, Life.advance, Entry.key, closings_snoc, reports_snoc, Entry.closing, Entry.reporting]
  | reported key told =>
    cases life with
    | closed watched reason =>
      cases watched with
      | false => trivial
      | true =>
        rw [Life.advance]
        split <;> simp_all [Holds, Entry.key, closings_snoc, reports_snoc, Entry.closing, Entry.reporting]
    | _ => trivial
  | removed key =>
    cases life with
    | closed watched reason =>
      cases watched <;>
        simp_all [Holds, Life.advance, Entry.key, closings_snoc, reports_snoc, Entry.closing, Entry.reporting]
    | reported reason =>
      simp_all [Holds, Life.advance, Entry.key, closings_snoc, reports_snoc, Entry.closing, Entry.reporting]
    | _ => trivial

end Entries

section Lives

variable [DecidableEq κ] [DecidableEq ρ] {journal : List (Entry κ ρ)} {key : κ}

/-- The life of an object, as far as the journal goes. -/
def life (journal : List (Entry κ ρ)) (key : κ) : Life ρ :=
  (journal.filter fun entry => entry.key = key).foldl Life.advance .unborn

@[simp] lemma life_nil : life ([] : List (Entry κ ρ)) key = .unborn := rfl

lemma life_snoc_self (journal : List (Entry κ ρ)) (entry : Entry κ ρ) :
    life (journal ++ [entry]) entry.key = (life journal entry.key).advance entry := by
  simp [life, List.filter_append]

lemma life_snoc_other {entry : Entry κ ρ} (h : entry.key ≠ key) : life (journal ++ [entry]) key = life journal key := by
  simp [life, List.filter_append, h]

/-- What is broken stays broken. -/
lemma life_of_append {rest : List (Entry κ ρ)} (h : life (journal ++ rest) key ≠ .broken) :
    life journal key ≠ .broken := by
  induction rest using List.reverseRecOn with
  | nil => rwa [List.append_nil] at h
  | append_singleton rest entry ih =>
    refine ih fun hbroken => h ?_
    rw [← List.append_assoc]
    by_cases hkey : entry.key = key
    · subst hkey
      rw [life_snoc_self, hbroken, advance_broken]
    · rw [life_snoc_other hkey, hbroken]

/-- The journal goes on with an entry, or with none. -/
lemma life_append_self {entry : Option (Entry κ ρ)} (h : ∀ e ∈ entry, e.key = key) :
    life (journal ++ entry.toList) key = entry.elim (life journal key) (life journal key).advance := by
  cases entry with
  | none => simp
  | some entry =>
    obtain rfl := h entry rfl
    exact life_snoc_self journal entry

lemma life_append_other {entry : Option (Entry κ ρ)} (h : ∀ e ∈ entry, e.key ≠ key) :
    life (journal ++ entry.toList) key = life journal key := by
  cases entry with
  | none => simp
  | some entry => exact life_snoc_other (h entry rfl)

lemma life_of_fresh (h : ∀ entry ∈ journal, entry.key ≠ key) : life journal key = .unborn := by
  rw [life, List.filter_eq_nil_iff.mpr (by simpa using h), List.foldl_nil]

lemma holds_of_life (journal : List (Entry κ ρ)) (key : κ) : Holds journal key (life journal key) := by
  induction journal using List.reverseRecOn with
  | nil => exact ⟨rfl, rfl⟩
  | append_singleton journal entry ih =>
    by_cases hkey : entry.key = key
    · subst hkey
      rw [life_snoc_self]
      exact ih.snoc_self
    · rw [life_snoc_other hkey]
      exact ih.snoc_other hkey

/-- An object is reported at most once, with the first reason for which it was asked to close. -/
lemma reports_of_life (h : life journal key ≠ .broken) :
    reports journal key = [] ∨
      ∃ reason, (closings journal key).head? = some reason ∧ reports journal key = [reason] := by
  have hholds := holds_of_life journal key
  cases hlife : life journal key with
  | unborn =>
    rw [hlife] at hholds
    exact .inl hholds.2
  | live watched =>
    rw [hlife] at hholds
    exact .inl hholds.2.1
  | closed watched reason =>
    rw [hlife] at hholds
    exact .inl hholds.2.1
  | reported reason =>
    rw [hlife] at hholds
    exact .inr ⟨reason, hholds.1, hholds.2.1⟩
  | removed watched reason =>
    rw [hlife] at hholds
    cases watched with
    | false => exact .inl hholds.2.1
    | true => exact .inr ⟨reason, hholds.1, hholds.2.1⟩
  | broken => exact absurd hlife h

/-- Before it is removed it was closed, and reported if it is watched. -/
lemma removed_of_life {before after : List (Entry κ ρ)} (h : life (before ++ .removed key :: after) key ≠ .broken) :
    ∃ watched reason, .opened key watched ∈ before ∧ (closings before key).head? = some reason ∧
      reports before key = if watched then [reason] else [] := by
  rw [List.append_cons] at h
  have hlast : (life before key).advance (.removed key) ≠ .broken := by
    have hadvance := life_snoc_self before (.removed key)
    rw [Entry.key] at hadvance
    rw [← hadvance]
    exact life_of_append h
  have hholds := holds_of_life before key
  cases hlife : life before key with
  | reported reason =>
    rw [hlife] at hholds
    exact ⟨true, reason, hholds.2.2, hholds.1, hholds.2.1⟩
  | closed watched reason =>
    rw [hlife] at hholds
    cases watched with
    | false => exact ⟨false, reason, hholds.2.2, hholds.1, hholds.2.1⟩
    | true => exact absurd (by rw [hlife]; rfl) hlast
  | _ => exact absurd (by rw [hlife]; rfl) hlast

/-- What was closed keeps its reason as long as the journal goes on. -/
lemma fate_of_append {rest : List (Entry κ ρ)} {fate : Bool × ρ} (h : (life journal key).fate = some fate)
    (hunbroken : life (journal ++ rest) key ≠ .broken) : (life (journal ++ rest) key).fate = some fate := by
  induction rest using List.reverseRecOn with
  | nil => rwa [List.append_nil]
  | append_singleton rest entry ih =>
    rw [← List.append_assoc] at hunbroken ⊢
    have hbefore := ih (life_of_append hunbroken)
    by_cases hkey : entry.key = key
    · subst hkey
      rw [life_snoc_self] at hunbroken ⊢
      exact fate_advance hbefore hunbroken
    · rwa [life_snoc_other hkey]

/-- Nothing happens to an object after it was removed. -/
lemma life_of_removed (hmem : .removed key ∈ journal) (h : life journal key ≠ .broken) :
    ∃ watched reason, life journal key = .removed watched reason := by
  induction journal using List.reverseRecOn with
  | nil => cases hmem
  | append_singleton journal entry ih =>
    rcases List.mem_append.mp hmem with hold | hlast
    · obtain ⟨watched, reason, hlife⟩ := ih hold (life_of_append h)
      by_cases hkey : entry.key = key
      · subst hkey
        rw [life_snoc_self, hlife] at h
        exact absurd (by cases entry <;> rfl) h
      · exact ⟨watched, reason, by rw [life_snoc_other hkey, hlife]⟩
    · obtain rfl := List.mem_singleton.mp hlast
      have hadvance := life_snoc_self journal (.removed key)
      rw [Entry.key] at hadvance
      rw [hadvance] at h ⊢
      exact advance_removed h

/-- Once it is removed it was reported, for the reason that it had when it was closed, if it is watched. -/
lemma reports_of_removed {rest : List (Entry κ ρ)} {watched : Bool} {reason : ρ}
    (h : (life journal key).fate = some (watched, reason)) (hmem : .removed key ∈ journal ++ rest)
    (hunbroken : life (journal ++ rest) key ≠ .broken) :
    reports (journal ++ rest) key = if watched then [reason] else [] := by
  obtain ⟨watched', reason', hlife⟩ := life_of_removed hmem hunbroken
  have hfate := fate_of_append h hunbroken
  rw [hlife] at hfate
  cases hfate
  have hholds := holds_of_life (journal ++ rest) key
  rw [hlife] at hholds
  exact hholds.2.1

end Lives

end InterClusterFabric.LibraryLifecycle
