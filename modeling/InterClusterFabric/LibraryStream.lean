import Mathlib.Tactic

/-! Items that arrive as one stream of bytes, in pieces. They gather in a bounded buffer and are taken off it
one after another; how full the buffer gets depends on the sizes alone. -/
namespace InterClusterFabric.LibraryStream

variable {α β ε : Type}

/-- At most `limit` items taken off the front of a buffer. -/
def takeUpTo (next : List β → Except ε (Option (α × List β))) : ℕ → List β → Except ε (List α × List β)
  | 0, buffer => .ok ([], buffer)
  | limit + 1, buffer => do
    match ← next buffer with
    | none => return ([], buffer)
    | some (item, rest) =>
      let (items, left) ← takeUpTo next limit rest
      return (item :: items, left)

/-- Which items leave a buffer of which only the fill is known: the sizes of those to come and the fill afterwards. -/
def consume : ℕ → List ℕ → ℕ → List ℕ × ℕ
  | limit + 1, size :: sizes, fill => if size ≤ fill then consume limit sizes (fill - size) else (size :: sizes, fill)
  | _, sizes, fill => (sizes, fill)

/-- No arrival overfills the buffer, if at most `limit` items are taken off after each. -/
def Fits (bound limit : ℕ) : List ℕ → ℕ → List ℕ → Prop
  | _, _, [] => True
  | sizes, fill, arrival :: arrivals =>
    fill + arrival ≤ bound ∧
      Fits bound limit (consume limit sizes (fill + arrival)).1 (consume limit sizes (fill + arrival)).2 arrivals

instance (bound limit : ℕ) : ∀ sizes fill arrivals, Decidable (Fits bound limit sizes fill arrivals)
  | _, _, [] => inferInstanceAs (Decidable True)
  | sizes, fill, arrival :: arrivals =>
    have := instDecidableFits bound limit (consume limit sizes (fill + arrival)).1
      (consume limit sizes (fill + arrival)).2 arrivals
    inferInstanceAs (Decidable (_ ∧ _))

lemma consume_le (limit : ℕ) (sizes : List ℕ) (fill : ℕ) : (consume limit sizes fill).2 ≤ fill := by
  fun_induction consume limit sizes fill with
  | case1 limit size sizes fill hle ih => omega
  | case2 limit size sizes fill hnot => exact le_rfl
  | case3 limit sizes fill => exact le_rfl

/-- What is true of every item the reader hands over is true of all that are taken. -/
lemma takeUpTo_forall {next : List β → Except ε (Option (α × List β))} {P : α → Prop}
    (h : ∀ buffer item rest, next buffer = .ok (some (item, rest)) → P item) {limit : ℕ} {buffer rest : List β}
    {items : List α} (htake : takeUpTo next limit buffer = .ok (items, rest)) : ∀ item ∈ items, P item := by
  induction limit generalizing buffer items with
  | zero =>
    cases htake
    simp
  | succ limit ih =>
    simp only [takeUpTo, bind, Except.bind] at htake
    cases hnext : next buffer with
    | error e => simp [hnext] at htake
    | ok first =>
      rw [hnext] at htake
      cases first with
      | none =>
        cases htake
        simp
      | some pair =>
        cases hmore : takeUpTo next limit pair.2 with
        | error e => simp [hmore] at htake
        | ok more =>
          simp only [hmore] at htake
          cases htake
          rintro item (_ | ⟨_, hitem⟩)
          · exact h buffer pair.1 pair.2 hnext
          · exact ih hmore item hitem

/-! Taking everything. -/

/-- A limit that is not reached does not matter. -/
lemma consume_congr {limit limit' fill : ℕ} {sizes : List ℕ} (hpos : ∀ size ∈ sizes, 0 < size)
    (h : min sizes.length fill ≤ limit) (h' : min sizes.length fill ≤ limit') :
    consume limit sizes fill = consume limit' sizes fill := by
  induction sizes generalizing limit limit' fill with
  | nil => cases limit <;> cases limit' <;> rfl
  | cons size sizes ih =>
    have hsize := hpos size List.mem_cons_self
    simp only [List.length_cons] at h h'
    by_cases hfill : fill = 0
    · have hnot : ¬size ≤ fill := by omega
      cases limit <;> cases limit' <;> simp [consume, hnot]
    · obtain ⟨limit, rfl⟩ : ∃ n, limit = n + 1 := ⟨limit - 1, by omega⟩
      obtain ⟨limit', rfl⟩ : ∃ n, limit' = n + 1 := ⟨limit' - 1, by omega⟩
      simp only [consume]
      split
      · exact ih (fun other hother => hpos other (List.mem_cons_of_mem _ hother)) (by omega) (by omega)
      · rfl

/-- The next item has not arrived as a whole. -/
def Drained (sizes : List ℕ) (fill : ℕ) : Prop := ∀ size ∈ sizes.head?, fill < size

lemma consume_drained {limit : ℕ} {sizes : List ℕ} (h : sizes.length ≤ limit) (fill : ℕ) :
    Drained (consume limit sizes fill).1 (consume limit sizes fill).2 := by
  induction sizes generalizing limit fill with
  | nil => cases limit <;> simp [consume, Drained]
  | cons size sizes ih =>
    obtain ⟨limit, rfl⟩ : ∃ n, limit = n + 1 := ⟨limit - 1, by simp at h; omega⟩
    simp only [consume]
    split
    · exact ih (by simpa using h) _
    · simpa [Drained] using ‹¬size ≤ fill›

lemma consume_short {limit size fill : ℕ} {sizes : List ℕ} (h : fill < size) :
    consume limit (size :: sizes) fill = (size :: sizes, fill) := by
  cases limit with
  | zero => rfl
  | succ limit => rw [consume, if_neg (not_le.mpr h)]

/-- Nothing is taken off that has not arrived as a whole. -/
lemma consume_waits {limit fill : ℕ} {sizes : List ℕ} (h : Drained sizes fill) :
    consume limit sizes fill = (sizes, fill) := by
  cases sizes with
  | nil => cases limit <;> rfl
  | cons size sizes => exact consume_short (h size rfl)

lemma consume_first {limit size fill : ℕ} {sizes : List ℕ} (hpos : ∀ other ∈ sizes, 0 < other)
    (hfew : sizes.length < limit) : consume limit (size :: sizes) (size + fill) = consume limit sizes fill := by
  obtain ⟨limit, rfl⟩ : ∃ m, limit = m + 1 := ⟨limit - 1, by omega⟩
  rw [consume, if_pos (Nat.le_add_right _ _), Nat.add_sub_cancel_left]
  exact consume_congr hpos (by omega) (by omega)

/-- A reader of whole items: it waits for the rest of an item that has begun. -/
structure Incremental (next : List β → Except ε (Option (α × List β))) (encode : α → List β) (valid : α → Prop) :
    Prop where
  empty : next [] = .ok none
  whole : ∀ {item} rest, valid item → next (encode item ++ rest) = .ok (some (item, rest))
  begun : ∀ {item front back}, valid item → front ++ back = encode item → back ≠ [] → next front = .ok none

section Streams

variable {next : List β → Except ε (Option (α × List β))} {encode : α → List β} {valid : α → Prop}

/-- The size of an item. -/
def size (encode : α → List β) (item : α) : ℕ := (encode item).length

/-- What is taken off a buffer that holds the beginning of a stream. -/
lemma takeUpTo_stream (h : Incremental next encode valid) (limit : ℕ) {items : List α} {buffer future : List β}
    (hvalid : ∀ item ∈ items, valid item) (hstream : buffer ++ future = items.flatMap encode) :
    ∃ taken left rest, items = taken ++ left ∧ takeUpTo next limit buffer = .ok (taken, rest) ∧
      rest ++ future = left.flatMap encode ∧
      consume limit (items.map (size encode)) buffer.length = (left.map (size encode), rest.length) := by
  induction limit generalizing items buffer with
  | zero => exact ⟨[], items, buffer, rfl, rfl, hstream, by cases items <;> rfl⟩
  | succ limit ih =>
    cases items with
    | nil =>
      obtain ⟨rfl, rfl⟩ : buffer = [] ∧ future = [] := by simpa using hstream
      refine ⟨[], [], [], rfl, ?_, rfl, rfl⟩
      simp only [takeUpTo, h.empty]
      rfl
    | cons item items =>
      have hitem := hvalid item List.mem_cons_self
      rw [List.flatMap_cons] at hstream
      by_cases hwhole : size encode item ≤ buffer.length
      · -- the first item is there as a whole
        obtain ⟨tail, rfl, htail⟩ : ∃ tail, buffer = encode item ++ tail ∧ tail ++ future = items.flatMap encode := by
          rcases List.append_eq_append_iff.mp hstream with ⟨mid, hmid, hfuture⟩ | ⟨mid, hmid, hfuture⟩
          · have hnil : mid = [] := by
              have hlength := congrArg List.length hmid
              rw [List.length_append] at hlength
              unfold size at hwhole
              exact List.eq_nil_of_length_eq_zero (by omega)
            subst hnil
            exact ⟨[], by simpa using hmid.symm, by simpa using hfuture⟩
          · exact ⟨mid, hmid, hfuture.symm⟩
        obtain ⟨taken, left, rest, rfl, htake, hrest, hconsume⟩ :=
          ih (fun other hother => hvalid other (List.mem_cons_of_mem _ hother)) htail
        refine ⟨item :: taken, left, rest, rfl, ?_, hrest, ?_⟩
        · simp only [takeUpTo, h.whole tail hitem, htake, bind, Except.bind]
          rfl
        · have hfill : (encode item ++ tail).length - size encode item = tail.length := by
            rw [List.length_append, size]
            omega
          simp only [List.map_cons, consume, hwhole, if_true, hfill]
          exact hconsume
      · -- it is not, and the reader waits
        obtain ⟨back, hback, hne⟩ : ∃ back, buffer ++ back = encode item ∧ back ≠ [] := by
          rcases List.append_eq_append_iff.mp hstream with ⟨mid, hmid, -⟩ | ⟨mid, hmid, -⟩
          · refine ⟨mid, hmid.symm, ?_⟩
            rintro rfl
            rw [size, hmid, List.append_nil] at hwhole
            exact hwhole le_rfl
          · rw [size, hmid, List.length_append] at hwhole
            omega
        refine ⟨[], item :: items, buffer, rfl, ?_, ?_, ?_⟩
        · simp only [takeUpTo, h.begun hitem hback hne]
          rfl
        · rw [hstream, List.flatMap_cons]
        · simp only [List.map_cons, consume, hwhole, if_false]

/-- Items that are there as a whole are taken, as many as the limit allows. -/
lemma takeUpTo_whole (h : Incremental next encode valid) {items : List α} (hvalid : ∀ item ∈ items, valid item)
    (rest : List β) : takeUpTo next items.length (items.flatMap encode ++ rest) = .ok (items, rest) := by
  induction items with
  | nil => rfl
  | cons item items ih =>
    have hmore := ih fun other hother => hvalid other (List.mem_cons_of_mem _ hother)
    rw [List.flatMap_cons, List.append_assoc, List.length_cons]
    simp only [takeUpTo, h.whole _ (hvalid item List.mem_cons_self), bind, Except.bind, hmore]
    rfl

end Streams

end InterClusterFabric.LibraryStream
