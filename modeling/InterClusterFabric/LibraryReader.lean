import InterClusterFabric.LibraryChecked

/-! Checked readers over byte lists. A reader consumes a prefix and returns the rest, or fails.
`Reads p bytes ok a` says at once when `p` gives `a` back on `bytes` and that it fails otherwise,
so the specification of a record decoder is the conjunction of those of its fields. -/
namespace InterClusterFabric.LibraryReader
open LibraryChecked

variable {ε α β σ : Type}

abbrev Reader (ε α : Type) := StateT (List UInt8) (Except ε) α

/-- On `bytes` followed by anything, `p` returns `a` and the rest if `ok`, and fails if not. -/
structure Reads (p : Reader ε α) (bytes : List UInt8) (ok : Prop) (a : α) : Prop where
  accept : ok → ∀ rest, p.run (bytes ++ rest) = .ok (a, rest)
  reject : ¬ok → ∀ rest, ∃ e, p.run (bytes ++ rest) = .error e

namespace Reads

lemma pure (a : α) : Reads (Pure.pure a : Reader ε α) [] True a :=
  ⟨fun _ _ => rfl, fun h => absurd trivial h⟩

lemma throw (e : ε) (bytes : List UInt8) (a : α) :
    Reads (MonadExcept.throw e : Reader ε α) bytes False a :=
  ⟨False.elim, fun _ _ => ⟨e, rfl⟩⟩

/-- Reading in sequence: the second reader only matters once the first has accepted. -/
lemma bind {p : Reader ε α} {f : α → Reader ε β} {first second : List UInt8} {ok ok' : Prop}
    {a : α} {b : β} (hp : Reads p first ok a) (hf : Reads (f a) second ok' b) :
    Reads (p >>= f) (first ++ second) (ok ∧ ok') b := by
  have run_bind (bytes : List UInt8) :
      (p >>= f).run bytes = p.run bytes >>= fun x => (f x.1).run x.2 := rfl
  constructor
  · rintro ⟨h, h'⟩ rest
    rw [run_bind, List.append_assoc, hp.accept h]
    exact hf.accept h' rest
  · intro h rest
    rw [run_bind, List.append_assoc]
    by_cases hok : ok
    · rw [hp.accept hok]
      exact hf.reject (fun h' => h ⟨hok, h'⟩) rest
    · obtain ⟨e, he⟩ := hp.reject hok (second ++ rest)
      exact ⟨e, by rw [he]; rfl⟩

lemma congr {p : Reader ε α} {bytes : List UInt8} {ok ok' : Prop} {a : α}
    (h : Reads p bytes ok a) (hok : ok ↔ ok') : Reads p bytes ok' a :=
  ⟨fun h' => h.accept (hok.mpr h'), fun h' => h.reject fun g => h' (hok.mp g)⟩

/-- The form in which record decoders are specified: the fields one after another, then what
their concatenation and their conditions amount to. -/
lemma cast {p : Reader ε α} {bytes bytes' : List UInt8} {ok ok' : Prop} {a : α}
    (h : Reads p bytes ok a) (hbytes : bytes' = bytes) (hok : ok ↔ ok') : Reads p bytes' ok' a :=
  hbytes ▸ h.congr hok

lemma map {p : Reader ε α} {bytes : List UInt8} {ok : Prop} {a : α} (g : α → β)
    (h : Reads p bytes ok a) : Reads (g <$> p) bytes ok (g a) := by
  have hmap : g <$> p = p >>= fun x => Pure.pure (g x) := rfl
  rw [hmap, ← List.append_nil bytes]
  exact (h.bind (pure (g a))).congr (and_iff_left trivial)

/-- A check made between two fields reads nothing. -/
lemma check (c : Prop) [Decidable c] (e : ε) :
    Reads (rejectIf c e : Reader ε Unit) [] (¬c) () := by
  by_cases h : c
  · simpa only [rejectIf, if_pos h] using (throw e [] ()).congr (by simp [h])
  · simpa only [rejectIf, if_neg h] using (Reads.pure ()).congr (by simp [h])

lemma lift {r : Except ε α} {a : α} {ok : Prop} (haccept : ok → r = .ok a)
    (hreject : ¬ok → ∃ e, r = .error e) : Reads (liftM r : Reader ε α) [] ok a := by
  constructor
  · intro h rest
    rw [haccept h]
    rfl
  · intro h rest
    obtain ⟨e, rfl⟩ := hreject h
    exact ⟨e, rfl⟩

/-- A reader whose condition is known to hold. -/
lemma given {p : Reader ε α} {bytes : List UInt8} {ok : Prop} {a : α} (h : Reads p bytes ok a) (hok : ok) :
    Reads p bytes True a :=
  h.congr (iff_true_intro hok)

lemma seq {p : Reader ε α} {f : α → Reader ε β} {first second : List UInt8} {a : α} {b : β}
    (hp : Reads p first True a) (hf : Reads (f a) second True b) : Reads (p >>= f) (first ++ second) True b :=
  (hp.bind hf).congr and_self_iff

lemma run_ok_iff {p : Reader ε α} {bytes : List UInt8} {ok : Prop} {a : α}
    (h : Reads p bytes ok a) : (∃ x, p.run bytes = .ok x) ↔ ok := by
  constructor
  · rintro ⟨x, hx⟩
    by_contra hok
    obtain ⟨e, he⟩ := h.reject hok []
    rw [List.append_nil, hx] at he
    cases he
  · intro hok
    have := h.accept hok []
    rw [List.append_nil] at this
    exact ⟨_, this⟩

lemma run_eq {p : Reader ε α} {bytes : List UInt8} {ok : Prop} {a : α}
    (h : Reads p bytes ok a) (hok : ok) : p.run bytes = .ok (a, []) := by
  simpa using h.accept hok []

end Reads

/-- Reads `n` items and folds each into the accumulator as soon as it is read. -/
def readFold (item : Reader ε α) (put : σ → α → Except ε σ) : ℕ → σ → Reader ε σ
  | 0, acc => pure acc
  | n + 1, acc => do
    let x ← item
    let acc ← liftM (put acc x)
    readFold item put n acc

/-- Folding a list through a checked update. -/
def putAll (put : σ → α → Except ε σ) : σ → List α → Except ε σ
  | acc, [] => .ok acc
  | acc, x :: xs => do
    let acc ← put acc x
    putAll put acc xs

@[simp] lemma putAll_nil (put : σ → α → Except ε σ) (acc : σ) : putAll put acc [] = .ok acc := rfl

lemma putAll_cons_ok {put : σ → α → Except ε σ} {acc next : σ} {x : α} (h : put acc x = .ok next)
    (xs : List α) : putAll put acc (x :: xs) = putAll put next xs := by
  simp only [putAll, h]
  rfl

/-- If every update along the list succeeds, the loop accepts exactly the lists of good items. -/
lemma readFold_reads {item : Reader ε α} {put : σ → α → Except ε σ} {enc : α → List UInt8}
    {ok : α → Prop} (xs : List α) (acc out : σ) (hitem : ∀ x ∈ xs, Reads item (enc x) (ok x) x)
    (hput : putAll put acc xs = .ok out) :
    Reads (readFold item put xs.length acc) (xs.flatMap enc) (∀ x ∈ xs, ok x) out := by
  induction xs generalizing acc with
  | nil =>
    cases hput
    exact (Reads.pure _).congr (by simp)
  | cons x xs ih =>
    cases hx : put acc x with
    | error e =>
      simp only [putAll, hx] at hput
      cases hput
    | ok next =>
      rw [putAll_cons_ok hx] at hput
      have hlift : Reads (liftM (put acc x) : Reader ε σ) [] True next :=
        Reads.lift (fun _ => hx) (fun h => absurd trivial h)
      have := (hitem x (by simp)).bind (f := fun y => do readFold item put xs.length (← liftM (put acc y)))
        (hlift.bind (ih next (fun y hy => hitem y (by simp [hy])) hput))
      simpa [readFold] using this

/-! What a reader accepts. -/

/-- Whatever `p` returns satisfies `P`, on any input. -/
def Yields (p : Reader ε α) (P : α → Prop) : Prop := ∀ bytes a rest, p.run bytes = .ok (a, rest) → P a

namespace Yields

lemma any (p : Reader ε α) : Yields p fun _ => True := fun _ _ _ _ => trivial

lemma pure {P : α → Prop} {a : α} (h : P a) : Yields (Pure.pure a : Reader ε α) P := by
  intro bytes b rest hrun
  cases hrun
  exact h

lemma bind {p : Reader ε α} {f : α → Reader ε β} {P : α → Prop} {Q : β → Prop} (hp : Yields p P)
    (hf : ∀ a, P a → Yields (f a) Q) : Yields (p >>= f) Q := by
  intro bytes b rest hrun
  have hsplit : (p.run bytes >>= fun x => (f x.1).run x.2) = .ok (b, rest) := hrun
  obtain ⟨⟨a, mid⟩, ha, hb⟩ := bind_eq_ok.mp hsplit
  exact hf a (hp bytes a mid ha) mid b rest hb

/-- A field about which nothing is claimed. -/
lemma skip {p : Reader ε α} {f : α → Reader ε β} {Q : β → Prop} (hf : ∀ a, Yields (f a) Q) :
    Yields (p >>= f) Q :=
  bind (any p) fun a _ => hf a

/-- A check that was passed. -/
lemma check {c : Prop} [Decidable c] {e : ε} : Yields (rejectIf c e : Reader ε Unit) fun _ => ¬c := by
  intro bytes a rest hrun hc
  rw [rejectIf, if_pos hc] at hrun
  cases hrun

lemma map {p : Reader ε α} {P : α → Prop} {Q : β → Prop} {g : α → β} (hp : Yields p P)
    (hg : ∀ a, P a → Q (g a)) : Yields (g <$> p) Q :=
  bind (f := fun a => Pure.pure (g a)) hp fun a ha => pure (hg a ha)

lemma lift {r : Except ε α} {P : α → Prop} (h : ∀ a, r = .ok a → P a) :
    Yields (liftM r : Reader ε α) P := by
  intro bytes a rest hrun
  cases r with
  | error e => cases hrun
  | ok b =>
    cases hrun
    exact h _ rfl

lemma mono {p : Reader ε α} {P Q : α → Prop} (hp : Yields p P) (h : ∀ a, P a → Q a) : Yields p Q :=
  fun bytes a rest hrun => h a (hp bytes a rest hrun)

/-- An invariant of the accumulator that every update by a good item keeps. -/
lemma readFold {item : Reader ε α} {put : σ → α → Except ε σ} {P : α → Prop} {I : ℕ → σ → Prop}
    (hitem : Yields item P) (hput : ∀ n acc x acc', I n acc → P x → put acc x = .ok acc' → I (n + 1) acc')
    {n k : ℕ} {acc : σ} (hacc : I k acc) : Yields (LibraryReader.readFold item put n acc) (I (k + n)) := by
  induction n generalizing k acc with
  | zero => exact pure hacc
  | succ n ih =>
    refine bind hitem fun x hx => bind (lift fun acc' h => hput k acc x acc' hacc hx h) fun acc' hacc' => ?_
    have := ih hacc'
    rwa [Nat.add_right_comm, Nat.add_assoc] at this

end Yields

/-- `w` bytes of `n`, most significant first. -/
def beBytes : ℕ → ℕ → List UInt8
  | 0, _ => []
  | w + 1, n => UInt8.ofNat (n / 256 ^ w) :: beBytes w n

def beNat (bytes : List UInt8) : ℕ := bytes.foldl (fun value byte => value * 256 + byte.toNat) 0

@[simp] lemma beBytes_length (w n : ℕ) : (beBytes w n).length = w := by
  induction w with
  | zero => rfl
  | succ w ih => simp [beBytes, ih]

lemma foldl_beBytes (w n acc : ℕ) :
    (beBytes w n).foldl (fun value byte => value * 256 + byte.toNat) acc =
      acc * 256 ^ w + n % 256 ^ w := by
  induction w generalizing acc with
  | zero => simp [beBytes, Nat.mod_one]
  | succ w ih =>
    simp only [beBytes, List.foldl_cons, ih, UInt8.toNat_ofNat']
    have hmod : n % 256 ^ (w + 1) = n % 256 ^ w + 256 ^ w * (n / 256 ^ w % 256) := by
      rw [pow_succ, Nat.mod_mul]
    rw [hmod]
    ring

lemma beNat_beBytes {w n : ℕ} (h : n < 256 ^ w) : beNat (beBytes w n) = n := by
  rw [beNat, foldl_beBytes, Nat.mod_eq_of_lt h]
  omega

lemma beNat_append (bytes : List UInt8) (b : UInt8) : beNat (bytes ++ [b]) = beNat bytes * 256 + b.toNat := by
  simp [beNat]

lemma beNat_lt (bytes : List UInt8) : beNat bytes < 256 ^ bytes.length := by
  induction bytes using List.reverseRecOn with
  | nil => simp [beNat]
  | append_singleton bytes b ih =>
    have hb := b.toNat_lt
    rw [beNat_append, List.length_append, List.length_singleton, pow_succ]
    omega

lemma beBytes_append (w n : ℕ) (b : UInt8) : beBytes (w + 1) (n * 256 + b.toNat) = beBytes w n ++ [b] := by
  have hb := b.toNat_lt
  induction w with
  | zero =>
    simp only [beBytes, Nat.pow_zero, Nat.div_one, List.nil_append, List.cons.injEq, and_true]
    apply UInt8.toNat_inj.mp
    rw [UInt8.toNat_ofNat']
    omega
  | succ w ih =>
    have hdiv : (n * 256 + b.toNat) / 256 ^ (w + 1) = n / 256 ^ w := by
      rw [pow_succ, Nat.mul_comm (256 ^ w) 256, ← Nat.div_div_eq_div_mul]
      congr 1
      omega
    rw [beBytes, ih, hdiv, beBytes, List.cons_append]

/-- A field of a fixed width is the encoding of the number it spells. -/
lemma beBytes_beNat (bytes : List UInt8) : beBytes bytes.length (beNat bytes) = bytes := by
  induction bytes using List.reverseRecOn with
  | nil => rfl
  | append_singleton bytes b ih =>
    rw [beNat_append, List.length_append, List.length_singleton, beBytes_append, ih]

/-- Takes a fixed number of bytes off the front. -/
def takeBytes (short : ε) (count : ℕ) : Reader ε (List UInt8) := fun bytes =>
  if bytes.length < count then .error short else .ok (bytes.take count, bytes.drop count)

lemma takeBytes_reads (short : ε) (body : List UInt8) {count : ℕ} (h : body.length = count) :
    Reads (takeBytes short count) body True body := by
  refine ⟨fun _ rest => ?_, fun h' => absurd trivial h'⟩
  subst h
  simp [takeBytes, StateT.run]

/-- An unsigned big-endian number of a fixed width. -/
def readNat (short : ε) (w : ℕ) : Reader ε ℕ := beNat <$> takeBytes short w

lemma readNat_reads (short : ε) {w n : ℕ} (h : n < 256 ^ w) :
    Reads (readNat short w) (beBytes w n) True n := by
  have := (takeBytes_reads short (beBytes w n) (beBytes_length w n)).map beNat
  rwa [beNat_beBytes h] at this

end InterClusterFabric.LibraryReader
