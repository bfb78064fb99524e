import InterClusterFabric.LibraryReader

/-! What a reader took. `Parses p S` says that `p` takes off an input it accepts some bytes that it reads the same way
whatever follows them, and that `S` relates to what it returns; `Spells p enc` that these are the encoding of it. -/
namespace InterClusterFabric.LibraryParse
open LibraryChecked LibraryReader

variable {ε α β γ σ : Type}

/-- Whatever `p` returns, it read from bytes that satisfy `S`. -/
def Parses (p : Reader ε α) (S : List UInt8 → α → Prop) : Prop :=
  ∀ bytes a rest, p.run bytes = .ok (a, rest) → ∃ used, bytes = used ++ rest ∧ S used a ∧ Reads p used True a

/-- `p` read the encoding of what it returns. -/
abbrev Spells (p : Reader ε α) (enc : α → List UInt8) : Prop := Parses p fun used a => used = enc a

/-- `p` read the encoding of what it returns, and returns only what satisfies `P`. -/
abbrev Known (p : Reader ε α) (enc : α → List UInt8) (P : α → Prop) : Prop :=
  Parses p fun used a => used = enc a ∧ P a

namespace Parses

variable {S S' : List UInt8 → α → Prop} {T : List UInt8 → β → Prop}

lemma pure {a : α} (h : S [] a) : Parses (Pure.pure a : Reader ε α) S := by
  intro bytes b rest hrun
  cases hrun
  exact ⟨[], rfl, h, Reads.pure a⟩

lemma bind {p : Reader ε α} {f : α → Reader ε β} (hp : Parses p S)
    (hf : ∀ used a, S used a → Parses (f a) fun more b => T (used ++ more) b) : Parses (p >>= f) T := by
  intro bytes b rest hrun
  have hsplit : (p.run bytes >>= fun x => (f x.1).run x.2) = .ok (b, rest) := hrun
  obtain ⟨⟨a, mid⟩, ha, hb⟩ := bind_eq_ok.mp hsplit
  obtain ⟨used, rfl, hused, hreads⟩ := hp bytes a mid ha
  obtain ⟨more, rfl, hmore, hreads'⟩ := hf used a hused mid b rest hb
  exact ⟨used ++ more, (List.append_assoc used more rest).symm, hmore, hreads.seq hreads'⟩

/-- A field that is spelled by its value. -/
lemma field {p : Reader ε α} {f : α → Reader ε β} {enc : α → List UInt8} (hp : Spells p enc)
    (hf : ∀ a, Parses (f a) fun more b => T (enc a ++ more) b) : Parses (p >>= f) T :=
  hp.bind fun used a hused => by
    rw [hused]
    exact hf a

/-- A field of which something more is known. -/
lemma next {p : Reader ε α} {f : α → Reader ε β} {enc : α → List UInt8} {P : α → Prop} (hp : Known p enc P)
    (hf : ∀ a, P a → Parses (f a) fun more b => T (enc a ++ more) b) : Parses (p >>= f) T :=
  hp.bind fun used a hused => by
    rw [hused.1]
    exact hf a hused.2

/-- A check reads nothing. -/
lemma check {c : Prop} [Decidable c] {e : ε} {p : Unit → Reader ε β} (hp : ¬c → Parses (p ()) T) :
    Parses (rejectIf c e >>= p) T := by
  by_cases h : c
  · rw [rejectIf, if_pos h]
    exact fun _ _ _ hrun => by cases hrun
  · rw [rejectIf, if_neg h]
    exact hp h

/-- Neither does a conversion. -/
lemma result {r : Except ε α} (h : ∀ a, r = .ok a → S [] a) : Parses (liftM r : Reader ε α) S := by
  cases r with
  | error e => exact fun _ _ _ hrun => by cases hrun
  | ok a => exact pure (h a rfl)

lemma lift {r : Except ε α} {f : α → Reader ε β} (hf : ∀ a, r = .ok a → Parses (f a) T) :
    Parses ((liftM r : Reader ε α) >>= f) T := by
  cases r with
  | error e => exact fun _ _ _ hrun => by cases hrun
  | ok a => exact hf a rfl

lemma mono {p : Reader ε α} (hp : Parses p S) (h : ∀ used a, S used a → S' used a) : Parses p S' := by
  intro bytes a rest hrun
  obtain ⟨used, hbytes, hused, hreads⟩ := hp bytes a rest hrun
  exact ⟨used, hbytes, h used a hused, hreads⟩

lemma map {p : Reader ε α} {g : α → β} (hp : Parses p S) (h : ∀ used a, S used a → T used (g a)) :
    Parses (g <$> p) T :=
  bind (f := fun a => Pure.pure (g a)) hp fun used a hused => pure (by rw [List.append_nil]; exact h used a hused)

/-- What is read is read again, and is what the reader may yield. -/
lemma yields {p : Reader ε α} {P : α → Prop} (hp : Parses p S) (h : Yields p P) :
    Parses p fun used a => S used a ∧ Reads p used True a ∧ P a := by
  intro bytes a rest hrun
  obtain ⟨used, hbytes, hused, hreads⟩ := hp bytes a rest hrun
  exact ⟨used, hbytes, ⟨hused, hreads, h bytes a rest hrun⟩, hreads⟩

lemma known {p : Reader ε α} {enc : α → List UInt8} {P : α → Prop} (hp : Spells p enc) (h : Yields p P) :
    Known p enc P :=
  (hp.yields h).mono fun _ _ hused => ⟨hused.1, hused.2.2⟩

/-- A loop took the codes of its items one after another, and made its step for each. -/
lemma readFold {item : Reader ε α} {put : σ → α → Except ε σ} (step : σ → α → σ) {code : γ → List UInt8}
    {value : γ → α} {Good : γ → Prop} (hitem : Parses item fun used a => ∃ x, used = code x ∧ a = value x ∧ Good x)
    (hput : ∀ acc x next, put acc (value x) = .ok next → next = step acc (value x)) (n : ℕ) (acc : σ) :
    Parses (LibraryReader.readFold item put n acc) fun used out => ∃ xs : List γ, xs.length = n ∧
      used = xs.flatMap code ∧ (∀ x ∈ xs, Good x) ∧ out = (xs.map value).foldl step acc := by
  induction n generalizing acc with
  | zero => exact pure ⟨[], rfl, rfl, by simp, rfl⟩
  | succ n ih =>
    refine hitem.bind fun used a hused => lift fun next hnext => (ih next).mono fun more out hmore => ?_
    obtain ⟨x, rfl, rfl, hgood⟩ := hused
    obtain ⟨xs, hlength, rfl, hgoods, rfl⟩ := hmore
    obtain rfl := hput acc x next hnext
    exact ⟨x :: xs, by simp [hlength], rfl, List.forall_mem_cons.mpr ⟨hgood, hgoods⟩, rfl⟩

end Parses

lemma takeBytes_parses (short : ε) (count : ℕ) :
    Parses (takeBytes short count) fun used body => used = body ∧ body.length = count := by
  intro bytes body rest hrun
  simp only [takeBytes, StateT.run] at hrun
  split at hrun
  · cases hrun
  · rename_i hshort
    cases hrun
    have hlength : (bytes.take count).length = count := by
      rw [List.length_take]
      omega
    exact ⟨bytes.take count, (List.take_append_drop count bytes).symm, ⟨rfl, hlength⟩, takeBytes_reads short _ hlength⟩

lemma readNat_parses (short : ε) (w : ℕ) :
    Parses (readNat short w) fun used n => used = beBytes w n ∧ n < 256 ^ w := by
  refine (takeBytes_parses short w).map fun used body hbody => ?_
  obtain ⟨rfl, rfl⟩ := hbody
  exact ⟨(beBytes_beNat used).symm, beNat_lt used⟩

/-! Codes that one reader gives back cannot be confused. -/

lemma split_of_reads {p : Reader ε α} {first second : List UInt8} {a b : α} (ha : Reads p first True a)
    (hb : Reads p second True b) {r s : List UInt8} (h : first ++ r = second ++ s) : a = b ∧ first = second ∧ r = s := by
  have hrun := ha.accept trivial r
  rw [h, hb.accept trivial s, Except.ok.injEq, Prod.mk.injEq] at hrun
  obtain ⟨rfl, rfl⟩ := hrun
  exact ⟨rfl, List.append_cancel_right h, rfl⟩

/-- Lists of one length whose items are given back agree item by item. -/
lemma split_of_flatMap {p : Reader ε α} {enc : α → List UInt8} {code : γ → List UInt8} (value : γ → α) {xs : List α}
    {ys : List γ} (hxs : ∀ x ∈ xs, Reads p (enc x) True x) (hys : ∀ y ∈ ys, Reads p (code y) True (value y))
    (hlength : xs.length = ys.length) {r s : List UInt8} (h : xs.flatMap enc ++ r = ys.flatMap code ++ s) :
    xs = ys.map value ∧ (∀ y ∈ ys, enc (value y) = code y) ∧ r = s := by
  induction ys generalizing xs with
  | nil =>
    obtain rfl := List.length_eq_zero_iff.mp hlength
    exact ⟨rfl, by simp, h⟩
  | cons y ys ih =>
    cases xs with
    | nil => simp at hlength
    | cons x xs =>
      simp only [List.flatMap_cons, List.append_assoc] at h
      obtain ⟨rfl, hcode, hrest⟩ := split_of_reads (hxs x (by simp)) (hys y (by simp)) h
      obtain ⟨rfl, hcodes, rfl⟩ := ih (fun x hx => hxs x (by simp [hx])) (fun y hy => hys y (by simp [hy]))
        (by simpa using hlength) hrest
      exact ⟨rfl, List.forall_mem_cons.mpr ⟨hcode, hcodes⟩, rfl⟩

end InterClusterFabric.LibraryParse
