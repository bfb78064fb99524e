import InterClusterFabric.CoreStatus

/-! Identities. Names, UUID-derived identities and counters carry the tag of what they
identify, so that a grant identity cannot stand where an attempt identity is expected. -/
namespace InterClusterFabric.CoreIds
open CoreStatus

inductive NameTag
  | cluster | authorityDomain | endpoint | edge | path | scope
deriving DecidableEq, Repr

namespace NameTag

def extra : NameTag → Bytes
  | scope => ascii "._-/:@"
  | _ => ascii "._-"

def maxLength : NameTag → ℕ
  | scope => Limits.maxScopeLength
  | _ => Limits.maxNameLength

def allowLeadingSeparator : NameTag → Bool
  | scope => true
  | _ => false

end NameTag

def isAlnum (c : UInt8) : Bool :=
  (97 ≤ c && c ≤ 122) || (65 ≤ c && c ≤ 90) || (48 ≤ c && c ≤ 57)

/-- What `Name::parse` accepts. -/
def nameAccepted (tag : NameTag) (text : Bytes) : Bool :=
  match text with
  | [] => false
  | c :: _ =>
    decide (text.length ≤ tag.maxLength) &&
      (isAlnum c || (tag.allowLeadingSeparator && tag.extra.contains c)) &&
      text.all fun d => isAlnum d || tag.extra.contains d

/-- A name is the default-constructed empty one or a text that `parse` accepted. -/
structure Name (tag : NameTag) where
  value : Bytes
  accepted : value = [] ∨ nameAccepted tag value = true
deriving DecidableEq

namespace Name

instance {tag : NameTag} : LawfulBEq (Name tag) := inferInstance

@[ext] lemma ext {tag : NameTag} {a b : Name tag} (h : a.value = b.value) : a = b := by
  cases a
  cases b
  simp_all

def parse (tag : NameTag) (text : Bytes) : Result (Name tag) :=
  if h : nameAccepted tag text = true then .ok ⟨text, .inr h⟩
  else .error <|
    match text with
    | [] => Status.invalid "identifier must not be empty"
    | c :: _ =>
      if tag.maxLength < text.length then
        Status.invalid "identifier exceeds the maximum permitted length"
      else if !(isAlnum c || (tag.allowLeadingSeparator && tag.extra.contains c)) then
        Status.invalid "identifier must begin with an alphanumeric character"
      else Status.invalid "identifier contains a character outside the permitted set"

def empty {tag : NameTag} : Name tag := ⟨[], .inl rfl⟩

def ofAccepted {tag : NameTag} (text : Bytes) (h : nameAccepted tag text = true) : Name tag := ⟨text, .inr h⟩

instance {tag : NameTag} : Inhabited (Name tag) := ⟨empty⟩

def isEmpty {tag : NameTag} (name : Name tag) : Bool := name.value.isEmpty

/-- `std::string` comparison, byte by byte. -/
instance {tag : NameTag} : Ord (Name tag) := ⟨compareOn Name.value⟩

instance {tag : NameTag} : Std.TransOrd (Name tag) :=
  inferInstanceAs (Std.TransCmp (compareOn (@Name.value tag)))

instance {tag : NameTag} : Std.LawfulEqOrd (Name tag) where
  compare_self := @fun a => Std.ReflOrd.compare_self (a := a.value)
  eq_of_compare h := Name.ext (Std.LawfulEqOrd.eq_of_compare h)

end Name

abbrev ClusterId := Name .cluster
abbrev AuthorityDomainId := Name .authorityDomain
abbrev EndpointId := Name .endpoint
abbrev EdgeId := Name .edge
abbrev PathId := Name .path
abbrev ScopeName := Name .scope

abbrev Uuid := BitVec 128

inductive UuidTag
  | incarnation | contract | grant | attempt | session | reservation
deriving DecidableEq, Repr

/-- The bytes of a UUID compare like the number they spell. -/
@[ext] structure StrongUuid (tag : UuidTag) where
  uuid : Uuid
deriving DecidableEq, Repr, Inhabited

namespace StrongUuid

def nil {tag : UuidTag} : StrongUuid tag := ⟨0⟩

def isNil {tag : UuidTag} (id : StrongUuid tag) : Bool := id.uuid == 0

instance {tag : UuidTag} : Ord (StrongUuid tag) := ⟨compareOn StrongUuid.uuid⟩

instance {tag : UuidTag} : Std.TransOrd (StrongUuid tag) :=
  inferInstanceAs (Std.TransCmp (compareOn (@StrongUuid.uuid tag)))

instance {tag : UuidTag} : Std.LawfulEqOrd (StrongUuid tag) where
  compare_self := @fun a => Std.ReflOrd.compare_self (a := a.uuid)
  eq_of_compare h := StrongUuid.ext (Std.LawfulEqOrd.eq_of_compare h)

end StrongUuid

abbrev IncarnationId := StrongUuid .incarnation
abbrev ContractId := StrongUuid .contract
abbrev GrantId := StrongUuid .grant
abbrev AttemptId := StrongUuid .attempt
abbrev SessionToken := StrongUuid .session
abbrev ReservationId := StrongUuid .reservation

inductive CounterTag
  | generation | policyGeneration | revision | sequence | term | capacityUnits
deriving DecidableEq, Repr

@[ext] structure Counter (tag : CounterTag) where
  value : UInt64
deriving DecidableEq, Repr, Inhabited

namespace Counter

def zero {tag : CounterTag} : Counter tag := ⟨0⟩

instance {tag : CounterTag} : LT (Counter tag) := ⟨fun a b => a.value < b.value⟩
instance {tag : CounterTag} : LE (Counter tag) := ⟨fun a b => a.value ≤ b.value⟩
instance {tag : CounterTag} (a b : Counter tag) : Decidable (a < b) :=
  inferInstanceAs (Decidable (a.value < b.value))
instance {tag : CounterTag} (a b : Counter tag) : Decidable (a ≤ b) :=
  inferInstanceAs (Decidable (a.value ≤ b.value))

lemma lt_iff {tag : CounterTag} {a b : Counter tag} : a < b ↔ a.value.toNat < b.value.toNat :=
  UInt64.lt_iff_toNat_lt
lemma le_iff {tag : CounterTag} {a b : Counter tag} : a ≤ b ↔ a.value.toNat ≤ b.value.toNat :=
  UInt64.le_iff_toNat_le

lemma not_lt_iff {tag : CounterTag} {a b : Counter tag} : ¬a < b ↔ b ≤ a := by
  rw [lt_iff, le_iff, not_lt]

def ofNat {tag : CounterTag} (n : ℕ) : Counter tag := ⟨UInt64.ofNat n⟩

/-- `increment` leaves a counter at its maximum unchanged. -/
def increment {tag : CounterTag} (c : Counter tag) : Counter tag :=
  if c.value = 0xFFFFFFFFFFFFFFFF then c else ⟨c.value + 1⟩

def next {tag : CounterTag} (c : Counter tag) : Result (Counter tag) :=
  if c.value = 0xFFFFFFFFFFFFFFFF then .error (Status.make .overflow (ascii "counter overflow"))
  else .ok ⟨c.value + 1⟩

section Order

variable {tag : CounterTag} {a b c : Counter tag}

lemma le_trans (h : a ≤ b) (h' : b ≤ c) : a ≤ c := by
  rw [le_iff] at h h' ⊢
  omega

lemma lt_of_le_of_lt (h : a ≤ b) (h' : b < c) : a < c := by
  rw [le_iff] at h
  rw [lt_iff] at h' ⊢
  omega

lemma le_of_lt (h : a < b) : a ≤ b := by
  rw [lt_iff] at h
  rw [le_iff]
  omega

lemma succ_toNat (h : a.value ≠ 0xFFFFFFFFFFFFFFFF) : (a.value + 1).toNat = a.value.toNat + 1 := by
  have hlt : a.value.toNat + 1 < 2 ^ 64 := by
    have hne : a.value.toNat ≠ 2 ^ 64 - 1 := fun hmax => h (UInt64.toNat_inj.mp hmax)
    have := a.value.toNat_lt
    omega
  simp only [UInt64.toNat_add, UInt64.toNat_one, Nat.mod_eq_of_lt hlt]

lemma le_increment (a : Counter tag) : a ≤ a.increment := by
  rw [le_iff, increment]
  split
  · exact le_rfl
  · rw [succ_toNat ‹_›]
    omega

lemma lt_increment (h : a.increment.value.toNat < 2 ^ 62) : a < a.increment := by
  rw [increment] at h
  rw [lt_iff, increment]
  split at h
  · rename_i hmax
    rw [hmax] at h
    exact absurd h (by decide)
  · rename_i hmax
    rw [if_neg hmax, succ_toNat hmax]
    omega

lemma lt_of_next (h : a.next = .ok b) : a < b := by
  rw [next] at h
  split at h
  · cases h
  · rename_i hmax
    cases h
    rw [lt_iff, succ_toNat hmax]
    omega

end Order

end Counter

abbrev Generation := Counter .generation
abbrev PolicyGeneration := Counter .policyGeneration
abbrev Revision := Counter .revision
abbrev Sequence := Counter .sequence
abbrev Term := Counter .term
abbrev CapacityUnits := Counter .capacityUnits

def hexDigit (n : ℕ) : UInt8 :=
  if n < 10 then UInt8.ofNat (48 + n) else UInt8.ofNat (87 + n)

/-- The hex digits of a bit string, most significant first. -/
def hexDigits (n digits : ℕ) : Bytes :=
  (List.range digits).map fun i => hexDigit (n / 16 ^ (digits - 1 - i) % 16)

/-- The `8-4-4-4-12` lower-case rendering of a UUID. -/
def StrongUuid.toText {tag : UuidTag} (id : StrongUuid tag) : Bytes :=
  let hex := hexDigits id.uuid.toNat 32
  let dash := ascii "-"
  hex.take 8 ++ dash ++ (hex.drop 8).take 4 ++ dash ++ (hex.drop 12).take 4 ++ dash ++
    (hex.drop 16).take 4 ++ dash ++ hex.drop 20

end InterClusterFabric.CoreIds
