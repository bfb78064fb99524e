import InterClusterFabric.CoreHash
import InterClusterFabric.CoreIds
import InterClusterFabric.CoreTime
import InterClusterFabric.LibraryReader

/-! The bounded big-endian byte codec: field writers, field readers and, for each pair, when the
reader gives the written value back. -/
namespace InterClusterFabric.CoreBytes
open CoreStatus CoreHash CoreIds CoreTime LibraryChecked LibraryReader

def isContinuation (c : UInt8) : Bool := c &&& 0xC0 == 0x80

def extendCodePoint (codePoint : UInt32) (c : UInt8) : UInt32 :=
  (codePoint <<< 6) ||| (c &&& 0x3F).toUInt32

/-- Rejects overlong forms, values past the last code point and surrogate halves. -/
def codePointOk (codePoint minimum : UInt32) : Bool :=
  minimum ≤ codePoint && codePoint ≤ 0x10FFFF && !(0xD800 ≤ codePoint && codePoint ≤ 0xDFFF)

def isValidUtf8 : Bytes → Bool
  | [] => true
  | c0 :: rest =>
    if c0 < 0x80 then isValidUtf8 rest
    else if c0 &&& 0xE0 = 0xC0 then
      match rest with
      | c1 :: rest =>
        isContinuation c1 && codePointOk (extendCodePoint (c0 &&& 0x1F).toUInt32 c1) 0x80 &&
          isValidUtf8 rest
      | _ => false
    else if c0 &&& 0xF0 = 0xE0 then
      match rest with
      | c1 :: c2 :: rest =>
        isContinuation c1 && isContinuation c2 &&
          codePointOk (extendCodePoint (extendCodePoint (c0 &&& 0x0F).toUInt32 c1) c2) 0x800 &&
          isValidUtf8 rest
      | _ => false
    else if c0 &&& 0xF8 = 0xF0 then
      match rest with
      | c1 :: c2 :: c3 :: rest =>
        isContinuation c1 && isContinuation c2 && isContinuation c3 &&
          codePointOk (extendCodePoint (extendCodePoint
            (extendCodePoint (c0 &&& 0x07).toUInt32 c1) c2) c3) 0x10000 &&
          isValidUtf8 rest
      | _ => false
    else false

def isAscii (text : Bytes) : Bool := text.all fun c => decide (c < 0x80)

lemma isValidUtf8_of_isAscii {text : Bytes} (h : isAscii text = true) : isValidUtf8 text = true := by
  induction text with
  | nil => rfl
  | cons c text ih =>
    simp only [isAscii, List.all_cons, Bool.and_eq_true, decide_eq_true_eq] at h
    rw [isValidUtf8.eq_def]
    simp only [h.1, if_true]
    exact ih h.2

@[simp] lemma isAscii_append (a b : Bytes) : isAscii (a ++ b) = (isAscii a && isAscii b) :=
  List.all_append

lemma isAscii_take {text : Bytes} (h : isAscii text = true) (n : ℕ) : isAscii (text.take n) = true :=
  List.all_eq_true.mpr fun c hc => List.all_eq_true.mp h c (List.mem_of_mem_take hc)

lemma isAlnum_lt {c : UInt8} (h : isAlnum c = true) : c < 0x80 := by
  simp only [isAlnum, Bool.or_eq_true, Bool.and_eq_true, decide_eq_true_eq,
    UInt8.le_iff_toNat_le] at h
  rw [UInt8.lt_iff_toNat_lt]
  have h128 : (0x80 : UInt8).toNat = 128 := rfl
  have h122 : (122 : UInt8).toNat = 122 := rfl
  have h90 : (90 : UInt8).toNat = 90 := rfl
  have h57 : (57 : UInt8).toNat = 57 := rfl
  omega

lemma extra_isAscii (tag : NameTag) : isAscii tag.extra = true := by cases tag <;> decide

/-- Every name is plain ASCII: the permitted characters are. -/
lemma name_isAscii {tag : NameTag} (name : Name tag) : isAscii name.value = true := by
  obtain ⟨value, rfl | h⟩ := name
  · rfl
  · cases value with
    | nil => rfl
    | cons c rest =>
      simp only [nameAccepted, Bool.and_eq_true] at h
      refine List.all_eq_true.mpr fun d hd => ?_
      have hd' := List.all_eq_true.mp h.2 d hd
      rcases Bool.or_eq_true_iff.mp hd' with hd' | hd'
      · exact decide_eq_true (isAlnum_lt hd')
      · exact List.all_eq_true.mp (extra_isAscii tag) d (List.contains_iff_mem.mp hd')

lemma name_length {tag : NameTag} (name : Name tag) : name.value.length ≤ tag.maxLength := by
  obtain ⟨value, rfl | h⟩ := name
  · exact Nat.zero_le _
  · cases value with
    | nil => exact Nat.zero_le _
    | cons c rest =>
      simp only [nameAccepted, Bool.and_eq_true, decide_eq_true_eq] at h
      exact h.1.1

/-! Writers. -/

def putU8 (value : ℕ) : Bytes := beBytes 1 value
def putU16 (value : ℕ) : Bytes := beBytes 2 value
def putU32 (value : UInt32) : Bytes := beBytes 4 value.toNat
def putU64 (value : UInt64) : Bytes := beBytes 8 value.toNat
def putI64 (value : Int64) : Bytes := putU64 value.toUInt64
def putBoolean (value : Bool) : Bytes := putU8 value.toNat
def putUuid (value : Uuid) : Bytes := beBytes 16 value.toNat
def putDigest (value : Digest) : Bytes := beBytes 32 value.toNat

/-- The length prefix keeps the low 32 bits of the size. -/
def putBlob (text : Bytes) : Bytes := putU32 (UInt32.ofNat text.length) ++ text

/-- A count that does not fit its field is not written at all. -/
def putCount (value : ℕ) : Bytes := if value < 2 ^ 32 then putU32 (UInt32.ofNat value) else []

/-! Readers. -/

abbrev ByteReader (α : Type) := Reader Status α

def truncated (what : String) : Status := Status.make .incomplete (ascii what)

def u8 : ByteReader ℕ := readNat (truncated "truncated frame: uint8") 1
def u16 : ByteReader ℕ := readNat (truncated "truncated frame: uint16") 2
def u32 : ByteReader UInt32 := UInt32.ofNat <$> readNat (truncated "truncated frame: uint32") 4
def u64 : ByteReader UInt64 := UInt64.ofNat <$> readNat (truncated "truncated frame: uint64") 8
def i64 : ByteReader Int64 := UInt64.toInt64 <$> u64

def boolean : ByteReader Bool := do
  let value ← u8
  rejectIf (1 < value) (Status.invalid "boolean field must be 0 or 1")
  return value == 1

def raw (count : ℕ) : ByteReader Bytes := takeBytes (truncated "truncated frame: byte field") count

def blob (maxLength : ℕ) : ByteReader Bytes := do
  let length ← u32
  rejectIf (maxLength < length.toNat)
    (Status.invalid "string field exceeds the maximum permitted length")
  let text ← raw length.toNat
  rejectIf (isValidUtf8 text = false) (Status.invalid "string field is not valid UTF-8")
  return text

def uuid : ByteReader Uuid := (fun body => BitVec.ofNat 128 (beNat body)) <$> raw 16
def digest : ByteReader Digest := (fun body => BitVec.ofNat 256 (beNat body)) <$> raw 32

def count (maxCount : ℕ) : ByteReader ℕ := do
  let value ← u32
  rejectIf (maxCount < value.toNat)
    (Status.invalid "collection count exceeds the maximum permitted size")
  return value.toNat

def expectEnd : ByteReader Unit := do
  let rest ← get
  rejectIf (rest ≠ []) (Status.invalid "frame contains trailing bytes beyond the declared schema")

def decodeText : ByteReader Bytes := blob Limits.maxStringField

def decodeName (tag : NameTag) (maxLength : ℕ) : ByteReader (Name tag) := do
  let text ← blob maxLength
  liftM (Name.parse tag text)

def outOfRange : Status := Status.invalid "enumeration value is out of range"

def decodeEnum8 {α : Type} (cast : ℕ → α) (maxValue : ℕ) : ByteReader α := do
  let value ← u8
  rejectIf (maxValue < value) outOfRange
  return cast value

def decodeEnum16 {α : Type} (cast : ℕ → α) (maxValue : ℕ) : ByteReader α := do
  let value ← u16
  rejectIf (maxValue < value) outOfRange
  return cast value

def decodeCounter (maxValue : UInt64) : ByteReader UInt64 := do
  let value ← u64
  rejectIf (maxValue < value)
    (Status.make .overflow (ascii "counter exceeds the maximum permitted value"))
  return value

/-! What each reader gives back on what its writer wrote. -/

lemma u8_reads {n : ℕ} (h : n < 256) : Reads u8 (putU8 n) True n := readNat_reads _ (by omega)

lemma u16_reads {n : ℕ} (h : n < 65536) : Reads u16 (putU16 n) True n := readNat_reads _ (by omega)

lemma u32_reads (value : UInt32) : Reads u32 (putU32 value) True value := by
  have h := (readNat_reads (truncated "truncated frame: uint32") (w := 4)
    (show value.toNat < 256 ^ 4 from value.toNat_lt)).map UInt32.ofNat
  rwa [UInt32.ofNat_toNat] at h

lemma u64_reads (value : UInt64) : Reads u64 (putU64 value) True value := by
  have h := (readNat_reads (truncated "truncated frame: uint64") (w := 8)
    (show value.toNat < 256 ^ 8 from value.toNat_lt)).map UInt64.ofNat
  rwa [UInt64.ofNat_toNat] at h

lemma i64_reads (value : Int64) : Reads i64 (putI64 value) True value :=
  (u64_reads value.toUInt64).map UInt64.toInt64

lemma raw_reads (body : Bytes) {count : ℕ} (h : body.length = count) :
    Reads (raw count) body True body :=
  takeBytes_reads _ body h

lemma uuid_reads (value : Uuid) : Reads uuid (putUuid value) True value := by
  have h := (raw_reads (putUuid value) (beBytes_length 16 _)).map
    fun body => BitVec.ofNat 128 (beNat body)
  rwa [putUuid, beNat_beBytes (show value.toNat < 256 ^ 16 from value.isLt),
    BitVec.ofNat_toNat, BitVec.setWidth_eq] at h

lemma digest_reads (value : Digest) : Reads digest (putDigest value) True value := by
  have h := (raw_reads (putDigest value) (beBytes_length 32 _)).map
    fun body => BitVec.ofNat 256 (beNat body)
  rwa [putDigest, beNat_beBytes (show value.toNat < 256 ^ 32 from value.isLt),
    BitVec.ofNat_toNat, BitVec.setWidth_eq] at h

lemma boolean_reads (value : Bool) : Reads boolean (putBoolean value) True value := by
  have hvalue : (value.toNat == 1) = value := by cases value <;> rfl
  have hread : Reads boolean (putU8 value.toNat ++ ([] ++ [])) (True ∧ ¬1 < value.toNat ∧ True)
      (value.toNat == 1) :=
    (u8_reads (value.toNat_lt.trans (by decide))).bind ((Reads.check _ _).bind (Reads.pure _))
  rw [hvalue] at hread
  exact hread.cast (by simp [putBoolean]) (by cases value <;> simp)

lemma enum8_reads {α : Type} {cast : ℕ → α} {code maxValue : ℕ} {x : α} (hcast : cast code = x)
    (hmax : code ≤ maxValue) (hbyte : code < 256) :
    Reads (decodeEnum8 cast maxValue) (putU8 code) True x := by
  subst hcast
  exact Reads.cast ((u8_reads hbyte).bind ((Reads.check _ _).bind (Reads.pure _)))
    (by simp) (by simpa using hmax)

lemma enum16_reads {α : Type} {cast : ℕ → α} {code maxValue : ℕ} {x : α} (hcast : cast code = x)
    (hmax : code ≤ maxValue) (hword : code < 65536) :
    Reads (decodeEnum16 cast maxValue) (putU16 code) True x := by
  subst hcast
  exact Reads.cast ((u16_reads hword).bind ((Reads.check _ _).bind (Reads.pure _)))
    (by simp) (by simpa using hmax)

lemma counter_reads (maxValue value : UInt64) :
    Reads (decodeCounter maxValue) (putU64 value) (value ≤ maxValue) value :=
  Reads.cast ((u64_reads value).bind ((Reads.check _ _).bind (Reads.pure _))) (by simp) (by simp)

lemma blob_reads {text : Bytes} (maxLength : ℕ) (hsize : text.length < 2 ^ 32) :
    Reads (blob maxLength) (putBlob text)
      (text.length ≤ maxLength ∧ isValidUtf8 text = true) text := by
  have hlen : (UInt32.ofNat text.length).toNat = text.length := UInt32.toNat_ofNat_of_lt' hsize
  refine Reads.cast ((u32_reads (UInt32.ofNat text.length)).bind ((Reads.check _ _).bind
    ((raw_reads text hlen.symm).bind ((Reads.check _ _).bind (Reads.pure text))))) ?_ ?_
  · simp [putBlob]
  · rw [hlen]
    simp

lemma count_reads {value : ℕ} (maxCount : ℕ) (hsize : value < 2 ^ 32) :
    Reads (count maxCount) (putCount value) (value ≤ maxCount) value := by
  have hval : (UInt32.ofNat value).toNat = value := UInt32.toNat_ofNat_of_lt' hsize
  have hread : Reads (count maxCount) (putU32 (UInt32.ofNat value) ++ ([] ++ []))
      (True ∧ ¬maxCount < (UInt32.ofNat value).toNat ∧ True) (UInt32.ofNat value).toNat :=
    (u32_reads _).bind ((Reads.check _ _).bind (Reads.pure _))
  rw [hval] at hread
  refine hread.cast ?_ (by simp)
  rw [putCount, if_pos hsize]
  simp

/-- A name reads back exactly when it is not the default one. -/
lemma name_reads {tag : NameTag} (name : Name tag) {maxLength : ℕ}
    (hmax : tag.maxLength ≤ maxLength) :
    Reads (decodeName tag maxLength) (putBlob name.value) (name.value ≠ []) name := by
  have hlen : name.value.length ≤ maxLength := (name_length name).trans hmax
  have hsize : name.value.length < 2 ^ 32 := by
    have := name_length name
    have : tag.maxLength ≤ 192 := by cases tag <;> decide
    omega
  have hparse : Reads (liftM (Name.parse tag name.value) : ByteReader (Name tag)) []
      (name.value ≠ []) name := by
    refine Reads.lift (fun h => ?_) (fun h => ?_)
    · have := name.accepted.resolve_left h
      rw [Name.parse, dif_pos this]
    · rw [not_not.mp h]
      exact ⟨_, rfl⟩
  refine Reads.cast ((blob_reads maxLength hsize).bind hparse) (by simp) ?_
  simp [hlen, isValidUtf8_of_isAscii (name_isAscii name)]

/-! What each reader accepts. -/

lemma counter_yields (maxValue : UInt64) : Yields (decodeCounter maxValue) fun value => value ≤ maxValue := by
  refine Yields.bind (Yields.any _) fun value _ => Yields.bind Yields.check fun _ h => Yields.pure ?_
  exact UInt64.not_lt.mp h

lemma count_yields (maxCount : ℕ) : Yields (count maxCount) fun value => value ≤ maxCount := by
  refine Yields.bind (Yields.any _) fun value _ => Yields.bind Yields.check fun _ h => Yields.pure ?_
  exact not_lt.mp h

lemma raw_yields (count : ℕ) : Yields (raw count) fun body => body.length = count := by
  intro bytes body rest hrun
  simp only [raw, takeBytes, StateT.run] at hrun
  split at hrun
  · cases hrun
  · rename_i h
    cases hrun
    simpa using h

lemma blob_yields (maxLength : ℕ) :
    Yields (blob maxLength) fun text => text.length ≤ maxLength ∧ isValidUtf8 text = true := by
  refine Yields.bind (Yields.any _) fun length _ => Yields.bind Yields.check fun _ hlength =>
    Yields.bind (raw_yields _) fun text htext => Yields.bind Yields.check fun _ hutf8 => Yields.pure ⟨?_, ?_⟩
  · rw [htext]
    exact not_lt.mp hlength
  · simpa using hutf8

lemma name_yields (tag : NameTag) (maxLength : ℕ) :
    Yields (decodeName tag maxLength) fun name => name.value ≠ [] := by
  refine Yields.bind (Yields.any _) fun text _ => Yields.lift fun name hparse => ?_
  unfold Name.parse at hparse
  split at hparse
  · rename_i h
    cases hparse
    rintro rfl
    simp [nameAccepted] at h
  · cases hparse

end InterClusterFabric.CoreBytes
