import InterClusterFabric.CoreTime
import InterClusterFabric.LibraryChecked
import InterClusterFabric.LibraryDigits
import Mathlib.Data.List.GetD

/-! Timestamps as ISO-8601 texts: the calendar algorithms of both directions, what is read and
what is written, and where the 64-bit range ends. -/
namespace InterClusterFabric.CoreIso8601
open CoreStatus CoreTime LibraryChecked LibraryDigits

structure CivilDate where
  year : ℤ
  month : ℕ
  day : ℕ

/-- The date of a day of the year that begins in March. -/
def civilInYear (y : ℤ) (doy : ℕ) : CivilDate :=
  let mp := (5 * doy + 2) / 153
  let d := doy - (153 * mp + 2) / 5 + 1
  let m := if mp < 10 then mp + 3 else mp - 9
  ⟨y + if m ≤ 2 then 1 else 0, m, d⟩

/-- The date of a day of an era, which is 400 years. -/
def civilInEra (era : ℤ) (doe : ℕ) : CivilDate :=
  let yoe := (doe - doe / 1460 + doe / 36524 - doe / 146096) / 365
  civilInYear (yoe + era * 400) (doe - (365 * yoe + yoe / 4 - yoe / 100))

def civilFromDays (days : ℤ) : CivilDate :=
  let days := days + 719468
  let era := (if 0 ≤ days then days else days - 146096).tdiv 146097
  civilInEra era (days - era * 146097).toNat

/-- `%0<width>u` of `snprintf`. -/
def zeroPadded (width n : ℕ) : Bytes := List.replicate (width - (decimal n).length) 48 ++ decimal n

/-- `%04d`; a sign counts towards the width. -/
def signedPadded (value : ℤ) : Bytes :=
  if value < 0 then 45 :: zeroPadded 3 value.natAbs else zeroPadded 4 value.natAbs

def toIso8601 (timestamp : Timestamp) : Bytes :=
  let nanos := timestamp.unixNanos.toInt
  let remainder := nanos.tmod 1000000000
  let fraction := if remainder < 0 then remainder + 1000000000 else remainder
  let seconds := if remainder < 0 then nanos.tdiv 1000000000 - 1 else nanos.tdiv 1000000000
  let remainder := seconds.tmod 86400
  let secondOfDay := if remainder < 0 then remainder + 86400 else remainder
  let days := if remainder < 0 then seconds.tdiv 86400 - 1 else seconds.tdiv 86400
  let date := civilFromDays days
  let hour := (secondOfDay.tdiv 3600).toNat
  let minute := ((secondOfDay.tmod 3600).tdiv 60).toNat
  let second := (secondOfDay.tmod 60).toNat
  signedPadded date.year ++ ascii "-" ++ zeroPadded 2 date.month ++ ascii "-" ++ zeroPadded 2 date.day ++
    ascii "T" ++ zeroPadded 2 hour ++ ascii ":" ++ zeroPadded 2 minute ++ ascii ":" ++ zeroPadded 2 second ++
    ascii "." ++ zeroPadded 9 fraction.toNat ++ ascii "Z"

/-- A computation that ends early with a status, or (`none`) with a signed result that does not
fit into 64 bits, which the language leaves undefined. -/
abbrev Signed := Except (Option Status)

def int64 (value : ℤ) : Signed ℤ := do
  rejectIf (value < -2 ^ 63 ∨ 2 ^ 63 ≤ value) none
  return value

def refuse (message : String) : Option Status := some (Status.invalid message)

structure IsoFields where
  (year month day hour minute second fraction : ℕ)

def readUint (text : Bytes) (offset count : ℕ) : Option ℕ :=
  if offset + count > text.length then none
  else
    let digits := (text.drop offset).take count
    if digits.all isDigit then some (valueFrom 0 digits) else none

/-- Up to nine digits, filled up with zeros. -/
def readFraction (text : Bytes) (start digits : ℕ) : ℕ :=
  (List.range 9).foldl
    (fun value i => value * 10 + if i < digits then digitValue (text.getD (start + i) 0) else 0) 0

/-- The tests that the text and its fields have to pass. -/
def readIso8601 (text : Bytes) : Signed IsoFields := do
  rejectIf (text.length < 20 ∨ text.getLast? ≠ some 90)
    (refuse "timestamp must be an ISO-8601 UTC value ending in Z")
  rejectIf (text.getD 4 0 ≠ 45 ∨ text.getD 7 0 ≠ 45 ∨ text.getD 10 0 ≠ 84 ∨ text.getD 13 0 ≠ 58 ∨ text.getD 16 0 ≠ 58)
    (refuse "timestamp separators are malformed")
  let nonDigit := refuse "timestamp contains a non-digit field"
  let year ← orReject (readUint text 0 4) nonDigit
  let month ← orReject (readUint text 5 2) nonDigit
  let day ← orReject (readUint text 8 2) nonDigit
  let hour ← orReject (readUint text 11 2) nonDigit
  let minute ← orReject (readUint text 14 2) nonDigit
  let second ← orReject (readUint text 17 2) nonDigit
  let dotted := text.getD 19 0 = 46
  let digits := ((text.drop 20).takeWhile isDigit).length
  rejectIf (dotted ∧ (digits = 0 ∨ 9 < digits)) (refuse "timestamp fractional seconds must have 1 to 9 digits")
  let fraction := if dotted then readFraction text 20 digits else 0
  let index := if dotted then 20 + digits else 19
  rejectIf (index + 1 ≠ text.length) (refuse "timestamp has trailing characters")
  rejectIf (month < 1 ∨ 12 < month ∨ day < 1 ∨ 31 < day ∨ 23 < hour ∨ 59 < minute ∨ 60 < second)
    (refuse "timestamp field is out of range")
  return ⟨year, month, day, hour, minute, second, fraction⟩

/-- What is divided by 400 to round down. -/
def eraNumerator (y : ℤ) : Signed ℤ := if 0 ≤ y then pure y else int64 (y - 399)

def daysFromCivil (year month day : ℕ) : Signed ℤ := do
  let y ← int64 (year - if month ≤ 2 then 1 else 0)
  let era := (← eraNumerator y).tdiv 400
  let yoe ← int64 (y - (← int64 (era * 400)))
  let shifted ← int64 (month + if 2 < month then -3 else 9)
  let doy ← int64 ((← int64 ((← int64 (153 * shifted)) + 2)).tdiv 5 + day)
  let doy ← int64 (doy - 1)
  let doe ← int64 ((← int64 (yoe * 365)) + yoe.tdiv 4)
  let doe ← int64 (doe - yoe.tdiv 100)
  let doe ← int64 (doe + doy)
  let days ← int64 ((← int64 (era * 146097)) + doe)
  int64 (days - 719468)

def secondsFromFields (fields : IsoFields) : Signed ℤ := do
  let days ← daysFromCivil fields.year fields.month fields.day
  let seconds ← int64 ((← int64 (days * 86400)) + (← int64 (fields.hour * 3600)))
  let seconds ← int64 (seconds + (← int64 (fields.minute * 60)))
  int64 (seconds + fields.second)

def magnitudeOf (seconds : ℤ) : Signed ℕ :=
  if seconds < 0 then do
    let flipped ← int64 (-(← int64 (seconds + 1)))
    return flipped.toNat + 1
  else pure seconds.toNat

def withSign (seconds : ℤ) (nanos : ℕ) : Signed ℤ := if seconds < 0 then int64 (-nanos) else pure nanos

/-- The range is tested on the magnitude of the seconds; then the fraction is added. -/
def timestampFromSeconds (seconds : ℤ) (fraction : ℕ) : Signed Timestamp := do
  let nanos := (← magnitudeOf seconds) * 1000000000
  rejectIf (2 ^ 64 ≤ nanos ∨ 2 ^ 63 - 1 < nanos)
    (some (Status.make .overflow (ascii "timestamp overflows the nanosecond range")))
  let total ← int64 ((← withSign seconds nanos) + fraction)
  return ⟨Int64.ofInt total⟩

def parseIso8601 (text : Bytes) : Signed Timestamp := do
  let fields ← readIso8601 text
  let seconds ← secondsFromFields fields
  timestampFromSeconds seconds fields.fraction

/-! The calendar. -/

/-- The years of a century, from its days: of every fourth year the last day is one more. -/
lemma century_years {c r q s : ℕ} (hc : c ≤ 3) (hr : r < 36524) (hq : q = (24 * c + r) / 1460)
    (hs : s = (r - q) / 365) :
    s ≤ 99 ∧ 365 * s + s / 4 ≤ r ∧ r ≤ 365 * s + s / 4 + 365 := by
  omega

/-- A day of an era lies in the year that is computed for it. -/
lemma era_years (doe : ℕ) {yoe : ℕ} (h : doe < 146097)
    (hyoe : yoe = (doe - doe / 1460 + doe / 36524 - doe / 146096) / 365) :
    yoe ≤ 399 ∧ 365 * yoe + yoe / 4 - yoe / 100 ≤ doe ∧ doe ≤ 365 * yoe + yoe / 4 - yoe / 100 + 365 := by
  by_cases hlast : doe = 146096
  · subst hlast
    subst hyoe
    decide
  obtain ⟨c, r, hc, hr, rfl⟩ : ∃ c r, c ≤ 3 ∧ r < 36524 ∧ doe = 36524 * c + r :=
    ⟨doe / 36524, doe % 36524, by omega, by omega, by omega⟩
  have hleaps : (36524 * c + r) / 1460 = 25 * c + (24 * c + r) / 1460 := by omega
  have hcenturies : (36524 * c + r) / 36524 = c := by omega
  have heras : (36524 * c + r) / 146096 = 0 := by omega
  generalize hs : (r - (24 * c + r) / 1460) / 365 = s
  obtain ⟨hle, hlow, hhigh⟩ := century_years hc hr rfl hs.symm
  have hyear : yoe = 100 * c + s := by
    rw [hyoe, hleaps, hcenturies, heras]
    omega
  have hquarter : yoe / 4 = 25 * c + s / 4 := by omega
  have hhundred : yoe / 100 = c := by omega
  rw [hquarter, hhundred, hyear]
  omega

lemma month_days {doy mp : ℕ} (h : doy ≤ 365) (hmp : mp = (5 * doy + 2) / 153) :
    mp ≤ 11 ∧ (153 * mp + 2) / 5 ≤ doy ∧ doy ≤ (153 * mp + 2) / 5 + 30 := by
  omega

/-- Rounding down, written for a division that rounds towards zero. -/
lemma floor_tdiv (x : ℤ) {n : ℤ} (hn : 0 < n) : (if 0 ≤ x then x else x - (n - 1)).tdiv n = x / n := by
  split
  case isTrue h => exact Int.tdiv_eq_ediv_of_nonneg h
  case isFalse h =>
    have hflip : x - (n - 1) = -(n - 1 - x) := by ring
    have hsum := Int.emod_add_mul_ediv (n - 1 - x) n
    have hlow := Int.emod_nonneg (n - 1 - x) hn.ne'
    have hhigh := Int.emod_lt_of_pos (n - 1 - x) hn
    rw [hflip, Int.neg_tdiv, Int.tdiv_eq_ediv_of_nonneg (by omega)]
    exact ((Int.ediv_emod_unique (r := n - 1 - (n - 1 - x) % n) hn).mpr ⟨by linarith, by omega, by omega⟩).1.symm

lemma borrow_tmod (x : ℤ) {n : ℤ} (hn : 0 < n) : (if x.tmod n < 0 then x.tmod n + n else x.tmod n) = x % n := by
  have hlow := Int.emod_nonneg x hn.ne'
  have hhigh := Int.emod_lt_of_pos x hn
  rw [Int.tmod_eq_emod]
  split <;> split <;> omega

lemma borrow_tdiv (x : ℤ) {n : ℤ} (hn : 0 < n) : (if x.tmod n < 0 then x.tdiv n - 1 else x.tdiv n) = x / n := by
  have hlow := Int.emod_nonneg x hn.ne'
  have hhigh := Int.emod_lt_of_pos x hn
  rw [Int.tmod_eq_emod, Int.tdiv_eq_ediv, Int.sign_eq_one_of_pos hn]
  split <;> split <;> omega

/-- Days since the epoch, the year and its months counted from March. -/
def civilDays (y shifted day : ℤ) : ℤ :=
  y / 400 * 146097 + (y % 400 * 365 + y % 400 / 4 - y % 400 / 100 + ((153 * shifted + 2) / 5 + day - 1)) - 719468

/-- What the other direction computes from a date. -/
def daysOfDate (date : CivilDate) : ℤ :=
  civilDays (date.year - if date.month ≤ 2 then 1 else 0) (date.month + if 2 < date.month then -3 else 9) date.day

def DateInRange (date : CivilDate) : Prop :=
  1 ≤ date.month ∧ date.month ≤ 12 ∧ 1 ≤ date.day ∧ date.day ≤ 31

lemma civilInYear_days (y : ℤ) (doy : ℕ) (h : doy ≤ 365) :
    DateInRange (civilInYear y doy) ∧
    daysOfDate (civilInYear y doy) =
      y / 400 * 146097 + (y % 400 * 365 + y % 400 / 4 - y % 400 / 100 + doy) - 719468 := by
  obtain ⟨hmonth, hfirst, hlast⟩ := month_days h rfl
  unfold civilInYear daysOfDate DateInRange civilDays
  generalize (5 * doy + 2) / 153 = mp at hmonth hfirst hlast ⊢
  by_cases hm : mp < 10
  · have hle : ¬ mp + 3 ≤ 2 := by omega
    have hgt : 2 < mp + 3 := by omega
    simp only [hm, if_true, hle, hgt, if_false, Int.add_zero, Int.sub_zero]
    omega
  · have hle : mp - 9 ≤ 2 := by omega
    have hgt : ¬ 2 < mp - 9 := by omega
    simp only [hm, if_true, hle, hgt, if_false, Int.add_sub_cancel]
    omega

lemma civilInEra_days (era : ℤ) (doe : ℕ) (h : doe < 146097) :
    DateInRange (civilInEra era doe) ∧ daysOfDate (civilInEra era doe) = era * 146097 + doe - 719468 := by
  unfold civilInEra
  obtain ⟨hyear, hlow, hhigh⟩ := era_years doe h rfl
  generalize (doe - doe / 1460 + doe / 36524 - doe / 146096) / 365 = yoe at hyear hlow hhigh ⊢
  obtain ⟨hrange, hdays⟩ := civilInYear_days (yoe + era * 400) (doe - (365 * yoe + yoe / 4 - yoe / 100)) (by omega)
  refine ⟨hrange, ?_⟩
  have hera : ((yoe : ℤ) + era * 400) / 400 = era := by omega
  have hyoe : ((yoe : ℤ) + era * 400) % 400 = yoe := by omega
  rw [hdays, hera, hyoe]
  omega

/-- The calendar date of a day is that of no other day. -/
lemma civilFromDays_days (days : ℤ) :
    DateInRange (civilFromDays days) ∧ daysOfDate (civilFromDays days) = days := by
  have hera := floor_tdiv (days + 719468) (n := 146097) (by decide)
  unfold civilFromDays
  simp only [show (146097 : ℤ) - 1 = 146096 from rfl] at hera ⊢
  rw [hera]
  obtain ⟨hrange, hdays⟩ := civilInEra_days ((days + 719468) / 146097)
    (days + 719468 - (days + 719468) / 146097 * 146097).toNat (by omega)
  refine ⟨hrange, hdays.trans ?_⟩
  omega

lemma civilFromDays_year (days : ℤ) (hlow : -700000 ≤ days) (hhigh : days ≤ 2800000) :
    0 ≤ (civilFromDays days).year ∧ (civilFromDays days).year < 10000 := by
  have hera := floor_tdiv (days + 719468) (n := 146097) (by decide)
  unfold civilFromDays
  simp only [show (146097 : ℤ) - 1 = 146096 from rfl] at hera ⊢
  rw [hera]
  obtain ⟨hyear, -⟩ := era_years (days + 719468 - (days + 719468) / 146097 * 146097).toNat (by omega) rfl
  unfold civilInEra civilInYear
  simp only
  split <;> omega

/-! The signed computation. -/

lemma int64_ok {value : ℤ} (h : -2 ^ 63 ≤ value ∧ value < 2 ^ 63) : int64 value = .ok value := by
  rw [int64, rejectIf, if_neg (by omega)]
  rfl

lemma ok_bind {α β : Type} (a : α) (f : α → Signed β) : ((Except.ok a : Signed α) >>= f) = f a := rfl

lemma pure_ok {α : Type} (a : α) : (pure a : Signed α) = .ok a := rfl

lemma int64_bind {β : Type} {value : ℤ} (h : -2 ^ 63 ≤ value ∧ value < 2 ^ 63) (f : ℤ → Signed β) :
    (int64 value >>= f) = f value := by
  rw [int64_ok h, ok_bind]

lemma eraNumerator_bind {β : Type} {y : ℤ} (h : -1 ≤ y) (f : ℤ → Signed β) :
    (eraNumerator y >>= f) = f (if 0 ≤ y then y else y - (400 - 1)) := by
  unfold eraNumerator
  split
  · rfl
  · exact int64_bind (by omega) f

lemma daysFromCivil_ok {year month day : ℕ} (hyear : year < 10000) (hmonth : 1 ≤ month ∧ month ≤ 12) (hday : day ≤ 31) :
    daysFromCivil year month day = .ok (daysOfDate ⟨year, month, day⟩) := by
  unfold daysFromCivil daysOfDate civilDays
  simp only
  generalize hy : (year : ℤ) - (if month ≤ 2 then 1 else 0) = y
  have hybounds : -1 ≤ y ∧ y < 10000 := by
    rw [← hy]
    split <;> omega
  generalize hshifted : (month : ℤ) + (if 2 < month then -3 else 9) = shifted
  have hsbounds : 0 ≤ shifted ∧ shifted ≤ 11 := by
    rw [← hshifted]
    split <;> omega
  have hera := floor_tdiv y (n := 400) (by decide)
  have hyoe : y - y / 400 * 400 = y % 400 := by omega
  have hmonths : (153 * shifted + 2).tdiv 5 = (153 * shifted + 2) / 5 := Int.tdiv_eq_ediv_of_nonneg (by omega)
  have hquarter : (y % 400).tdiv 4 = y % 400 / 4 := Int.tdiv_eq_ediv_of_nonneg (by omega)
  have hhundred : (y % 400).tdiv 100 = y % 400 / 100 := Int.tdiv_eq_ediv_of_nonneg (by omega)
  rw [int64_bind (by omega), eraNumerator_bind hybounds.1]
  simp (disch := omega) only [hera, int64_bind, hyoe, hmonths, hquarter, hhundred]
  rw [int64_ok (by omega)]

/-- The moment that fields within their ranges stand for, in seconds. -/
def secondsOf (fields : IsoFields) : ℤ :=
  daysOfDate ⟨fields.year, fields.month, fields.day⟩ * 86400 + fields.hour * 3600 + fields.minute * 60 + fields.second

def FieldsInRange (fields : IsoFields) : Prop :=
  fields.year < 10000 ∧ (1 ≤ fields.month ∧ fields.month ≤ 12) ∧ (1 ≤ fields.day ∧ fields.day ≤ 31) ∧
    fields.hour ≤ 23 ∧ fields.minute ≤ 59 ∧ fields.second ≤ 60 ∧ fields.fraction < 10 ^ 9

lemma daysOfDate_bounds {year month day : ℕ} (hyear : year < 10000) (hmonth : 1 ≤ month ∧ month ≤ 12)
    (hday : 1 ≤ day ∧ day ≤ 31) :
    -800000 ≤ daysOfDate ⟨year, month, day⟩ ∧ daysOfDate ⟨year, month, day⟩ ≤ 3000000 := by
  unfold daysOfDate civilDays
  simp only
  split <;> split <;> omega

lemma secondsFromFields_ok {fields : IsoFields} (h : FieldsInRange fields) :
    secondsFromFields fields = .ok (secondsOf fields) := by
  obtain ⟨hyear, hmonth, hday, hhour, hminute, hsecond, -⟩ := h
  have hdays := daysOfDate_bounds hyear hmonth hday
  unfold secondsFromFields secondsOf
  rw [daysFromCivil_ok hyear hmonth hday.2, ok_bind]
  generalize daysOfDate ⟨fields.year, fields.month, fields.day⟩ = days at hdays ⊢
  simp (disch := omega) only [int64_bind]
  exact int64_ok (by omega)

lemma magnitudeOf_ok {seconds : ℤ} (h : -2 ^ 62 ≤ seconds ∧ seconds < 2 ^ 62) :
    magnitudeOf seconds = .ok seconds.natAbs := by
  unfold magnitudeOf
  split
  · rw [int64_bind (by omega), int64_bind (by omega)]
    congr 1
    omega
  · congr 1
    omega

lemma withSign_ok {seconds : ℤ} {nanos : ℕ} (hnanos : nanos = seconds.natAbs * 1000000000) (h : nanos < 2 ^ 63) :
    withSign seconds nanos = .ok (seconds * 1000000000) := by
  unfold withSign
  split
  · rw [int64_ok (by omega)]
    congr 1
    omega
  · rw [pure_ok]
    congr 1
    omega

/-- The last part gives a timestamp, is past the end of the range, or finds the seconds out of range. -/
lemma timestampFromSeconds_eq {seconds : ℤ} (fraction : ℕ) (h : -2 ^ 62 ≤ seconds ∧ seconds < 2 ^ 62) :
    timestampFromSeconds seconds fraction =
      if seconds.natAbs * 1000000000 < 2 ^ 63 then
        if seconds * 1000000000 + fraction < 2 ^ 63 then .ok ⟨Int64.ofInt (seconds * 1000000000 + fraction)⟩
        else .error none
      else .error (some (Status.make .overflow (ascii "timestamp overflows the nanosecond range"))) := by
  unfold timestampFromSeconds
  rw [magnitudeOf_ok h, ok_bind]
  simp only
  by_cases hrange : seconds.natAbs * 1000000000 < 2 ^ 63
  · rw [if_pos hrange, rejectIf, if_neg (by omega), pure_ok, ok_bind, withSign_ok rfl hrange, ok_bind]
    by_cases hend : seconds * 1000000000 + fraction < 2 ^ 63
    · rw [if_pos hend, int64_bind (by omega), pure_ok]
    · rw [if_neg hend, int64, rejectIf, if_pos (by omega)]
      rfl
  · rw [if_neg hrange, rejectIf, if_pos (by omega)]
    rfl

/-! What is read from a text. -/

lemma fixedDigits_zero (width : ℕ) : fixedDigits width 0 = List.replicate width 48 := by
  induction width with
  | zero => rfl
  | succ width ih =>
    rw [fixedDigits, Nat.zero_div, ih, List.replicate_succ']
    rfl

lemma decimal_small {n : ℕ} (h : n < 10) : decimal n = [UInt8.ofNat (48 + n % 10)] := by
  rw [decimal, Nat.toDigits_of_lt_base h, List.map_singleton, Nat.toNat_digitChar_of_lt_ten h, Nat.mod_eq_of_lt h]

lemma decimal_large {n : ℕ} (h : 10 ≤ n) : decimal n = decimal (n / 10) ++ [UInt8.ofNat (48 + n % 10)] := by
  have hdigit : n % 10 < 10 := Nat.mod_lt _ (by decide)
  rw [decimal, Nat.toDigits_of_base_le (by decide) h, List.map_append, List.map_singleton,
    Nat.toNat_digitChar_of_lt_ten hdigit, decimal]

lemma zeroPadded_eq {width n : ℕ} (hpos : 0 < width) (h : n < 10 ^ width) :
    zeroPadded width n = fixedDigits width n := by
  induction width generalizing n with
  | zero => omega
  | succ width ih =>
    by_cases hsmall : n < 10
    · rw [zeroPadded, decimal_small hsmall, fixedDigits, Nat.div_eq_of_lt hsmall, fixedDigits_zero]
      rfl
    · have hwidth : 0 < width := by
        by_contra hzero
        have : width = 0 := by omega
        subst this
        omega
      rw [pow_succ] at h
      rw [fixedDigits, ← ih hwidth (by omega), zeroPadded, decimal_large (by omega), List.length_append,
        List.length_singleton, Nat.add_sub_add_right, zeroPadded, List.append_assoc]

/-- A field is read where it was written. -/
lemma readUint_at {text : Bytes} {offset width n : ℕ} (hdigits : (text.drop offset).take width = fixedDigits width n)
    (h : n < 10 ^ width) (hlen : offset + width ≤ text.length) : readUint text offset width = some n := by
  have hall : (fixedDigits width n).all isDigit = true := List.all_eq_true.mpr isDigit_fixedDigits
  rw [readUint, if_neg (by omega)]
  simp only [hdigits, hall, if_true, valueFrom_fixedDigits 0 h, Nat.zero_mul, Nat.zero_add]

/-- The digits that were read are those of the number. -/
lemma readUint_some {text : Bytes} {offset count value : ℕ} (h : readUint text offset count = some value) :
    offset + count ≤ text.length ∧ (text.drop offset).take count = fixedDigits count value ∧ value < 10 ^ count := by
  unfold readUint at h
  split at h
  case isTrue => cases h
  case isFalse hlen =>
    simp only at h
    split at h
    case isFalse => cases h
    case isTrue hall =>
      cases h
      have hdigits := List.all_eq_true.mp hall
      have hcount : ((text.drop offset).take count).length = count := by
        rw [List.length_take, List.length_drop]
        omega
      have hvalue := valueFrom_lt hdigits
      rw [hcount] at hvalue
      refine ⟨by omega, ?_, hvalue⟩
      have heq := eq_fixedDigits hdigits
      rwa [hcount] at heq

/-- The fraction is the digits read, with zeros for those that are missing. -/
lemma readFraction_at {text digits after : Bytes} {start : ℕ} (htext : text.drop start = digits ++ after)
    (h : digits.length ≤ 9) :
    readFraction text start digits.length = valueFrom 0 digits * 10 ^ (9 - digits.length) := by
  have hturns (n : ℕ) : (List.range n).foldl
      (fun value i => value * 10 + if i < digits.length then digitValue (text.getD (start + i) 0) else 0) 0 =
        valueFrom 0 (digits.take n) * 10 ^ (n - digits.length) := by
    induction n with
    | zero => simp
    | succ n ih =>
      rw [List.range_succ, List.foldl_concat, ih]
      by_cases hn : n < digits.length
      · have hdigit : text.getD (start + n) 0 = digits[n] := by
          rw [List.getD_eq_getElem?_getD, ← List.getElem?_drop, htext, List.getElem?_append_left hn,
            List.getElem?_eq_getElem hn, Option.getD_some]
        rw [if_pos hn, hdigit, List.take_succ_eq_append_getElem hn, valueFrom_concat, Nat.sub_eq_zero_of_le hn.le,
          Nat.sub_eq_zero_of_le hn]
        ring
      · rw [if_neg hn, List.take_of_length_le (by omega), List.take_of_length_le (by omega), Nat.succ_sub (by omega),
          pow_succ]
        ring
  have hall := hturns 9
  rwa [List.take_of_length_le h] at hall

/-- Six fields, and what follows them. -/
def isoText (year month day hour minute second : ℕ) (tail : Bytes) : Bytes :=
  fixedDigits 4 year ++ (45 :: (fixedDigits 2 month ++ (45 :: (fixedDigits 2 day ++ (84 :: (fixedDigits 2 hour ++
    (58 :: (fixedDigits 2 minute ++ (58 :: (fixedDigits 2 second ++ tail))))))))))

/-- What an accepted text passed. -/
structure Accepted (text : Bytes) (fields : IsoFields) : Prop where
  long : 20 ≤ text.length
  ends : text.getLast? = some 90
  separated : text.getD 4 0 = 45 ∧ text.getD 7 0 = 45 ∧ text.getD 10 0 = 84 ∧ text.getD 13 0 = 58 ∧ text.getD 16 0 = 58
  year : readUint text 0 4 = some fields.year
  month : readUint text 5 2 = some fields.month
  day : readUint text 8 2 = some fields.day
  hour : readUint text 11 2 = some fields.hour
  minute : readUint text 14 2 = some fields.minute
  second : readUint text 17 2 = some fields.second
  fraction : text.getD 19 0 = 46 ∧ ((text.drop 20).takeWhile isDigit).length ≠ 0 ∧
      ((text.drop 20).takeWhile isDigit).length ≤ 9 ∧
      20 + ((text.drop 20).takeWhile isDigit).length + 1 = text.length ∧
      fields.fraction = readFraction text 20 ((text.drop 20).takeWhile isDigit).length ∨
    text.getD 19 0 ≠ 46 ∧ text.length = 20 ∧ fields.fraction = 0
  ranges : (1 ≤ fields.month ∧ fields.month ≤ 12) ∧ (1 ≤ fields.day ∧ fields.day ≤ 31) ∧ fields.hour ≤ 23 ∧
    fields.minute ≤ 59 ∧ fields.second ≤ 60

lemma accepted_iff {text : Bytes} {fields : IsoFields} : readIso8601 text = .ok fields ↔ Accepted text fields := by
  unfold readIso8601
  simp only [bind_eq_ok, rejectIf_eq_ok, orReject_eq_ok, exists_const]
  constructor
  · rintro ⟨hlong, hseparated, year, hyear, month, hmonth, day, hday, hour, hhour, minute, hminute, second, hsecond,
      hdigits, hlength, hranges, hfields⟩
    cases hfields
    have hshort := not_or.mp hlong
    refine ⟨Nat.le_of_not_lt hshort.1, not_not.mp hshort.2, by tauto, hyear, hmonth, hday, hhour, hminute, hsecond,
      ?_, ?_⟩
    · by_cases hdot : text.getD 19 0 = 46
      · simp only [hdot, true_and, if_true] at hdigits hlength
        exact .inl ⟨hdot, by omega, by omega, by omega, if_pos hdot⟩
      · simp only [hdot, if_false] at hlength
        exact .inr ⟨hdot, by omega, if_neg hdot⟩
    · simp only
      omega
  · intro h
    have hlong := h.long
    have hranges := h.ranges
    refine ⟨?_, ?_, _, h.year, _, h.month, _, h.day, _, h.hour, _, h.minute, _, h.second, ?_⟩
    · rw [h.ends]
      simpa using hlong
    · have := h.separated
      tauto
    · obtain ⟨hdot, hpos, hle, hlength, hfraction⟩ | ⟨hdot, hlength, hfraction⟩ := h.fraction
      · simp only [hdot, true_and, if_true, ← hfraction]
        exact ⟨by omega, by omega, by omega, rfl⟩
      · simp only [hdot, false_and, if_false, ← hfraction, hlength]
        exact ⟨not_false, by omega, by omega, rfl⟩

lemma takeWhile_digits {digits : Bytes} (hdigits : ∀ c ∈ digits, isDigit c = true) :
    (digits ++ [90]).takeWhile isDigit = digits := by
  rw [List.takeWhile_append_of_pos hdigits]
  simp [show isDigit 90 = false from by decide]

/-- Fields written with a fraction of up to nine digits are accepted. -/
lemma readIso8601_isoText {year month day hour minute second fraction : ℕ} (digits : Bytes)
    (hdigits : ∀ c ∈ digits, isDigit c = true) (hpos : 1 ≤ digits.length) (hlen : digits.length ≤ 9)
    (hrange : FieldsInRange ⟨year, month, day, hour, minute, second, fraction⟩) :
    readIso8601 (isoText year month day hour minute second (46 :: (digits ++ [90]))) =
      .ok ⟨year, month, day, hour, minute, second, valueFrom 0 digits * 10 ^ (9 - digits.length)⟩ := by
  obtain ⟨hyear, hmonth, hday, hhour, hminute, hsecond, -⟩ := hrange
  simp only at hyear hmonth hday hhour hminute hsecond
  set text := isoText year month day hour minute second (46 :: (digits ++ [90])) with htext
  have hfront : text = text.take 20 ++ (digits ++ [90]) := rfl
  have hlength : text.length = 21 + digits.length := by
    rw [htext]
    simp only [isoText, List.length_append, List.length_cons, length_fixedDigits, List.length_nil]
    omega
  have hlast : text.getLast? = some 90 := by
    rw [hfront, ← List.append_assoc, List.getLast?_concat]
  have hdrop : text.drop 20 = digits ++ [90] := rfl
  apply accepted_iff.mpr
  have hwidth {n bound : ℕ} (hle : n ≤ bound) (hbound : bound < 10 ^ 2) : n < 10 ^ 2 := hle.trans_lt hbound
  refine ⟨by omega, hlast, ⟨rfl, rfl, rfl, rfl, rfl⟩, readUint_at rfl hyear (by omega),
    readUint_at rfl (hwidth hmonth.2 (by decide)) (by omega), readUint_at rfl (hwidth hday.2 (by decide)) (by omega),
    readUint_at rfl (hwidth hhour (by decide)) (by omega), readUint_at rfl (hwidth hminute (by decide)) (by omega),
    readUint_at rfl (hwidth hsecond (by decide)) (by omega), .inl ?_, ⟨hmonth, hday, hhour, hminute, hsecond⟩⟩
  rw [hdrop, takeWhile_digits hdigits]
  exact ⟨rfl, by omega, hlen, by omega, (readFraction_at hdrop hlen).symm⟩

lemma padded_lt {digits : Bytes} (hdigits : ∀ c ∈ digits, isDigit c = true) (hlen : digits.length ≤ 9) :
    valueFrom 0 digits * 10 ^ (9 - digits.length) < 10 ^ 9 := by
  have hlt := valueFrom_lt hdigits
  calc valueFrom 0 digits * 10 ^ (9 - digits.length)
      < 10 ^ digits.length * 10 ^ (9 - digits.length) := Nat.mul_lt_mul_of_pos_right hlt (by positivity)
    _ = 10 ^ 9 := by rw [← pow_add, Nat.add_sub_cancel' hlen]

/-- An accepted text with a fraction is spelled by its fields. -/
lemma accepted_spelling {text : Bytes} {fields : IsoFields} (h : Accepted text fields) (hdot : text.getD 19 0 = 46) :
    ∃ digits : Bytes, (∀ c ∈ digits, isDigit c = true) ∧ 1 ≤ digits.length ∧ digits.length ≤ 9 ∧
      text = isoText fields.year fields.month fields.day fields.hour fields.minute fields.second
        (46 :: (digits ++ [90])) ∧
      fields.fraction = valueFrom 0 digits * 10 ^ (9 - digits.length) := by
  obtain ⟨-, hpos, hle, hlength, hfraction⟩ | ⟨hnot, -⟩ := h.fraction
  · generalize hdef : (text.drop 20).takeWhile isDigit = digits at hpos hle hlength hfraction
    have hdigits : ∀ c ∈ digits, isDigit c = true := by
      intro c hc
      rw [← hdef] at hc
      exact List.all_eq_true.mp List.all_takeWhile c hc
    have hsplit : text.drop 20 = digits ++ (text.drop 20).dropWhile isDigit := by
      rw [← hdef, List.takeWhile_append_dropWhile]
    have hone : ((text.drop 20).dropWhile isDigit).length = 1 := by
      have hcount := congrArg List.length hsplit
      rw [List.length_drop, List.length_append] at hcount
      omega
    obtain ⟨last, hrest⟩ := List.length_eq_one_iff.mp hone
    rw [hrest] at hsplit
    have hlast : last = 90 := by
      have hends := h.ends
      rw [← List.take_append_drop 20 text, hsplit, ← List.append_assoc, List.getLast?_concat] at hends
      exact Option.some.inj hends
    rw [hlast] at hsplit
    have hfield {offset count value : ℕ} (hread : readUint text offset count = some value) :
        text.drop offset = fixedDigits count value ++ text.drop (offset + count) := by
      rw [← (readUint_some hread).2.1, ← List.drop_drop, List.take_append_drop]
    have hmark {offset : ℕ} {c : UInt8} (hlt : offset < text.length) (hc : text.getD offset 0 = c) :
        text.drop offset = c :: text.drop (offset + 1) := by
      rw [List.getD_eq_getElem _ _ hlt] at hc
      rw [List.drop_eq_getElem_cons hlt, hc]
    have hlong := h.long
    obtain ⟨h4, h7, h10, h13, h16⟩ := h.separated
    refine ⟨digits, hdigits, by omega, hle, (hfield h.year).trans ?_, ?_⟩
    · rw [hmark (by omega) h4, hfield h.month, hmark (by omega) h7, hfield h.day, hmark (by omega) h10, hfield h.hour,
        hmark (by omega) h13, hfield h.minute, hmark (by omega) h16, hfield h.second, hmark (by omega) hdot, hsplit]
      rfl
    · rw [hfraction, readFraction_at hsplit hle]
  · exact absurd hdot hnot

lemma accepted_ranges {text : Bytes} {fields : IsoFields} (h : Accepted text fields) : FieldsInRange fields := by
  have hfraction : fields.fraction < 10 ^ 9 := by
    by_cases hdot : text.getD 19 0 = 46
    · obtain ⟨digits, hdigits, -, hle, -, heq⟩ := accepted_spelling h hdot
      rw [heq]
      exact padded_lt hdigits hle
    · obtain ⟨hyes, -⟩ | ⟨-, -, hzero⟩ := h.fraction
      · exact absurd hyes hdot
      · rw [hzero]
        decide
  obtain ⟨hmonth, hday, hhour, hminute, hsecond⟩ := h.ranges
  exact ⟨(readUint_some h.year).2.2, hmonth, hday, hhour, hminute, hsecond, hfraction⟩

/-- A text that is not accepted is refused with a status. -/
lemma readIso8601_refuses (text : Bytes) : ErrorsIn (fun status => status ≠ none) (readIso8601 text) := by
  have hrefuse (message : String) : refuse message ≠ none := by simp [refuse]
  unfold readIso8601
  refine .bind (.reject (hrefuse _)) fun _ => .bind (.reject (hrefuse _)) fun _ => ?_
  refine .bind (.lookup (hrefuse _)) fun _ => .bind (.lookup (hrefuse _)) fun _ => ?_
  refine .bind (.lookup (hrefuse _)) fun _ => .bind (.lookup (hrefuse _)) fun _ => ?_
  refine .bind (.lookup (hrefuse _)) fun _ => .bind (.lookup (hrefuse _)) fun _ => ?_
  refine .bind (.reject (hrefuse _)) fun _ => .bind (.reject (hrefuse _)) fun _ => ?_
  exact .bind (.reject (hrefuse _)) fun _ => .pure _

/-! Both directions together. -/

lemma parseIso8601_eq {text : Bytes} {fields : IsoFields} (h : Accepted text fields) :
    parseIso8601 text =
      if (secondsOf fields).natAbs * 1000000000 < 2 ^ 63 then
        if secondsOf fields * 1000000000 + fields.fraction < 2 ^ 63 then
          .ok ⟨Int64.ofInt (secondsOf fields * 1000000000 + fields.fraction)⟩
        else .error none
      else .error (some (Status.make .overflow (ascii "timestamp overflows the nanosecond range"))) := by
  have hranges := accepted_ranges h
  obtain ⟨hyear, hmonth, hday, hhour, hminute, hsecond, -⟩ := hranges
  have hdays := daysOfDate_bounds hyear hmonth hday
  unfold parseIso8601
  rw [accepted_iff.mpr h, ok_bind, secondsFromFields_ok (accepted_ranges h), ok_bind]
  apply timestampFromSeconds_eq
  unfold secondsOf
  omega

/-- The date and the time of day that a number of seconds falls on. -/
def fieldsOf (seconds : ℤ) (fraction : ℕ) : IsoFields :=
  let date := civilFromDays (seconds / 86400)
  let secondOfDay := (seconds % 86400).toNat
  ⟨date.year.toNat, date.month, date.day, secondOfDay / 3600, secondOfDay % 3600 / 60, secondOfDay % 60, fraction⟩

lemma fieldsOf_exact (seconds : ℤ) (fraction : ℕ) (hlow : -9223372037 ≤ seconds) (hhigh : seconds ≤ 9223372036)
    (hfraction : fraction < 10 ^ 9) :
    FieldsInRange (fieldsOf seconds fraction) ∧ secondsOf (fieldsOf seconds fraction) = seconds := by
  obtain ⟨hrange, hdays⟩ := civilFromDays_days (seconds / 86400)
  obtain ⟨hpos, hlt⟩ := civilFromDays_year (seconds / 86400) (by omega) (by omega)
  obtain ⟨hmonth, hmonth', hday, hday'⟩ := hrange
  unfold FieldsInRange secondsOf fieldsOf
  simp only
  have hyear : ((civilFromDays (seconds / 86400)).year.toNat : ℤ) = (civilFromDays (seconds / 86400)).year := by omega
  have hdate : daysOfDate ⟨(civilFromDays (seconds / 86400)).year.toNat, (civilFromDays (seconds / 86400)).month,
      (civilFromDays (seconds / 86400)).day⟩ = seconds / 86400 := by
    rw [hyear]
    exact hdays
  rw [hdate]
  omega

lemma ascii_dash : ascii "-" = [45] := rfl
lemma ascii_t : ascii "T" = [84] := rfl
lemma ascii_colon : ascii ":" = [58] := rfl
lemma ascii_dot : ascii "." = [46] := rfl
lemma ascii_z : ascii "Z" = [90] := rfl

/-- What is written is the spelling of those fields. -/
lemma toIso8601_eq (timestamp : Timestamp) {fields : IsoFields}
    (hfields : fields = fieldsOf (timestamp.unixNanos.toInt / 1000000000)
      (timestamp.unixNanos.toInt % 1000000000).toNat) :
    toIso8601 timestamp = isoText fields.year fields.month fields.day fields.hour fields.minute fields.second
      (46 :: (fixedDigits 9 fields.fraction ++ [90])) := by
  generalize hn : timestamp.unixNanos.toInt = n at hfields
  have hlow : -2 ^ 63 ≤ n := hn ▸ timestamp.unixNanos.le_toInt
  have hhigh : n < 2 ^ 63 := hn ▸ timestamp.unixNanos.toInt_lt
  obtain ⟨hranges, -⟩ := fieldsOf_exact (n / 1000000000) (n % 1000000000).toNat (by omega) (by omega) (by omega)
  rw [← hfields] at hranges
  obtain ⟨hyear, hmonth, hday, hhour, hminute, hsecond, hfraction⟩ := hranges
  have hpositive := (civilFromDays_year (n / 1000000000 / 86400) (by omega) (by omega)).1
  have hsigned : signedPadded (civilFromDays (n / 1000000000 / 86400)).year = fixedDigits 4 fields.year := by
    have hcast : (civilFromDays (n / 1000000000 / 86400)).year.natAbs = fields.year := by
      rw [hfields, fieldsOf]
      simp only
      omega
    rw [signedPadded, if_neg (by omega), hcast, zeroPadded_eq (by decide) hyear]
  have htwo {value bound : ℕ} (hle : value ≤ bound) (hbound : bound < 10 ^ 2) :
      zeroPadded 2 value = fixedDigits 2 value := zeroPadded_eq (by decide) (hle.trans_lt hbound)
  generalize hsecondOfDay : n / 1000000000 % 86400 = secondOfDay
  have hclock : (secondOfDay.tdiv 3600).toNat = fields.hour ∧ ((secondOfDay.tmod 3600).tdiv 60).toNat = fields.minute ∧
      (secondOfDay.tmod 60).toNat = fields.second := by
    rw [hfields, fieldsOf, hsecondOfDay]
    simp only
    rw [Int.tdiv_eq_ediv_of_nonneg (by omega), Int.tmod_eq_emod_of_nonneg (by omega),
      Int.tmod_eq_emod_of_nonneg (by omega), Int.tdiv_eq_ediv_of_nonneg (by omega)]
    omega
  have hmonth' : zeroPadded 2 (civilFromDays (n / 1000000000 / 86400)).month = fixedDigits 2 fields.month := by
    rw [← htwo hmonth.2 (by decide), hfields, fieldsOf]
  have hday' : zeroPadded 2 (civilFromDays (n / 1000000000 / 86400)).day = fixedDigits 2 fields.day := by
    rw [← htwo hday.2 (by decide), hfields, fieldsOf]
  have hfraction' : zeroPadded 9 (n % 1000000000).toNat = fixedDigits 9 fields.fraction := by
    rw [← zeroPadded_eq (by decide) hfraction, hfields, fieldsOf]
  unfold toIso8601
  have hbillion : (0 : ℤ) < 1000000000 := by decide
  have hlength : (0 : ℤ) < 86400 := by decide
  simp only [hn, borrow_tmod _ hbillion, borrow_tdiv _ hbillion, borrow_tmod _ hlength, borrow_tdiv _ hlength,
    hclock, hsecondOfDay,
    hsigned, hmonth', hday', hfraction', htwo hhour (by decide), htwo hminute (by decide), htwo hsecond (by decide)]
  simp only [isoText, ascii_dash, ascii_t, ascii_colon, ascii_dot, ascii_z, List.append_assoc, List.cons_append,
    List.nil_append]

/-- The round trip succeeds from the first second on whose magnitude is in the range. -/
lemma parse_toIso8601 (timestamp : Timestamp) :
    parseIso8601 (toIso8601 timestamp) =
      if -9223372036000000000 ≤ timestamp.unixNanos.toInt then .ok timestamp
      else .error (some (Status.make .overflow (ascii "timestamp overflows the nanosecond range"))) := by
  have htext := toIso8601_eq timestamp rfl
  have hlow := timestamp.unixNanos.le_toInt
  have hhigh := timestamp.unixNanos.toInt_lt
  obtain ⟨hranges, hseconds⟩ := fieldsOf_exact (timestamp.unixNanos.toInt / 1000000000)
    (timestamp.unixNanos.toInt % 1000000000).toNat (by omega) (by omega) (by omega)
  have hfraction : (fieldsOf (timestamp.unixNanos.toInt / 1000000000)
      (timestamp.unixNanos.toInt % 1000000000).toNat).fraction = (timestamp.unixNanos.toInt % 1000000000).toNat := rfl
  generalize fieldsOf (timestamp.unixNanos.toInt / 1000000000) (timestamp.unixNanos.toInt % 1000000000).toNat = fields
    at htext hranges hseconds hfraction
  have haccepted : Accepted (toIso8601 timestamp) fields := by
    have hnine := length_fixedDigits 9 fields.fraction
    have hread := readIso8601_isoText (fixedDigits 9 fields.fraction) isDigit_fixedDigits (by omega) (by omega) hranges
    rw [← htext, length_fixedDigits, valueFrom_fixedDigits 0 hranges.2.2.2.2.2.2, Nat.zero_mul, Nat.zero_add,
      Nat.sub_self, pow_zero, Nat.mul_one] at hread
    exact accepted_iff.mp hread
  have htotal : timestamp.unixNanos.toInt / 1000000000 * 1000000000 + (timestamp.unixNanos.toInt % 1000000000).toNat =
      timestamp.unixNanos.toInt := by omega
  rw [parseIso8601_eq haccepted, hseconds, hfraction, htotal, if_pos hhigh, Int64.ofInt_toInt]
  by_cases hstart : -9223372036000000000 ≤ timestamp.unixNanos.toInt
  · rw [if_pos (by omega), if_pos hstart]
  · rw [if_neg (by omega), if_neg hstart]

/-- Texts of the last second that is in range, with a fraction beyond the end of the range. -/
def PastRange (text : Bytes) : Prop :=
  ∃ digits : Bytes, text = ascii "2262-04-11T23:47:16." ++ digits ++ ascii "Z" ∧ (∀ c ∈ digits, isDigit c = true) ∧
    1 ≤ digits.length ∧ digits.length ≤ 9 ∧ 854775807 < valueFrom 0 digits * 10 ^ (9 - digits.length)

lemma lastSecond_text (tail : Bytes) :
    ascii "2262-04-11T23:47:16." ++ tail = isoText 2262 4 11 23 47 16 (46 :: tail) := rfl

lemma lastDay_year {y doy : ℤ} (hdoy : 0 ≤ doy ∧ doy ≤ 367)
    (h : y / 400 * 146097 + (y % 400 * 365 + y % 400 / 4 - y % 400 / 100 + doy) - 719468 = 106751) :
    y = 2262 ∧ doy = 41 := by
  have hera : y / 400 = 5 := by omega
  have hyear : 261 ≤ y % 400 ∧ y % 400 ≤ 262 := by omega
  have hquarter : y % 400 / 4 = 65 := by omega
  have hhundred : y % 400 / 100 = 2 := by omega
  omega

/-- There is one way to write the last second of the range. -/
lemma lastSecond_fields {fields : IsoFields} (hranges : FieldsInRange fields) (h : secondsOf fields = 9223372036) :
    fields.year = 2262 ∧ fields.month = 4 ∧ fields.day = 11 ∧ fields.hour = 23 ∧ fields.minute = 47 ∧
      fields.second = 16 := by
  obtain ⟨hyear, hmonth, hday, hhour, hminute, hsecond, -⟩ := hranges
  unfold secondsOf at h
  have hdate : daysOfDate ⟨fields.year, fields.month, fields.day⟩ = 106751 := by omega
  rw [hdate] at h
  have hday' : fields.year = 2262 ∧ fields.month = 4 ∧ fields.day = 11 := by
    unfold daysOfDate civilDays at hdate
    simp only at hdate
    obtain ⟨hy, hdoy⟩ := lastDay_year (by split <;> omega) hdate
    by_cases hm : fields.month ≤ 2
    · rw [if_neg (by omega)] at hdoy
      omega
    · rw [if_pos (by omega)] at hdoy
      rw [if_neg hm] at hy
      have hbefore : fields.month < 5 := by omega
      have hafter : 3 < fields.month := by omega
      omega
  omega

lemma parse_undefined (text : Bytes) : parseIso8601 text = .error none ↔ PastRange text := by
  constructor
  · intro h
    cases hread : readIso8601 text with
    | error status =>
      rw [parseIso8601, hread] at h
      exact absurd (Except.error.inj h) (readIso8601_refuses text status hread)
    | ok fields =>
      have haccepted := accepted_iff.mp hread
      have hranges := accepted_ranges haccepted
      have hfraction := hranges.2.2.2.2.2.2
      rw [parseIso8601_eq haccepted] at h
      split at h
      case isFalse => cases h
      case isTrue hrange =>
        split at h
        case isTrue => cases h
        case isFalse hend =>
          obtain ⟨hyear, hmonth, hday, hhour, hminute, hsecond⟩ := lastSecond_fields hranges (by omega)
          have hdot : text.getD 19 0 = 46 := by
            by_contra hnot
            obtain ⟨hyes, -⟩ | ⟨-, -, hzero⟩ := haccepted.fraction
            · exact hnot hyes
            · omega
          obtain ⟨digits, hdigits, hpos, hle, htext, hvalue⟩ := accepted_spelling haccepted hdot
          rw [hyear, hmonth, hday, hhour, hminute, hsecond, ← lastSecond_text, ← ascii_z, ← List.append_assoc] at htext
          exact ⟨digits, htext, hdigits, hpos, hle, by omega⟩
  · rintro ⟨digits, htext, hdigits, hpos, hle, hvalue⟩
    have hlt := padded_lt hdigits hle
    have hranges : FieldsInRange ⟨2262, 4, 11, 23, 47, 16, 0⟩ := by
      unfold FieldsInRange
      decide
    have hread := readIso8601_isoText digits hdigits hpos hle hranges
    rw [← lastSecond_text, ← ascii_z, ← List.append_assoc, ← htext] at hread
    have hseconds (fraction : ℕ) : secondsOf ⟨2262, 4, 11, 23, 47, 16, fraction⟩ = 9223372036 := by
      have hzero : secondsOf ⟨2262, 4, 11, 23, 47, 16, 0⟩ = 9223372036 := by decide
      exact hzero
    rw [parseIso8601_eq (accepted_iff.mp hread), hseconds, if_pos (by decide), if_neg (by simp only; omega)]

/-- The round trip and the absence of overflow, each with the inputs on which it holds. -/
theorem iso8601_roundtrip_iff (timestamp : Timestamp) (text : Bytes) :
    (parseIso8601 (toIso8601 timestamp) = .ok timestamp ↔ -9223372036000000000 ≤ timestamp.unixNanos.toInt) ∧
    (parseIso8601 text ≠ .error none ↔ ¬ PastRange text) := by
  constructor
  · rw [parse_toIso8601]
    by_cases hstart : -9223372036000000000 ≤ timestamp.unixNanos.toInt
    · simp [hstart]
    · simp [hstart]
  · rw [Ne, parse_undefined]

/-- The earliest timestamp cannot be read back, and a text just past the range makes the sum overflow. -/
theorem iso8601_roundtrip_fails :
    parseIso8601 (toIso8601 ⟨Int64.minValue⟩) =
      .error (some (Status.make .overflow (ascii "timestamp overflows the nanosecond range"))) ∧
    parseIso8601 (ascii "2262-04-11T23:47:16.854775808Z") = .error none := by
  decide +kernel

end InterClusterFabric.CoreIso8601
