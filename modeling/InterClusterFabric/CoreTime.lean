import InterClusterFabric.CoreStatus

/-! Wall-clock timestamps and durations in signed 64-bit nanoseconds. -/
namespace InterClusterFabric.CoreTime

@[ext] structure Duration where
  nanos : Int64
deriving DecidableEq, Repr, Inhabited

@[ext] structure Timestamp where
  unixNanos : Int64
deriving DecidableEq, Repr, Inhabited

namespace Duration

def fromSeconds (value : ℕ) : Duration := ⟨Int64.ofNat (value * 1000000000)⟩
def isZero (d : Duration) : Bool := d.nanos == 0
def isNegative (d : Duration) : Bool := d.nanos < 0

end Duration

namespace Timestamp

def zero : Timestamp := ⟨0⟩

instance : LT Timestamp := ⟨fun a b => a.unixNanos < b.unixNanos⟩
instance (a b : Timestamp) : Decidable (a < b) :=
  inferInstanceAs (Decidable (a.unixNanos < b.unixNanos))

lemma lt_iff {a b : Timestamp} : a < b ↔ a.unixNanos.toInt < b.unixNanos.toInt :=
  Int64.lt_iff_toInt_lt

/-- Addition stops at the ends of the representable range. -/
def plus (t : Timestamp) (delta : Duration) : Timestamp :=
  if 0 < delta.nanos ∧ Int64.maxValue - delta.nanos < t.unixNanos then ⟨Int64.maxValue⟩
  else if delta.nanos < 0 ∧ t.unixNanos < Int64.minValue - delta.nanos then ⟨Int64.minValue⟩
  else ⟨t.unixNanos + delta.nanos⟩

def since (t earlier : Timestamp) : Duration := ⟨t.unixNanos - earlier.unixNanos⟩

end Timestamp

end InterClusterFabric.CoreTime
