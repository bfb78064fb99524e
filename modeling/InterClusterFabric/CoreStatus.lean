import Mathlib.Tactic

/-! Byte strings, the configured limits and the typed outcomes of the runtime.
A `std::string` is a list of bytes: nothing in it promises an encoding. -/
namespace InterClusterFabric.CoreStatus

abbrev Bytes := List UInt8

/-- The bytes of a string literal of the source, all of which are ASCII. -/
def ascii (s : String) : Bytes := s.toList.map fun c => UInt8.ofNat c.toNat

/-- `std::to_string` of an unsigned number. -/
def decimal (n : ℕ) : Bytes := (Nat.toDigits 10 n).map fun c => UInt8.ofNat c.toNat

namespace Limits

def maxNameLength : ℕ := 96
def maxScopeLength : ℕ := 192
def maxStringField : ℕ := 512
def maxClusters : ℕ := 1024
def maxEndpointsPerCluster : ℕ := 4096
def maxEndpointsTotal : ℕ := 65536
def maxEdges : ℕ := 65536
def maxPathHops : ℕ := 16
def maxPaths : ℕ := 65536
def maxPolicyRules : ℕ := 4096
def maxContracts : ℕ := 65536
def maxGrants : ℕ := 131072
def maxReservations : ℕ := 131072
def maxAuditRecords : ℕ := 65536
def maxFencePlanEntries : ℕ := 65536
def maxCapacity : UInt64 := 281474976710656
def maxDurationNanos : UInt64 := 31536000000000000
def maxGeneration : UInt64 := 4611686018427387904
def maxStoreRecordPayload : ℕ := 1048576
def maxStoreBytes : ℕ := 536870912
def maxStoreRecords : ℕ := 4194304
def maxRevalidateAttempts : UInt64 := 64
def maxDecisionReasons : ℕ := 32
def maxDecisionPaths : ℕ := 8

end Limits

/-- `ok` is the only success; `degradedAuthorized` is authorized but never reported as `ok`. -/
inductive Outcome
  | ok | unknown | unsupported | stale | conflicting | incomplete | indeterminate | refused
  | cancelled | invalid | unreachable | partitioned | degradedAuthorized | fenced | expired
  | unauthorized | notFound | capacityExceeded | replayed | reincarnated | corrupt | incompatible
  | overflow | busy | alreadyExists | internal
deriving DecidableEq, Repr, Inhabited

namespace Outcome

def isAuthorized : Outcome → Bool
  | ok | degradedAuthorized => true
  | _ => false

lemma isAuthorized_iff (outcome : Outcome) :
    outcome.isAuthorized = true ↔ outcome = ok ∨ outcome = degradedAuthorized := by
  cases outcome <;> simp [isAuthorized]

end Outcome

/-- A negative status. `Status::ok()` is the `Except.ok` of the functions below. -/
structure Status where
  outcome : Outcome
  message : Bytes
deriving DecidableEq, Repr

namespace Status

/-- Messages are cut to the string field bound when the status is made. -/
def make (outcome : Outcome) (message : Bytes) : Status :=
  ⟨outcome, message.take Limits.maxStringField⟩

def invalid (message : String) : Status := make .invalid (ascii message)
def unsupported (message : Bytes) : Status := make .unsupported message
def notFound (message : String) : Status := make .notFound (ascii message)
def internalError (message : String) : Status := make .internal (ascii message)

@[simp] lemma make_outcome (outcome : Outcome) (message : Bytes) :
    (make outcome message).outcome = outcome := rfl

lemma make_message_length (outcome : Outcome) (message : Bytes) :
    (make outcome message).message.length ≤ Limits.maxStringField :=
  List.length_take_le _ _

end Status

abbrev Result := Except Status

end InterClusterFabric.CoreStatus
