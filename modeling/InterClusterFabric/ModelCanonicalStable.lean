import InterClusterFabric.LibraryStable
import InterClusterFabric.ModelCanonical

/-! No field reader and no record decoder looks past what it reads. -/
namespace InterClusterFabric.ModelCanonicalStable
open CoreStatus CoreIds CoreBytes LibraryReader LibraryStable ModelRecords ModelCanonical

instance : Stable u8 := by
  unfold u8
  infer_instance

instance : Stable u16 := by
  unfold u16
  infer_instance

instance : Stable u32 := by
  unfold u32
  infer_instance

instance : Stable u64 := by
  unfold u64
  infer_instance

instance : Stable i64 := by
  unfold i64
  infer_instance

instance : Stable boolean := by
  unfold boolean
  infer_instance

instance (count : ℕ) : Stable (raw count) := by
  unfold raw
  infer_instance

instance (maxLength : ℕ) : Stable (blob maxLength) := by
  unfold blob
  infer_instance

instance : Stable uuid := by
  unfold uuid
  infer_instance

instance : Stable digest := by
  unfold digest
  infer_instance

instance (maxCount : ℕ) : Stable (count maxCount) := by
  unfold count
  infer_instance

instance : Stable decodeText := by
  unfold decodeText
  infer_instance

instance (tag : NameTag) (maxLength : ℕ) : Stable (decodeName tag maxLength) := by
  unfold decodeName
  infer_instance

instance (tag : NameTag) (maxLength : ℕ) : Stable (decodeOptionalName tag maxLength) := by
  unfold decodeOptionalName
  infer_instance

instance {α : Type} (cast : ℕ → α) (maxValue : ℕ) : Stable (decodeEnum8 cast maxValue) := by
  unfold decodeEnum8
  infer_instance

instance {α : Type} (cast : ℕ → α) (maxValue : ℕ) : Stable (decodeEnum16 cast maxValue) := by
  unfold decodeEnum16
  infer_instance

instance (maxValue : UInt64) : Stable (decodeCounter maxValue) := by
  unfold decodeCounter
  infer_instance

instance : Stable decodeProvenance := by
  unfold decodeProvenance
  infer_instance

instance : Stable decodeEndpoint := by
  unfold decodeEndpoint
  infer_instance

instance : Stable decodeConsent := by
  unfold decodeConsent
  infer_instance

instance : Stable decodeCluster := by
  unfold decodeCluster
  infer_instance

instance : Stable decodeLink := by
  unfold decodeLink
  infer_instance

instance : Stable decodePath := by
  unfold decodePath
  infer_instance

instance : Stable decodePolicy := by
  unfold decodePolicy
  infer_instance

instance : Stable decodeParty := by
  unfold decodeParty
  infer_instance

instance : Stable decodeOptionalConsent := by
  unfold decodeOptionalConsent
  infer_instance

instance : Stable decodeContract := by
  unfold decodeContract
  infer_instance

instance : Stable decodeGrant := by
  unfold decodeGrant
  infer_instance

instance : Stable decodeReservation := by
  unfold decodeReservation
  infer_instance

instance : Stable decodeAudit := by
  unfold decodeAudit
  infer_instance

end InterClusterFabric.ModelCanonicalStable
