import InterClusterFabric.LibraryLayout
import InterClusterFabric.ModelRegistryLaws
import InterClusterFabric.StoreMutation

/-! Snapshots: a fixed header with the metadata, the encoded registry, a checksum over both. -/
namespace InterClusterFabric.StoreSnapshot
open CoreStatus CoreIds CoreTime CoreHash CoreBytes ModelRegistry ModelRegistryLaws StoreMutation
open LibraryChecked LibraryReader LibraryLayout

def snapshotHeaderSize : ℕ := 112
def snapshotFormatVersion : ℕ := 1
def snapshotMagic : Bytes := ascii "ICFSNP1" ++ [0]

structure Snapshot where
  storeMeta : StoreMeta
  registry : Registry

/-- The first 20 bytes of the header, which its checksum covers. -/
def snapshotPrelude (payload : Bytes) : Bytes := List.flatten [
  snapshotMagic, putU16 snapshotFormatVersion, putU16 0, beBytes 4 payload.length, putU32 (crc32c payload)]

/-- The fields of a snapshot up to its last checksum. -/
def snapshotFields (storeMeta : StoreMeta) (registry : Registry) (payload : Bytes) : List Bytes := [
  snapshotMagic, putU16 snapshotFormatVersion, putU16 0, beBytes 4 payload.length, putU32 (crc32c payload),
  putU32 (crc32c (snapshotPrelude payload)), putUuid storeMeta.incarnation.uuid, putU64 storeMeta.term.value,
  putU64 storeMeta.revision.value, putU64 storeMeta.sequence.value, putI64 storeMeta.writtenAt.unixNanos,
  putU64 storeMeta.truncations, putDigest registry.digest, payload]

def encodeSnapshot (storeMeta : StoreMeta) (registry : Registry) : Result Bytes := do
  let payload := encodeRegistry registry true
  rejectIf (Limits.maxStoreRecordPayload < payload.length)
    (Status.make .capacityExceeded (ascii "snapshot payload exceeds the maximum record size"))
  let body := (snapshotFields storeMeta registry payload).flatten
  return body ++ putU32 (crc32c body)

def decodeSnapshot (bytes : Bytes) : Result Snapshot := do
  rejectIf (bytes.length < snapshotHeaderSize + 4)
    (Status.make .incomplete (ascii "snapshot is shorter than the fixed header"))
  rejectIf (slice bytes 0 8 ≠ snapshotMagic)
    (Status.make .corrupt (ascii "snapshot magic does not match ICFSNP1"))
  rejectIf (uintAt bytes 8 2 ≠ snapshotFormatVersion)
    (Status.make .incompatible (ascii "snapshot format version is not supported"))
  rejectIf (uintAt bytes 10 2 ≠ 0) (Status.invalid "snapshot flags must be zero")
  rejectIf (slice bytes 20 4 ≠ putU32 (crc32c (bytes.take 20)))
    (Status.make .corrupt (ascii "snapshot header CRC32C mismatch"))
  let payloadLength := uintAt bytes 12 4
  rejectIf (Limits.maxStoreRecordPayload < payloadLength)
    (Status.make .capacityExceeded (ascii "snapshot payload exceeds the maximum record size"))
  rejectIf (bytes.length ≠ snapshotHeaderSize + payloadLength + 4)
    (Status.make .incomplete (ascii "snapshot length does not match the declared payload length"))
  let payload := slice bytes snapshotHeaderSize payloadLength
  rejectIf (slice bytes (snapshotHeaderSize + payloadLength) 4 ≠
      putU32 (crc32c (bytes.take (snapshotHeaderSize + payloadLength))))
    (Status.make .corrupt (ascii "snapshot record CRC32C mismatch"))
  rejectIf (slice bytes 16 4 ≠ putU32 (crc32c payload))
    (Status.make .corrupt (ascii "snapshot payload CRC32C mismatch"))
  let (registry, _) ← decodeRegistry.run payload
  rejectIf (slice bytes 80 32 ≠ putDigest registry.digest)
    (Status.make .corrupt (ascii "snapshot contents do not match the digest recorded in the header"))
  return {
    registry
    storeMeta := {
      incarnation := ⟨BitVec.ofNat 128 (uintAt bytes 24 16)⟩
      term := ⟨UInt64.ofNat (uintAt bytes 40 8)⟩
      revision := ⟨UInt64.ofNat (uintAt bytes 48 8)⟩
      sequence := ⟨UInt64.ofNat (uintAt bytes 56 8)⟩
      writtenAt := ⟨(UInt64.ofNat (uintAt bytes 64 8)).toInt64⟩
      truncations := UInt64.ofNat (uintAt bytes 72 8)
      stateDigest := registry.digest } }

/-- Reading a snapshot file; a file past the size of the largest snapshot is not read. -/
def loadSnapshot (file : Bytes) : Result Snapshot := do
  rejectIf (Limits.maxStoreRecordPayload + snapshotHeaderSize + 4 < file.length)
    (Status.make .capacityExceeded (ascii "file exceeds the configured maximum size"))
  decodeSnapshot file

/-! The round trip. -/

@[simp] lemma snapshotMagic_length : snapshotMagic.length = 8 := by decide

lemma snapshotPrelude_length (payload : Bytes) : (snapshotPrelude payload).length = 20 := by
  simp [snapshotPrelude, putU16, putU32]

/-- What the snapshot of a registry decodes to. -/
def restored (storeMeta : StoreMeta) (registry : Registry) : Snapshot :=
  { storeMeta := { storeMeta with stateDigest := registry.digest }, registry }

lemma withDigest_term (storeMeta : StoreMeta) (digest : Digest) :
    ({ storeMeta with stateDigest := digest } : StoreMeta).term = storeMeta.term := rfl

lemma restored_term (storeMeta : StoreMeta) (registry : Registry) :
    (restored storeMeta registry).storeMeta.term = storeMeta.term :=
  withDigest_term storeMeta registry.digest

/-- The encoding succeeds exactly on registries that fit one record. -/
lemma encodeSnapshot_eq_ok {storeMeta : StoreMeta} {registry : Registry} {bytes : Bytes} :
    encodeSnapshot storeMeta registry = .ok bytes ↔
      (encodeRegistry registry true).length ≤ Limits.maxStoreRecordPayload ∧
        bytes = (snapshotFields storeMeta registry (encodeRegistry registry true)).flatten ++
          putU32 (crc32c (snapshotFields storeMeta registry (encodeRegistry registry true)).flatten) := by
  simp only [encodeSnapshot, rejectIf_bind_eq_ok, not_lt, pure, Except.pure, Except.ok.injEq]
  exact and_congr_right fun _ => eq_comm

lemma exists_encodeSnapshot {registry : Registry} (storeMeta : StoreMeta)
    (h : (encodeRegistry registry true).length ≤ Limits.maxStoreRecordPayload) :
    ∃ bytes, encodeSnapshot storeMeta registry = .ok bytes :=
  ⟨_, encodeSnapshot_eq_ok.mpr ⟨h, rfl⟩⟩

/-- The decoder takes a snapshot apart again and leaves the registry to its own decoder. -/
lemma decodeSnapshot_encode {storeMeta : StoreMeta} {registry : Registry} {bytes : Bytes}
    (h : encodeSnapshot storeMeta registry = .ok bytes) :
    decodeSnapshot bytes = do
      let (decoded, _) ← decodeRegistry.run (encodeRegistry registry true)
      rejectIf (putDigest registry.digest ≠ putDigest decoded.digest)
        (Status.make .corrupt (ascii "snapshot contents do not match the digest recorded in the header"))
      return restored storeMeta decoded := by
  obtain ⟨hsize, rfl⟩ := encodeSnapshot_eq_ok.mp h
  set payload := encodeRegistry registry true with hpayload
  set body := (snapshotFields storeMeta registry payload).flatten with hbody
  have hlayout : body ++ putU32 (crc32c body) =
      (snapshotFields storeMeta registry payload ++ [putU32 (crc32c body)]).flatten := by
    simp [hbody]
  have hbodyLength : body.length = snapshotHeaderSize + payload.length := by
    simp [hbody, snapshotFields, putU16, putU32, putU64, putI64, putUuid, putDigest, snapshotHeaderSize]
    omega
  have hfits : payload.length < 256 ^ 4 := lt_of_le_of_lt hsize (by decide)
  have hlength : (body ++ putU32 (crc32c body)).length = snapshotHeaderSize + payload.length + 4 := by
    simp [hbodyLength, putU32]
  have hlengths : (snapshotFields storeMeta registry payload ++ [putU32 (crc32c body)]).map List.length =
      [8, 2, 2, 4, 4, 4, 16, 8, 8, 8, 8, 8, 32, payload.length, 4] := by
    simp [snapshotFields, putU16, putU32, putU64, putI64, putUuid, putDigest]
  have hmagic : slice (body ++ putU32 (crc32c body)) 0 8 = snapshotMagic :=
    slice_flatten hlayout 0 rfl (by rw [hlengths]; rfl) snapshotMagic_length
  have hversion : uintAt (body ++ putU32 (crc32c body)) 8 2 = snapshotFormatVersion :=
    uintAt_flatten hlayout 1 rfl (by rw [hlengths]; rfl) (by decide)
  have hflags : uintAt (body ++ putU32 (crc32c body)) 10 2 = 0 :=
    uintAt_flatten hlayout 2 rfl (by rw [hlengths]; rfl) (by decide)
  have hdeclared : uintAt (body ++ putU32 (crc32c body)) 12 4 = payload.length :=
    uintAt_flatten hlayout 3 rfl (by rw [hlengths]; rfl) hfits
  have hpayloadCrc : slice (body ++ putU32 (crc32c body)) 16 4 = putU32 (crc32c payload) :=
    slice_flatten hlayout 4 rfl (by rw [hlengths]; rfl) (beBytes_length 4 _)
  have hheaderCrc : slice (body ++ putU32 (crc32c body)) 20 4 = putU32 (crc32c (snapshotPrelude payload)) :=
    slice_flatten hlayout 5 rfl (by rw [hlengths]; rfl) (beBytes_length 4 _)
  have hincarnation : uintAt (body ++ putU32 (crc32c body)) 24 16 = storeMeta.incarnation.uuid.toNat :=
    uintAt_flatten hlayout 6 rfl (by rw [hlengths]; rfl) storeMeta.incarnation.uuid.isLt
  have hterm : uintAt (body ++ putU32 (crc32c body)) 40 8 = storeMeta.term.value.toNat :=
    uintAt_flatten hlayout 7 rfl (by rw [hlengths]; rfl) (UInt64.toNat_lt _)
  have hrevision : uintAt (body ++ putU32 (crc32c body)) 48 8 = storeMeta.revision.value.toNat :=
    uintAt_flatten hlayout 8 rfl (by rw [hlengths]; rfl) (UInt64.toNat_lt _)
  have hsequence : uintAt (body ++ putU32 (crc32c body)) 56 8 = storeMeta.sequence.value.toNat :=
    uintAt_flatten hlayout 9 rfl (by rw [hlengths]; rfl) (UInt64.toNat_lt _)
  have hwritten : uintAt (body ++ putU32 (crc32c body)) 64 8 =
      storeMeta.writtenAt.unixNanos.toUInt64.toNat :=
    uintAt_flatten hlayout 10 rfl (by rw [hlengths]; rfl) (UInt64.toNat_lt _)
  have htruncations : uintAt (body ++ putU32 (crc32c body)) 72 8 = storeMeta.truncations.toNat :=
    uintAt_flatten hlayout 11 rfl (by rw [hlengths]; rfl) (UInt64.toNat_lt _)
  have hdigest : slice (body ++ putU32 (crc32c body)) 80 32 = putDigest registry.digest :=
    slice_flatten hlayout 12 rfl (by rw [hlengths]; rfl) (beBytes_length 32 _)
  have hslice : slice (body ++ putU32 (crc32c body)) snapshotHeaderSize payload.length = payload :=
    slice_flatten hlayout 13 rfl (by rw [hlengths]; rfl) rfl
  have hbodyCrc : slice (body ++ putU32 (crc32c body)) (snapshotHeaderSize + payload.length) 4 =
      putU32 (crc32c body) :=
    slice_eq (r := []) (by simp) hbodyLength (beBytes_length 4 _)
  have hbodyTake : (body ++ putU32 (crc32c body)).take (snapshotHeaderSize + payload.length) = body :=
    take_eq rfl hbodyLength
  have hprelude : (body ++ putU32 (crc32c body)).take 20 = snapshotPrelude payload := by
    refine take_eq (r := ((snapshotFields storeMeta registry payload).drop 5).flatten ++
      putU32 (crc32c body)) ?_ (snapshotPrelude_length payload)
    simp [hbody, snapshotFields, snapshotPrelude]
  have hshort : ¬snapshotHeaderSize + payload.length + 4 < snapshotHeaderSize + 4 := by omega
  simp only [decodeSnapshot, hlength, hmagic, hversion, hflags, hprelude, hheaderCrc, hdeclared, hslice,
    hbodyCrc, hbodyTake, hpayloadCrc, hdigest, hincarnation, hterm, hrevision, hsequence, hwritten,
    htruncations, UInt64.ofNat_toNat, BitVec.ofNat_toNat, BitVec.setWidth_eq, rejectIf, hshort,
    not_lt.mpr hsize, ne_eq, not_true_eq_false, if_false, pure_bind, restored]
  exact bind_congr fun _ => bind_congr fun _ => rfl

/-- The snapshot of a well-formed registry is read back if the registry is storable, and refused
if it is not. -/
lemma decodeSnapshot_of_wellFormed {storeMeta : StoreMeta} {registry : Registry} {bytes : Bytes}
    (hformed : WellFormed registry) (h : encodeSnapshot storeMeta registry = .ok bytes) :
    (RegistryStorable registry → decodeSnapshot bytes = .ok (restored storeMeta registry)) ∧
      (¬RegistryStorable registry → ∃ e, decodeSnapshot bytes = .error e) := by
  obtain ⟨hsize, -⟩ := encodeSnapshot_eq_ok.mp h
  obtain ⟨haccept, hreject⟩ := decodeRegistry_encode hformed (lt_of_le_of_lt hsize (by decide))
  rw [decodeSnapshot_encode h]
  constructor
  · intro hok
    rw [haccept hok, bind_eq_ok]
    refine ⟨(registry, []), rfl, ?_⟩
    rw [rejectIf_bind_eq_ok]
    exact ⟨not_not_intro rfl, rfl⟩
  · intro hno
    obtain ⟨e, he⟩ := hreject hno
    exact ⟨e, by rw [he]; rfl⟩

lemma snapshot_length {storeMeta : StoreMeta} {registry : Registry} {bytes : Bytes}
    (h : encodeSnapshot storeMeta registry = .ok bytes) :
    bytes.length = snapshotHeaderSize + (encodeRegistry registry true).length + 4 := by
  obtain ⟨-, rfl⟩ := encodeSnapshot_eq_ok.mp h
  simp [snapshotFields, putU16, putU32, putU64, putI64, putUuid, putDigest, snapshotHeaderSize]
  omega

lemma loadSnapshot_encode {storeMeta : StoreMeta} {registry : Registry} {bytes : Bytes}
    (h : encodeSnapshot storeMeta registry = .ok bytes) : loadSnapshot bytes = decodeSnapshot bytes := by
  obtain ⟨hsize, -⟩ := encodeSnapshot_eq_ok.mp h
  have hfits : ¬Limits.maxStoreRecordPayload + snapshotHeaderSize + 4 < bytes.length := by
    rw [snapshot_length h]
    omega
  rw [loadSnapshot, rejectIf, if_neg hfits]
  rfl

end InterClusterFabric.StoreSnapshot
