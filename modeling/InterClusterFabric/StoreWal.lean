import InterClusterFabric.CoreBytes
import InterClusterFabric.LibraryLayout

/-! The write-ahead log: a fixed file header, then framed records in strictly increasing sequence.
Opening scans the longest intact prefix and cuts off whatever follows it. -/
namespace InterClusterFabric.StoreWal
open CoreStatus CoreIds CoreTime CoreHash CoreBytes LibraryChecked LibraryReader LibraryLayout

inductive RecordKind
  | invalid | mutation | storeMeta | snapshotMarker | incident
deriving DecidableEq, Repr, Inhabited

def recordKindKnown : RecordKind → Bool
  | .invalid => false
  | _ => true

def walHeaderSize : ℕ := 64
def recordHeaderSize : ℕ := 32
def recordTrailerSize : ℕ := 4
def walFormatVersion : ℕ := 1
def walMagic : Bytes := ascii "ICFWAL1" ++ [0]

def crcBytes (data : Bytes) : Bytes := putU32 (crc32c data)

/-- The first 56 bytes of the file header, which its checksum covers. -/
def headerFields (stream : IncarnationId) (createdAt : Timestamp) : Bytes := List.flatten [
  walMagic, putU16 walFormatVersion, putU16 0, beBytes 4 walHeaderSize, putUuid stream.uuid,
  putI64 createdAt.unixNanos, putU64 0, putU64 0]

def makeHeader (stream : IncarnationId) (createdAt : Timestamp) : Bytes :=
  headerFields stream createdAt ++ crcBytes (headerFields stream createdAt) ++ putU32 0

def validateHeader (header : Bytes) : Result Unit := do
  rejectIf (header.take 8 ≠ walMagic)
    (Status.make .corrupt (ascii "log header magic does not match ICFWAL1"))
  rejectIf (uintAt header 8 2 ≠ walFormatVersion)
    (Status.make .incompatible (ascii "log format version is not supported"))
  rejectIf (uintAt header 10 2 ≠ 0) (Status.invalid "log header flags must be zero")
  rejectIf (uintAt header 12 4 ≠ walHeaderSize)
    (Status.invalid "log header length field is inconsistent")
  rejectIf (slice header 56 4 ≠ crcBytes (header.take 56))
    (Status.make .corrupt (ascii "log header CRC32C mismatch"))

/-- What the visitor of the scan is given. -/
structure LogRecord where
  kind : RecordKind
  sequence : Sequence
  writtenAt : Timestamp
  payload : Bytes
deriving DecidableEq

/-- The first 28 bytes of a record header, which its checksum covers. -/
def recordFields (record : LogRecord) : Bytes := List.flatten [
  beBytes 4 record.payload.length, putU16 record.kind.ctorIdx, putU16 0, putU64 record.sequence.value,
  putI64 record.writtenAt.unixNanos, crcBytes record.payload]

def recordHead (record : LogRecord) : Bytes :=
  recordFields record ++ crcBytes (recordFields record) ++ record.payload

/-- One framed record. -/
def frameRecord (record : LogRecord) : Bytes := recordHead record ++ crcBytes (recordHead record)

/-- What stands at the front of the unread log. `unordered` is found before the payload is read. -/
inductive Head
  | clean
  | torn (incident : Bytes)
  | unordered
  | intact (record : LogRecord) (rest : Bytes)

def torn (incident : String) : Head := .torn (ascii incident)

/-- The record at the front, after the sequence number of the one before it. -/
def scanHead (previous : Option Sequence) (bytes : Bytes) : Head :=
  let header := bytes.take recordHeaderSize
  let length := uintAt header 0 4
  let sequence : Sequence := ⟨UInt64.ofNat (uintAt header 8 8)⟩
  let payload := slice bytes recordHeaderSize length
  if bytes = [] then .clean
  else if header.length ≠ recordHeaderSize then torn "log ends inside a record header"
  else if slice header 28 4 ≠ crcBytes (header.take 28) then torn "record header CRC32C mismatch"
  else if RecordKind.incident.ctorIdx < uintAt header 4 2 ∨ uintAt header 4 2 = 0 then
    torn "record kind is not recognised"
  else if uintAt header 6 2 ≠ 0 then torn "record flags must be zero"
  else if Limits.maxStoreRecordPayload < length then torn "record payload length exceeds the maximum"
  else if ∃ p ∈ previous, ¬p < sequence then .unordered
  else if payload.length ≠ length then torn "log ends inside a record payload"
  else if (slice bytes (recordHeaderSize + length) recordTrailerSize).length ≠ recordTrailerSize then
    torn "log ends inside a record trailer"
  else if slice bytes (recordHeaderSize + length) recordTrailerSize ≠ crcBytes (header ++ payload) then
    torn "record CRC32C mismatch"
  else if slice header 24 4 ≠ crcBytes payload then torn "record payload CRC32C mismatch"
  else
    .intact ⟨RecordKind.ofNat (uintAt header 4 2), sequence,
      ⟨(UInt64.ofNat (uintAt header 16 8)).toInt64⟩, payload⟩
      (bytes.drop (recordHeaderSize + length + recordTrailerSize))

/-- What the scan has found so far. -/
structure Scan (ρ : Type) where
  state : ρ
  records : ℕ := 0
  lastSequence : Option Sequence := none
  offset : ℕ := walHeaderSize
  incident : Option Bytes := none

/-- The scan loop. Every turn consumes a record, so the length of the log bounds the turns. -/
def scanRecords {ρ : Type} (visitor : ρ → LogRecord → Result ρ) (maxRecords : ℕ) :
    ℕ → Bytes → Scan ρ → Result (Scan ρ)
  | 0, _, scan => .ok scan
  | fuel + 1, bytes, scan =>
    match scanHead scan.lastSequence bytes with
    | .clean => .ok scan
    | .torn incident => .ok { scan with incident := some incident }
    | .unordered =>
      .error (Status.make .replayed (ascii "log sequence numbers are not strictly increasing"))
    | .intact record rest => do
      let state ← visitor scan.state record
      rejectIf (maxRecords < scan.records + 1)
        (Status.make .capacityExceeded (ascii "log holds more records than the configured bound"))
      scanRecords visitor maxRecords fuel rest
        { scan with
          state, records := scan.records + 1, lastSequence := some record.sequence
          offset := scan.offset + recordHeaderSize + record.payload.length + recordTrailerSize }

/-- The scan of a whole log file. -/
def scanLog {ρ : Type} (visitor : ρ → LogRecord → Result ρ) (maxRecords : ℕ) (file : Bytes) (state : ρ) :
    Result (Scan ρ) := do
  rejectIf (file.length < walHeaderSize)
    (Status.make .corrupt (ascii "log file is shorter than the fixed header"))
  validateHeader (file.take walHeaderSize)
  scanRecords visitor maxRecords file.length (file.drop walHeaderSize) { state }

/-- The open log: its size, its records and the last sequence written. -/
structure Wal where
  bytes : ℕ := walHeaderSize
  records : ℕ := 0
  lastSequence : Sequence := ⟨0⟩

namespace Wal

/-- The checks before a record is written. -/
def admits (wal : Wal) (kind : RecordKind) (payload : Bytes) : Result Unit := do
  rejectIf (recordKindKnown kind = false) (Status.invalid "record kind is not recognised")
  rejectIf (Limits.maxStoreRecordPayload < payload.length)
    (Status.make .capacityExceeded (ascii "record payload exceeds the maximum size"))
  rejectIf (Limits.maxStoreRecords ≤ wal.records)
    (Status.make .capacityExceeded (ascii "log reached the configured record bound"))
  rejectIf (Limits.maxStoreBytes < recordHeaderSize + recordTrailerSize + payload.length + wal.bytes)
    (Status.make .capacityExceeded (ascii "log reached the configured size bound"))

/-- The log after a record has been written. -/
def extend (wal : Wal) (record : LogRecord) : Wal :=
  { bytes := wal.bytes + (frameRecord record).length
    records := wal.records + 1
    lastSequence := record.sequence }

/-- The log after its file has been replaced by a bare header; the last sequence is kept. -/
def reset (wal : Wal) : Wal := { wal with bytes := walHeaderSize, records := 0 }

def needsCompaction (wal : Wal) (byteThreshold recordThreshold : ℕ) : Bool :=
  byteThreshold ≤ wal.bytes || recordThreshold ≤ wal.records

end Wal

/-! Layout. -/

@[simp] lemma crcBytes_length (data : Bytes) : (crcBytes data).length = 4 := beBytes_length _ _

@[simp] lemma walMagic_length : walMagic.length = 8 := by decide

lemma headerFields_length (stream : IncarnationId) (createdAt : Timestamp) :
    (headerFields stream createdAt).length = 56 := by
  simp [headerFields, putU16, putI64, putU64, putUuid]

lemma makeHeader_length (stream : IncarnationId) (createdAt : Timestamp) :
    (makeHeader stream createdAt).length = walHeaderSize := by
  simp [makeHeader, headerFields_length, putU32, walHeaderSize]

lemma recordFields_length (record : LogRecord) : (recordFields record).length = 28 := by
  simp [recordFields, putU16, putI64, putU64]

lemma frameRecord_length (record : LogRecord) :
    (frameRecord record).length = record.payload.length + 36 := by
  simp [frameRecord, recordHead, recordFields_length]
  omega

lemma validateHeader_makeHeader (stream : IncarnationId) (createdAt : Timestamp) :
    validateHeader (makeHeader stream createdAt) = .ok () := by
  have hlayout : makeHeader stream createdAt = List.flatten [
      walMagic, putU16 walFormatVersion, putU16 0, beBytes 4 walHeaderSize, putUuid stream.uuid,
      putI64 createdAt.unixNanos, putU64 0, putU64 0, crcBytes (headerFields stream createdAt), putU32 0] := by
    simp [makeHeader, headerFields]
  have hmagic : (makeHeader stream createdAt).take 8 = walMagic :=
    take_eq hlayout walMagic_length
  have hversion : uintAt (makeHeader stream createdAt) 8 2 = walFormatVersion :=
    uintAt_flatten hlayout 1 rfl (by simp) (by decide)
  have hflags : uintAt (makeHeader stream createdAt) 10 2 = 0 :=
    uintAt_flatten hlayout 2 rfl (by simp [putU16]) (by decide)
  have hsize : uintAt (makeHeader stream createdAt) 12 4 = walHeaderSize :=
    uintAt_flatten hlayout 3 rfl (by simp [putU16]) (by decide)
  have hfields : (makeHeader stream createdAt).take 56 = headerFields stream createdAt :=
    take_eq (List.append_assoc _ _ _) (headerFields_length stream createdAt)
  have hcrc : slice (makeHeader stream createdAt) 56 4 = crcBytes (headerFields stream createdAt) :=
    slice_eq (List.append_assoc _ _ _) (headerFields_length stream createdAt) (crcBytes_length _)
  simp only [validateHeader, hmagic, hversion, hflags, hsize, hfields, hcrc, ne_eq, not_true_eq_false]
  rfl

/-! Scanning what was written. -/

/-- A record that `append` may write after `previous`. -/
structure Appendable (previous : Option Sequence) (record : LogRecord) : Prop where
  known : recordKindKnown record.kind = true
  bounded : record.payload.length ≤ Limits.maxStoreRecordPayload
  later : ∀ p ∈ previous, p < record.sequence

lemma kind_code {kind : RecordKind} (h : recordKindKnown kind = true) :
    kind.ctorIdx ≤ RecordKind.incident.ctorIdx ∧ kind.ctorIdx ≠ 0 := by
  cases kind <;> simp [recordKindKnown] at h <;> decide

lemma header_length (record : LogRecord) :
    (recordFields record ++ crcBytes (recordFields record)).length = recordHeaderSize := by
  simp [recordFields_length, recordHeaderSize]

/-- Behind the header of a record that may be written, only its payload and its trailer are looked at. -/
lemma scanHead_header {previous : Option Sequence} {record : LogRecord} (h : Appendable previous record)
    {bytes : Bytes} (hheader : bytes.take recordHeaderSize = recordFields record ++ crcBytes (recordFields record)) :
    scanHead previous bytes =
      if (slice bytes recordHeaderSize record.payload.length).length ≠ record.payload.length then
        torn "log ends inside a record payload"
      else if (slice bytes (recordHeaderSize + record.payload.length) recordTrailerSize).length ≠ recordTrailerSize then
        torn "log ends inside a record trailer"
      else if slice bytes (recordHeaderSize + record.payload.length) recordTrailerSize ≠
          crcBytes (recordFields record ++ crcBytes (recordFields record) ++
            slice bytes recordHeaderSize record.payload.length) then
        torn "record CRC32C mismatch"
      else if crcBytes record.payload ≠ crcBytes (slice bytes recordHeaderSize record.payload.length) then
        torn "record payload CRC32C mismatch"
      else
        .intact { record with payload := slice bytes recordHeaderSize record.payload.length }
          (bytes.drop (recordHeaderSize + record.payload.length + recordTrailerSize)) := by
  obtain ⟨hcode, hzero⟩ := kind_code h.known
  have hbound : record.payload.length < 256 ^ 4 := lt_of_le_of_lt h.bounded (by decide)
  have hheadlen := header_length record
  have hlayout : recordFields record ++ crcBytes (recordFields record) = List.flatten [
      beBytes 4 record.payload.length, putU16 record.kind.ctorIdx, putU16 0,
      putU64 record.sequence.value, putI64 record.writtenAt.unixNanos, crcBytes record.payload,
      crcBytes (recordFields record)] := by
    simp [recordFields]
  have hne : bytes ≠ [] := by
    intro hnil
    rw [hnil] at hheader
    have hzero := congrArg List.length hheader
    rw [hheadlen] at hzero
    cases hzero
  have hlength : uintAt (recordFields record ++ crcBytes (recordFields record)) 0 4 = record.payload.length :=
    uintAt_flatten hlayout 0 rfl (by simp) hbound
  have hkind : uintAt (recordFields record ++ crcBytes (recordFields record)) 4 2 = record.kind.ctorIdx :=
    uintAt_flatten hlayout 1 rfl (by simp) (lt_of_le_of_lt hcode (by decide))
  have hflags : uintAt (recordFields record ++ crcBytes (recordFields record)) 6 2 = 0 :=
    uintAt_flatten hlayout 2 rfl (by simp [putU16]) (by decide)
  have hsequence : uintAt (recordFields record ++ crcBytes (recordFields record)) 8 8 =
      record.sequence.value.toNat :=
    uintAt_flatten hlayout 3 rfl (by simp [putU16]) record.sequence.value.toNat_lt
  have hwritten : uintAt (recordFields record ++ crcBytes (recordFields record)) 16 8 =
      record.writtenAt.unixNanos.toUInt64.toNat :=
    uintAt_flatten hlayout 4 rfl (by simp [putU16, putU64]) (UInt64.toNat_lt _)
  have hpayloadCrc : slice (recordFields record ++ crcBytes (recordFields record)) 24 4 =
      crcBytes record.payload :=
    slice_flatten hlayout 5 rfl (by simp [putU16, putU64, putI64]) (crcBytes_length _)
  have hheaderCrc : slice (recordFields record ++ crcBytes (recordFields record)) 28 4 =
      crcBytes (recordFields record) :=
    slice_eq (r := []) (by simp) (recordFields_length record) (crcBytes_length _)
  have hfields : (recordFields record ++ crcBytes (recordFields record)).take 28 = recordFields record :=
    take_eq rfl (recordFields_length record)
  have hlater : ¬∃ p ∈ previous, ¬p < record.sequence := by
    rintro ⟨p, hp, hnot⟩
    exact hnot (h.later p hp)
  simp only [scanHead, hheader, hlength, hkind, hflags, hsequence, hwritten, hpayloadCrc, hheaderCrc,
    hfields, hne, hheadlen, if_false, ne_eq, not_true_eq_false, UInt64.ofNat_toNat, hlater, not_lt.mpr hcode,
    hzero, or_self, not_lt.mpr h.bounded, RecordKind.ofNat_ctorIdx]
  rfl

lemma scanHead_frame {previous : Option Sequence} {record : LogRecord} (h : Appendable previous record)
    (rest : Bytes) : scanHead previous (frameRecord record ++ rest) = .intact record rest := by
  have hheadlen := header_length record
  have hheader : (frameRecord record ++ rest).take recordHeaderSize =
      recordFields record ++ crcBytes (recordFields record) :=
    take_eq (r := record.payload ++ crcBytes (recordHead record) ++ rest)
      (by simp [frameRecord, recordHead]) hheadlen
  have hpayload : slice (frameRecord record ++ rest) recordHeaderSize record.payload.length =
      record.payload :=
    slice_eq (r := crcBytes (recordHead record) ++ rest)
      (by simp only [frameRecord, recordHead, List.append_assoc]) hheadlen rfl
  have hheadLength : (recordHead record).length = recordHeaderSize + record.payload.length := by
    rw [recordHead, List.length_append, hheadlen]
  have htrailer : slice (frameRecord record ++ rest) (recordHeaderSize + record.payload.length)
      recordTrailerSize = crcBytes (recordHead record) :=
    slice_eq (List.append_assoc _ _ _) hheadLength (crcBytes_length _)
  have htrailerLength : (crcBytes (recordHead record)).length = recordTrailerSize := crcBytes_length _
  have hrest : (frameRecord record ++ rest).drop
      (recordHeaderSize + record.payload.length + recordTrailerSize) = rest :=
    drop_eq rfl (by rw [frameRecord, List.length_append, hheadLength]; rfl)
  have hwhole : recordFields record ++ crcBytes (recordFields record) ++ record.payload =
      recordHead record := rfl
  simp only [scanHead_header h hheader, hpayload, htrailer, hrest, hwhole, htrailerLength, ne_eq,
    not_true_eq_false, if_false]

/-- The records of a log body, framed one after another. -/
def frames (records : List LogRecord) : Bytes := records.flatMap frameRecord

lemma length_le_frames (records : List LogRecord) : records.length ≤ (frames records).length := by
  induction records with
  | nil => simp
  | cons record rest ih =>
    have hframes : frames (record :: rest) = frameRecord record ++ frames rest := by simp [frames]
    rw [hframes, List.length_append, List.length_cons, frameRecord_length]
    omega

/-- Each record may be written after the one before it. -/
def AppendableAll : Option Sequence → List LogRecord → Prop
  | _, [] => True
  | previous, record :: rest => Appendable previous record ∧ AppendableAll (some record.sequence) rest

/-- The last sequence of a list of records. -/
def lastOf (previous : Option Sequence) (records : List LogRecord) : Option Sequence :=
  records.foldl (fun _ record => some record.sequence) previous

lemma appendableAll_append {previous : Option Sequence} {records : List LogRecord} {record : LogRecord} :
    AppendableAll previous (records ++ [record]) ↔
      AppendableAll previous records ∧ Appendable (lastOf previous records) record := by
  induction records generalizing previous with
  | nil => simp [AppendableAll, lastOf]
  | cons first rest ih =>
    simp only [List.cons_append, AppendableAll, ih, and_assoc]
    rfl

@[simp] lemma lastOf_append (previous : Option Sequence) (records : List LogRecord) (record : LogRecord) :
    lastOf previous (records ++ [record]) = some record.sequence := by
  simp [lastOf]

/-- The visitor over a list of records. -/
def visitAll {ρ : Type} (visitor : ρ → LogRecord → Result ρ) (state : ρ) (records : List LogRecord) :
    Result ρ :=
  putAll visitor state records

/-- The scan hands the visitor the records that were written, and goes on behind them. -/
lemma scanRecords_append {ρ : Type} {visitor : ρ → LogRecord → Result ρ} {maxRecords : ℕ}
    {records : List LogRecord} {scan : Scan ρ} {fuel : ℕ} (hfuel : records.length ≤ fuel)
    (hrecords : AppendableAll scan.lastSequence records)
    (hmax : scan.records + records.length ≤ maxRecords) (tail : Bytes) :
    scanRecords visitor maxRecords fuel (frames records ++ tail) scan =
      visitAll visitor scan.state records >>= fun state =>
        scanRecords visitor maxRecords (fuel - records.length) tail { scan with
          state, records := scan.records + records.length
          lastSequence := lastOf scan.lastSequence records
          offset := scan.offset + (frames records).length } := by
  induction records generalizing scan fuel with
  | nil => rfl
  | cons record rest ih =>
    simp only [List.length_cons] at hfuel hmax
    obtain ⟨fuel, rfl⟩ : ∃ n, fuel = n + 1 := ⟨fuel - 1, by omega⟩
    have hframes : frames (record :: rest) ++ tail = frameRecord record ++ (frames rest ++ tail) := by
      simp [frames]
    rw [scanRecords, hframes, scanHead_frame hrecords.1]
    simp only [visitAll, putAll]
    cases hvisit : visitor scan.state record with
    | error e => rfl
    | ok state =>
      have hbound : ¬maxRecords < scan.records + 1 := by omega
      have hnext := @ih { scan with
          state, records := scan.records + 1, lastSequence := some record.sequence
          offset := scan.offset + recordHeaderSize + record.payload.length + recordTrailerSize } fuel
        (by omega) hrecords.2 (by simp only; omega)
      simp only [rejectIf, hbound, if_false]
      refine hnext.trans ?_
      simp only [visitAll, bind, Except.bind]
      congr 1
      funext next
      have hlength : (frames (record :: rest)).length = record.payload.length + 36 + (frames rest).length := by
        simp [frames, frameRecord_length]
      have hfuel' : fuel + 1 - (rest.length + 1) = fuel - rest.length := by omega
      simp only [hlength, List.length_cons, hfuel']
      congr 1
      simp only [Scan.mk.injEq, true_and, and_true]
      refine ⟨by omega, rfl, ?_⟩
      simp only [recordHeaderSize, recordTrailerSize]
      omega

/-- The scan hands the visitor exactly the records that were written. -/
lemma scanRecords_frames {ρ : Type} {visitor : ρ → LogRecord → Result ρ} {maxRecords : ℕ}
    {records : List LogRecord} {scan : Scan ρ} {fuel : ℕ} (hfuel : records.length < fuel)
    (hrecords : AppendableAll scan.lastSequence records)
    (hmax : scan.records + records.length ≤ maxRecords) :
    scanRecords visitor maxRecords fuel (frames records) scan =
      (visitAll visitor scan.state records).map fun state =>
        { scan with
          state, records := scan.records + records.length
          lastSequence := lastOf scan.lastSequence records
          offset := scan.offset + (frames records).length } := by
  have hscan := @scanRecords_append ρ visitor maxRecords records scan fuel hfuel.le hrecords hmax []
  obtain ⟨left, hleft⟩ : ∃ n, fuel - records.length = n + 1 := ⟨fuel - records.length - 1, by omega⟩
  rw [List.append_nil, hleft] at hscan
  rw [hscan]
  cases visitAll visitor scan.state records <;> rfl

/-! Only what was framed is scanned. -/

lemma ofNat_code {code : ℕ} (h : code ≤ RecordKind.incident.ctorIdx) : (RecordKind.ofNat code).ctorIdx = code := by
  have hcode : code ≤ 4 := h
  interval_cases code <;> rfl

/-- The header fields of an intact record are those of its frame. -/
lemma recordFields_of_header {header : Bytes} {record : LogRecord} (hlength : header.length = recordHeaderSize)
    (hpayload : record.payload.length = uintAt header 0 4) (hkind : record.kind.ctorIdx = uintAt header 4 2)
    (hflags : uintAt header 6 2 = 0) (hsequence : record.sequence = ⟨UInt64.ofNat (uintAt header 8 8)⟩)
    (hwritten : record.writtenAt = ⟨(UInt64.ofNat (uintAt header 16 8)).toInt64⟩)
    (hcrc : slice header 24 4 = crcBytes record.payload) : recordFields record = header.take 28 := by
  have hbound : recordHeaderSize = 32 := rfl
  have hword (n : ℕ) (hn : n < 256 ^ 8) : (UInt64.ofNat n).toNat = n := UInt64.toNat_ofNat_of_lt' hn
  have hseq : uintAt header 8 8 < 256 ^ 8 := uintAt_lt 8 8 (by omega)
  have hat : uintAt header 16 8 < 256 ^ 8 := uintAt_lt 16 8 (by omega)
  have hsplit : header.take 28 = slice header 0 4 ++ slice header 4 2 ++ slice header 6 2 ++ slice header 8 8 ++
      slice header 16 8 ++ slice header 24 4 := by
    rw [show 28 = 24 + 4 from rfl, take_eq_append_slice, show 24 = 16 + 8 from rfl, take_eq_append_slice,
      show 16 = 8 + 8 from rfl, take_eq_append_slice, show 8 = 6 + 2 from rfl, take_eq_append_slice,
      show 6 = 4 + 2 from rfl, take_eq_append_slice]
    simp [slice]
  rw [hsplit, ← beBytes_uintAt 0 4 (by omega), ← beBytes_uintAt 4 2 (by omega),
    ← beBytes_uintAt 6 2 (by omega), ← beBytes_uintAt 8 8 (by omega), ← beBytes_uintAt 16 8 (by omega),
    hcrc, hflags]
  simp [recordFields, hpayload, hkind, hsequence, hwritten, putU16, putU64, putI64, hword _ hseq, hword _ hat]

/-- An intact record passed the test before it. -/
lemma of_ite_intact {c : Prop} [Decidable c] {stop next : Head} {record : LogRecord} {rest : Bytes}
    (hstop : stop ≠ .intact record rest) (h : (if c then stop else next) = .intact record rest) :
    ¬c ∧ next = .intact record rest := by
  by_cases hc : c
  · rw [if_pos hc] at h
    exact absurd h hstop
  · rw [if_neg hc] at h
    exact ⟨hc, h⟩

lemma scanHead_intact {previous : Option Sequence} {bytes rest : Bytes} {record : LogRecord}
    (h : scanHead previous bytes = .intact record rest) :
    Appendable previous record ∧ bytes = frameRecord record ++ rest := by
  unfold scanHead at h
  obtain ⟨-, h⟩ := of_ite_intact (by simp) h
  obtain ⟨hheader, h⟩ := of_ite_intact (by simp [torn]) h
  obtain ⟨hheaderCrc, h⟩ := of_ite_intact (by simp [torn]) h
  obtain ⟨hkind, h⟩ := of_ite_intact (by simp [torn]) h
  obtain ⟨hflags, h⟩ := of_ite_intact (by simp [torn]) h
  obtain ⟨hbound, h⟩ := of_ite_intact (by simp [torn]) h
  obtain ⟨horder, h⟩ := of_ite_intact (by simp) h
  obtain ⟨hpayload, h⟩ := of_ite_intact (by simp [torn]) h
  obtain ⟨htrailer, h⟩ := of_ite_intact (by simp [torn]) h
  obtain ⟨hcrc, h⟩ := of_ite_intact (by simp [torn]) h
  obtain ⟨hpayloadCrc, h⟩ := of_ite_intact (by simp [torn]) h
  rw [Head.intact.injEq] at h
  obtain ⟨rfl, rfl⟩ := h
  rw [not_not] at hheader hheaderCrc hflags hpayload htrailer hcrc hpayloadCrc
  obtain ⟨hcode, hzero⟩ := not_or.mp hkind
  rw [not_lt] at hcode hbound
  set header := bytes.take recordHeaderSize with hheaderDef
  set length := uintAt header 0 4 with hlengthDef
  set payload := slice bytes recordHeaderSize length with hpayloadDef
  set record : LogRecord := ⟨RecordKind.ofNat (uintAt header 4 2), ⟨UInt64.ofNat (uintAt header 8 8)⟩,
    ⟨(UInt64.ofNat (uintAt header 16 8)).toInt64⟩, payload⟩ with hrecord
  have hfields : recordFields record = header.take 28 :=
    recordFields_of_header hheader hpayload (ofNat_code hcode) hflags rfl rfl hpayloadCrc
  have hhead : recordHead record = header ++ payload := by
    rw [recordHead, hfields, ← hheaderCrc, ← take_eq_append_slice header 28 4]
    congr 1
    exact List.take_of_length_le hheader.le
  refine ⟨⟨?_, hpayload.trans_le hbound, ?_⟩, ?_⟩
  · have hne : (RecordKind.ofNat (uintAt header 4 2)).ctorIdx ≠ 0 := by rwa [ofNat_code hcode]
    cases hk : RecordKind.ofNat (uintAt header 4 2) with
    | invalid => rw [hk] at hne; exact absurd rfl hne
    | _ => simp [hrecord, hk, recordKindKnown]
  · intro p hp
    by_contra hnot
    exact horder ⟨p, hp, hnot⟩
  · have hsplit : bytes = header ++ (payload ++
        (slice bytes (recordHeaderSize + length) recordTrailerSize ++
          bytes.drop (recordHeaderSize + length + recordTrailerSize))) := by
      rw [← drop_eq_slice_append, ← drop_eq_slice_append, hheaderDef, List.take_append_drop]
    rw [hcrc] at hsplit
    rw [frameRecord, hhead, List.append_assoc, List.append_assoc]
    exact hsplit

lemma scanHead_clean {previous : Option Sequence} {bytes : Bytes} (h : scanHead previous bytes = .clean) :
    bytes = [] := by
  by_contra hne
  unfold scanHead at h
  rw [if_neg hne] at h
  revert h
  repeat' split
  all_goals simp [torn]

/-- What a successful scan has found: framed records, handed to the visitor one after another. -/
structure Scanned {ρ : Type} (visitor : ρ → LogRecord → Result ρ) (maxRecords : ℕ) (bytes : Bytes)
    (scan out : Scan ρ) (records : List LogRecord) : Prop where
  appendable : AppendableAll scan.lastSequence records
  visited : visitAll visitor scan.state records = .ok out.state
  number : out.records = scan.records + records.length
  bounded : records = [] ∨ out.records ≤ maxRecords
  last : out.lastSequence = lastOf scan.lastSequence records
  offset : out.offset = scan.offset + (frames records).length
  tail : ∃ tail, bytes = frames records ++ tail ∧ (out.incident = none → tail = [])

lemma scanRecords_sound {ρ : Type} {visitor : ρ → LogRecord → Result ρ} {maxRecords fuel : ℕ} {bytes : Bytes}
    {scan out : Scan ρ} (hfuel : bytes.length < fuel) (hincident : scan.incident = none)
    (h : scanRecords visitor maxRecords fuel bytes scan = .ok out) :
    ∃ records, Scanned visitor maxRecords bytes scan out records := by
  induction fuel generalizing bytes scan with
  | zero => omega
  | succ fuel ih =>
    rw [scanRecords] at h
    split at h
    · rename_i hhead
      cases h
      have hnil : bytes = [] := scanHead_clean hhead
      exact ⟨[], trivial, rfl, rfl, .inl rfl, rfl, by simp [frames], [], by simp [frames, hnil], fun _ => rfl⟩
    · cases h
      exact ⟨[], trivial, rfl, rfl, .inl rfl, rfl, by simp [frames], bytes, by simp [frames], by simp⟩
    · cases h
    · rename_i record rest hhead
      obtain ⟨happend, rfl⟩ := scanHead_intact hhead
      obtain ⟨state, hvisit, h⟩ := bind_eq_ok.mp h
      obtain ⟨hmax, h⟩ := rejectIf_bind_eq_ok.mp h
      have hshort : rest.length < fuel := by
        rw [List.length_append, frameRecord_length] at hfuel
        omega
      obtain ⟨records, hrest⟩ := ih hshort (by exact hincident) h
      obtain ⟨tail, rfl, htail⟩ := hrest.tail
      refine ⟨record :: records, ⟨happend, hrest.appendable⟩, ?_, ?_, .inr ?_, hrest.last, ?_, tail, ?_, htail⟩
      · rw [visitAll, putAll_cons_ok hvisit]
        exact hrest.visited
      · rw [hrest.number, List.length_cons]
        simp only
        omega
      · rcases hrest.bounded with rfl | hle
        · rw [hrest.number]
          simpa using hmax
        · exact hle
      · rw [hrest.offset]
        simp only [frames, List.flatMap_cons, List.length_append, frameRecord_length, recordHeaderSize,
          recordTrailerSize]
        omega
      · simp [frames]

/-- A file header that validates. -/
structure ValidHeader (header : Bytes) : Prop where
  length : header.length = walHeaderSize
  valid : validateHeader header = .ok ()

lemma makeHeader_valid (stream : IncarnationId) (createdAt : Timestamp) :
    ValidHeader (makeHeader stream createdAt) :=
  ⟨makeHeader_length stream createdAt, validateHeader_makeHeader stream createdAt⟩

/-- A scanned file is a valid header, framed records, and perhaps a torn tail. -/
lemma scanLog_sound {ρ : Type} {visitor : ρ → LogRecord → Result ρ} {maxRecords : ℕ} {file : Bytes} {state : ρ}
    {out : Scan ρ} (h : scanLog visitor maxRecords file state = .ok out) :
    ∃ header records tail, ValidHeader header ∧ file = header ++ (frames records ++ tail) ∧
      AppendableAll none records ∧ records.length ≤ maxRecords ∧ visitAll visitor state records = .ok out.state ∧
      out.records = records.length ∧ out.lastSequence = lastOf none records ∧
      out.offset = walHeaderSize + (frames records).length ∧ (out.incident = none → tail = []) := by
  obtain ⟨hlength, h⟩ := rejectIf_bind_eq_ok.mp h
  obtain ⟨⟨⟩, hvalid, h⟩ := bind_eq_ok.mp h
  rw [not_lt] at hlength
  have hfuel : (file.drop walHeaderSize).length < file.length := by
    rw [List.length_drop, walHeaderSize]
    rw [walHeaderSize] at hlength
    omega
  obtain ⟨records, hscan⟩ := scanRecords_sound hfuel rfl h
  obtain ⟨tail, hbody, htail⟩ := hscan.tail
  refine ⟨file.take walHeaderSize, records, tail, ⟨by simpa using hlength, hvalid⟩, ?_, hscan.appendable, ?_,
    hscan.visited, by simpa using hscan.number, hscan.last, hscan.offset, htail⟩
  · rw [← hbody, List.take_append_drop]
  · rcases hscan.bounded with rfl | hle
    · exact Nat.zero_le _
    · rwa [hscan.number, zero_add] at hle

/-- A header and framed records are scanned to the end. -/
lemma scanLog_frames {ρ : Type} {visitor : ρ → LogRecord → Result ρ} {maxRecords : ℕ}
    {records : List LogRecord} {header : Bytes} (state : ρ) (hheader : ValidHeader header)
    (hrecords : AppendableAll none records) (hmax : records.length ≤ maxRecords) :
    scanLog visitor maxRecords (header ++ frames records) state =
      (visitAll visitor state records).map fun state =>
        { state, records := records.length, lastSequence := lastOf none records
          offset := walHeaderSize + (frames records).length } := by
  have hframes := length_le_frames records
  have hshort : ¬(header ++ frames records).length < walHeaderSize := by
    rw [List.length_append, hheader.length]
    omega
  have hfuel : records.length < (header ++ frames records).length := by
    rw [List.length_append, hheader.length, walHeaderSize]
    omega
  simp only [scanLog, take_eq rfl hheader.length, drop_eq rfl hheader.length, hheader.valid, rejectIf, hshort,
    if_false]
  refine (scanRecords_frames hfuel hrecords (by simpa using hmax)).trans ?_
  simp

end InterClusterFabric.StoreWal
