import InterClusterFabric.CoreChecksum
import InterClusterFabric.StoreDurable

/-! A log in which one byte was replaced. Whatever byte of a record it is, one of the two checksums over it
no longer matches, so the scan ends where the damaged record begins. -/
namespace InterClusterFabric.StoreDamage
open CoreStatus CoreIds CoreTime CoreHash CoreBytes CoreChecksum StoreWal StoreDurable LibraryChecked LibraryReader
open LibraryLayout

/-- Checksums are written without loss. -/
lemma crcBytes_injective {a b : Bytes} (h : crcBytes a = crcBytes b) : crc32c a = crc32c b := by
  have hnat := congrArg beNat h
  unfold crcBytes putU32 at hnat
  rw [beNat_beBytes (UInt32.toNat_lt _), beNat_beBytes (UInt32.toNat_lt _)] at hnat
  exact UInt32.toNat_inj.mp hnat

/-- A replaced byte changes the checksum as it is written. -/
lemma crcBytes_set_ne {data : Bytes} {i : ℕ} {byte : UInt8} (hi : i < data.length) (hbyte : byte ≠ data[i]) :
    crcBytes (data.set i byte) ≠ crcBytes data :=
  fun h => crc32c_set_ne hi hbyte (crcBytes_injective h)

lemma set_ne_self {data : Bytes} {i : ℕ} {byte : UInt8} (hi : i < data.length) (hbyte : byte ≠ data[i]) :
    data.set i byte ≠ data := by
  intro h
  have hget : (data.set i byte)[i]? = data[i]? := by rw [h]
  rw [List.getElem?_set_self hi, List.getElem?_eq_getElem hi] at hget
  exact hbyte (Option.some.inj hget)

section Heads

variable {previous : Option Sequence} {bytes fields checksum rest payload : Bytes} {record : LogRecord}

/-- A header whose checksum does not match ends the scan, whatever its fields say. -/
lemma scanHead_badHeader (hbytes : bytes = fields ++ (checksum ++ rest)) (hfields : fields.length = 28)
    (hchecksum : checksum.length = 4) (hbad : checksum ≠ crcBytes fields) :
    scanHead previous bytes = torn "record header CRC32C mismatch" := by
  have hheader : bytes.take recordHeaderSize = fields ++ checksum :=
    take_eq (r := rest) (by rw [hbytes, List.append_assoc]) (by rw [List.length_append, hfields, hchecksum]; rfl)
  have hlength : (fields ++ checksum).length = recordHeaderSize := by
    rw [List.length_append, hfields, hchecksum]
    rfl
  have hne : bytes ≠ [] := by
    intro hnil
    rw [hnil, List.take_nil] at hheader
    rw [← hheader] at hlength
    cases hlength
  have htake : (fields ++ checksum).take 28 = fields := take_eq rfl hfields
  have hslice : slice (fields ++ checksum) 28 4 = checksum := slice_eq (r := []) (by simp) hfields hchecksum
  simp only [scanHead, hheader, hlength, htake, hslice, hne, hbad, if_false, if_true, ne_eq, not_true_eq_false,
    not_false_eq_true]

/-- A record whose own checksum does not match ends the scan. -/
lemma scanHead_badBody (h : Appendable previous record)
    (hbytes : bytes = (recordFields record ++ crcBytes (recordFields record)) ++ (payload ++ (checksum ++ rest)))
    (hpayload : payload.length = record.payload.length) (hchecksum : checksum.length = recordTrailerSize)
    (hbad : checksum ≠ crcBytes (recordFields record ++ crcBytes (recordFields record) ++ payload)) :
    scanHead previous bytes = torn "record CRC32C mismatch" := by
  have hheadlen := header_length record
  have hheader : bytes.take recordHeaderSize = recordFields record ++ crcBytes (recordFields record) :=
    take_eq hbytes hheadlen
  have hslice : slice bytes recordHeaderSize record.payload.length = payload := slice_eq hbytes hheadlen hpayload
  have htrailer : slice bytes (recordHeaderSize + record.payload.length) recordTrailerSize = checksum :=
    slice_eq (p := recordFields record ++ crcBytes (recordFields record) ++ payload) (r := rest)
      (by rw [hbytes]; simp only [List.append_assoc]) (by rw [List.length_append, hheadlen, hpayload]) hchecksum
  rw [scanHead_header h hheader, hslice, htrailer]
  simp only [hpayload, hchecksum, hbad, ne_eq, not_true_eq_false, not_false_eq_true, if_false, if_true]

/-- A replaced byte of a record is always noticed. -/
lemma scanHead_damaged (h : Appendable previous record) {j : ℕ} {byte : UInt8} (hj : j < (frameRecord record).length)
    (hbyte : byte ≠ (frameRecord record)[j]) (rest : Bytes) :
    ∃ incident, scanHead previous ((frameRecord record).set j byte ++ rest) = .torn incident := by
  set fields := recordFields record with hfieldsDef
  have hfields : fields.length = 28 := recordFields_length record
  have hcrc : (crcBytes fields).length = 4 := crcBytes_length fields
  have hheadlen : (fields ++ crcBytes fields).length = 32 := header_length record
  have hhead : recordHead record = fields ++ crcBytes fields ++ record.payload := rfl
  have htrailer : (crcBytes (recordHead record)).length = 4 := crcBytes_length _
  have hframe : frameRecord record =
      fields ++ (crcBytes fields ++ (record.payload ++ crcBytes (recordHead record))) := by
    simp [frameRecord, recordHead, hfieldsDef]
  have hlength := frameRecord_length record
  by_cases h28 : j < 28
  · -- a field of the header
    have hset : (frameRecord record).set j byte ++ rest =
        fields.set j byte ++ (crcBytes fields ++ (record.payload ++ crcBytes (recordHead record) ++ rest)) := by
      rw [hframe, List.set_append_left _ _ (by omega)]
      simp only [List.append_assoc]
    simp only [hframe] at hbyte
    rw [List.getElem_append_left (by omega)] at hbyte
    exact ⟨_, scanHead_badHeader hset (by rw [List.length_set, hfields]) hcrc
      (crcBytes_set_ne (by omega) hbyte).symm⟩
  by_cases h32 : j < 32
  · -- the checksum of the header
    have hset : (frameRecord record).set j byte ++ rest =
        fields ++ ((crcBytes fields).set (j - 28) byte ++
          (record.payload ++ crcBytes (recordHead record) ++ rest)) := by
      rw [hframe, List.set_append_right _ _ (by omega), hfields, List.set_append_left _ _ (by omega)]
      simp only [List.append_assoc]
    simp only [hframe] at hbyte
    rw [List.getElem_append_right (by omega), List.getElem_append_left (by omega)] at hbyte
    have hne : (crcBytes fields).set (j - 28) byte ≠ crcBytes fields :=
      set_ne_self (by omega) (by simpa only [hfields] using hbyte)
    exact ⟨_, scanHead_badHeader hset hfields (by rw [List.length_set, hcrc]) hne⟩
  by_cases hpay : j < 32 + record.payload.length
  · -- the payload
    have hset : (frameRecord record).set j byte ++ rest =
        (fields ++ crcBytes fields) ++
          (record.payload.set (j - 32) byte ++ (crcBytes (recordHead record) ++ rest)) := by
      rw [hframe, ← List.append_assoc, List.set_append_right _ _ (by omega), hheadlen,
        List.set_append_left _ _ (by omega)]
      simp only [List.append_assoc]
    have hheadSet : (recordHead record).set j byte =
        fields ++ crcBytes fields ++ record.payload.set (j - 32) byte := by
      rw [hhead, List.set_append_right _ _ (by omega), hheadlen]
    have hjhead : j < (recordHead record).length := by
      rw [hhead, List.length_append, hheadlen]
      exact hpay
    have hbyteHead : byte ≠ (recordHead record)[j] := by
      simp only [frameRecord] at hbyte
      rwa [List.getElem_append_left hjhead] at hbyte
    have hne := (crcBytes_set_ne hjhead hbyteHead).symm
    rw [hheadSet] at hne
    exact ⟨_, scanHead_badBody h hset (by rw [List.length_set]) htrailer hne⟩
  · -- the trailer
    have hheadLength : (recordHead record).length = 32 + record.payload.length := by
      rw [hhead, List.length_append, hheadlen]
    have hset : (frameRecord record).set j byte ++ rest =
        (fields ++ crcBytes fields) ++ (record.payload ++
          ((crcBytes (recordHead record)).set (j - (32 + record.payload.length)) byte ++ rest)) := by
      rw [frameRecord, List.set_append_right _ _ (by omega), hheadLength, hhead]
      simp only [List.append_assoc]
    simp only [frameRecord] at hbyte
    rw [List.getElem_append_right (by omega)] at hbyte
    have hne : (crcBytes (recordHead record)).set (j - (32 + record.payload.length)) byte ≠
        crcBytes (recordHead record) :=
      set_ne_self (by omega) (by simpa only [hheadLength] using hbyte)
    exact ⟨_, scanHead_badBody h hset rfl (by rw [List.length_set, htrailer]; rfl) hne⟩

end Heads

/-! Opening, for any visitor. -/

/-- What `Wal::open` leaves behind: the handle, the state of the visitor, the report and the file. -/
structure Opened (ρ : Type) where
  wal : Wal
  state : ρ
  recovery : WalRecovery
  file : Bytes

/-- `Wal::open` of an existing file. -/
def openWal {ρ : Type} (visitor : ρ → LogRecord → Result ρ) (fault : Option Status) (state : ρ) (file : Bytes) :
    Result (Opened ρ) := do
  let scan ← scanLog visitor Limits.maxStoreRecords file state
  let last := scan.lastSequence.getD ⟨0⟩
  match scan.incident with
  | none =>
    return {
      wal := ⟨file.length, scan.records, last⟩, state := scan.state, file
      recovery := { records := scan.records, bytes := file.length, lastSequence := last } }
  | some incident =>
    attempt fault
    let discarded := file.length - scan.offset
    return {
      wal := ⟨scan.offset, scan.records, last⟩, state := scan.state, file := file.take scan.offset
      recovery := {
        records := scan.records, bytes := scan.offset, lastSequence := last, truncatedTail := true
        discardedBytes := discarded, incidents := [truncationText incident scan.offset discarded] } }

/-- The store opens its log with the replay as the visitor. -/
lemma openLog_eq_openWal (stream : IncarnationId) (fault : Option Status) (recovery : Recovery) (file : Bytes) :
    openLog stream fault recovery (some file) = (openWal Recovery.visit fault recovery file).map fun opened =>
      ⟨opened.wal, { opened.state with wal := opened.recovery }, opened.file⟩ := by
  simp only [openLog, openWal, bind, Except.bind, Except.map]
  cases scanLog Recovery.visit Limits.maxStoreRecords file recovery with
  | error e => rfl
  | ok scan =>
    cases hincident : scan.incident with
    | none => simp only [hincident]; rfl
    | some incident =>
      simp only [hincident]
      cases attempt fault <;> rfl

/-! Log files as `append` produces them. -/

/-- A log file with its handle and the records appended to it, in strictly increasing sequence. -/
inductive Appended (stream : IncarnationId) (createdAt : Timestamp) : Bytes → Wal → List LogRecord → Prop
  | created : Appended stream createdAt (makeHeader stream createdAt) {} []
  | append {file : Bytes} {wal : Wal} {records : List LogRecord} {record : LogRecord}
      (before : Appended stream createdAt file wal records) (admitted : wal.admits record.kind record.payload = .ok ())
      (later : ∀ p ∈ lastOf none records, p < record.sequence) :
      Appended stream createdAt (file ++ frameRecord record) (wal.extend record) (records ++ [record])

/-- What is known of a log that was only appended to. -/
structure WellFormed (stream : IncarnationId) (createdAt : Timestamp) (file : Bytes) (wal : Wal)
    (records : List LogRecord) : Prop where
  file_eq : file = makeHeader stream createdAt ++ frames records
  appendable : AppendableAll none records
  number : wal.records = records.length
  bounded : records.length ≤ Limits.maxStoreRecords

lemma wellFormed_of_appended {stream : IncarnationId} {createdAt : Timestamp} {file : Bytes} {wal : Wal}
    {records : List LogRecord} (h : Appended stream createdAt file wal records) :
    WellFormed stream createdAt file wal records := by
  induction h with
  | created => exact ⟨by simp [frames], trivial, rfl, Nat.zero_le _⟩
  | @append file wal records record before admitted later ih =>
    unfold Wal.admits at admitted
    obtain ⟨hknown, admitted⟩ := rejectIf_bind_eq_ok.mp admitted
    obtain ⟨hpayload, admitted⟩ := rejectIf_bind_eq_ok.mp admitted
    obtain ⟨hrecords, -⟩ := rejectIf_bind_eq_ok.mp admitted
    have happendable : Appendable (lastOf none records) record :=
      ⟨by simpa using hknown, not_lt.mp hpayload, later⟩
    refine ⟨?_, appendableAll_append.mpr ⟨ih.appendable, happendable⟩, ?_, ?_⟩
    · rw [ih.file_eq, frames, frames, List.flatMap_append, List.append_assoc]
      simp
    · rw [List.length_append, Wal.extend, ih.number]
      rfl
    · have hroom := ih.number ▸ hrecords
      rw [List.length_append, List.length_singleton]
      omega

/-- Every place of a log body lies in one of its records. -/
lemma frames_locate {records : List LogRecord} {k : ℕ} (hk : k < (frames records).length) :
    ∃ before record after j, ∃ _ : j < (frameRecord record).length, records = before ++ record :: after ∧
      k = (frames before).length + j := by
  induction records generalizing k with
  | nil => simp [frames] at hk
  | cons record rest ih =>
    have hframes : frames (record :: rest) = frameRecord record ++ frames rest := by simp [frames]
    by_cases hhere : k < (frameRecord record).length
    · exact ⟨[], record, rest, k, hhere, rfl, by simp [frames]⟩
    · rw [hframes, List.length_append] at hk
      obtain ⟨before, damaged, after, j, hj, hrest, hkj⟩ := @ih (k - (frameRecord record).length) (by omega)
      refine ⟨record :: before, damaged, after, j, hj, by rw [hrest]; rfl, ?_⟩
      have hbefore : frames (record :: before) = frameRecord record ++ frames before := by simp [frames]
      rw [hbefore, List.length_append]
      omega

lemma appendableAll_split {previous : Option Sequence} {before after : List LogRecord} {record : LogRecord}
    (h : AppendableAll previous (before ++ record :: after)) :
    AppendableAll previous before ∧ Appendable (lastOf previous before) record := by
  induction before generalizing previous with
  | nil => exact ⟨trivial, h.1⟩
  | cons first rest ih =>
    obtain ⟨hrest, hrecord⟩ := ih h.2
    exact ⟨⟨h.1, hrest⟩, hrecord⟩

section Damage

variable {ρ : Type} {visitor : ρ → LogRecord → Result ρ}

/-- The scan stops in front of a record that is torn. -/
lemma scanLog_torn {maxRecords : ℕ} {header tail incident : Bytes} {before : List LogRecord} (state : ρ)
    (hheader : ValidHeader header) (hrecords : AppendableAll none before) (hmax : before.length ≤ maxRecords)
    (htorn : scanHead (lastOf none before) tail = .torn incident) :
    scanLog visitor maxRecords (header ++ (frames before ++ tail)) state =
      (visitAll visitor state before).map fun state =>
        { state, records := before.length, lastSequence := lastOf none before
          offset := walHeaderSize + (frames before).length, incident := some incident } := by
  have hframes := length_le_frames before
  have hlength : (header ++ (frames before ++ tail)).length = 64 + (frames before).length + tail.length := by
    rw [List.length_append, List.length_append, hheader.length, walHeaderSize]
    omega
  have hshort : ¬(header ++ (frames before ++ tail)).length < walHeaderSize := by
    rw [hlength, walHeaderSize]
    omega
  simp only [scanLog, take_eq rfl hheader.length, drop_eq rfl hheader.length, hheader.valid, rejectIf, hshort,
    if_false]
  have hscan := @scanRecords_append ρ visitor maxRecords before { state }
    (header ++ (frames before ++ tail)).length (by omega) hrecords (by simpa using hmax) tail
  refine hscan.trans ?_
  obtain ⟨left, hleft⟩ : ∃ n, (header ++ (frames before ++ tail)).length - before.length = n + 1 :=
    ⟨(header ++ (frames before ++ tail)).length - before.length - 1, by omega⟩
  rw [hleft]
  cases visitAll visitor state before with
  | error e => rfl
  | ok next =>
    simp only [bind, Except.bind, Except.map, scanRecords]
    rw [htorn]
    simp

/-- A log that was cut off behind `before`. -/
def cutBehind (header : Bytes) (before : List LogRecord) (incident : Bytes) (discarded : ℕ) (state : ρ) : Opened ρ :=
  let offset := walHeaderSize + (frames before).length
  let last := (lastOf none before).getD ⟨0⟩
  { wal := ⟨offset, before.length, last⟩, state, file := header ++ frames before
    recovery := {
      records := before.length, bytes := offset, lastSequence := last, truncatedTail := true
      discardedBytes := discarded, incidents := [truncationText incident offset discarded] } }

/-- Opening a log cuts it off in front of the torn record. -/
lemma openWal_torn {header tail incident : Bytes} {before : List LogRecord} (fault : Option Status) (state : ρ)
    (hheader : ValidHeader header) (hrecords : AppendableAll none before)
    (hmax : before.length ≤ Limits.maxStoreRecords)
    (htorn : scanHead (lastOf none before) tail = .torn incident) :
    openWal visitor fault state (header ++ (frames before ++ tail)) = do
      let state ← visitAll visitor state before
      attempt fault
      return cutBehind header before incident tail.length state := by
  have hcut : (header ++ (frames before ++ tail)).take (walHeaderSize + (frames before).length) =
      header ++ frames before :=
    take_eq (List.append_assoc _ _ _).symm (by rw [List.length_append, hheader.length])
  have hdiscarded : (header ++ (frames before ++ tail)).length - (walHeaderSize + (frames before).length) =
      tail.length := by
    rw [List.length_append, List.length_append, hheader.length]
    omega
  unfold openWal
  rw [scanLog_torn state hheader hrecords hmax htorn]
  cases visitAll visitor state before with
  | error e => rfl
  | ok next =>
    simp only [bind, Except.bind, Except.map, hcut, hdiscarded]
    rfl

end Damage

/-- A visitor that keeps what it is handed. -/
def collect (seen : List LogRecord) (record : LogRecord) : Result (List LogRecord) := .ok (seen ++ [record])

lemma visitAll_collect (seen records : List LogRecord) : visitAll collect seen records = .ok (seen ++ records) := by
  induction records generalizing seen with
  | nil => simp [visitAll, putAll]
  | cons record rest ih =>
    have hrest : visitAll collect (seen ++ [record]) rest = .ok (seen ++ [record] ++ rest) := ih _
    rw [List.append_assoc, List.singleton_append] at hrest
    exact hrest

/-- Replacing a byte behind the file header only removes records: the visitor is handed the records before the
damaged one, as they were written, and the log is cut off behind them. Opening fails only if the visitor refuses one
of them or the file cannot be cut. -/
theorem damage_removes_records {stream : IncarnationId} {createdAt : Timestamp} {file : Bytes} {wal : Wal}
    {records : List LogRecord} (h : Appended stream createdAt file wal records) {i : ℕ} {byte : UInt8}
    (hheader : walHeaderSize ≤ i) (hi : i < file.length) (hbyte : byte ≠ file[i]) :
    ∃ before damaged after, records = before ++ damaged :: after ∧
      walHeaderSize + (frames before).length ≤ i ∧
      i < walHeaderSize + (frames before).length + (frameRecord damaged).length ∧
      (∃ incident, ∀ (ρ : Type) (visitor : ρ → LogRecord → Result ρ) (fault : Option Status) (state : ρ),
        openWal visitor fault state (file.set i byte) = do
          let state ← visitAll visitor state before
          attempt fault
          return cutBehind (makeHeader stream createdAt) before incident
            ((frameRecord damaged).length + (frames after).length) state) ∧
      ∃ opened, openWal collect none [] (file.set i byte) = .ok opened ∧ opened.state = before := by
  have hformed := wellFormed_of_appended h
  have hvalid := makeHeader_valid stream createdAt
  have hfile := hformed.file_eq
  have hlength : file.length = walHeaderSize + (frames records).length := by
    rw [hfile, List.length_append, hvalid.length]
  obtain ⟨before, damaged, after, j, hj, hrecords, hplace⟩ :=
    @frames_locate records (i - walHeaderSize) (by omega)
  have hbody : frames records = frames before ++ (frameRecord damaged ++ frames after) := by
    rw [hrecords]
    simp [frames]
  have hset : file.set i byte = makeHeader stream createdAt ++ (frames before ++
      ((frameRecord damaged).set j byte ++ frames after)) := by
    rw [hfile, hbody, List.set_append_right _ _ (by rw [hvalid.length]; exact hheader), hvalid.length, hplace,
      List.set_append_right _ _ (Nat.le_add_right _ _), Nat.add_sub_cancel_left, List.set_append_left _ _ hj]
  have hold : file[i]? = some (frameRecord damaged)[j] := by
    rw [hfile, hbody, List.getElem?_append_right (by rw [hvalid.length]; exact hheader), hvalid.length, hplace,
      List.getElem?_append_right (Nat.le_add_right _ _), Nat.add_sub_cancel_left, List.getElem?_append_left hj,
      List.getElem?_eq_getElem hj]
  have hchanged : byte ≠ (frameRecord damaged)[j] := by
    rw [List.getElem?_eq_getElem hi, Option.some.injEq] at hold
    rwa [← hold]
  have hsplit := appendableAll_split (hrecords ▸ hformed.appendable)
  have hmax : before.length ≤ Limits.maxStoreRecords := by
    have hbounded := hformed.bounded
    rw [hrecords, List.length_append] at hbounded
    omega
  obtain ⟨incident, htorn⟩ := scanHead_damaged hsplit.2 hj hchanged (frames after)
  refine ⟨before, damaged, after, hrecords, by omega, by omega, ⟨incident, fun ρ visitor fault state => ?_⟩, ?_⟩
  · rw [hset, openWal_torn fault state hvalid hsplit.1 hmax htorn, List.length_append, List.length_set]
  · rw [hset, openWal_torn none [] hvalid hsplit.1 hmax htorn, visitAll_collect]
    exact ⟨_, rfl, rfl⟩

def firstRecord : LogRecord := ⟨.mutation, ⟨1⟩, ⟨5⟩, [7, 7]⟩
def secondRecord : LogRecord := ⟨.incident, ⟨2⟩, ⟨6⟩, [8]⟩

/-- A log of two records. -/
def twoRecords : Bytes := makeHeader ⟨1⟩ ⟨0⟩ ++ frameRecord firstRecord ++ frameRecord secondRecord

/-- Its second record is lost with a byte of it. -/
theorem damage_removes_second_record :
    ∃ before damaged after, [firstRecord, secondRecord] = before ++ damaged :: after ∧
      walHeaderSize + (frames before).length ≤ 134 ∧
      134 < walHeaderSize + (frames before).length + (frameRecord damaged).length ∧
      (∃ incident, ∀ (ρ : Type) (visitor : ρ → LogRecord → Result ρ) (fault : Option Status) (state : ρ),
        openWal visitor fault state (twoRecords.set 134 99) = do
          let state ← visitAll visitor state before
          attempt fault
          return cutBehind (makeHeader ⟨1⟩ ⟨0⟩) before incident
            ((frameRecord damaged).length + (frames after).length) state) ∧
      ∃ opened, openWal collect none [] (twoRecords.set 134 99) = .ok opened ∧ opened.state = before := by
  have hfirst : Appended ⟨1⟩ ⟨0⟩ (makeHeader ⟨1⟩ ⟨0⟩ ++ frameRecord firstRecord) (Wal.extend {} firstRecord)
      ([] ++ [firstRecord]) := .append .created (by decide) (by decide)
  have hsecond : Appended ⟨1⟩ ⟨0⟩ twoRecords ((Wal.extend {} firstRecord).extend secondRecord)
      ([] ++ [firstRecord] ++ [secondRecord]) := .append hfirst (by decide) (by decide)
  exact damage_removes_records hsecond (by decide) (by decide +kernel) (by decide +kernel)

end InterClusterFabric.StoreDamage
