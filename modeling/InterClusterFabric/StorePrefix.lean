import InterClusterFabric.StoreDamage

/-! Opening a log finds the longest list of records it begins with, and cuts off whatever stands behind them. -/
namespace InterClusterFabric.StorePrefix
open CoreStatus CoreIds CoreTime CoreHash CoreBytes StoreWal StoreDurable StoreDamage LibraryChecked LibraryReader
open LibraryLayout

/-- The bounds of a log; zero selects the default. -/
structure WalOptions where
  maxBytes : UInt64 := 0
  maxRecords : UInt64 := 0

namespace WalOptions

def bytesBound (options : WalOptions) : ℕ :=
  if options.maxBytes = 0 then Limits.maxStoreBytes else options.maxBytes.toNat

def recordsBound (options : WalOptions) : ℕ :=
  if options.maxRecords = 0 then Limits.maxStoreRecords else options.maxRecords.toNat

end WalOptions

/-- `Wal::open` under any bounds; a missing file is created. -/
def openWithin {ρ : Type} (options : WalOptions) (stream : IncarnationId) (visitor : ρ → LogRecord → Result ρ)
    (fault : Option Status) (state : ρ) : Option Bytes → Result (Opened ρ)
  | none => do
    attempt fault
    return { wal := {}, state, recovery := { created := true }, file := makeHeader stream ⟨0⟩ }
  | some file => do
    let scan ← scanLog visitor options.recordsBound file state
    let last := scan.lastSequence.getD ⟨0⟩
    match scan.incident with
    | none =>
      return {
        wal := ⟨file.length, scan.records, last⟩, state := scan.state, file
        recovery := { records := scan.records, bytes := file.length, lastSequence := last } }
    | some incident =>
      attempt fault
      let discarded := file.length - scan.offset
      return {
        wal := ⟨scan.offset, scan.records, last⟩, state := scan.state, file := file.take scan.offset
        recovery := {
          records := scan.records, bytes := scan.offset, lastSequence := last, truncatedTail := true
          discardedBytes := discarded, incidents := [truncationText incident scan.offset discarded] } }

/-- An open log: its bounds, the handle and the file. -/
structure Log where
  options : WalOptions := {}
  wal : Wal := {}
  file : Bytes

namespace Log

/-- The checks of `Wal::append`. -/
def admits (log : Log) (kind : RecordKind) (payload : Bytes) : Result Unit := do
  rejectIf (recordKindKnown kind = false) (Status.invalid "record kind is not recognised")
  rejectIf (Limits.maxStoreRecordPayload < payload.length)
    (Status.make .capacityExceeded (ascii "record payload exceeds the maximum size"))
  rejectIf (log.options.recordsBound ≤ log.wal.records)
    (Status.make .capacityExceeded (ascii "log reached the configured record bound"))
  rejectIf (2 ^ 64 ≤ recordHeaderSize + recordTrailerSize + payload.length + log.wal.bytes)
    (Status.make .overflow (ascii "record size computation overflow"))
  rejectIf (log.options.bytesBound < recordHeaderSize + recordTrailerSize + payload.length + log.wal.bytes)
    (Status.make .capacityExceeded (ascii "log reached the configured size bound"))

/-- `Wal::append`; the caller gives the sequence number, which is not compared with the last one. -/
def append (log : Log) (record : LogRecord) (fault : AppendFault) : Result Unit × Log :=
  match log.admits record.kind record.payload with
  | .error status => (.error status, log)
  | .ok () =>
    match fault with
    | some (kept, status) => (.error status, { log with file := log.file ++ (frameRecord record).take kept })
    | none => (.ok (), { log with wal := log.wal.extend record, file := log.file ++ frameRecord record })

end Log

/-- The store opens its log and appends to it under the default bounds. -/
lemma openWal_eq_openWithin {ρ : Type} (visitor : ρ → LogRecord → Result ρ) (fault : Option Status) (state : ρ)
    (file : Bytes) (stream : IncarnationId) :
    openWal visitor fault state file = openWithin {} stream visitor fault state (some file) := rfl

lemma admits_iff {wal : Wal} {file : Bytes} {kind : RecordKind} {payload : Bytes} :
    Log.admits { wal, file } kind payload = .ok () ↔ wal.admits kind payload = .ok () := by
  have hbytes : WalOptions.bytesBound {} = 536870912 := rfl
  have hrecords : WalOptions.recordsBound {} = Limits.maxStoreRecords := rfl
  simp only [Log.admits, Wal.admits, rejectIf_bind_eq_ok, hbytes, hrecords, Limits.maxStoreBytes]
  constructor
  · rintro ⟨hknown, hpayload, hroom, -, hsize⟩
    exact ⟨hknown, hpayload, hroom, hsize⟩
  · rintro ⟨hknown, hpayload, hroom, hsize⟩
    have hfits := rejectIf_eq_ok.mp hsize
    exact ⟨hknown, hpayload, hroom, by omega, hsize⟩

/-! The longest prefix. -/

/-- The records of the longest well-formed prefix of a log body: each of a known kind, within the payload bound, with
matching checksums and a higher sequence than the one before, and no more of them can be read. -/
structure LongestPrefix (body : Bytes) (records : List LogRecord) : Prop where
  appendable : AppendableAll none records
  reads : frames records <+: body
  longest : ∀ others, AppendableAll none others → frames others <+: body → others <+: records

/-- Records that are read off the same bytes are the same, up to where the reading stops. -/
lemma prefix_of_frames {previous : Option Sequence} {records others : List LogRecord} {tail tail' : Bytes}
    (hrecords : AppendableAll previous records) (hothers : AppendableAll previous others)
    (heq : frames others ++ tail' = frames records ++ tail)
    (hstop : ∀ record rest, scanHead (lastOf previous records) tail ≠ .intact record rest) : others <+: records := by
  induction others generalizing previous records with
  | nil => exact List.nil_prefix
  | cons other others ih =>
    have hother : frames (other :: others) ++ tail' = frameRecord other ++ (frames others ++ tail') := by simp [frames]
    have hfirst := scanHead_frame hothers.1 (frames others ++ tail')
    rw [← hother, heq] at hfirst
    cases records with
    | nil => exact absurd hfirst (hstop _ _)
    | cons record records =>
      have hrecord : frames (record :: records) ++ tail = frameRecord record ++ (frames records ++ tail) := by
        simp [frames]
      rw [hrecord, scanHead_frame hrecords.1, Head.intact.injEq] at hfirst
      obtain ⟨rfl, hrest⟩ := hfirst
      exact List.prefix_cons_inj _ |>.mpr (ih hrecords.2 hothers.2 hrest.symm hstop)

/-- Where the scan ends: in front of nothing, or of what is no record. -/
def Stops (previous : Option Sequence) (tail : Bytes) : Prop :=
  tail = [] ∨ ∃ incident, scanHead previous tail = .torn incident

lemma Stops.not_intact {previous : Option Sequence} {tail : Bytes} (h : Stops previous tail) (record : LogRecord)
    (rest : Bytes) : scanHead previous tail ≠ .intact record rest := by
  intro hintact
  rcases h with rfl | ⟨incident, htorn⟩
  · simp [scanHead] at hintact
  · rw [htorn] at hintact
    cases hintact

lemma longestPrefix {records : List LogRecord} {tail : Bytes} (hrecords : AppendableAll none records)
    (hstops : Stops (lastOf none records) tail) : LongestPrefix (frames records ++ tail) records where
  appendable := hrecords
  reads := List.prefix_append _ _
  longest := by
    rintro others hothers ⟨tail', heq⟩
    exact prefix_of_frames hrecords hothers heq hstops.not_intact

/-- Every log body begins with records in order, behind which the scan stops or finds a record out of order. -/
lemma scan_splits (previous : Option Sequence) (body : Bytes) :
    ∃ records tail, body = frames records ++ tail ∧ AppendableAll previous records ∧
      (Stops (lastOf previous records) tail ∨ scanHead (lastOf previous records) tail = .unordered) := by
  induction hlength : body.length using Nat.strong_induction_on generalizing previous body with
  | _ length ih =>
    cases hhead : scanHead previous body with
    | clean => exact ⟨[], body, by simp [frames], trivial, .inl (.inl (scanHead_clean hhead))⟩
    | torn incident => exact ⟨[], body, by simp [frames], trivial, .inl (.inr ⟨incident, hhead⟩)⟩
    | unordered => exact ⟨[], body, by simp [frames], trivial, .inr hhead⟩
    | intact record rest =>
      obtain ⟨hrecord, rfl⟩ := scanHead_intact hhead
      have hshort : rest.length < length := by
        rw [← hlength, List.length_append, frameRecord_length]
        omega
      obtain ⟨records, tail, rfl, hrecords, hend⟩ := ih rest.length hshort (some record.sequence) rest rfl
      exact ⟨record :: records, tail, by simp [frames], ⟨hrecord, hrecords⟩, hend⟩

/-! Opening. -/

section Opening

variable {ρ : Type} {visitor : ρ → LogRecord → Result ρ} {options : WalOptions} {header tail : Bytes}
  {records : List LogRecord}

/-- The handle of a log that holds these records. -/
def handle (records : List LogRecord) : Wal :=
  ⟨walHeaderSize + (frames records).length, records.length, (lastOf none records).getD ⟨0⟩⟩

/-- A log without a tail is opened as it is. -/
lemma openWithin_frames (stream : IncarnationId) (fault : Option Status) (state : ρ) (hheader : ValidHeader header)
    (hrecords : AppendableAll none records) (hmax : records.length ≤ options.recordsBound) :
    openWithin options stream visitor fault state (some (header ++ frames records)) =
      (visitAll visitor state records).map fun state => {
        wal := handle records, state, file := header ++ frames records
        recovery := {
          records := records.length, bytes := walHeaderSize + (frames records).length
          lastSequence := (lastOf none records).getD ⟨0⟩ } } := by
  have hlength : (header ++ frames records).length = walHeaderSize + (frames records).length := by
    rw [List.length_append, hheader.length]
  simp only [openWithin, scanLog_frames state hheader hrecords hmax]
  cases visitAll visitor state records with
  | error e => rfl
  | ok next =>
    simp only [bind, Except.bind, Except.map, hlength]
    rfl

/-- A tail is cut off. -/
lemma openWithin_torn {incident : Bytes} (stream : IncarnationId) (fault : Option Status) (state : ρ)
    (hheader : ValidHeader header) (hrecords : AppendableAll none records)
    (hmax : records.length ≤ options.recordsBound) (htorn : scanHead (lastOf none records) tail = .torn incident) :
    openWithin options stream visitor fault state (some (header ++ (frames records ++ tail))) = do
      let state ← visitAll visitor state records
      attempt fault
      return cutBehind header records incident tail.length state := by
  have hcut : (header ++ (frames records ++ tail)).take (walHeaderSize + (frames records).length) =
      header ++ frames records :=
    take_eq (List.append_assoc _ _ _).symm (by rw [List.length_append, hheader.length])
  have hdiscarded : (header ++ (frames records ++ tail)).length - (walHeaderSize + (frames records).length) =
      tail.length := by
    rw [List.length_append, List.length_append, hheader.length]
    omega
  simp only [openWithin, StoreDamage.scanLog_torn state hheader hrecords hmax htorn]
  cases visitAll visitor state records with
  | error e => rfl
  | ok next =>
    simp only [bind, Except.bind, Except.map, hcut, hdiscarded]
    rfl

/-- A record that is out of order is refused, if the visitor takes those before it. -/
lemma openWithin_unordered (stream : IncarnationId) (fault : Option Status) {state next : ρ}
    (hheader : ValidHeader header) (hrecords : AppendableAll none records)
    (hmax : records.length ≤ options.recordsBound) (hvisit : visitAll visitor state records = .ok next)
    (hunordered : scanHead (lastOf none records) tail = .unordered) :
    openWithin options stream visitor fault state (some (header ++ (frames records ++ tail))) =
      .error (Status.make .replayed (ascii "log sequence numbers are not strictly increasing")) := by
  have hframes := length_le_frames records
  have hlength : (header ++ (frames records ++ tail)).length = 64 + (frames records).length + tail.length := by
    rw [List.length_append, List.length_append, hheader.length, walHeaderSize]
    omega
  have hshort : ¬(header ++ (frames records ++ tail)).length < walHeaderSize := by
    rw [hlength, walHeaderSize]
    omega
  have hscan := @scanRecords_append ρ visitor options.recordsBound records { state }
    (header ++ (frames records ++ tail)).length (by omega) hrecords (by simpa using hmax) tail
  obtain ⟨left, hleft⟩ : ∃ n, (header ++ (frames records ++ tail)).length - records.length = n + 1 :=
    ⟨(header ++ (frames records ++ tail)).length - records.length - 1, by omega⟩
  rw [hleft, hvisit] at hscan
  simp only [bind, Except.bind, scanRecords] at hscan
  rw [hunordered] at hscan
  have hlog : scanLog visitor options.recordsBound (header ++ (frames records ++ tail)) state =
      .error (Status.make .replayed (ascii "log sequence numbers are not strictly increasing")) := by
    simp only [scanLog, take_eq rfl hheader.length, drop_eq rfl hheader.length, hheader.valid, rejectIf, hshort,
      if_false]
    exact hscan
  simp only [openWithin, hlog]
  rfl

lemma visitAll_total (hvisitor : ∀ state record, ∃ next, visitor state record = .ok next) (state : ρ)
    (records : List LogRecord) : ∃ next, visitAll visitor state records = .ok next := by
  induction records generalizing state with
  | nil => exact ⟨state, rfl⟩
  | cons record rest ih =>
    obtain ⟨mid, hmid⟩ := hvisitor state record
    obtain ⟨next, hnext⟩ := ih mid
    exact ⟨next, by rw [visitAll, putAll_cons_ok hmid]; exact hnext⟩

end Opening

/-! Appending. -/

/-- An open log with the records appended to it: those whose append returned OK, and those of which all bytes were
written. -/
structure Trace where
  log : Log
  acknowledged : List LogRecord := []
  complete : List LogRecord := []

/-- A call of `Wal::append`, and how the writing of its bytes ends. -/
structure Call where
  record : LogRecord
  fault : AppendFault := none

namespace Trace

def step (trace : Trace) (call : Call) : Trace :=
  match trace.log.append call.record call.fault with
  | (.ok (), log) =>
    ⟨log, trace.acknowledged ++ [call.record], trace.complete ++ [call.record]⟩
  | (.error _, log) =>
    { trace with
      log, complete :=
        if log.file = trace.log.file ++ frameRecord call.record then trace.complete ++ [call.record]
        else trace.complete }

def run (trace : Trace) (calls : List Call) : Trace := calls.foldl step trace

/-- A log that was just created. -/
def fresh (options : WalOptions) (stream : IncarnationId) : Trace := ⟨{ options, file := makeHeader stream ⟨0⟩ }, [], []⟩

end Trace

section Appends

variable {log : Log} {record : LogRecord}

lemma admits_bounds {kind : RecordKind} {payload : Bytes} (h : log.admits kind payload = .ok ()) :
    recordKindKnown kind = true ∧ payload.length ≤ Limits.maxStoreRecordPayload ∧
      log.wal.records < log.options.recordsBound := by
  simp only [Log.admits, rejectIf_bind_eq_ok] at h
  obtain ⟨hknown, hbounded, hroom, -⟩ := h
  exact ⟨by simpa using hknown, not_lt.mp hbounded, not_le.mp hroom⟩

lemma frames_append (records : List LogRecord) (record : LogRecord) :
    frames (records ++ [record]) = frames records ++ frameRecord record := by
  simp [frames]

/-- A log under way without a fault. -/
structure Grown (header : Bytes) (trace : Trace) : Prop where
  file_eq : trace.log.file = header ++ frames trace.acknowledged
  appendable : AppendableAll none trace.acknowledged
  number : trace.log.wal.records = trace.acknowledged.length
  bounded : trace.acknowledged.length ≤ trace.log.options.recordsBound

/-- Records in increasing sequence are appended, or refused without a trace. -/
lemma Grown.run {header : Bytes} {records : List LogRecord} {trace : Trace} (h : Grown header trace)
    (hlater : ∀ record ∈ records, ∀ p ∈ lastOf none trace.acknowledged, p < record.sequence)
    (hincreasing : records.Pairwise fun a b => a.sequence < b.sequence) :
    Grown header (trace.run (records.map fun record => { record })) ∧
      (trace.run (records.map fun record => { record })).log.options = trace.log.options := by
  induction records generalizing trace with
  | nil => exact ⟨h, rfl⟩
  | cons record rest ih =>
    obtain ⟨hrecord, hrest⟩ := List.pairwise_cons.mp hincreasing
    rw [List.map_cons, Trace.run, List.foldl_cons]
    cases hadmits : trace.log.admits record.kind record.payload with
    | error status =>
      have hstep : trace.step { record } = trace := by
        have hne : ¬trace.log.file = trace.log.file ++ frameRecord record := by
          intro heq
          have hlength := congrArg List.length heq
          rw [List.length_append, frameRecord_length] at hlength
          omega
        simp only [Trace.step, Log.append, hadmits, hne, if_false]
      rw [hstep]
      exact ih h (fun r hr => hlater r (List.mem_cons_of_mem _ hr)) hrest
    | ok _ =>
      obtain ⟨hknown, hbounded, hroom⟩ := admits_bounds hadmits
      have happendable : Appendable (lastOf none trace.acknowledged) record :=
        ⟨hknown, hbounded, hlater record List.mem_cons_self⟩
      have hstep : trace.step { record } = ⟨{ trace.log with
          wal := trace.log.wal.extend record, file := trace.log.file ++ frameRecord record },
          trace.acknowledged ++ [record], trace.complete ++ [record]⟩ := by
        simp only [Trace.step, Log.append, hadmits]
      rw [hstep]
      refine ih ⟨?_, appendableAll_append.mpr ⟨h.appendable, happendable⟩, ?_, ?_⟩ (fun r hr p hp => ?_) hrest
      · simp only [h.file_eq, frames_append, List.append_assoc]
      · simp only [Wal.extend, h.number, List.length_append, List.length_singleton]
      · simp only [List.length_append, List.length_singleton]
        rw [h.number] at hroom
        exact hroom
      · simp only [lastOf_append, Option.mem_some_iff] at hp
        rw [← hp]
        exact hrecord r hr

end Appends

/-- Opening a log that has a valid header either finds a record out of order or hands the visitor the longest list of
well-formed records the log begins with, and cuts the file off behind them; opened again, it is found as it is. What was
appended to a fresh log, in increasing sequence, is found again. -/
theorem longest_prefix_opens {ρ : Type} {visitor : ρ → LogRecord → Result ρ}
    (hvisitor : ∀ state record, ∃ next, visitor state record = .ok next) {header body : Bytes}
    (hheader : ValidHeader header) {options : WalOptions} (hunbounded : body.length ≤ options.recordsBound)
    (stream : IncarnationId) (state : ρ) :
    (openWithin options stream visitor none state (some (header ++ body)) =
        .error (Status.make .replayed (ascii "log sequence numbers are not strictly increasing")) ∨
      ∃ records opened, openWithin options stream visitor none state (some (header ++ body)) = .ok opened ∧
        LongestPrefix body records ∧ visitAll visitor state records = .ok opened.state ∧
        opened.file = header ++ frames records ∧
        ∀ state', ∃ again, openWithin options stream visitor none state' (some opened.file) = .ok again ∧
          visitAll visitor state' records = .ok again.state ∧ again.file = opened.file ∧
          again.recovery.truncatedTail = false ∧ again.recovery.incidents = []) ∧
    ∀ (options : WalOptions) (records : List LogRecord), records.Pairwise (fun a b => a.sequence < b.sequence) →
      let trace := (Trace.fresh options stream).run (records.map fun record => { record })
      ∃ opened, openWithin options stream visitor none state (some trace.log.file) = .ok opened ∧
        visitAll visitor state trace.acknowledged = .ok opened.state := by
  have hreopen (options : WalOptions) {header : Bytes} {records : List LogRecord} (hheader : ValidHeader header)
      (hrecords : AppendableAll none records) (hmax : records.length ≤ options.recordsBound) (state' : ρ) :
      ∃ again, openWithin options stream visitor none state' (some (header ++ frames records)) = .ok again ∧
        visitAll visitor state' records = .ok again.state ∧ again.file = header ++ frames records ∧
        again.recovery.truncatedTail = false ∧ again.recovery.incidents = [] := by
    obtain ⟨next, hnext⟩ := visitAll_total hvisitor state' records
    rw [openWithin_frames stream none state' hheader hrecords hmax, hnext]
    exact ⟨_, rfl, rfl, rfl, rfl, rfl⟩
  constructor
  · obtain ⟨records, tail, rfl, hrecords, hend⟩ := scan_splits none body
    obtain ⟨next, hnext⟩ := visitAll_total hvisitor state records
    have hmax : records.length ≤ options.recordsBound := by
      have hframes := length_le_frames records
      rw [List.length_append] at hunbounded
      omega
    rcases hend with (rfl | ⟨incident, htorn⟩) | hunordered
    · -- nothing behind the records
      obtain ⟨opened, hopen, hvisit, hfile, -⟩ := hreopen options hheader hrecords hmax state
      refine .inr ⟨records, opened, by rw [List.append_nil]; exact hopen, longestPrefix hrecords (.inl rfl), hvisit,
        hfile, ?_⟩
      rw [hfile]
      exact hreopen options hheader hrecords hmax
    · refine .inr ⟨records, cutBehind header records incident tail.length next, ?_,
        longestPrefix hrecords (.inr ⟨incident, htorn⟩), hnext, rfl, hreopen options hheader hrecords hmax⟩
      rw [openWithin_torn stream none state hheader hrecords hmax htorn, hnext]
      rfl
    · exact .inl (openWithin_unordered stream none hheader hrecords hmax hnext hunordered)
  · intro options records hincreasing
    have hfresh : Grown (makeHeader stream ⟨0⟩) (Trace.fresh options stream) :=
      ⟨by simp [Trace.fresh, frames], trivial, rfl, Nat.zero_le _⟩
    obtain ⟨hgrown, hoptions⟩ := @Grown.run _ records _ hfresh (by simp [Trace.fresh, lastOf]) hincreasing
    have hbounded := hgrown.bounded
    rw [hoptions] at hbounded
    obtain ⟨opened, hopen, hvisit, -⟩ := hreopen options (makeHeader_valid stream ⟨0⟩) hgrown.appendable hbounded state
    refine ⟨opened, ?_, hvisit⟩
    rw [hgrown.file_eq]
    exact hopen

/-- Two records and three stray bytes: whatever the scan makes of the three bytes, it is not more than it should. -/
theorem open_two_records_and_debris :
    openWithin {} ⟨1⟩ collect none [] (some (makeHeader ⟨1⟩ ⟨0⟩ ++ (frames [firstRecord, secondRecord] ++ [1, 2, 3]))) =
        .error (Status.make .replayed (ascii "log sequence numbers are not strictly increasing")) ∨
      ∃ records opened, openWithin {} ⟨1⟩ collect none []
          (some (makeHeader ⟨1⟩ ⟨0⟩ ++ (frames [firstRecord, secondRecord] ++ [1, 2, 3]))) = .ok opened ∧
        LongestPrefix (frames [firstRecord, secondRecord] ++ [1, 2, 3]) records ∧
        visitAll collect [] records = .ok opened.state ∧ opened.file = makeHeader ⟨1⟩ ⟨0⟩ ++ frames records ∧
        ∀ state', ∃ again, openWithin {} ⟨1⟩ collect none state' (some opened.file) = .ok again ∧
          visitAll collect state' records = .ok again.state ∧ again.file = opened.file ∧
          again.recovery.truncatedTail = false ∧ again.recovery.incidents = [] := by
  have hunbounded : (frames [firstRecord, secondRecord] ++ [1, 2, 3]).length ≤ WalOptions.recordsBound {} := by
    simp [frames, frameRecord_length, firstRecord, secondRecord, WalOptions.recordsBound, Limits.maxStoreRecords]
  exact (longest_prefix_opens (fun state record => ⟨state ++ [record], rfl⟩) (makeHeader_valid ⟨1⟩ ⟨0⟩) hunbounded ⟨1⟩
    []).1

end InterClusterFabric.StorePrefix
