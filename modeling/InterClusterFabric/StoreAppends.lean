import InterClusterFabric.LibraryTrace
import InterClusterFabric.StoreJournal
import InterClusterFabric.StorePrefix

/-! Appends of which some fail. What they leave behind decides what a later opening still reads. -/
namespace InterClusterFabric.StoreAppends
open CoreStatus CoreIds CoreTime CoreHash CoreBytes StoreWal StoreDurable StoreDamage StorePrefix LibraryChecked
open LibraryReader LibraryLayout LibraryTrace

/-- How many bytes of its record a call writes, if it is admitted. -/
def written (call : Call) : ℕ :=
  match call.fault with
  | some (kept, _) => min kept (frameRecord call.record).length
  | none => (frameRecord call.record).length

/-- A call that writes anything finds a file of whole records in order, its sequence number is higher than theirs
unless it fails inside the record header, and there is room for one more record if all of it is written. -/
def Sound (trace : Trace) (call : Call) : Prop :=
  trace.log.admits call.record.kind call.record.payload = .ok () → 0 < written call →
    ∃ header records, ValidHeader header ∧ AppendableAll none records ∧ trace.log.file = header ++ frames records ∧
      (recordHeaderSize ≤ written call → ∀ p ∈ lastOf none records, p < call.record.sequence) ∧
      (written call = (frameRecord call.record).length → records.length < trace.log.options.recordsBound)

/-! Torn records. -/

/-- The beginning of a record is no record, and not out of order if the record is not. -/
lemma stops_take {previous : Option Sequence} {record : LogRecord} {n : ℕ}
    (hrecord : Appendable none record) (hlater : recordHeaderSize ≤ n → ∀ p ∈ previous, p < record.sequence)
    (hn : n < (frameRecord record).length) : Stops previous ((frameRecord record).take n) := by
  have htorn : StoreJournal.Torn ((frameRecord record).take n) := ⟨record, n, hrecord, hn, rfl⟩
  cases hhead : scanHead previous ((frameRecord record).take n) with
  | clean => exact .inl (scanHead_clean hhead)
  | torn incident => exact .inr ⟨incident, hhead⟩
  | intact found rest => exact absurd hhead htorn.not_intact
  | unordered =>
    by_cases hheader : recordHeaderSize ≤ n
    · have htake : ((frameRecord record).take n).take recordHeaderSize =
          recordFields record ++ crcBytes (recordFields record) := by
        rw [List.take_take, min_eq_left hheader]
        exact take_eq (r := record.payload ++ crcBytes (recordHead record)) (by simp [frameRecord, recordHead])
          (header_length record)
      rw [scanHead_header ⟨hrecord.known, hrecord.bounded, hlater hheader⟩ htake] at hhead
      revert hhead
      repeat' split
      all_goals simp [torn]
    · -- not even the header is there
      have hshort : ((frameRecord record).take n).take recordHeaderSize = (frameRecord record).take n :=
        List.take_of_length_le (by rw [List.length_take]; omega)
      have hlength : ((frameRecord record).take n).length ≠ recordHeaderSize := by
        rw [List.length_take]
        omega
      unfold scanHead at hhead
      simp only [hshort, hlength, ne_eq, not_false_eq_true, if_true] at hhead
      split at hhead <;> simp [torn] at hhead

/-- Two ways to read a file of whole records are one. -/
lemma whole_unique {header header' tail : Bytes} {records records' : List LogRecord} (hheader : ValidHeader header)
    (hheader' : ValidHeader header') (hrecords : AppendableAll none records)
    (hrecords' : AppendableAll none records') (hstops : Stops (lastOf none records) tail)
    (heq : header ++ (frames records ++ tail) = header' ++ frames records') :
    header' = header ∧ records' = records ∧ tail = [] := by
  obtain ⟨hsame, hbody⟩ := List.append_inj heq (by rw [hheader.length, hheader'.length])
  have hback : frames records' ++ [] = frames records ++ tail := by rw [List.append_nil, hbody]
  have hshorter := prefix_of_frames hrecords hrecords' hback hstops.not_intact
  have hlonger := prefix_of_frames hrecords' hrecords hback.symm (Stops.not_intact (.inl rfl))
  have hall := hshorter.eq_of_length_le hlonger.length_le
  rw [hall] at hbody
  exact ⟨hsame.symm, hall, by simpa using hbody⟩

/-! Runs. -/

/-- Behind the records found at the opening the file holds those that were written whole, and perhaps the beginning
of one more; those whose append returned OK are among them. -/
structure Kept (old : List LogRecord) (trace : Trace) : Prop where
  layout : ∃ header tail, ValidHeader header ∧ trace.log.file = header ++ (frames (old ++ trace.complete) ++ tail) ∧
    Stops (lastOf none (old ++ trace.complete)) tail
  appendable : AppendableAll none (old ++ trace.complete)
  bounded : (old ++ trace.complete).length ≤ trace.log.options.recordsBound
  acknowledged : trace.acknowledged.Sublist trace.complete

section Steps

variable {old : List LogRecord} {trace : Trace} {call : Call}

lemma file_ne (log : Log) (record : LogRecord) : ¬log.file = log.file ++ frameRecord record := by
  intro heq
  have hlength := congrArg List.length heq
  rw [List.length_append, frameRecord_length] at hlength
  omega

lemma Kept.whole (h : Kept old trace)
    (hsound : ∃ header records, ValidHeader header ∧ AppendableAll none records ∧
      trace.log.file = header ++ frames records ∧
      (recordHeaderSize ≤ written call → ∀ p ∈ lastOf none records, p < call.record.sequence) ∧
      (written call = (frameRecord call.record).length → records.length < trace.log.options.recordsBound)) :
    ∃ header, ValidHeader header ∧ trace.log.file = header ++ frames (old ++ trace.complete) ∧
      (recordHeaderSize ≤ written call → ∀ p ∈ lastOf none (old ++ trace.complete), p < call.record.sequence) ∧
      (written call = (frameRecord call.record).length →
        (old ++ trace.complete).length < trace.log.options.recordsBound) := by
  obtain ⟨header, tail, hheader, hfile, hstops⟩ := h.layout
  obtain ⟨header', records, hheader', hrecords, hfile', hlater, hroom⟩ := hsound
  obtain ⟨rfl, rfl, rfl⟩ := whole_unique hheader hheader' h.appendable hrecords hstops (hfile.symm.trans hfile')
  exact ⟨header', hheader', hfile', hlater, hroom⟩

/-- All bytes of the record are in the file. -/
lemma Kept.completed (h : Kept old trace) (hadmits : trace.log.admits call.record.kind call.record.payload = .ok ())
    (hsound : Sound trace call) (hwritten : written call = (frameRecord call.record).length) (wal : Wal)
    {acknowledged : List LogRecord} (hacknowledged : acknowledged.Sublist (trace.complete ++ [call.record])) :
    Kept old ⟨{ trace.log with wal, file := trace.log.file ++ frameRecord call.record }, acknowledged,
      trace.complete ++ [call.record]⟩ := by
  have hlength := frameRecord_length call.record
  obtain ⟨header, hheader, hfile, hlater, hroom⟩ := h.whole (hsound hadmits (by omega))
  obtain ⟨hknown, hbounded, -⟩ := admits_bounds hadmits
  have happendable : Appendable (lastOf none (old ++ trace.complete)) call.record :=
    ⟨hknown, hbounded, hlater (by rw [hwritten, hlength, recordHeaderSize]; omega)⟩
  refine ⟨⟨header, [], hheader, ?_, .inl rfl⟩, ?_, ?_, hacknowledged⟩
  · rw [List.append_nil, ← List.append_assoc, frames_append, ← List.append_assoc, ← hfile]
  · rw [← List.append_assoc]
    exact appendableAll_append.mpr ⟨h.appendable, happendable⟩
  · rw [← List.append_assoc, List.length_append]
    exact hroom hwritten

lemma Kept.step (h : Kept old trace) (hsound : Sound trace call) : Kept old (trace.step call) := by
  obtain ⟨record, fault⟩ := call
  cases hadmits : trace.log.admits record.kind record.payload with
  | error status =>
    have hstep : trace.step ⟨record, fault⟩ = trace := by
      simp only [Trace.step, Log.append, hadmits, file_ne, if_false]
    rw [hstep]
    exact h
  | ok _ =>
    cases fault with
    | none =>
      have hstep : trace.step ⟨record, none⟩ = ⟨{ trace.log with
          wal := trace.log.wal.extend record, file := trace.log.file ++ frameRecord record },
          trace.acknowledged ++ [record], trace.complete ++ [record]⟩ := by
        simp only [Trace.step, Log.append, hadmits]
      rw [hstep]
      exact h.completed hadmits hsound rfl _ (h.acknowledged.append (List.Sublist.refl _))
    | some fault =>
      obtain ⟨kept, status⟩ := fault
      by_cases hall : (frameRecord record).length ≤ kept
      · -- the bytes are there, though the call fails
        have hstep : trace.step ⟨record, some (kept, status)⟩ =
            ⟨{ trace.log with file := trace.log.file ++ frameRecord record }, trace.acknowledged,
              trace.complete ++ [record]⟩ := by
          simp only [Trace.step, Log.append, hadmits, List.take_of_length_le hall, if_true]
        rw [hstep]
        exact h.completed hadmits hsound (min_eq_right hall) _
          (h.acknowledged.trans (List.sublist_append_left _ _))
      · have hpart : trace.log.file ++ (frameRecord record).take kept ≠ trace.log.file ++ frameRecord record := by
          intro heq
          have hlength := congrArg List.length (List.append_cancel_left heq)
          rw [List.length_take] at hlength
          omega
        have hstep : trace.step ⟨record, some (kept, status)⟩ =
            { trace with log := { trace.log with file := trace.log.file ++ (frameRecord record).take kept } } := by
          simp only [Trace.step, Log.append, hadmits, hpart, if_false]
        rw [hstep]
        by_cases hnothing : kept = 0
        · rw [hnothing, List.take_zero, List.append_nil]
          exact h
        · have hkept : written ⟨record, some (kept, status)⟩ = kept := min_eq_left (not_le.mp hall).le
          obtain ⟨header, hheader, hfile, hlater, -⟩ := h.whole (hsound hadmits (by rw [hkept]; omega))
          obtain ⟨hknown, hbounded, -⟩ := admits_bounds hadmits
          rw [hkept] at hlater
          refine ⟨⟨header, _, hheader, ?_, stops_take ⟨hknown, hbounded, by simp⟩ hlater (not_le.mp hall)⟩,
            h.appendable, h.bounded, h.acknowledged⟩
          rw [← List.append_assoc, ← hfile]

lemma kept_of_open {options : WalOptions} {stream : IncarnationId} {fault : Option Status} {file : Option Bytes}
    {opened : Opened (List LogRecord)} (h : openWithin options stream collect fault [] file = .ok opened) :
    Kept opened.state ⟨{ options, wal := opened.wal, file := opened.file }, [], []⟩ := by
  cases file with
  | none =>
    obtain ⟨-, -, h⟩ := bind_eq_ok.mp h
    cases h
    exact ⟨⟨_, [], makeHeader_valid stream ⟨0⟩, by simp [frames], .inl rfl⟩, trivial, Nat.zero_le _,
      List.Sublist.refl _⟩
  | some file =>
    obtain ⟨scan, hscan, h⟩ := bind_eq_ok.mp h
    obtain ⟨header, records, tail, hheader, rfl, hrecords, hmax, hvisit, -, -, hoffset, htail⟩ := scanLog_sound hscan
    have hstate : scan.state = records := by
      rw [visitAll_collect, List.nil_append] at hvisit
      exact (Except.ok.inj hvisit).symm
    have hkept (wal : Wal) : Kept records ⟨{ options, wal, file := header ++ frames records }, [], []⟩ :=
      ⟨⟨header, [], hheader, by simp, .inl rfl⟩, by simpa using hrecords, by simpa using hmax, List.Sublist.refl _⟩
    cases hincident : scan.incident with
    | none =>
      simp only [hincident] at h
      cases h
      rw [htail hincident, List.append_nil, hstate]
      exact hkept _
    | some incident =>
      simp only [hincident] at h
      obtain ⟨-, -, h⟩ := bind_eq_ok.mp h
      cases h
      have hcut : (header ++ (frames records ++ tail)).take scan.offset = header ++ frames records :=
        take_eq (List.append_assoc _ _ _).symm (by rw [List.length_append, hheader.length, hoffset])
      rw [hcut, hstate]
      exact hkept _

/-- A log as it was left is opened and read up to the last record that was written whole. -/
lemma Kept.reopens (h : Kept old trace) (stream : IncarnationId) {ρ : Type} {visitor : ρ → LogRecord → Result ρ}
    (hvisitor : ∀ state record, ∃ next, visitor state record = .ok next) (state : ρ) :
    ∃ again, openWithin trace.log.options stream visitor none state (some trace.log.file) = .ok again ∧
      visitAll visitor state (old ++ trace.complete) = .ok again.state := by
  obtain ⟨header, tail, hheader, hfile, hstops⟩ := h.layout
  obtain ⟨next, hnext⟩ := visitAll_total hvisitor state (old ++ trace.complete)
  rw [hfile]
  rcases hstops with rfl | ⟨incident, htorn⟩
  · rw [List.append_nil, openWithin_frames stream none state hheader h.appendable h.bounded, hnext]
    exact ⟨_, rfl, rfl⟩
  · rw [openWithin_torn stream none state hheader h.appendable h.bounded htorn, hnext]
    exact ⟨_, rfl, rfl⟩

end Steps

lemma run_options (trace : Trace) (calls : List Call) : (trace.run calls).log.options = trace.log.options := by
  induction calls generalizing trace with
  | nil => rfl
  | cons call calls ih =>
    refine (ih (trace.step call)).trans ?_
    simp only [Trace.step, Log.append]
    cases trace.log.admits call.record.kind call.record.payload with
    | error status => rfl
    | ok _ =>
      cases call.fault <;> rfl

/-- If no call writes behind a torn record, or out of order, a later opening hands over what was there, and then the
records that were written whole; all of those whose append returned OK are among them, in order. -/
theorem appends_survive {options : WalOptions} {stream : IncarnationId} {fault : Option Status} {file : Option Bytes}
    {opened : Opened (List LogRecord)} (hopen : openWithin options stream collect fault [] file = .ok opened)
    {calls : List Call}
    (hsound : EachStep Trace.step Sound ⟨{ options, wal := opened.wal, file := opened.file }, [], []⟩ calls) :
    let trace := Trace.run ⟨{ options, wal := opened.wal, file := opened.file }, [], []⟩ calls
    trace.acknowledged.Sublist trace.complete ∧
    ∀ (ρ : Type) (visitor : ρ → LogRecord → Result ρ) (state : ρ),
      (∀ state record, ∃ next, visitor state record = .ok next) →
      ∃ again, openWithin options stream visitor none state (some trace.log.file) = .ok again ∧
        visitAll visitor state (opened.state ++ trace.complete) = .ok again.state := by
  have hkept : Kept opened.state (Trace.run ⟨{ options, wal := opened.wal, file := opened.file }, [], []⟩ calls) :=
    foldl_invariant (kept_of_open hopen) fun before call after heq h => h.step (hsound before call after heq)
  refine ⟨hkept.acknowledged, fun ρ visitor state hvisitor => ?_⟩
  have hagain := hkept.reopens stream hvisitor state
  rw [run_options] at hagain
  exact hagain

/-- What the file system reports of a short write. -/
def shortAppend : Status := Status.make .internal (ascii "short append")

/-- The first of two appends fails before it has written anything, and the second is found again. -/
theorem second_append_survives :
    let trace := (Trace.fresh {} ⟨1⟩).run [⟨firstRecord, some (0, shortAppend)⟩, { record := secondRecord }]
    trace.acknowledged.Sublist trace.complete ∧
    ∀ (ρ : Type) (visitor : ρ → LogRecord → Result ρ) (state : ρ),
      (∀ state record, ∃ next, visitor state record = .ok next) →
      ∃ again, openWithin {} ⟨1⟩ visitor none state (some trace.log.file) = .ok again ∧
        visitAll visitor state ([] ++ trace.complete) = .ok again.state := by
  have hopen : openWithin {} ⟨1⟩ collect none [] none =
      .ok ⟨{}, [], { created := true }, makeHeader ⟨1⟩ ⟨0⟩⟩ := rfl
  refine appends_survive hopen (.cons (fun _ hpos => ?_) (.cons (fun _ _ => ?_) .nil))
  · exact absurd hpos (by decide)
  · exact ⟨makeHeader ⟨1⟩ ⟨0⟩, [], makeHeader_valid ⟨1⟩ ⟨0⟩, trivial, by decide +kernel, by simp [lastOf], by decide⟩

/-- One byte of a record whose append failed hides the record that is acknowledged after it; and a record that was
written whole, but whose append failed, makes the file unreadable once it is appended again. -/
theorem torn_append_hides_records :
    (let trace := (Trace.fresh {} ⟨1⟩).run [⟨firstRecord, some (1, shortAppend)⟩, { record := secondRecord }]
     trace.acknowledged = [secondRecord] ∧
      (openWithin {} ⟨1⟩ collect none [] (some trace.log.file)).toOption.map (·.state) = some []) ∧
    (let trace := (Trace.fresh {} ⟨1⟩).run [⟨firstRecord, some (38, shortAppend)⟩, { record := firstRecord }]
     trace.acknowledged = [firstRecord] ∧
      (openWithin {} ⟨1⟩ collect none [] (some trace.log.file)).toOption.map (·.state) = none) ∧
    ¬∀ calls, let trace := (Trace.fresh {} ⟨1⟩).run calls
      ∃ opened, openWithin {} ⟨1⟩ collect none [] (some trace.log.file) = .ok opened ∧
        trace.acknowledged.Sublist opened.state := by
  have hfirst : let trace := (Trace.fresh {} ⟨1⟩).run [⟨firstRecord, some (1, shortAppend)⟩, { record := secondRecord }]
      trace.acknowledged = [secondRecord] ∧
        (openWithin {} ⟨1⟩ collect none [] (some trace.log.file)).toOption.map (·.state) = some [] := by
    decide +kernel
  refine ⟨hfirst, by decide +kernel, fun hclaim => ?_⟩
  obtain ⟨opened, hopen, hsublist⟩ := hclaim [⟨firstRecord, some (1, shortAppend)⟩, { record := secondRecord }]
  obtain ⟨hacknowledged, hstate⟩ := hfirst
  rw [hopen] at hstate
  have hempty : opened.state = [] := Option.some.inj hstate
  rw [hacknowledged, hempty] at hsublist
  cases hsublist

end InterClusterFabric.StoreAppends
