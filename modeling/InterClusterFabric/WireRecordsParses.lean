import InterClusterFabric.ModelCanonicalParses
import InterClusterFabric.WireRecords

/-! What the decoders of the fields and of the records that only messages carry took: the encoding of what they
return, which is within its bounds. -/
namespace InterClusterFabric.WireRecordsParses
open CoreStatus CoreIds CoreBytes LibraryChecked LibraryReader LibraryParse
open ModelRecords ModelCanonical ModelCanonicalReads ModelCanonicalAccepts ModelCanonicalParses
open EngineDecision WireMessages WireRecords

/-! Fields. -/

lemma u16_known : Known u16 putU16 fun n => n < 65536 :=
  (readNat_parses _ 2).mono fun _ n h => ⟨h.1, by simpa using h.2⟩

lemma counter_known (bound : UInt64) : Known (decodeCounter bound) putU64 fun value => value ≤ bound :=
  (counter_spells bound).known (counter_yields bound)

lemma name_known (tag : NameTag) (maxLength : ℕ) :
    Known (decodeName tag maxLength) (fun name => putBlob name.value) fun name => name.value ≠ [] :=
  (name_spells tag maxLength).known (name_yields tag maxLength)

lemma text_known : Known decodeText putBlob TextOk := text_spells.known text_yields

lemma codeByte_spells {α : Type} {cast : ℕ → α} {last : ℕ} {message : String} (code : α → ℕ)
    (h : ∀ n ≤ last, code (cast n) = n) : Spells (codeByte cast last message) fun x => putU8 (code x) :=
  u8_parses.bind fun used value hused => .check fun hvalue => .pure <| by
    simp only [h value (not_lt.mp hvalue), hused, List.append_nil]

lemma codeWord_spells {α : Type} {cast : ℕ → α} {last : ℕ} {message : String} (code : α → ℕ)
    (h : ∀ n ≤ last, code (cast n) = n) : Spells (codeWord cast last message) fun x => putU16 (code x) :=
  u16_parses.bind fun used value hused => .check fun hvalue => .pure <| by
    simp only [h value (not_lt.mp hvalue), hused, List.append_nil]

lemma boundedU64_known (bound : UInt64) (message : String) :
    Known (boundedU64 bound message) putU64 fun value => value ≤ bound :=
  .field u64_spells fun _ => .check fun hvalue => .pure ⟨List.append_nil _, UInt64.not_lt.mp hvalue⟩

lemma leaseDuration_known (message : String) : Known (leaseDuration message) putI64 leaseInRange :=
  .field i64_spells fun _ => .check fun hlease => .pure ⟨List.append_nil _, not_not.mp hlease⟩

lemma size_known : Known size putSize fun value => value < 2 ^ 64 :=
  u64_spells.map fun used value hused => ⟨by rw [hused, putSize, UInt64.ofNat_toNat], value.toNat_lt⟩

/-- A list is spelled by its length and its items, each of which is as its own reader gives it. -/
lemma list_known {α : Type} {decode : ByteReader α} {encode : α → Bytes} {P : α → Prop} (hitem : Known decode encode P)
    (bound : ℕ) :
    Known (decodeList decode bound) (encodeList encode) fun xs => xs.length ≤ bound ∧ ∀ x ∈ xs, P x := by
  have hgood : Parses decode fun used a => ∃ x, used = encode x ∧ a = id x ∧ P x :=
    hitem.mono fun _ a hused => ⟨a, hused.1, rfl, hused.2⟩
  refine (count_parses bound).bind fun _ n hn =>
    (Parses.readFold (fun acc x => acc ++ [x]) hgood (fun acc x next hput => ?_) n []).mono fun more out hmore => ?_
  · cases hput
    rfl
  · obtain ⟨rfl, hsize, hbound⟩ := hn
    obtain ⟨xs, rfl, rfl, hxs, rfl⟩ := hmore
    rw [foldl_append, List.nil_append, List.map_id]
    exact ⟨by rw [encodeList, putCount_of_lt hsize], hbound, hxs⟩

/-- A list of items about which nothing is claimed. -/
lemma list_known_of_spells {α : Type} {decode : ByteReader α} {encode : α → Bytes} (hitem : Spells decode encode)
    (bound : ℕ) : Known (decodeList decode bound) (encodeList encode) fun xs => xs.length ≤ bound :=
  (list_known (P := fun _ => True) (hitem.mono fun _ _ hused => ⟨hused, trivial⟩) bound).mono
    fun _ _ hused => ⟨hused.1, hused.2.1⟩

/-! Records. -/

lemma terms_known : Known decodeTerms ContractTerms.encodeTerms TermsInBounds :=
  .next (party_spells.known party_yields) fun first hfirst => .next (party_spells.known party_yields) fun second hsecond =>
  .next (boundedU64_known _ _) fun _ hcapacity => .next (leaseDuration_known _) fun _ hlease =>
  .field uuid_spells fun _ => .field uuid_spells fun _ =>
  .next (boundedU64_known _ _) fun _ hgeneration0 => .next (boundedU64_known _ _) fun _ hgeneration1 =>
  .next (boundedU64_known _ _) fun _ hpolicy0 => .next (boundedU64_known _ _) fun _ hpolicy1 =>
  .field i64_spells fun _ => .pure
    ⟨by simp [ContractTerms.encodeTerms, ContractTerms.encodeParty, encodeParty],
      ⟨hfirst, hsecond, hcapacity, hlease, hgeneration0, hgeneration1, hpolicy0, hpolicy1⟩⟩

lemma outcome_spells (message : String) :
    Spells (codeWord Outcome.ofNat Outcome.internal.ctorIdx message) fun outcome => putU16 outcome.ctorIdx :=
  codeWord_spells Outcome.ctorIdx (by decide)

lemma reason_spells (message : String) : Spells (decodeReason message) fun reason => putU16 reason.ctorIdx :=
  codeWord_spells ReasonCode.ctorIdx (by decide)

lemma decision_known : Known decodeDecision encodeDecision DecisionInBounds :=
  .field (outcome_spells _) fun _ => .next (list_known_of_spells (reason_spells _) _) fun _ hreasons =>
  .field uuid_spells fun _ => .field uuid_spells fun _ =>
  .field (optionalName_spells _ _) fun _ => .field (optionalName_spells _ _) fun _ =>
  .next (counter_known _) fun _ hterm => .field uuid_spells fun _ => .field digest_spells fun _ =>
  .field digest_spells fun _ => .next (counter_known _) fun _ hcapacity =>
  .next (list_known (name_known _ _) _) fun _ hpaths => .next (list_known (name_known _ _) _) fun _ hedges =>
  .field boolean_spells fun _ => .field i64_spells fun _ => .next text_known fun _ hdetail => .pure
    ⟨rfl, ⟨hreasons, hterm, hcapacity, hpaths.1, hpaths.2, hedges.1, hedges.2, hdetail⟩⟩

lemma fenceAction_spells : Spells decodeFenceAction encodeFenceAction :=
  .field (codeByte_spells FenceTarget.ctorIdx (by decide)) fun _ => .field uuid_spells fun _ =>
  .field uuid_spells fun _ => .field uuid_spells fun _ => .field (reason_spells _) fun _ => .pure rfl

lemma fencePlan_known : Known decodeFencePlan encodeFencePlan FencePlanInBounds :=
  .field (codeByte_spells FenceTrigger.ctorIdx (by decide)) fun _ => .field (optionalName_spells _ _) fun _ =>
  .field uuid_spells fun _ => .field uuid_spells fun _ => .next (counter_known _) fun _ hgeneration =>
  .next (counter_known _) fun _ hterm => .field digest_spells fun _ =>
  .next (list_known_of_spells fenceAction_spells _) fun _ hactions => .next text_known fun _ hdetail => .pure
    ⟨rfl, ⟨hgeneration, hterm, hactions, hdetail⟩⟩

lemma parseOptional_eq {tag : NameTag} {text : Bytes} {name : Name tag} (h : parseOptional tag text = .ok name) :
    name.value = text := by
  unfold parseOptional at h
  split at h
  · rename_i hempty
    cases h
    exact hempty.symm
  · exact parse_value h

lemma accounting_known : Known decodeAccounting encodeAccounting AccountingInBounds :=
  .field uuid_spells fun _ => .field uuid_spells fun _ =>
  .field (blob_spells _) fun _ => .field (blob_spells _) fun _ =>
  .next (counter_known _) fun _ hreserved => .next (counter_known _) fun _ hreleased =>
  .field boolean_spells fun _ => .lift fun _ hendpoint => .lift fun _ hcluster => .pure <| by
    rw [← parseOptional_eq hendpoint, ← parseOptional_eq hcluster]
    exact ⟨rfl, ⟨hreserved, hreleased⟩⟩

lemma status_known : Known decodeStatus encodeStatus StatusInBounds :=
  .field (optionalName_spells _ _) fun _ => .field uuid_spells fun _ => .next (counter_known _) fun _ hterm =>
  .field i64_spells fun _ => .field u64_spells fun _ => .field digest_spells fun _ =>
  .next (counter_known _) fun _ hrevision => .field boolean_spells fun _ => .next size_known fun _ hrecords =>
  .field u64_spells fun _ => .next size_known fun _ hclusters => .next size_known fun _ hendpoints =>
  .next size_known fun _ hlinks => .next size_known fun _ hpaths => .next size_known fun _ hcontracts =>
  .next size_known fun _ hgrants => .next size_known fun _ hreservations => .next size_known fun _ hpolicies =>
  .next size_known fun _ haudit => .next size_known fun _ hagents =>
  .field u64_spells fun _ => .field u64_spells fun _ => .field u64_spells fun _ => .field u64_spells fun _ =>
  .field u64_spells fun _ => .field u64_spells fun _ => .next text_known fun _ hpath => .pure
    ⟨rfl, ⟨hterm, hrevision, hrecords, hclusters, hendpoints, hlinks, hpaths, hcontracts, hgrants, hreservations,
      hpolicies, haudit, hagents, hpath⟩⟩

end InterClusterFabric.WireRecordsParses
