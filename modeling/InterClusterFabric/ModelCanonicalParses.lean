import InterClusterFabric.LibraryParse
import InterClusterFabric.ModelCanonicalAccepts

/-! What a decoder took. A field, and every record but one, is read off its own encoding; a cluster may be written with
its endpoints in any order and a generation that nothing reads. -/
namespace InterClusterFabric.ModelCanonicalParses
open CoreStatus CoreIds CoreTime CoreHash CoreBytes LibraryChecked LibraryReader LibraryParse ModelRecords
open ModelCanonical ModelCanonicalReads ModelCanonicalAccepts

/-! Fields. -/

lemma u8_parses : Parses u8 fun used n => used = putU8 n := (readNat_parses _ 1).mono fun _ _ h => h.1

lemma u16_parses : Parses u16 fun used n => used = putU16 n := (readNat_parses _ 2).mono fun _ _ h => h.1

lemma u32_spells : Spells u32 putU32 := by
  refine (readNat_parses _ 4).map fun used n hn => ?_
  obtain ⟨rfl, hn⟩ := hn
  rw [putU32, UInt32.toNat_ofNat_of_lt' hn]

lemma u64_spells : Spells u64 putU64 := by
  refine (readNat_parses _ 8).map fun used n hn => ?_
  obtain ⟨rfl, hn⟩ := hn
  rw [putU64, UInt64.toNat_ofNat_of_lt' hn]

lemma i64_spells : Spells i64 putI64 :=
  u64_spells.map fun used value hused => by
    rw [hused, putI64, UInt64.toUInt64_toInt64]

lemma boolean_spells : Spells boolean putBoolean := by
  refine u8_parses.bind fun used value hused => .check fun hvalue => .pure ?_
  rw [hused, List.append_nil]
  interval_cases value <;> rfl

lemma uuid_spells : Spells uuid putUuid := by
  refine (takeBytes_parses _ 16).map fun used body hbody => ?_
  obtain ⟨rfl, hlength⟩ := hbody
  have hlt : beNat used < 2 ^ 128 := by simpa [hlength] using beNat_lt used
  rw [putUuid, BitVec.toNat_ofNat, Nat.mod_eq_of_lt hlt, ← hlength, beBytes_beNat]

lemma digest_spells : Spells digest putDigest := by
  refine (takeBytes_parses _ 32).map fun used body hbody => ?_
  obtain ⟨rfl, hlength⟩ := hbody
  have hlt : beNat used < 2 ^ 256 := by simpa [hlength] using beNat_lt used
  rw [putDigest, BitVec.toNat_ofNat, Nat.mod_eq_of_lt hlt, ← hlength, beBytes_beNat]

lemma blob_spells (maxLength : ℕ) : Spells (blob maxLength) putBlob := by
  refine .field u32_spells fun length => .check fun _ => (takeBytes_parses _ _).bind fun used text htext =>
    .check fun _ => .pure ?_
  obtain ⟨rfl, hlength⟩ := htext
  rw [putBlob, hlength, UInt32.ofNat_toNat, List.append_nil]

lemma text_spells : Spells decodeText putBlob := blob_spells _

lemma count_parses (maxCount : ℕ) :
    Parses (count maxCount) fun used n => used = putU32 (UInt32.ofNat n) ∧ n < 2 ^ 32 ∧ n ≤ maxCount := by
  refine .field u32_spells fun value => .check fun hvalue => .pure ⟨?_, value.toNat_lt, not_lt.mp hvalue⟩
  rw [List.append_nil, UInt32.ofNat_toNat]

lemma putCount_of_lt {n : ℕ} (h : n < 2 ^ 32) : putCount n = putU32 (UInt32.ofNat n) := if_pos h

lemma parse_value {tag : NameTag} {text : Bytes} {name : Name tag} (h : Name.parse tag text = .ok name) :
    name.value = text := by
  unfold Name.parse at h
  split at h
  · cases h
    rfl
  · cases h

lemma name_spells (tag : NameTag) (maxLength : ℕ) :
    Spells (decodeName tag maxLength) fun name => putBlob name.value :=
  .field (blob_spells maxLength) fun text => .result fun name hparse => by
    simp only [parse_value hparse, List.append_nil]

lemma optionalName_spells (tag : NameTag) (maxLength : ℕ) :
    Spells (decodeOptionalName tag maxLength) fun name => putBlob name.value := by
  refine .field (blob_spells maxLength) fun text => ?_
  split
  · rename_i hempty
    subst hempty
    exact .pure (List.append_nil _)
  · exact .result fun name hparse => by simp only [parse_value hparse, List.append_nil]

lemma enum8_spells {α : Type} {cast : ℕ → α} {maxValue : ℕ} (code : α → ℕ) (h : ∀ n ≤ maxValue, code (cast n) = n) :
    Spells (decodeEnum8 cast maxValue) fun x => putU8 (code x) :=
  u8_parses.bind fun used value hused => .check fun hvalue => .pure <| by
    simp only [h value (not_lt.mp hvalue), hused, List.append_nil]

lemma enum16_spells {α : Type} {cast : ℕ → α} {maxValue : ℕ} (code : α → ℕ) (h : ∀ n ≤ maxValue, code (cast n) = n) :
    Spells (decodeEnum16 cast maxValue) fun x => putU16 (code x) :=
  u16_parses.bind fun used value hused => .check fun hvalue => .pure <| by
    simp only [h value (not_lt.mp hvalue), hused, List.append_nil]

lemma counter_spells (maxValue : UInt64) : Spells (decodeCounter maxValue) putU64 :=
  .field u64_spells fun _ => .check fun _ => .pure (List.append_nil _)

/-! Records. -/

lemma provenance_spells : Spells decodeProvenance encodeProvenance :=
  .field (enum8_spells EvidenceSource.ctorIdx (by decide)) fun _ =>
  .field (enum8_spells VerificationState.ctorIdx (by decide)) fun _ =>
  .field i64_spells fun _ => .field (counter_spells _) fun _ => .field uuid_spells fun _ => .field digest_spells fun _ =>
  .pure rfl

lemma endpoint_spells : Spells decodeEndpoint encodeEndpoint :=
  .field (name_spells _ _) fun _ => .field (name_spells _ _) fun _ => .field (name_spells _ _) fun _ =>
  .field (counter_spells _) fun _ => .field (counter_spells _) fun _ => .field (counter_spells _) fun _ =>
  .field (enum8_spells EndpointState.ctorIdx (by decide)) fun _ =>
  .field boolean_spells fun _ => .field boolean_spells fun _ => .field provenance_spells fun _ => .pure rfl

lemma consent_spells : Spells decodeConsent encodeConsent :=
  .field (name_spells _ _) fun _ => .field (name_spells _ _) fun _ => .field uuid_spells fun _ =>
  .field (counter_spells _) fun _ => .field (counter_spells _) fun _ => .field (counter_spells _) fun _ =>
  .field digest_spells fun _ => .field (enum8_spells ConsentDecision.ctorIdx (by decide)) fun _ =>
  .field i64_spells fun _ => .field uuid_spells fun _ =>
  .field (enum8_spells TransportAuthenticity.ctorIdx (by decide)) fun _ => .field text_spells fun _ => .pure rfl

lemma link_spells : Spells decodeLink encodeLink :=
  .field (name_spells _ _) fun _ => .field (name_spells _ _) fun _ => .field (name_spells _ _) fun _ =>
  .field (enum16_spells LinkKind.ctorIdx (by decide)) fun _ => .field (enum8_spells LinkState.ctorIdx (by decide)) fun _ =>
  .field (counter_spells _) fun _ => .field (counter_spells _) fun _ => .field u32_spells fun _ =>
  .field (counter_spells _) fun _ => .field provenance_spells fun _ => .pure rfl

lemma foldl_append {α : Type} (acc xs : List α) : xs.foldl (fun acc x => acc ++ [x]) acc = acc ++ xs := by
  induction xs generalizing acc with
  | nil => simp
  | cons x xs ih => rw [List.foldl_cons, ih, List.append_assoc, List.singleton_append]

/-- A list that is spelled by its length and its items. -/
lemma list_spells {α : Type} {item : ByteReader α} {enc : α → Bytes} (hitem : Spells item enc) (n : ℕ) :
    Parses (readFold item pushBack n []) fun used xs => xs.length = n ∧ used = xs.flatMap enc := by
  have hgood : Parses item fun used a => ∃ x, used = enc x ∧ a = id x ∧ True :=
    hitem.mono fun _ a hused => ⟨a, hused, rfl, trivial⟩
  refine (Parses.readFold (fun acc x => acc ++ [x]) hgood (fun acc x next hput => ?_) n []).mono ?_
  · cases hput
    rfl
  · rintro used out ⟨xs, rfl, rfl, -, rfl⟩
    rw [foldl_append, List.nil_append, List.map_id]
    exact ⟨rfl, rfl⟩

lemma path_spells : Spells decodePath encodePath := by
  refine .field (name_spells _ _) fun _ => .field (name_spells _ _) fun _ => .field (name_spells _ _) fun _ =>
    (count_parses _).bind fun _ n hn => (list_spells (name_spells _ _) n).bind fun _ hops hhops => ?_
  obtain ⟨rfl, hsize, -⟩ := hn
  obtain ⟨rfl, rfl⟩ := hhops
  refine .field (counter_spells _) fun _ => .field (enum8_spells PathState.ctorIdx (by decide)) fun _ =>
    .field (counter_spells _) fun _ => .field provenance_spells fun _ => .field boolean_spells fun _ => .pure ?_
  rw [← putCount_of_lt hsize]
  rfl

lemma policy_spells : Spells decodePolicy encodePolicy :=
  .field text_spells fun _ => .check fun _ => .field (name_spells _ _) fun _ =>
  .field (optionalName_spells _ _) fun _ => .field (optionalName_spells _ _) fun _ =>
  .field (optionalName_spells _ _) fun _ => .field (optionalName_spells _ _) fun _ =>
  .field (counter_spells _) fun _ => .field boolean_spells fun _ => .field boolean_spells fun _ =>
  .field (counter_spells _) fun _ => .field (counter_spells _) fun _ => .field provenance_spells fun _ => .pure rfl

lemma party_spells : Spells decodeParty encodeParty :=
  .field (name_spells _ _) fun _ => .field (name_spells _ _) fun _ => .field (name_spells _ _) fun _ => .pure rfl

lemma optionalConsent_spells : Spells decodeOptionalConsent encodeOptionalConsent := by
  refine .field boolean_spells fun present => ?_
  cases present with
  | false => exact .pure rfl
  | true => exact consent_spells.map fun _ _ hused => by rw [hused, encodeOptionalConsent]

lemma contract_spells : Spells decodeContract encodeContract :=
  .field uuid_spells fun _ => .field party_spells fun _ => .field party_spells fun _ => .check fun _ =>
  .field (counter_spells _) fun _ => .field i64_spells fun _ => .check fun _ => .field digest_spells fun _ =>
  .field (enum8_spells ContractState.ctorIdx (by decide)) fun _ =>
  .field optionalConsent_spells fun _ => .field optionalConsent_spells fun _ => .field i64_spells fun _ =>
  .field i64_spells fun _ => .field (counter_spells _) fun _ => .field provenance_spells fun _ => .pure rfl

lemma grant_spells : Spells decodeGrant encodeGrant :=
  .field uuid_spells fun _ => .field uuid_spells fun _ => .field digest_spells fun _ =>
  .field (counter_spells _) fun _ => .field uuid_spells fun _ => .field uuid_spells fun _ =>
  .field uuid_spells fun _ => .field (counter_spells _) fun _ => .field (counter_spells _) fun _ =>
  .field uuid_spells fun _ => .field (counter_spells _) fun _ => .field (counter_spells _) fun _ =>
  .field (counter_spells _) fun _ => .field i64_spells fun _ => .field i64_spells fun _ =>
  .field (enum8_spells GrantState.ctorIdx (by decide)) fun _ =>
  .field boolean_spells fun _ => .field digest_spells fun _ => .field boolean_spells fun _ =>
  .field digest_spells fun _ => .field (counter_spells _) fun _ => .field text_spells fun _ =>
  .field (counter_spells _) fun _ => .field provenance_spells fun _ => .pure rfl

lemma reservation_spells : Spells decodeReservation encodeReservation :=
  .field uuid_spells fun _ => .field uuid_spells fun _ => .field (name_spells _ _) fun _ =>
  .field (name_spells _ _) fun _ => .field (counter_spells _) fun _ => .field boolean_spells fun _ =>
  .field i64_spells fun _ => .field i64_spells fun _ => .field (counter_spells _) fun _ =>
  .field provenance_spells fun _ => .pure rfl

lemma audit_spells : Spells decodeAudit encodeAudit := by
  refine .field u64_spells fun _ => .field i64_spells fun _ => .field text_spells fun _ => .field text_spells fun _ =>
    .field text_spells fun _ => u16_parses.bind fun _ code hcode => .check fun houtcome =>
    .field text_spells fun _ => .pure ?_
  have hindex : ∀ n ≤ Outcome.internal.ctorIdx, (Outcome.ofNat n).ctorIdx = n := by decide
  simp only [encodeAudit, hindex code (not_lt.mp houtcome), hcode]
  rfl

/-! Clusters. -/

/-- A cluster as it is written: its endpoints in any order, and a generation where no conflicting one is. -/
structure SpelledCluster where
  record : ClusterRecord
  stray : Generation

namespace SpelledCluster

def bytes (cluster : SpelledCluster) : Bytes := List.flatten [
  putBlob cluster.record.id.value,
  putBlob cluster.record.domain.value,
  putUuid cluster.record.incarnation.uuid,
  putU64 cluster.record.generation.value,
  putU64 cluster.record.policyGeneration.value,
  putU8 cluster.record.state.ctorIdx,
  putBoolean cluster.record.consentWithdrawn,
  putI64 cluster.record.lastSeen.unixNanos,
  putCount cluster.record.endpoints.length,
  cluster.record.endpoints.flatMap encodeEndpoint,
  putDigest cluster.record.contentDigest,
  putBoolean cluster.record.generationConflict,
  putBoolean cluster.record.conflictingGeneration.isSome,
  putU64 (cluster.record.conflictingGeneration.getD cluster.stray).value,
  putU64 cluster.record.revision.value,
  encodeProvenance cluster.record.provenance,
  putU64 cluster.record.incarnationChanges]

/-- What is read. -/
def value (cluster : SpelledCluster) : ClusterRecord :=
  { cluster.record with endpoints := sortEndpoints cluster.record.endpoints }

/-- As the encoder writes it. -/
structure Canonical (cluster : SpelledCluster) : Prop where
  endpoints : EndpointsOrdered cluster.record.endpoints
  stray : cluster.record.conflictingGeneration = none → cluster.stray = ⟨0⟩

end SpelledCluster

lemma cluster_parses : Parses decodeCluster fun used r => ∃ cluster : SpelledCluster,
    used = cluster.bytes ∧ r = cluster.value := by
  refine .field (name_spells _ _) fun id => .field (name_spells _ _) fun domain => .field uuid_spells fun incarnation =>
    .field (counter_spells _) fun generation => .field (counter_spells _) fun policy =>
    .field (enum8_spells ClusterState.ctorIdx (by decide)) fun state => .field boolean_spells fun withdrawn =>
    .field i64_spells fun lastSeen => (count_parses _).bind fun _ n hn =>
    (list_spells endpoint_spells n).bind fun _ endpoints hendpoints => .check fun _ => ?_
  obtain ⟨rfl, hsize, -⟩ := hn
  obtain ⟨rfl, rfl⟩ := hendpoints
  refine .field digest_spells fun content => .field boolean_spells fun conflict => .field boolean_spells fun present =>
    .field (counter_spells _) fun conflicting => .field (counter_spells _) fun revision =>
    .field provenance_spells fun provenance => .field (counter_spells _) fun changes => .pure ?_
  refine ⟨⟨⟨id, domain, ⟨incarnation⟩, ⟨generation⟩, ⟨policy⟩, state, withdrawn, ⟨lastSeen⟩, endpoints, content,
    conflict, if present then some ⟨conflicting⟩ else none, ⟨revision⟩, provenance, changes⟩, ⟨conflicting⟩⟩, ?_, rfl⟩
  rw [SpelledCluster.bytes, putCount_of_lt hsize]
  cases present <;> rfl

/-- A cluster that was read is written back as it stood exactly if it stood there as the encoder writes it. -/
lemma SpelledCluster.encode_value_iff {cluster : SpelledCluster} (hstorable : ClusterStorable cluster.value)
    (hordered : EndpointsOrdered cluster.value.endpoints) :
    encodeCluster cluster.value = cluster.bytes ↔ cluster.Canonical := by
  have hreads : ∀ endpoint ∈ cluster.record.endpoints, Reads decodeEndpoint (encodeEndpoint endpoint) True endpoint :=
    fun endpoint hmem => (endpoint_reads endpoint).given
      (hstorable.2.2.2.2.2.1 endpoint (mem_sortEndpoints.mpr hmem))
  constructor
  · intro h
    simp only [encodeCluster, bytes, value, sortEndpoints_length, List.flatten_cons, List.append_cancel_left_eq] at h
    obtain ⟨hsorted, -, hrest⟩ := split_of_flatMap id
      (fun endpoint hmem => hreads endpoint (mem_sortEndpoints.mp hmem)) hreads (sortEndpoints_length _) h
    rw [List.map_id] at hsorted
    refine ⟨hsorted ▸ hordered, fun hnone => ?_⟩
    simp only [List.append_cancel_left_eq, hnone, Option.getD_none] at hrest
    have hstray := (split_of_reads (u64_reads _) (u64_reads _) hrest).1
    exact Counter.ext hstray.symm
  · rintro ⟨hendpoints, hstray⟩
    have hvalue : cluster.value = cluster.record := by rw [value, sortEndpoints_of_ordered hendpoints]
    have hgeneration : cluster.record.conflictingGeneration.getD ⟨0⟩ =
        cluster.record.conflictingGeneration.getD cluster.stray := by
      cases hconflicting : cluster.record.conflictingGeneration with
      | none => exact (hstray hconflicting).symm
      | some generation => rfl
    rw [hvalue, encodeCluster, hgeneration, bytes]

end InterClusterFabric.ModelCanonicalParses
