import InterClusterFabric.ModelCanonicalParses
import InterClusterFabric.ModelRegistryLaws

/-! The encodings of a registry that its decoder accepts. Each lists the records of the sections one after another, in
any order and as often as it likes; the encoder writes one of them. -/
namespace InterClusterFabric.ModelListing
open CoreStatus CoreIds CoreBytes ModelRecords ModelCanonical ModelCanonicalReads ModelCanonicalAccepts
open ModelCanonicalParses ModelRegistry ModelRegistryLaws LibraryChecked LibraryOrdMap LibraryReader LibraryParse

/-! Sections. -/

section Sections

variable {κ β γ : Type} [Ord κ] [Std.TransOrd κ] [Std.LawfulEqOrd κ] [DecidableEq κ]

/-- A section of records as they are written. -/
def spellAll (code : γ → Bytes) (xs : List γ) : Bytes := putCount xs.length ++ xs.flatMap code

/-- The records are listed in the order of their keys, none of them twice. -/
def Ascending (key : β → κ) (records : List β) : Prop :=
  records.Pairwise fun v w => compare (key v) (key w) = .lt

/-- A record is read off what is written for it, and off what the encoder writes. -/
structure Readable (item : ByteReader β) (encode : β → Bytes) (code : γ → Bytes) (value : γ → β) (x : γ) : Prop where
  written : Reads item (code x) True (value x)
  encoded : Reads item (encode (value x)) True (value x)

omit [Std.LawfulEqOrd κ] [DecidableEq κ] in
lemma encodeAll_eq (encode : β → Bytes) (m : OrdMap κ β) : encodeAll encode m = spellAll encode (values m) := by
  rw [encodeAll, spellAll, values_length]

lemma encodeAll_insertAll {encode : β → Bytes} {code : γ → Bytes} {value : γ → β} (key : β → κ) {xs : List γ}
    (hascending : Ascending key (xs.map value)) (hcode : ∀ x ∈ xs, encode (value x) = code x) :
    encodeAll encode (insertAll key ∅ (xs.map value)) = spellAll code xs := by
  rw [encodeAll_eq, values_insertAll key hascending, spellAll, spellAll, List.length_map, List.flatMap_map,
    List.flatMap_congr hcode]

/-- If a section is written back as it stood, its records stood there in order and as the encoder writes them. -/
lemma split_section {item : ByteReader β} {encode : β → Bytes} {code : γ → Bytes} {value : γ → β} (key : β → κ)
    {xs : List γ} (hread : ∀ x ∈ xs, Readable item encode code value x) (hsize : xs.length < 2 ^ 32) {r t : Bytes}
    (h : encodeAll encode (insertAll key ∅ (xs.map value)) ++ r = spellAll code xs ++ t) :
    Ascending key (xs.map value) ∧ (∀ x ∈ xs, encode (value x) = code x) ∧ r = t := by
  have hkeyed : ∀ (k : κ) v, (insertAll key ∅ (xs.map value))[k]? = some v → key v = k :=
    keyed_insertAll key _ (by simp)
  have hvalues : ∀ v ∈ values (insertAll key ∅ (xs.map value)), Reads item (encode v) True v := by
    intro v hv
    obtain ⟨x, hx, rfl⟩ := List.mem_map.mp ((mem_values_insertAll key hv).resolve_left (by simp))
    exact (hread x hx).encoded
  have hlength : (values (insertAll key ∅ (xs.map value))).length ≤ xs.length := by
    rw [values_length]
    simpa using size_insertAll_le key (∅ : OrdMap κ β) (xs.map value)
  rw [encodeAll_eq, spellAll, spellAll, List.append_assoc, List.append_assoc] at h
  obtain ⟨hsame, -, hitems⟩ := split_of_reads ((count_reads (2 ^ 32) (hlength.trans_lt hsize)).given (by omega))
    ((count_reads (2 ^ 32) hsize).given hsize.le) h
  obtain ⟨hlist, hcode, hrest⟩ := split_of_flatMap value hvalues (fun x hx => (hread x hx).written) hsame hitems
  refine ⟨?_, hcode, hrest⟩
  rw [← hlist]
  exact values_ordered key fun p hp => hkeyed p.1 p.2 (Std.ExtTreeMap.mem_toList_iff_getElem?_eq_some.mp hp)

omit [Std.LawfulEqOrd κ] [DecidableEq κ] in
lemma foldl_set (s : Section κ β) (hself : ∀ r, s.set r (s.get r) = r) (l : List β) (r : Registry) :
    l.foldl (fun r v => s.set r ((s.get r).insert (s.key v) v)) r = s.set r (insertAll s.key (s.get r) l) := by
  induction l generalizing r with
  | nil => exact (hself r).symm
  | cons v rest ih =>
    rw [List.foldl_cons, ih, s.get_set, s.set_set]
    rfl

omit [Std.LawfulEqOrd κ] [DecidableEq κ] in
/-- What is read of a section is the list of its records, and the container they were inserted into. -/
lemma section_parses (s : Section κ β) {item : ByteReader β} {code : γ → Bytes} {value : γ → β} {Good : γ → Prop}
    (hself : ∀ r, s.set r (s.get r) = r)
    (hitem : Parses item fun used v => ∃ x, used = code x ∧ v = value x ∧ Good x)
    (hput : ∀ r x next, s.put r (value x) = .ok next → next = s.set r ((s.get r).insert (s.key (value x)) (value x)))
    (r : Registry) : Parses (decodeSection item s.put s.bound r) fun used next => ∃ xs : List γ,
      used = spellAll code xs ∧ xs.length < 2 ^ 32 ∧ (∀ x ∈ xs, Good x) ∧
        next = s.set r (insertAll s.key (s.get r) (xs.map value)) := by
  refine (count_parses s.bound).bind fun _ n hn => ?_
  obtain ⟨rfl, hsize, -⟩ := hn
  refine (Parses.readFold (fun r v => s.set r ((s.get r).insert (s.key v) v)) hitem hput n r).mono ?_
  rintro used next ⟨xs, rfl, rfl, hgood, rfl⟩
  exact ⟨xs, by rw [spellAll, putCount_of_lt hsize], hsize, hgood, foldl_set s hself _ _⟩

end Sections

/-! Listings. -/

/-- The records of a registry as they are written, section by section. -/
structure Listing where
  clusters : List SpelledCluster
  links : List LinkRecord
  paths : List PathRecord
  policies : List PolicyRule
  contracts : List ContractRecord
  grants : List GrantRecord
  reservations : List ReservationRecord
  audit : Option (List AuditRecord)

namespace Listing

/-- The flag of the audit trail. -/
def includesAudit (listing : Listing) : Bool := listing.audit.isSome

def bytes (listing : Listing) : Bytes := List.flatten [
  putU16 modelEncodingVersion,
  putBoolean listing.includesAudit,
  spellAll SpelledCluster.bytes listing.clusters,
  spellAll encodeLink listing.links,
  spellAll encodePath listing.paths,
  spellAll encodePolicy listing.policies,
  spellAll encodeContract listing.contracts,
  spellAll encodeGrant listing.grants,
  spellAll encodeReservation listing.reservations,
  (listing.audit.map (spellAll encodeAudit)).getD []]

/-- The last record of a key counts. -/
def registry (listing : Listing) : Registry where
  clusters := insertAll ClusterRecord.id ∅ (listing.clusters.map SpelledCluster.value)
  links := insertAll LinkRecord.id ∅ listing.links
  paths := insertAll PathRecord.id ∅ listing.paths
  policies := insertAll PolicyRule.id ∅ listing.policies
  contracts := insertAll ContractRecord.id ∅ listing.contracts
  grants := insertAll GrantRecord.id ∅ listing.grants
  reservations := insertAll ReservationRecord.id ∅ listing.reservations
  audit := listing.audit.getD []

/-- Every section is in key order without a key twice, and every cluster is as the encoder writes it. -/
structure Canonical (listing : Listing) : Prop where
  clusters : Ascending ClusterRecord.id (listing.clusters.map SpelledCluster.value)
  links : Ascending LinkRecord.id listing.links
  paths : Ascending PathRecord.id listing.paths
  policies : Ascending PolicyRule.id listing.policies
  contracts : Ascending ContractRecord.id listing.contracts
  grants : Ascending GrantRecord.id listing.grants
  reservations : Ascending ReservationRecord.id listing.reservations
  spelled : ∀ cluster ∈ listing.clusters, cluster.Canonical

end Listing

/-- A cluster that was read. -/
structure ReadCluster (cluster : SpelledCluster) : Prop where
  read : Reads decodeCluster cluster.bytes True cluster.value
  storable : ClusterStorable cluster.value
  ordered : EndpointsOrdered cluster.value.endpoints

/-- A section of other records that was read. -/
structure ReadSection {β : Type} (item : ByteReader β) (encode : β → Bytes) (xs : List β) : Prop where
  read : ∀ x ∈ xs, Reads item (encode x) True x
  size : xs.length < 2 ^ 32

/-- Every record is what its decoder reads off its own part of the listing. -/
structure Listing.Read (listing : Listing) : Prop where
  clusters : ∀ cluster ∈ listing.clusters, ReadCluster cluster
  size : listing.clusters.length < 2 ^ 32
  links : ReadSection decodeLink encodeLink listing.links
  paths : ReadSection decodePath encodePath listing.paths
  policies : ReadSection decodePolicy encodePolicy listing.policies
  contracts : ReadSection decodeContract encodeContract listing.contracts
  grants : ReadSection decodeGrant encodeGrant listing.grants
  reservations : ReadSection decodeReservation encodeReservation listing.reservations
  audit : ∀ trail ∈ listing.audit, ReadSection decodeAudit encodeAudit trail

/-! What the decoder of a registry reads. -/

lemma spelled_parses {β : Type} {item : ByteReader β} {encode : β → Bytes} (h : Spells item encode) :
    Parses item fun used v => ∃ x, used = encode x ∧ v = id x ∧ Reads item (encode x) True x :=
  (h.yields (Yields.any _)).mono fun _ v ⟨hused, hreads, _⟩ => ⟨v, hused, rfl, hused ▸ hreads⟩

lemma plain_parses {κ β : Type} [Ord κ] [Std.TransOrd κ] (s : Section κ β) {item : ByteReader β} {encode : β → Bytes}
    (hself : ∀ r, s.set r (s.get r) = r) (hitem : Spells item encode)
    (hput : ∀ r x next, s.put r x = .ok next → next = s.set r ((s.get r).insert (s.key x) x)) (r : Registry) :
    Parses (decodeSection item s.put s.bound r) fun used next => ∃ xs : List β,
      used = spellAll encode xs ∧ ReadSection item encode xs ∧ next = s.set r (insertAll s.key (s.get r) xs) := by
  refine (section_parses s hself (spelled_parses hitem) hput r).mono ?_
  rintro used next ⟨xs, hused, hsize, hread, hnext⟩
  rw [List.map_id] at hnext
  exact ⟨xs, hused, ⟨hread, hsize⟩, hnext⟩

lemma clusters_parse (r : Registry) : Parses (decodeSection decodeCluster Registry.putCluster Limits.maxClusters r)
    fun used next => ∃ xs : List SpelledCluster, used = spellAll SpelledCluster.bytes xs ∧ xs.length < 2 ^ 32 ∧
      (∀ cluster ∈ xs, ReadCluster cluster) ∧
        next = { r with clusters := insertAll ClusterRecord.id r.clusters (xs.map SpelledCluster.value) } := by
  refine section_parses clusterSection (fun _ => rfl) ?_ (fun r cluster next hput => ?_) r
  · refine (cluster_parses.yields cluster_yields).mono fun used record ⟨hspelled, hreads, hyields⟩ => ?_
    obtain ⟨cluster, rfl, rfl⟩ := hspelled
    exact ⟨cluster, rfl, rfl, hreads, hyields.1, hyields.2⟩
  · -- the endpoints are in order already
    obtain ⟨-, -, rfl⟩ := putCluster_eq_ok.mp hput
    have hsorted : sorted cluster.value = cluster.value := by
      rw [sorted, SpelledCluster.value, sortEndpoints_idem]
    rw [hsorted]
    rfl

lemma audit_parses (r : Registry) : Parses (decodeSection decodeAudit Registry.appendAudit Limits.maxAuditRecords r)
    fun used next => ∃ trail, used = spellAll encodeAudit trail ∧ ReadSection decodeAudit encodeAudit trail ∧
      next = { r with audit := r.audit ++ trail } := by
  have hfold (trail : List AuditRecord) (r : Registry) :
      trail.foldl (fun r record => { r with audit := r.audit ++ [record] }) r = { r with audit := r.audit ++ trail } := by
    induction trail generalizing r with
    | nil => simp
    | cons record rest ih => simp [ih]
  refine (count_parses Limits.maxAuditRecords).bind fun _ n hn => ?_
  obtain ⟨rfl, hsize, -⟩ := hn
  refine (Parses.readFold (fun r record => { r with audit := r.audit ++ [record] })
    (spelled_parses audit_spells) (fun r record next hput => ?_) n r).mono ?_
  · obtain ⟨-, -, rfl⟩ := appendAudit_eq_ok.mp hput
    rfl
  · rintro used next ⟨trail, rfl, rfl, hread, rfl⟩
    exact ⟨trail, by rw [spellAll, putCount_of_lt hsize], ⟨hread, hsize⟩, by rw [List.map_id, hfold]⟩

/-- The decoder reads a listing into the registry of its records. -/
lemma sections_parse : Parses decodeSections fun used r => ∃ listing : Listing,
    used = listing.bytes ∧ r = listing.registry ∧ listing.Read := by
  refine u16_parses.bind fun _ version hversion => .check fun hsupported => .field boolean_spells fun includesAudit => ?_
  obtain rfl := not_not.mp hsupported
  refine (clusters_parse {}).bind fun _ _ hclusters => ?_
  obtain ⟨clusters, rfl, hsize, hclusters, rfl⟩ := hclusters
  refine (plain_parses linkSection (fun _ => rfl) link_spells (fun _ _ _ hput => (putLink_eq_ok.mp hput).2.2) _).bind
    fun _ _ ⟨links, hspelled, hlinks, hnext⟩ => ?_
  subst hspelled hnext
  refine (plain_parses pathSection (fun _ => rfl) path_spells (fun _ _ _ hput => (putPath_eq_ok.mp hput).2.2) _).bind
    fun _ _ ⟨paths, hspelled, hpaths, hnext⟩ => ?_
  subst hspelled hnext
  refine (plain_parses policySection (fun _ => rfl) policy_spells
    (fun _ _ _ hput => (putPolicy_eq_ok.mp hput).2.2) _).bind fun _ _ ⟨policies, hspelled, hpolicies, hnext⟩ => ?_
  subst hspelled hnext
  refine (plain_parses contractSection (fun _ => rfl) contract_spells
    (fun _ _ _ hput => (putContract_eq_ok.mp hput).2.2) _).bind fun _ _ ⟨contracts, hspelled, hcontracts, hnext⟩ => ?_
  subst hspelled hnext
  refine (plain_parses grantSection (fun _ => rfl) grant_spells
    (fun _ _ _ hput => (putGrant_eq_ok.mp hput).2.2) _).bind fun _ _ ⟨grants, hspelled, hgrants, hnext⟩ => ?_
  subst hspelled hnext
  refine (plain_parses reservationSection (fun _ => rfl) reservation_spells
    (fun _ _ _ hput => (putReservation_eq_ok.mp hput).2.2) _).bind
    fun _ _ ⟨reservations, hspelled, hreservations, hnext⟩ => ?_
  subst hspelled hnext
  cases includesAudit with
  | false =>
    refine .pure ⟨⟨clusters, links, paths, policies, contracts, grants, reservations, none⟩, ?_, rfl,
      ⟨hclusters, hsize, hlinks, hpaths, hpolicies, hcontracts, hgrants, hreservations, by simp⟩⟩
    rw [hversion]
    rfl
  | true =>
    refine (audit_parses _).mono fun _ _ ⟨trail, hspelled, htrail, hnext⟩ => ?_
    subst hspelled hnext
    refine ⟨⟨clusters, links, paths, policies, contracts, grants, reservations, some trail⟩, ?_, rfl,
      ⟨hclusters, hsize, hlinks, hpaths, hpolicies, hcontracts, hgrants, hreservations, fun _ h => ?_⟩⟩
    · rw [hversion]
      simp [Listing.bytes, Listing.includesAudit]
    · cases h
      exact htrail

/-! Writing a registry back. -/

lemma ReadSection.split {κ β : Type} [Ord κ] [Std.TransOrd κ] [Std.LawfulEqOrd κ] [DecidableEq κ] {item : ByteReader β}
    {encode : β → Bytes} {xs : List β} (hread : ReadSection item encode xs) (key : β → κ) {r t : Bytes}
    (h : encodeAll encode (insertAll key ∅ xs) ++ r = spellAll encode xs ++ t) : Ascending key xs ∧ r = t := by
  have hsection : encodeAll encode (insertAll key ∅ (xs.map id)) ++ r = spellAll encode xs ++ t := by rwa [List.map_id]
  obtain ⟨hascending, -, hrest⟩ := split_section key (fun x hx => ⟨hread.read x hx, hread.read x hx⟩) hread.size hsection
  rw [List.map_id'] at hascending
  exact ⟨hascending, hrest⟩

lemma encodeAll_ascending {κ β : Type} [Ord κ] [Std.TransOrd κ] [Std.LawfulEqOrd κ] [DecidableEq κ] (encode : β → Bytes)
    {key : β → κ} {xs : List β} (h : Ascending key xs) : encodeAll encode (insertAll key ∅ xs) = spellAll encode xs := by
  rw [encodeAll_eq, values_insertAll key h]

lemma ReadCluster.readable {cluster : SpelledCluster} (h : ReadCluster cluster) :
    Readable decodeCluster encodeCluster SpelledCluster.bytes SpelledCluster.value cluster := by
  refine ⟨h.read, (cluster_reads h.ordered ?_).given h.storable⟩
  exact h.storable.2.2.2.2.1.trans_lt (by decide)

/-- What was read is written back as it stood exactly if it stood there as the encoder writes it. -/
lemma Listing.encode_registry_iff {listing : Listing} (hread : listing.Read) :
    encodeRegistry listing.registry listing.includesAudit = listing.bytes ↔ listing.Canonical := by
  constructor
  · intro h
    simp only [encodeRegistry, bytes, registry, List.flatten_cons, List.append_cancel_left_eq] at h
    obtain ⟨hclusters, hcodes, h⟩ := split_section ClusterRecord.id
      (fun cluster hmem => (hread.clusters cluster hmem).readable) hread.size h
    obtain ⟨hlinks, h⟩ := hread.links.split LinkRecord.id h
    obtain ⟨hpaths, h⟩ := hread.paths.split PathRecord.id h
    obtain ⟨hpolicies, h⟩ := hread.policies.split PolicyRule.id h
    obtain ⟨hcontracts, h⟩ := hread.contracts.split ContractRecord.id h
    obtain ⟨hgrants, h⟩ := hread.grants.split GrantRecord.id h
    obtain ⟨hreservations, -⟩ := hread.reservations.split ReservationRecord.id h
    refine ⟨hclusters, hlinks, hpaths, hpolicies, hcontracts, hgrants, hreservations, fun cluster hmem => ?_⟩
    obtain ⟨-, hstorable, hordered⟩ := hread.clusters cluster hmem
    exact (SpelledCluster.encode_value_iff hstorable hordered).mp (hcodes cluster hmem)
  · rintro ⟨hclusters, hlinks, hpaths, hpolicies, hcontracts, hgrants, hreservations, hspelled⟩
    have hcodes : ∀ cluster ∈ listing.clusters, encodeCluster cluster.value = cluster.bytes := fun cluster hmem =>
      (SpelledCluster.encode_value_iff (hread.clusters cluster hmem).storable (hread.clusters cluster hmem).ordered).mpr
        (hspelled cluster hmem)
    have haudit : (if listing.includesAudit = true then putCount listing.registry.audit.length ++
        listing.registry.audit.flatMap encodeAudit else []) = (listing.audit.map (spellAll encodeAudit)).getD [] := by
      unfold includesAudit registry
      cases listing.audit <;> rfl
    rw [encodeRegistry, haudit, registry, bytes, encodeAll_insertAll ClusterRecord.id hclusters hcodes,
      encodeAll_ascending encodeLink hlinks, encodeAll_ascending encodePath hpaths,
      encodeAll_ascending encodePolicy hpolicies, encodeAll_ascending encodeContract hcontracts,
      encodeAll_ascending encodeGrant hgrants, encodeAll_ascending encodeReservation hreservations]

/-- The decoder leaves nothing behind. -/
lemma sections_of_registry {b rest : Bytes} {registry : Registry} (h : decodeRegistry.run b = .ok (registry, rest)) :
    decodeSections.run b = .ok (registry, []) ∧ rest = [] := by
  have hrun : decodeRegistry.run b = decodeSections.run b >>= fun x =>
      (do expectEnd; return x.1 : ByteReader Registry).run x.2 := rfl
  rw [hrun] at h
  obtain ⟨⟨r, mid⟩, hsections, hend⟩ := bind_eq_ok.mp h
  cases mid with
  | nil =>
    cases hend
    exact ⟨hsections, rfl⟩
  | cons byte mid => cases hend

/-- Whatever the decoder accepts is a listing with nothing behind it, of the registry it returns; and the encoder gives
it back, under its own audit flag, exactly if it lists the records in key order, none twice, and the clusters with their
endpoints in order and no generation where none is meant. So of all that is accepted as a registry, one has this form. -/
theorem accepted_listings :
    (∀ b registry rest, decodeRegistry.run b = .ok (registry, rest) → rest = [] ∧ ∃ listing : Listing,
      b = listing.bytes ∧ registry = listing.registry ∧ listing.Read ∧
        (encodeRegistry registry listing.includesAudit = b ↔ listing.Canonical)) ∧
    ∀ listing listing' : Listing, listing.Read → listing'.Read → listing.Canonical → listing'.Canonical →
      listing.registry = listing'.registry → listing.includesAudit = listing'.includesAudit →
        listing.bytes = listing'.bytes := by
  constructor
  · intro b registry rest hrun
    obtain ⟨hsections, rfl⟩ := sections_of_registry hrun
    obtain ⟨used, rfl, ⟨listing, rfl, rfl, hread⟩, -⟩ := sections_parse b registry [] hsections
    rw [List.append_nil]
    exact ⟨rfl, listing, rfl, rfl, hread, Listing.encode_registry_iff hread⟩
  · intro listing listing' hread hread' hcanonical hcanonical' hregistry haudit
    rw [← (Listing.encode_registry_iff hread).mpr hcanonical, ← (Listing.encode_registry_iff hread').mpr hcanonical',
      hregistry, haudit]

/-! A reservation listed once, and listed twice. -/

def sampleReservation : ReservationRecord where
  id := ⟨1⟩
  endpoint := ⟨ascii "relay-ep", .inr (by decide)⟩
  cluster := ⟨ascii "relay", .inr (by decide)⟩

def listingOf (reservations : List ReservationRecord) : Listing := ⟨[], [], [], [], [], [], reservations, none⟩

def once : Listing := listingOf [sampleReservation]

def twice : Listing := listingOf [sampleReservation, sampleReservation]

lemma once_flag {listing : Listing} (h : once.bytes = listing.bytes) : listing.includesAudit = false := by
  have hflag := congrArg (fun bytes => bytes[2]?) h
  have hbytes : once.bytes[2]? = some 0 := by decide
  simp only [hbytes] at hflag
  cases hincludes : listing.includesAudit with
  | false => rfl
  | true =>
    rw [Listing.bytes, hincludes] at hflag
    simp [putU16, putBoolean, putU8, beBytes] at hflag

/-- What is listed once is written back. -/
theorem accepted_once : ∃ registry, ∃ listing : Listing, decodeRegistry.run once.bytes = .ok (registry, []) ∧
    once.bytes = listing.bytes ∧ registry = listing.registry ∧ listing.Canonical := by
  have hfact : (decodeRegistry.run once.bytes).toOption.map (fun x => encodeRegistry x.1 false) = some once.bytes := by
    decide +kernel
  cases hrun : decodeRegistry.run once.bytes with
  | error status =>
    rw [hrun] at hfact
    cases hfact
  | ok x =>
    obtain ⟨registry, rest⟩ := x
    rw [hrun] at hfact
    have hencode : encodeRegistry registry false = once.bytes := Option.some.inj hfact
    obtain ⟨rfl, listing, hbytes, hregistry, -, hcanonical⟩ := accepted_listings.1 once.bytes registry rest hrun
    rw [once_flag hbytes] at hcanonical
    exact ⟨registry, listing, rfl, hbytes, hregistry, hcanonical.mp hencode⟩

/-- The second of two records of one key replaces the first, and neither encoding of what is left has both. -/
theorem repeated_record_lost : ∃ registry, decodeRegistry.run twice.bytes = .ok (registry, []) ∧
    ∀ includeAudit, encodeRegistry registry includeAudit ≠ twice.bytes := by
  have hfact : (decodeRegistry.run twice.bytes).toOption.map (fun x =>
      decide (x.2 = [] ∧ ∀ includeAudit, encodeRegistry x.1 includeAudit ≠ twice.bytes)) = some true := by decide +kernel
  cases hrun : decodeRegistry.run twice.bytes with
  | error status =>
    rw [hrun] at hfact
    cases hfact
  | ok x =>
    obtain ⟨registry, rest⟩ := x
    rw [hrun] at hfact
    obtain ⟨rfl, hencode⟩ := of_decide_eq_true (Option.some.inj hfact)
    exact ⟨registry, rfl, hencode⟩

end InterClusterFabric.ModelListing
