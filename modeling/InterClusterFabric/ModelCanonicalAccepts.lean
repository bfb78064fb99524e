import InterClusterFabric.ModelCanonicalReads

/-! What a decoder accepts is storable: whatever bytes a record was read from, the record is within
the bounds of its own decoder, and could be written and read again. -/
namespace InterClusterFabric.ModelCanonicalAccepts
open CoreStatus CoreIds CoreBytes LibraryReader ModelRecords ModelCanonical ModelCanonicalReads

lemma text_yields : Yields decodeText TextOk := blob_yields Limits.maxStringField

lemma provenance_yields : Yields decodeProvenance ProvenanceStorable :=
  Yields.skip fun _ => Yields.skip fun _ => Yields.skip fun _ =>
  Yields.bind (counter_yields _) fun _ hrevision =>
  Yields.skip fun _ => Yields.skip fun _ => Yields.pure hrevision

lemma endpoint_yields : Yields decodeEndpoint EndpointStorable :=
  Yields.bind (name_yields _ _) fun _ hid =>
  Yields.bind (name_yields _ _) fun _ hcluster =>
  Yields.bind (name_yields _ _) fun _ hscope =>
  Yields.bind (counter_yields _) fun _ hcapacity =>
  Yields.bind (counter_yields _) fun _ hreserved =>
  Yields.bind (counter_yields _) fun _ hpolicy =>
  Yields.skip fun _ => Yields.skip fun _ => Yields.skip fun _ =>
  Yields.bind provenance_yields fun _ hprovenance =>
  Yields.pure ⟨hid, hcluster, hscope, hcapacity, hreserved, hpolicy, hprovenance⟩

lemma consent_yields : Yields decodeConsent ConsentStorable :=
  Yields.bind (name_yields _ _) fun _ hcluster =>
  Yields.bind (name_yields _ _) fun _ hendpoint =>
  Yields.skip fun _ =>
  Yields.bind (counter_yields _) fun _ hgeneration =>
  Yields.bind (counter_yields _) fun _ hpolicy =>
  Yields.bind (counter_yields _) fun _ hterm =>
  Yields.skip fun _ => Yields.skip fun _ => Yields.skip fun _ => Yields.skip fun _ => Yields.skip fun _ =>
  Yields.bind text_yields fun _ hreason =>
  Yields.pure ⟨hcluster, hendpoint, hgeneration, hpolicy, hterm, hreason⟩

/-- A loop that collects good items returns as many of them as it was asked for. -/
lemma collect_yields {α : Type} {item : ByteReader α} {P : α → Prop} (hitem : Yields item P) (n : ℕ) :
    Yields (readFold item pushBack n []) fun xs : List α => xs.length = n ∧ ∀ x ∈ xs, P x := by
  have hfold : Yields (readFold item pushBack n []) fun xs : List α => xs.length = 0 + n ∧ ∀ x ∈ xs, P x := by
    refine Yields.readFold (I := fun k (xs : List α) => xs.length = k ∧ ∀ x ∈ xs, P x) hitem ?_ ⟨rfl, by simp⟩
    rintro k acc x acc' ⟨hlength, hacc⟩ hx hput
    cases hput
    refine ⟨by simp [hlength], fun y hy => ?_⟩
    rcases List.mem_append.mp hy with hy | hy
    · exact hacc y hy
    · rw [List.mem_singleton.mp hy]
      exact hx
  simpa using hfold

lemma mem_sortEndpoints {endpoints : List EndpointRecord} {e : EndpointRecord} :
    e ∈ sortEndpoints endpoints ↔ e ∈ endpoints :=
  (List.perm_insertionSort _ _).mem_iff

lemma cluster_yields : Yields decodeCluster fun r =>
    ClusterStorable r ∧ EndpointsOrdered r.endpoints := by
  refine
    Yields.bind (name_yields _ _) fun _ hid =>
    Yields.bind (name_yields _ _) fun _ hdomain =>
    Yields.skip fun _ =>
    Yields.bind (counter_yields _) fun _ hgeneration =>
    Yields.bind (counter_yields _) fun _ hpolicy =>
    Yields.skip fun _ => Yields.skip fun _ => Yields.skip fun _ =>
    Yields.bind (count_yields _) fun n hcount =>
    Yields.bind (collect_yields endpoint_yields n) fun endpoints hendpoints =>
    Yields.bind Yields.check fun _ hdistinct =>
    Yields.skip fun _ => Yields.skip fun _ => Yields.skip fun flag =>
    Yields.bind (counter_yields _) fun _ hconflict =>
    Yields.bind (counter_yields _) fun _ hrevision =>
    Yields.bind provenance_yields fun _ hprovenance =>
    Yields.bind (counter_yields _) fun _ hchanges => Yields.pure ⟨⟨hid, hdomain, hgeneration, hpolicy, ?_, ?_, ?_,
      hrevision, hprovenance, hchanges⟩, ?_⟩
  · rw [sortEndpoints_length, hendpoints.1]
    exact hcount
  · intro e he
    exact hendpoints.2 e (mem_sortEndpoints.mp he)
  · cases flag with
    | false => exact Nat.zero_le _
    | true => exact hconflict
  · exact ordered_of_sorted (sortEndpoints_pairwise _) (by simpa using hdistinct)

lemma link_yields : Yields decodeLink LinkStorable :=
  Yields.bind (name_yields _ _) fun _ hid =>
  Yields.bind (name_yields _ _) fun _ ha =>
  Yields.bind (name_yields _ _) fun _ hb =>
  Yields.skip fun _ => Yields.skip fun _ =>
  Yields.bind (counter_yields _) fun _ hcapacity =>
  Yields.bind (counter_yields _) fun _ hreserved =>
  Yields.skip fun _ =>
  Yields.bind (counter_yields _) fun _ hrevision =>
  Yields.bind provenance_yields fun _ hprovenance =>
  Yields.pure ⟨hid, ha, hb, hcapacity, hreserved, hrevision, hprovenance⟩

lemma path_yields : Yields decodePath PathStorable :=
  Yields.bind (name_yields _ _) fun _ hid =>
  Yields.bind (name_yields _ _) fun _ ha =>
  Yields.bind (name_yields _ _) fun _ hb =>
  Yields.bind (count_yields _) fun n hcount =>
  Yields.bind (collect_yields (name_yields _ _) n) fun _ hhops =>
  Yields.bind (counter_yields _) fun _ hbottleneck =>
  Yields.skip fun _ =>
  Yields.bind (counter_yields _) fun _ hrevision =>
  Yields.bind provenance_yields fun _ hprovenance =>
  Yields.skip fun _ =>
  Yields.pure ⟨hid, ha, hb, hhops.1.trans_le hcount, hhops.2, hbottleneck, hrevision, hprovenance⟩

lemma policy_yields : Yields decodePolicy PolicyStorable :=
  Yields.bind text_yields fun _ htext =>
  Yields.bind Yields.check fun _ hid =>
  Yields.bind (name_yields _ _) fun _ howner =>
  Yields.skip fun _ => Yields.skip fun _ => Yields.skip fun _ => Yields.skip fun _ =>
  Yields.bind (counter_yields _) fun _ hgeneration =>
  Yields.skip fun _ => Yields.skip fun _ =>
  Yields.bind (counter_yields _) fun _ hcapacity =>
  Yields.bind (counter_yields _) fun _ hrevision =>
  Yields.bind provenance_yields fun _ hprovenance =>
  Yields.pure ⟨htext, (not_or.mp hid).1, not_lt.mp (not_or.mp hid).2, howner, hgeneration, hcapacity,
    hrevision, hprovenance⟩

lemma party_yields : Yields decodeParty PartyStorable :=
  Yields.bind (name_yields _ _) fun _ hcluster =>
  Yields.bind (name_yields _ _) fun _ hendpoint =>
  Yields.bind (name_yields _ _) fun _ hdomain => Yields.pure ⟨hcluster, hendpoint, hdomain⟩

lemma optionalConsent_yields : Yields decodeOptionalConsent OptionalConsentStorable := by
  refine Yields.skip fun present => ?_
  cases present with
  | false =>
    refine Yields.pure fun r hr => ?_
    cases hr
  | true =>
    refine Yields.map consent_yields fun c hc r hr => ?_
    cases hr
    exact hc

lemma contract_yields : Yields decodeContract ContractStorable := by
  refine
    Yields.skip fun _ =>
    Yields.bind party_yields fun _ hfirst =>
    Yields.bind party_yields fun _ hsecond =>
    Yields.bind Yields.check fun _ hdistinct =>
    Yields.bind (counter_yields _) fun _ hcapacity =>
    Yields.skip fun _ =>
    Yields.bind Yields.check fun _ hlease =>
    Yields.skip fun _ => Yields.skip fun _ =>
    Yields.bind optionalConsent_yields fun _ hfirstConsent =>
    Yields.bind optionalConsent_yields fun _ hsecondConsent =>
    Yields.skip fun _ => Yields.skip fun _ =>
    Yields.bind (counter_yields _) fun _ hrevision =>
    Yields.bind provenance_yields fun _ hprovenance => Yields.pure ?_
  exact ⟨hfirst, hsecond, hdistinct, hcapacity, not_not.mp hlease, hfirstConsent, hsecondConsent, hrevision,
    hprovenance⟩

lemma grant_yields : Yields decodeGrant GrantStorable :=
  Yields.skip fun _ => Yields.skip fun _ => Yields.skip fun _ =>
  Yields.bind (counter_yields _) fun _ hterm =>
  Yields.skip fun _ => Yields.skip fun _ => Yields.skip fun _ =>
  Yields.bind (counter_yields _) fun _ hgeneration0 =>
  Yields.bind (counter_yields _) fun _ hpolicy0 =>
  Yields.skip fun _ =>
  Yields.bind (counter_yields _) fun _ hgeneration1 =>
  Yields.bind (counter_yields _) fun _ hpolicy1 =>
  Yields.bind (counter_yields _) fun _ hcapacity =>
  Yields.skip fun _ => Yields.skip fun _ => Yields.skip fun _ => Yields.skip fun _ => Yields.skip fun _ =>
  Yields.skip fun _ => Yields.skip fun _ =>
  Yields.bind (counter_yields _) fun _ hattempts =>
  Yields.bind text_yields fun _ hnote =>
  Yields.bind (counter_yields _) fun _ hrevision =>
  Yields.bind provenance_yields fun _ hprovenance =>
  Yields.pure ⟨hterm, hgeneration0, hpolicy0, hgeneration1, hpolicy1, hcapacity, hattempts, hnote, hrevision,
    hprovenance⟩

lemma reservation_yields : Yields decodeReservation ReservationStorable :=
  Yields.skip fun _ => Yields.skip fun _ =>
  Yields.bind (name_yields _ _) fun _ hendpoint =>
  Yields.bind (name_yields _ _) fun _ hcluster =>
  Yields.bind (counter_yields _) fun _ hamount =>
  Yields.skip fun _ => Yields.skip fun _ => Yields.skip fun _ =>
  Yields.bind (counter_yields _) fun _ hrevision =>
  Yields.bind provenance_yields fun _ hprovenance =>
  Yields.pure ⟨hendpoint, hcluster, hamount, hrevision, hprovenance⟩

lemma audit_yields : Yields decodeAudit AuditStorable :=
  Yields.skip fun _ => Yields.skip fun _ =>
  Yields.bind text_yields fun _ hactor =>
  Yields.bind text_yields fun _ haction =>
  Yields.bind text_yields fun _ hsubject =>
  Yields.skip fun _ => Yields.skip fun _ =>
  Yields.bind text_yields fun _ hdetail => Yields.pure ⟨hactor, haction, hsubject, hdetail⟩

end InterClusterFabric.ModelCanonicalAccepts
