import InterClusterFabric.WireExact
import InterClusterFabric.WireRecordsParses

/-! What a message decoder took: the encoding of the message it returns, which is within the bounds of the wire and in
the form in which messages arrive. So a message comes back from its encoding exactly if it is within those bounds and
in that form; an encoder never checks either. -/
namespace InterClusterFabric.WireParses
open CoreStatus CoreIds CoreBytes LibraryChecked LibraryReader LibraryStable LibraryParse
open ModelRecords ModelCanonical ModelCanonicalReads ModelCanonicalAccepts ModelCanonicalParses
open EngineDecision WireRecords WireRecordsParses WireCodec WireExact
open WireMessages (PeerRole QueryKind AdminAction ReportClusterMessage ContractConsentMessage GrantAbortedMessage
  FenceResult FenceAckMessage WithdrawMessage HelloAckMessage ReportAckMessage ProposeContractMessage
  WithdrawAckMessage AccountingEntry AdminMessage)

/-! What stands on the wire for a message that was read. -/

/-- The content of a query result. Clusters are written as they stood. -/
def SpelledContent (used : Bytes) (message : QueryResultMessage) : Prop :=
  match message.kind with
  | .listClusters | .showCluster => ∃ clusters : List SpelledCluster,
    message.clusters = clusters.map SpelledCluster.value ∧ used = encodeList SpelledCluster.bytes clusters
  | _ => used = encodeContent message

/-- Every field is written as its encoder writes it, but for clusters. -/
def Spelled (used : Bytes) : Message → Prop
  | .reportCluster message => ∃ cluster : SpelledCluster,
    message.cluster = cluster.value ∧ used = putUuid message.session.uuid ++ cluster.bytes
  | .queryResult message => ∃ content, SpelledContent content message ∧ used = List.flatten [
      putUuid message.request,
      putU8 message.kind.ctorIdx,
      putU16 message.outcome.ctorIdx,
      putText message.detail,
      content]
  | .admin message => ∃ cluster : Option SpelledCluster,
    message.cluster = cluster.map SpelledCluster.value ∧ used = List.flatten [
      putUuid message.request,
      putU8 message.action.ctorIdx,
      encodeOptional SpelledCluster.bytes cluster,
      encodeOptional encodeLink message.link,
      encodeOptional encodePath message.path,
      encodeOptional encodePolicy message.policy,
      putBlob message.clusterId.value,
      putBlob message.clusterB.value,
      putBlob message.endpoint.value,
      putBlob message.endpointB.value,
      putUuid message.contract.uuid,
      putUuid message.grant.uuid,
      putBlob message.edge.value,
      putText message.policyId,
      putU64 message.generation.value,
      putU8 message.clusterState.ctorIdx,
      putU8 message.linkState.ctorIdx,
      putU64 message.capacity.value,
      putI64 message.leaseDuration.nanos,
      putText message.reason]
  | message => used = encodeMessage message

/-! Fields and records. -/

/-- A text that was read is written again. -/
lemma putText_known : Known decodeText putText TextOk :=
  text_known.mono fun used text hused => by
    refine ⟨?_, hused.2⟩
    rw [putText, if_neg (not_lt.mpr hused.2.1)]
    exact hused.1

lemma readOutcome_spells : Spells readOutcome fun outcome => putU16 outcome.ctorIdx := outcome_spells _

lemma grantId_spells : Spells readGrantId fun id => putUuid id.uuid := uuid_spells.map fun _ _ hused => hused

lemma fenceResult_spells : Spells readFenceResult encodeFenceResult :=
  .field uuid_spells fun _ => .field readOutcome_spells fun _ => .pure rfl

lemma grantStatus_known :
    Known readGrantStatus encodeGrantStatus fun entry => entry.agentTerm.value ≤ Limits.maxGeneration :=
  .field uuid_spells fun _ => .field uuid_spells fun _ =>
  .field (enum8_spells GrantState.ctorIdx (by decide)) fun _ => .next (counter_known _) fun _ hterm =>
  .field digest_spells fun _ => .pure ⟨rfl, hterm⟩

lemma limit_known :
    Known readLimit (fun limit => putU32 (UInt32.ofNat limit)) fun limit => limit ≤ maxQueryResults :=
  .field u32_spells fun _ => .check fun hlimit => .pure
    ⟨by simp only [UInt32.ofNat_toNat, List.append_nil], not_lt.mp hlimit⟩

lemma optional_known {α : Type} {decode : ByteReader α} {encode : α → Bytes} {P : α → Prop}
    (h : Known decode encode P) :
    Known (decodeOptional decode) (encodeOptional encode) fun record => ∀ x ∈ record, P x := by
  refine .field boolean_spells fun present => ?_
  cases present with
  | false => exact .pure ⟨rfl, by simp⟩
  | true =>
    refine h.map fun used x hused => ⟨?_, ?_⟩
    · rw [hused.1, encodeOptional]
    · rintro y hy
      cases hy
      exact hused.2

/-- A cluster as it was read: within its bounds, and with its endpoints in order. -/
lemma spelledCluster_parses : Parses decodeCluster fun used record =>
    ∃ cluster : SpelledCluster, used = cluster.bytes ∧ record = cluster.value ∧
      ClusterInBounds cluster.value ∧ EndpointsOrdered cluster.value.endpoints :=
  (cluster_parses.yields cluster_yields).mono fun used record hused => by
    obtain ⟨⟨cluster, rfl, rfl⟩, -, hstorable, hordered⟩ := hused
    refine ⟨cluster, rfl, rfl, ⟨hstorable, ?_⟩, hordered⟩
    rw [sortEndpoints_of_ordered hordered]
    exact hasAdjacentDuplicate_of_ordered hordered

lemma clusters_parses (bound : ℕ) : Parses (decodeList decodeCluster bound) fun used records =>
    ∃ clusters : List SpelledCluster, used = encodeList SpelledCluster.bytes clusters ∧
      records = clusters.map SpelledCluster.value ∧ ListInBounds ClusterInBounds bound records ∧
      ∀ record ∈ records, EndpointsOrdered record.endpoints := by
  have hgood : Parses decodeCluster fun used record => ∃ cluster : SpelledCluster, used = cluster.bytes ∧
      record = cluster.value ∧ (ClusterInBounds cluster.value ∧ EndpointsOrdered cluster.value.endpoints) :=
    spelledCluster_parses
  refine (count_parses bound).bind fun _ n hn =>
    (Parses.readFold (fun acc x => acc ++ [x]) hgood (fun acc x next hput => ?_) n []).mono fun more out hmore => ?_
  · cases hput
    rfl
  · obtain ⟨rfl, hsize, hbound⟩ := hn
    obtain ⟨clusters, rfl, rfl, hclusters, rfl⟩ := hmore
    rw [foldl_append, List.nil_append]
    refine ⟨clusters, by rw [encodeList, putCount_of_lt hsize], rfl, ⟨by rwa [List.length_map], ?_⟩, ?_⟩
    · exact List.forall_mem_map.mpr fun cluster hmem => (hclusters cluster hmem).1
    · exact List.forall_mem_map.mpr fun cluster hmem => (hclusters cluster hmem).2

lemma optionalCluster_parses : Parses (decodeOptional decodeCluster) fun used record =>
    ∃ cluster : Option SpelledCluster, used = encodeOptional SpelledCluster.bytes cluster ∧
      record = cluster.map SpelledCluster.value ∧ (∀ x ∈ record, ClusterInBounds x) ∧
      ∀ x ∈ record, EndpointsOrdered x.endpoints := by
  refine .field boolean_spells fun present => ?_
  cases present with
  | false => exact .pure ⟨none, rfl, rfl, by simp, by simp⟩
  | true =>
    refine spelledCluster_parses.map fun used record hused => ?_
    obtain ⟨cluster, rfl, rfl, hbounds, hordered⟩ := hused
    refine ⟨some cluster, rfl, rfl, ?_, ?_⟩
    · rintro x hx
      cases hx
      exact hbounds
    · rintro x hx
      cases hx
      exact hordered

/-! Messages. -/

lemma hello_known : Known readHello encodeHello HelloInBounds :=
  .field (enum8_spells PeerRole.ctorIdx (by decide)) fun _ => .field (optionalName_spells _ _) fun _ =>
  .field (optionalName_spells _ _) fun _ => .field uuid_spells fun _ => .next (counter_known _) fun _ hgeneration =>
  .next (counter_known _) fun _ hpolicy => .next (counter_known _) fun _ hterm => .next u16_known fun _ hmin =>
  .next u16_known fun _ hmax => .check fun hrange => .field u32_spells fun _ => .field digest_spells fun _ =>
  .field i64_spells fun _ => .pure ⟨rfl, ⟨hgeneration, hpolicy, hterm, hmin, hmax, not_lt.mp hrange⟩⟩

lemma helloAck_known : Known readHelloAck encodeHelloAck HelloAckInBounds :=
  .field uuid_spells fun _ => .field uuid_spells fun _ => .next (counter_known _) fun _ hterm =>
  .field readOutcome_spells fun _ => .next u16_known fun _ hversion => .field digest_spells fun _ =>
  .next (list_known_of_spells grantId_spells _) fun _ hgrants => .next putText_known fun _ hdetail =>
  .pure ⟨rfl, ⟨hterm, hversion, hgrants, hdetail⟩⟩

lemma refuse_known : Known readRefuse encodeRefuse fun message => TextOk message.detail :=
  .field readOutcome_spells fun _ => .next putText_known fun _ hdetail => .pure ⟨rfl, hdetail⟩

lemma ping_known : Known readPing encodePing fun message => message.sequence.value ≤ Limits.maxGeneration :=
  .next (counter_known _) fun _ hsequence => .field i64_spells fun _ => .pure ⟨rfl, hsequence⟩

lemma pong_known : Known readPong encodePong fun message => message.sequence.value ≤ Limits.maxGeneration :=
  .next (counter_known _) fun _ hsequence => .pure ⟨List.append_nil _, hsequence⟩

lemma reportAck_known : Known readReportAck encodeReportAck fun message =>
    message.revision.value ≤ Limits.maxGeneration ∧ TextOk message.detail :=
  .field uuid_spells fun _ => .field readOutcome_spells fun _ => .next (counter_known _) fun _ hrevision =>
  .field digest_spells fun _ => .next putText_known fun _ hdetail => .pure ⟨rfl, hrevision, hdetail⟩

lemma proposeContract_known :
    Known readProposeContract encodeProposeContract fun message => TermsInBounds message.terms :=
  .field uuid_spells fun _ => .field uuid_spells fun _ => .next terms_known fun _ hterms =>
  .field uuid_spells fun _ => .pure ⟨rfl, hterms⟩

lemma contractConsent_known : Known readContractConsent encodeContractConsent ContractConsentInBounds :=
  .field uuid_spells fun _ => .field uuid_spells fun _ => .field digest_spells fun _ =>
  .field (enum8_spells ConsentDecision.ctorIdx (by decide)) fun _ => .next (name_known _ _) fun _ hendpoint =>
  .field uuid_spells fun _ => .next (counter_known _) fun _ hgeneration => .next (counter_known _) fun _ hpolicy =>
  .next (counter_known _) fun _ hterm => .next putText_known fun _ hreason =>
  .pure ⟨rfl, ⟨hendpoint, hgeneration, hpolicy, hterm, hreason⟩⟩

lemma prepareGrant_known : Known readPrepareGrant encodePrepareGrant fun message => GrantStorable message.grant :=
  .field uuid_spells fun _ => .next (grant_spells.known grant_yields) fun _ hgrant => .pure ⟨rfl, hgrant⟩

lemma grantPrepared_known : Known readGrantPrepared encodeGrantPrepared fun message =>
    message.agentTerm.value ≤ Limits.maxGeneration ∧ TextOk message.detail :=
  .field uuid_spells fun _ => .field uuid_spells fun _ => .field uuid_spells fun _ => .field boolean_spells fun _ =>
  .next (counter_known _) fun _ hterm => .field digest_spells fun _ => .next putText_known fun _ hdetail =>
  .pure ⟨rfl, hterm, hdetail⟩

lemma commitGrant_spells : Spells readCommitGrant encodeCommitGrant :=
  .field uuid_spells fun _ => .field uuid_spells fun _ => .field uuid_spells fun _ => .pure rfl

lemma grantCommitted_known : Known readGrantCommitted encodeGrantCommitted fun message =>
    message.agentTerm.value ≤ Limits.maxGeneration ∧ TextOk message.detail :=
  .field uuid_spells fun _ => .field uuid_spells fun _ => .field uuid_spells fun _ => .field boolean_spells fun _ =>
  .next (counter_known _) fun _ hterm => .field digest_spells fun _ => .next putText_known fun _ hdetail =>
  .pure ⟨rfl, hterm, hdetail⟩

lemma abortGrant_known : Known readAbortGrant encodeAbortGrant fun message => TextOk message.reason :=
  .field uuid_spells fun _ => .field uuid_spells fun _ => .field uuid_spells fun _ =>
  .next putText_known fun _ hreason => .pure ⟨rfl, hreason⟩

lemma grantAborted_known : Known readGrantAborted encodeGrantAborted fun message => TextOk message.reason :=
  .field uuid_spells fun _ => .field uuid_spells fun _ => .field uuid_spells fun _ =>
  .next putText_known fun _ hreason => .pure ⟨rfl, hreason⟩

lemma fence_known : Known readFence encodeFence fun message =>
    message.coordinatorTerm.value ≤ Limits.maxGeneration ∧ message.grants.length ≤ Limits.maxGrants ∧
      TextOk message.reason :=
  .field uuid_spells fun _ => .next (counter_known _) fun _ hterm =>
  .next (list_known_of_spells grantId_spells _) fun _ hgrants => .next putText_known fun _ hreason =>
  .pure ⟨rfl, hterm, hgrants, hreason⟩

lemma fenceAck_known :
    Known readFenceAck encodeFenceAck fun message => message.results.length ≤ Limits.maxGrants :=
  .field uuid_spells fun _ => .next (list_known_of_spells fenceResult_spells _) fun _ hresults =>
  .pure ⟨rfl, hresults⟩

lemma withdraw_known : Known readWithdraw encodeWithdraw fun message =>
    message.cluster.value ≠ [] ∧ message.generation.value ≤ Limits.maxGeneration ∧ TextOk message.reason :=
  .field uuid_spells fun _ => .next (name_known _ _) fun _ hcluster => .field uuid_spells fun _ =>
  .next (counter_known _) fun _ hgeneration => .next putText_known fun _ hreason =>
  .pure ⟨rfl, hcluster, hgeneration, hreason⟩

lemma withdrawAck_known : Known readWithdrawAck encodeWithdrawAck fun message =>
    message.fencedGrants < 2 ^ 64 ∧ TextOk message.detail :=
  .field uuid_spells fun _ => .field readOutcome_spells fun _ => .next size_known fun _ hfenced =>
  .next putText_known fun _ hdetail => .pure ⟨rfl, hfenced, hdetail⟩

lemma statusRequest_spells : Spells readStatusRequest encodeStatusRequest :=
  .field uuid_spells fun _ => .field uuid_spells fun _ => .pure rfl

lemma statusReport_known : Known readStatusReport encodeStatusReport StatusReportInBounds :=
  .field uuid_spells fun _ => .field uuid_spells fun _ => .next (name_known _ _) fun _ hcluster =>
  .field uuid_spells fun _ => .next (counter_known _) fun _ hgeneration => .next (counter_known _) fun _ hpolicy =>
  .next (counter_known _) fun _ hterm => .next (list_known grantStatus_known _) fun _ hgrants =>
  .pure ⟨rfl, ⟨hcluster, hgeneration, hpolicy, hterm, hgrants.1, hgrants.2⟩⟩

lemma query_known : Known readQuery encodeQuery QueryInBounds :=
  .field uuid_spells fun _ => .field (enum8_spells QueryKind.ctorIdx (by decide)) fun _ =>
  .field (optionalName_spells _ _) fun _ => .field (optionalName_spells _ _) fun _ =>
  .field (optionalName_spells _ _) fun _ => .field (optionalName_spells _ _) fun _ =>
  .field uuid_spells fun _ => .field uuid_spells fun _ => .field (optionalName_spells _ _) fun _ =>
  .next putText_known fun _ hpolicyId => .next (counter_known _) fun _ hcapacity => .field boolean_spells fun _ =>
  .next limit_known fun _ hlimit => .field boolean_spells fun _ => .next (counter_known _) fun _ hsource =>
  .field boolean_spells fun _ => .next (counter_known _) fun _ htarget => .field i64_spells fun _ =>
  .pure ⟨rfl, ⟨hpolicyId, hcapacity, hlimit, hsource, htarget⟩⟩

lemma adminResult_known : Known readAdminResult encodeAdminResult fun message =>
    TextOk message.detail ∧ message.revision.value ≤ Limits.maxGeneration :=
  .field uuid_spells fun _ => .field readOutcome_spells fun _ => .next putText_known fun _ hdetail =>
  .field digest_spells fun _ => .next (counter_known _) fun _ hrevision => .field uuid_spells fun _ =>
  .field uuid_spells fun _ => .pure ⟨rfl, hdetail, hrevision⟩

lemma error_known : Known readError encodeError fun message => TextOk message.detail :=
  .field uuid_spells fun _ => .field readOutcome_spells fun _ => .next putText_known fun _ hdetail =>
  .pure ⟨rfl, hdetail⟩

/-! Messages with clusters. -/

lemma reportCluster_parses : Parses readReportCluster fun used message =>
    Spelled used (.reportCluster message) ∧ InBounds (.reportCluster message) ∧
      Canonical (.reportCluster message) := by
  refine .field uuid_spells fun session => spelledCluster_parses.bind fun used record hused => .pure ?_
  obtain ⟨cluster, rfl, rfl, hbounds, hordered⟩ := hused
  exact ⟨⟨cluster, rfl, by rw [List.append_nil]⟩, hbounds, hordered⟩

/-- The content of the kind that was asked for, and no other. -/
lemma content_parses {message : QueryResultMessage} (hbare : message = bare message) :
    Parses (readContent message) fun used result => bare result = message ∧ SpelledContent used result ∧
      ContentInBounds result ∧ (∀ record ∈ result.clusters, EndpointsOrdered record.endpoints) ∧
      OwnContent result := by
  obtain ⟨request, kind, outcome, detail, clusters, links, paths, policies, contracts, grants, reservations, audit,
    accounting, decision, fencePlan, status⟩ := message
  injection hbare with _ _ _ _ h1 h2 h3 h4 h5 h6 h7 h8 h9 h10 h11 h12
  subst h1 h2 h3 h4 h5 h6 h7 h8 h9 h10 h11 h12
  cases kind with
  | unspecified => exact .pure ⟨rfl, rfl, trivial, by simp, by constructor <;> simp⟩
  | status =>
    exact (optional_known status_known).map fun used status hused =>
      ⟨rfl, hused.1, hused.2, by simp, by constructor <;> simp⟩
  | listClusters =>
    exact (clusters_parses _).map fun used clusters hused => by
      obtain ⟨spelled, rfl, rfl, hbounds, hordered⟩ := hused
      exact ⟨rfl, ⟨spelled, rfl, rfl⟩, hbounds, hordered, by constructor <;> simp⟩
  | showCluster =>
    exact (clusters_parses _).map fun used clusters hused => by
      obtain ⟨spelled, rfl, rfl, hbounds, hordered⟩ := hused
      exact ⟨rfl, ⟨spelled, rfl, rfl⟩, hbounds, hordered, by constructor <;> simp⟩
  | listLinks =>
    exact (list_known (link_spells.known link_yields) _).map fun used links hused =>
      ⟨rfl, hused.1, hused.2, by simp, by constructor <;> simp⟩
  | listPaths =>
    exact (list_known (path_spells.known path_yields) _).map fun used paths hused =>
      ⟨rfl, hused.1, hused.2, by simp, by constructor <;> simp⟩
  | listPolicies =>
    exact (list_known (policy_spells.known policy_yields) _).map fun used policies hused =>
      ⟨rfl, hused.1, hused.2, by simp, by constructor <;> simp⟩
  | listContracts | showContract =>
    exact (list_known (contract_spells.known contract_yields) _).map fun used contracts hused =>
      ⟨rfl, hused.1, hused.2, by simp, by constructor <;> simp⟩
  | listGrants | showGrant =>
    exact (list_known (grant_spells.known grant_yields) _).map fun used grants hused =>
      ⟨rfl, hused.1, hused.2, by simp, by constructor <;> simp⟩
  | listReservations =>
    exact (list_known (reservation_spells.known reservation_yields) _).map fun used reservations hused =>
      ⟨rfl, hused.1, hused.2, by simp, by constructor <;> simp⟩
  | listAudit =>
    exact (list_known (audit_spells.known audit_yields) _).map fun used audit hused =>
      ⟨rfl, hused.1, hused.2, by simp, by constructor <;> simp⟩
  | decide =>
    exact (optional_known decision_known).map fun used decision hused =>
      ⟨rfl, hused.1, hused.2, by simp, by constructor <;> simp⟩
  | fencePlan =>
    exact (optional_known fencePlan_known).map fun used plan hused =>
      ⟨rfl, hused.1, hused.2, by simp, by constructor <;> simp⟩
  | accounting =>
    exact (list_known accounting_known _).map fun used entries hused =>
      ⟨rfl, hused.1, hused.2, by simp, by constructor <;> simp⟩

lemma queryResult_parses : Parses readQueryResult fun used message =>
    Spelled used (.queryResult message) ∧ InBounds (.queryResult message) ∧ Canonical (.queryResult message) := by
  refine .field uuid_spells fun request => .field (enum8_spells QueryKind.ctorIdx (by decide)) fun kind =>
    .field readOutcome_spells fun outcome => .next putText_known fun detail hdetail => (content_parses rfl).mono ?_
  rintro content message ⟨hhead, hcontent, hbounds, hclusters, hown⟩
  injection hhead with hrequest hkind houtcome hdetail'
  subst hrequest hkind houtcome hdetail'
  exact ⟨⟨content, hcontent, by simp⟩, ⟨hdetail, hbounds⟩, hclusters, hown⟩

lemma admin_parses : Parses readAdmin fun used message =>
    Spelled used (.admin message) ∧ InBounds (.admin message) ∧ Canonical (.admin message) := by
  refine .field uuid_spells fun _ => .field (enum8_spells AdminAction.ctorIdx (by decide)) fun _ =>
    optionalCluster_parses.bind fun _ _ hcluster =>
    .next (optional_known (link_spells.known link_yields)) fun _ hlink =>
    .next (optional_known (path_spells.known path_yields)) fun _ hpath =>
    .next (optional_known (policy_spells.known policy_yields)) fun _ hpolicy =>
    .field (optionalName_spells _ _) fun _ => .field (optionalName_spells _ _) fun _ =>
    .field (optionalName_spells _ _) fun _ => .field (optionalName_spells _ _) fun _ =>
    .field uuid_spells fun _ => .field uuid_spells fun _ => .field (optionalName_spells _ _) fun _ =>
    .next putText_known fun _ hpolicyId => .next (counter_known _) fun _ hgeneration =>
    .field (enum8_spells ClusterState.ctorIdx (by decide)) fun _ =>
    .field (enum8_spells LinkState.ctorIdx (by decide)) fun _ => .next (counter_known _) fun _ hcapacity =>
    .next (leaseDuration_known _) fun _ hlease => .next putText_known fun _ hreason => .pure ?_
  obtain ⟨cluster, rfl, rfl, hbounds, hordered⟩ := hcluster
  exact ⟨⟨cluster, rfl, rfl⟩,
    ⟨hbounds, hlink, hpath, hpolicy, hpolicyId, hgeneration, hcapacity, hlease, hreason⟩, hordered⟩

/-! Messages as a whole. -/

/-- From what a reader takes to what the decoder of a message accepts. -/
lemma accepted_of_parses {α : Type} {read : ByteReader α} (wrap : α → Message)
    (hread : Parses read fun used a => Spelled used (wrap a) ∧ InBounds (wrap a) ∧ Canonical (wrap a))
    {bytes rest : Bytes} {message : Message} (h : (wrap <$> toEnd read).run bytes = .ok (message, rest)) :
    Spelled bytes message ∧ InBounds message ∧ Canonical message := by
  have hsplit : ((toEnd read).run bytes >>= fun x => .ok (wrap x.1, x.2)) = .ok (message, rest) := h
  obtain ⟨⟨a, end'⟩, ha, hb⟩ := bind_eq_ok.mp hsplit
  cases hb
  obtain ⟨used, hbytes, hused, -⟩ := hread bytes a [] (thenEnd_ok ha)
  rw [List.append_nil] at hbytes
  rwa [hbytes]

lemma accepted_of_known {α : Type} {read : ByteReader α} {encode : α → Bytes} {P : α → Prop}
    (wrap : α → Message) (hread : Known read encode P) {bytes rest : Bytes} {message : Message}
    (h : (wrap <$> toEnd read).run bytes = .ok (message, rest))
    (hwrap : ∀ a, P a → Spelled (encode a) (wrap a) ∧ InBounds (wrap a) ∧ Canonical (wrap a)) :
    Spelled bytes message ∧ InBounds message ∧ Canonical message :=
  accepted_of_parses wrap (hread.mono fun used a hused => by
    rw [hused.1]
    exact hwrap a hused.2) h

lemma accepted_of_spells {α : Type} {read : ByteReader α} {encode : α → Bytes} (wrap : α → Message)
    (hread : Spells read encode) {bytes rest : Bytes} {message : Message}
    (h : (wrap <$> toEnd read).run bytes = .ok (message, rest))
    (hwrap : ∀ a, Spelled (encode a) (wrap a) ∧ InBounds (wrap a) ∧ Canonical (wrap a)) :
    Spelled bytes message ∧ InBounds message ∧ Canonical message :=
  accepted_of_parses wrap (hread.mono fun used a hused => by
    rw [hused]
    exact hwrap a) h

/-- Whatever a decoder accepts is spelled by the message it returns, and that message is within the bounds of the wire
and in the form in which messages arrive. -/
lemma decoder_accepts {type message : Message} {bytes rest : Bytes}
    (h : (decoderOf type).run bytes = .ok (message, rest)) :
    Spelled bytes message ∧ InBounds message ∧ Canonical message := by
  cases type with
  | hello _ => exact accepted_of_known .hello hello_known h fun _ hok => ⟨rfl, hok, trivial⟩
  | helloAck _ => exact accepted_of_known .helloAck helloAck_known h fun _ hok => ⟨rfl, hok, trivial⟩
  | refuse _ => exact accepted_of_known .refuse refuse_known h fun _ hok => ⟨rfl, hok, trivial⟩
  | ping _ => exact accepted_of_known .ping ping_known h fun _ hok => ⟨rfl, hok, trivial⟩
  | pong _ => exact accepted_of_known .pong pong_known h fun _ hok => ⟨rfl, hok, trivial⟩
  | reportCluster _ => exact accepted_of_parses .reportCluster reportCluster_parses h
  | reportAck _ => exact accepted_of_known .reportAck reportAck_known h fun _ hok => ⟨rfl, hok, trivial⟩
  | proposeContract _ =>
    exact accepted_of_known .proposeContract proposeContract_known h fun _ hok => ⟨rfl, hok, trivial⟩
  | contractConsent _ =>
    exact accepted_of_known .contractConsent contractConsent_known h fun _ hok => ⟨rfl, hok, trivial⟩
  | prepareGrant _ => exact accepted_of_known .prepareGrant prepareGrant_known h fun _ hok => ⟨rfl, hok, trivial⟩
  | grantPrepared _ => exact accepted_of_known .grantPrepared grantPrepared_known h fun _ hok => ⟨rfl, hok, trivial⟩
  | commitGrant _ => exact accepted_of_spells .commitGrant commitGrant_spells h fun _ => ⟨rfl, trivial, trivial⟩
  | grantCommitted _ => exact accepted_of_known .grantCommitted grantCommitted_known h fun _ hok => ⟨rfl, hok, trivial⟩
  | abortGrant _ => exact accepted_of_known .abortGrant abortGrant_known h fun _ hok => ⟨rfl, hok, trivial⟩
  | grantAborted _ => exact accepted_of_known .grantAborted grantAborted_known h fun _ hok => ⟨rfl, hok, trivial⟩
  | fence _ => exact accepted_of_known .fence fence_known h fun _ hok => ⟨rfl, hok, trivial⟩
  | fenceAck _ => exact accepted_of_known .fenceAck fenceAck_known h fun _ hok => ⟨rfl, hok, trivial⟩
  | withdraw _ => exact accepted_of_known .withdraw withdraw_known h fun _ hok => ⟨rfl, hok, trivial⟩
  | withdrawAck _ => exact accepted_of_known .withdrawAck withdrawAck_known h fun _ hok => ⟨rfl, hok, trivial⟩
  | statusRequest _ => exact accepted_of_spells .statusRequest statusRequest_spells h fun _ => ⟨rfl, trivial, trivial⟩
  | statusReport _ => exact accepted_of_known .statusReport statusReport_known h fun _ hok => ⟨rfl, hok, trivial⟩
  | query _ => exact accepted_of_known .query query_known h fun _ hok => ⟨rfl, hok, trivial⟩
  | queryResult _ => exact accepted_of_parses .queryResult queryResult_parses h
  | admin _ => exact accepted_of_parses .admin admin_parses h
  | adminResult _ => exact accepted_of_known .adminResult adminResult_known h fun _ hok => ⟨rfl, hok, trivial⟩
  | error _ => exact accepted_of_known .error error_known h fun _ hok => ⟨rfl, hok, trivial⟩

/-- Within the bounds and in that form, a message is decoded from its encoding. -/
lemma decodes {message : Message} (hbounds : InBounds message) (hcanonical : Canonical message) :
    (decoderOf message).run (encodeMessage message) = .ok (message, []) := by
  have hreturns := (message_exact hbounds).returns
  rwa [asRead_eq hcanonical] at hreturns

/-- A message is decoded from its encoding exactly if its fields are within the bounds of the wire and it has the form
in which messages arrive. No encoder fails, so nothing else is ever refused. -/
theorem encode_faithful_iff (message : Message) :
    (decoderOf message).run (encodeMessage message) = .ok (message, []) ↔ InBounds message ∧ Canonical message := by
  constructor
  · intro h
    exact (decoder_accepts h).2
  · rintro ⟨hbounds, hcanonical⟩
    exact decodes hbounds hcanonical

/-- An error whose detail is one byte too long. -/
def longError : ErrorMessage := { detail := List.replicate (Limits.maxStringField + 1) 120 }

/-- Its detail is left out without a word, and what is sent is not accepted. -/
theorem long_detail_left_out :
    encodeMessage (.error longError) = putUuid longError.request ++ putU16 longError.outcome.ctorIdx ∧
      ∃ e, (decoderOf (.error longError)).run (encodeMessage (.error longError)) = .error e := by
  have htext : putText longError.detail = [] := by
    rw [putText, longError, List.length_replicate]
    exact if_pos (Nat.lt_add_one Limits.maxStringField)
  have hbytes : encodeMessage (.error longError) = putUuid longError.request ++ putU16 longError.outcome.ctorIdx := by
    rw [encodeMessage, encodeError, htext]
    rfl
  refine ⟨hbytes, ?_⟩
  rw [hbytes]
  have hfails : ((decoderOf (.error longError)).run
      (putUuid longError.request ++ putU16 longError.outcome.ctorIdx)).isOk = false := by decide +kernel
  cases hrun : (decoderOf (.error longError)).run
      (putUuid longError.request ++ putU16 longError.outcome.ctorIdx) with
  | error e => exact ⟨e, rfl⟩
  | ok x =>
    rw [hrun] at hfails
    cases hfails

end InterClusterFabric.WireParses
