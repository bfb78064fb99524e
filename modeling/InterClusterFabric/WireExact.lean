import InterClusterFabric.WireCodec

/-! Every message travels exactly: its decoder gives it back from its encoding and takes neither less nor more. Two
things are not kept as they were: the endpoints of a cluster record come back in the order of their identities, and of
a query result only the content of its kind travels. -/
namespace InterClusterFabric.WireExact
open CoreStatus CoreIds CoreTime CoreHash CoreBytes LibraryChecked LibraryReader LibraryStable
open ModelRecords ModelCanonical ModelCanonicalReads ModelCanonicalStable EngineDecision WireRecords WireCodec
open WireMessages (PeerRole QueryKind AdminAction ReportClusterMessage ContractConsentMessage GrantAbortedMessage
  FenceResult FenceAckMessage WithdrawMessage HelloAckMessage ReportAckMessage ProposeContractMessage
  WithdrawAckMessage AccountingEntry AdminMessage)

/-! What the wire bounds are. -/

/-- A cluster record as its decoder returns it. -/
def sorted (record : ClusterRecord) : ClusterRecord :=
  { record with endpoints := sortEndpoints record.endpoints }

structure ClusterInBounds (record : ClusterRecord) : Prop where
  storable : ClusterStorable record
  distinct : hasAdjacentDuplicate (sortEndpoints record.endpoints) = false

structure HelloInBounds (message : HelloMessage) : Prop where
  generation : message.generation.value ≤ Limits.maxGeneration
  policyGeneration : message.policyGeneration.value ≤ Limits.maxGeneration
  agentTerm : message.agentTerm.value ≤ Limits.maxGeneration
  protocolMin : message.protocolMin < 65536
  protocolMax : message.protocolMax < 65536
  range : message.protocolMin ≤ message.protocolMax

structure HelloAckInBounds (message : HelloAckMessage) : Prop where
  coordinatorTerm : message.coordinatorTerm.value ≤ Limits.maxGeneration
  negotiatedVersion : message.negotiatedVersion < 65536
  revalidate : message.revalidate.length ≤ Limits.maxGrants
  detail : TextOk message.detail

structure ContractConsentInBounds (message : ContractConsentMessage) : Prop where
  endpoint : message.endpoint.value ≠ []
  generation : message.generation.value ≤ Limits.maxGeneration
  policyGeneration : message.policyGeneration.value ≤ Limits.maxGeneration
  agentTerm : message.agentTerm.value ≤ Limits.maxGeneration
  reason : TextOk message.reason

structure StatusReportInBounds (message : StatusReportMessage) : Prop where
  cluster : message.cluster.value ≠ []
  generation : message.generation.value ≤ Limits.maxGeneration
  policyGeneration : message.policyGeneration.value ≤ Limits.maxGeneration
  agentTerm : message.agentTerm.value ≤ Limits.maxGeneration
  grants : message.grants.length ≤ Limits.maxGrants
  grantTerms : ∀ entry ∈ message.grants, entry.agentTerm.value ≤ Limits.maxGeneration

structure QueryInBounds (message : QueryMessage) : Prop where
  policyId : TextOk message.policyId
  capacity : message.capacity.value ≤ Limits.maxCapacity
  limit : message.limit ≤ maxQueryResults
  sourceGeneration : message.sourceGeneration.value ≤ Limits.maxGeneration
  targetGeneration : message.targetGeneration.value ≤ Limits.maxGeneration

/-- A list of at most so many records, each within its own bounds. -/
def ListInBounds {α : Type} (ok : α → Prop) (bound : ℕ) (records : List α) : Prop :=
  records.length ≤ bound ∧ ∀ record ∈ records, ok record

def ContentInBounds (message : QueryResultMessage) : Prop :=
  match message.kind with
  | .unspecified => True
  | .status => ∀ status ∈ message.status, StatusInBounds status
  | .listClusters | .showCluster => ListInBounds ClusterInBounds Limits.maxClusters message.clusters
  | .listLinks => ListInBounds LinkStorable Limits.maxEdges message.links
  | .listPaths => ListInBounds PathStorable Limits.maxPaths message.paths
  | .listPolicies => ListInBounds PolicyStorable Limits.maxPolicyRules message.policies
  | .listContracts | .showContract => ListInBounds ContractStorable Limits.maxContracts message.contracts
  | .listGrants | .showGrant => ListInBounds GrantStorable Limits.maxGrants message.grants
  | .listReservations => ListInBounds ReservationStorable Limits.maxReservations message.reservations
  | .listAudit => ListInBounds AuditStorable Limits.maxAuditRecords message.audit
  | .decide => ∀ decision ∈ message.decision, DecisionInBounds decision
  | .fencePlan => ∀ plan ∈ message.fencePlan, FencePlanInBounds plan
  | .accounting => ListInBounds AccountingInBounds Limits.maxReservations message.accounting

structure AdminInBounds (message : AdminMessage) : Prop where
  cluster : ∀ record ∈ message.cluster, ClusterInBounds record
  link : ∀ record ∈ message.link, LinkStorable record
  path : ∀ record ∈ message.path, PathStorable record
  policy : ∀ record ∈ message.policy, PolicyStorable record
  policyId : TextOk message.policyId
  generation : message.generation.value ≤ Limits.maxGeneration
  capacity : message.capacity.value ≤ Limits.maxCapacity
  lease : leaseInRange message.leaseDuration.nanos
  reason : TextOk message.reason

/-- The fields of a message are within the bounds of the wire. -/
def InBounds : Message → Prop
  | .hello message => HelloInBounds message
  | .helloAck message => HelloAckInBounds message
  | .refuse message => TextOk message.detail
  | .ping message => message.sequence.value ≤ Limits.maxGeneration
  | .pong message => message.sequence.value ≤ Limits.maxGeneration
  | .reportCluster message => ClusterInBounds message.cluster
  | .reportAck message => message.revision.value ≤ Limits.maxGeneration ∧ TextOk message.detail
  | .proposeContract message => TermsInBounds message.terms
  | .contractConsent message => ContractConsentInBounds message
  | .prepareGrant message => GrantStorable message.grant
  | .grantPrepared message => message.agentTerm.value ≤ Limits.maxGeneration ∧ TextOk message.detail
  | .commitGrant _ => True
  | .grantCommitted message => message.agentTerm.value ≤ Limits.maxGeneration ∧ TextOk message.detail
  | .abortGrant message => TextOk message.reason
  | .grantAborted message => TextOk message.reason
  | .fence message =>
    message.coordinatorTerm.value ≤ Limits.maxGeneration ∧ message.grants.length ≤ Limits.maxGrants ∧
      TextOk message.reason
  | .fenceAck message => message.results.length ≤ Limits.maxGrants
  | .withdraw message =>
    message.cluster.value ≠ [] ∧ message.generation.value ≤ Limits.maxGeneration ∧ TextOk message.reason
  | .withdrawAck message => message.fencedGrants < 2 ^ 64 ∧ TextOk message.detail
  | .statusRequest _ => True
  | .statusReport message => StatusReportInBounds message
  | .query message => QueryInBounds message
  | .queryResult message => TextOk message.detail ∧ ContentInBounds message
  | .admin message => AdminInBounds message
  | .adminResult message => TextOk message.detail ∧ message.revision.value ≤ Limits.maxGeneration
  | .error message => TextOk message.detail

/-! What arrives. -/

/-- A query result without its content. -/
def bare (message : QueryResultMessage) : QueryResultMessage :=
  { request := message.request, kind := message.kind, outcome := message.outcome, detail := message.detail }

/-- A query result with the content of its kind only. -/
def resultAsRead (message : QueryResultMessage) : QueryResultMessage :=
  match message.kind with
  | .unspecified => bare message
  | .status => { bare message with status := message.status }
  | .listClusters | .showCluster => { bare message with clusters := message.clusters.map sorted }
  | .listLinks => { bare message with links := message.links }
  | .listPaths => { bare message with paths := message.paths }
  | .listPolicies => { bare message with policies := message.policies }
  | .listContracts | .showContract => { bare message with contracts := message.contracts }
  | .listGrants | .showGrant => { bare message with grants := message.grants }
  | .listReservations => { bare message with reservations := message.reservations }
  | .listAudit => { bare message with audit := message.audit }
  | .decide => { bare message with decision := message.decision }
  | .fencePlan => { bare message with fencePlan := message.fencePlan }
  | .accounting => { bare message with accounting := message.accounting }

def asRead : Message → Message
  | .reportCluster message => .reportCluster { message with cluster := sorted message.cluster }
  | .queryResult message => .queryResult (resultAsRead message)
  | .admin message => .admin { message with cluster := message.cluster.map sorted }
  | message => message

/-! The codecs, one lemma each. -/

section Codecs

lemma text_reads_message {text : Bytes} (h : TextOk text) : Reads decodeText (putText text) True text := by
  have hput : putText text = putBlob text := if_neg (not_lt.mpr h.1)
  rw [hput]
  exact (text_reads h.sized).given h

lemma optional_reads {α : Type} {decode : ByteReader α} {encode : α → Bytes} {g : α → α} {record : Option α}
    (h : ∀ x ∈ record, Reads decode (encode x) True (g x)) :
    Reads (decodeOptional decode) (encodeOptional encode record) True (record.map g) := by
  cases record with
  | none => exact Reads.cast ((boolean_reads false).seq (Reads.pure none)) rfl Iff.rfl
  | some x => exact Reads.cast ((boolean_reads true).seq ((h x rfl).map some)) rfl Iff.rfl

/-! The records of the registry, within their bounds. -/

lemma cluster_reads_message {record : ClusterRecord} (h : ClusterInBounds record) :
    Reads decodeCluster (encodeCluster record) True (sorted record) :=
  (cluster_reads_sorted (h.storable.2.2.2.2.1.trans_lt (by decide))).given ⟨h.storable, h.distinct⟩

lemma path_reads_message {record : PathRecord} (h : PathStorable record) :
    Reads decodePath (encodePath record) True record :=
  (path_reads (h.2.2.2.1.trans_lt (by decide))).given h

lemma policy_reads_message {record : PolicyRule} (h : PolicyStorable record) :
    Reads decodePolicy (encodePolicy record) True record :=
  (policy_reads h.1.sized).given h

lemma consent_sized {consent : Option ConsentRecord} (h : OptionalConsentStorable consent) :
    ∀ record ∈ consent, Sized record.reason := by
  intro record hrecord
  exact (h record hrecord).2.2.2.2.2.sized

lemma contract_reads_message {record : ContractRecord} (h : ContractStorable record) :
    Reads decodeContract (encodeContract record) True record :=
  (contract_reads ⟨consent_sized h.2.2.2.2.2.1, consent_sized h.2.2.2.2.2.2.1⟩).given h

lemma grant_reads_message {record : GrantRecord} (h : GrantStorable record) :
    Reads decodeGrant (encodeGrant record) True record :=
  (grant_reads h.2.2.2.2.2.2.2.1.sized).given h

lemma audit_reads_message {record : AuditRecord} (h : AuditStorable record) :
    Reads decodeAudit (encodeAudit record) True record :=
  (audit_reads ⟨h.1.sized, h.2.1.sized, h.2.2.1.sized, h.2.2.2.sized⟩).given h

/-! The messages. -/

lemma hello_reads {message : HelloMessage} (h : HelloInBounds message) :
    Reads readHello (encodeHello message) True message := by
  refine Reads.cast (
    (enum8_reads (PeerRole.ofNat_ctorIdx _) (by cases message.role <;> decide)
      (by cases message.role <;> decide)).seq <|
    (optionalName_reads _ le_rfl).seq <| (optionalName_reads _ le_rfl).seq <| (uuid_reads _).seq <|
    ((counter_reads _ _).given h.generation).seq <| ((counter_reads _ _).given h.policyGeneration).seq <|
    ((counter_reads _ _).given h.agentTerm).seq <| (u16_reads h.protocolMin).seq <| (u16_reads h.protocolMax).seq <|
    ((Reads.check _ _).given (not_lt.mpr h.range)).seq <| (u32_reads _).seq <| (digest_reads _).seq <|
    (i64_reads _).seq <| Reads.pure _) ?_ Iff.rfl
  rfl

lemma grantId_reads (id : GrantId) : Reads readGrantId (putUuid id.uuid) True id := (uuid_reads id.uuid).map StrongUuid.mk

lemma helloAck_reads {message : HelloAckMessage} (h : HelloAckInBounds message) :
    Reads readHelloAck (encodeHelloAck message) True message := by
  refine Reads.cast (
    (uuid_reads _).seq <| (uuid_reads _).seq <| ((counter_reads _ _).given h.coordinatorTerm).seq <|
    (outcome_reads _ _).seq <| (u16_reads h.negotiatedVersion).seq <| (digest_reads _).seq <|
    (list_reads (fun id _ => grantId_reads id) h.revalidate (by decide)).seq <|
    (text_reads_message h.detail).seq <| Reads.pure _) ?_ Iff.rfl
  rfl

lemma refuse_reads {message : RefuseMessage} (h : TextOk message.detail) :
    Reads readRefuse (encodeRefuse message) True message :=
  Reads.cast ((outcome_reads _ _).seq <| (text_reads_message h).seq <| Reads.pure _) rfl Iff.rfl

lemma ping_reads {message : PingMessage} (h : message.sequence.value ≤ Limits.maxGeneration) :
    Reads readPing (encodePing message) True message :=
  Reads.cast (((counter_reads _ _).given h).seq <| (i64_reads _).seq <| Reads.pure _) rfl Iff.rfl

lemma pong_reads {message : PongMessage} (h : message.sequence.value ≤ Limits.maxGeneration) :
    Reads readPong (encodePong message) True message :=
  Reads.cast (((counter_reads _ _).given h).seq <| Reads.pure _) (by simp [encodePong]) Iff.rfl

lemma reportCluster_reads {message : ReportClusterMessage} (h : ClusterInBounds message.cluster) :
    Reads readReportCluster (encodeReportCluster message) True { message with cluster := sorted message.cluster } :=
  Reads.cast ((uuid_reads _).seq <| (cluster_reads_message h).seq <| Reads.pure _) rfl Iff.rfl

lemma reportAck_reads {message : ReportAckMessage} (hrevision : message.revision.value ≤ Limits.maxGeneration)
    (hdetail : TextOk message.detail) : Reads readReportAck (encodeReportAck message) True message :=
  Reads.cast (
    (uuid_reads _).seq <| (outcome_reads _ _).seq <| ((counter_reads _ _).given hrevision).seq <|
    (digest_reads _).seq <| (text_reads_message hdetail).seq <| Reads.pure _) rfl Iff.rfl

lemma proposeContract_reads {message : ProposeContractMessage} (h : TermsInBounds message.terms) :
    Reads readProposeContract (encodeProposeContract message) True message :=
  Reads.cast (
    (uuid_reads _).seq <| (uuid_reads _).seq <| (terms_reads h).seq <| (uuid_reads _).seq <| Reads.pure _) rfl Iff.rfl

lemma contractConsent_reads {message : ContractConsentMessage} (h : ContractConsentInBounds message) :
    Reads readContractConsent (encodeContractConsent message) True message := by
  refine Reads.cast (
    (uuid_reads _).seq <| (uuid_reads _).seq <| (digest_reads _).seq <|
    (enum8_reads (ConsentDecision.ofNat_ctorIdx _) (by cases message.decision <;> decide)
      (by cases message.decision <;> decide)).seq <|
    ((name_reads _ le_rfl).given h.endpoint).seq <| (uuid_reads _).seq <|
    ((counter_reads _ _).given h.generation).seq <| ((counter_reads _ _).given h.policyGeneration).seq <|
    ((counter_reads _ _).given h.agentTerm).seq <| (text_reads_message h.reason).seq <| Reads.pure _) ?_ Iff.rfl
  rfl

lemma prepareGrant_reads {message : PrepareGrantMessage} (h : GrantStorable message.grant) :
    Reads readPrepareGrant (encodePrepareGrant message) True message :=
  Reads.cast ((uuid_reads _).seq <| (grant_reads_message h).seq <| Reads.pure _) rfl Iff.rfl

lemma grantPrepared_reads {message : GrantPreparedMessage} (hterm : message.agentTerm.value ≤ Limits.maxGeneration)
    (hdetail : TextOk message.detail) : Reads readGrantPrepared (encodeGrantPrepared message) True message :=
  Reads.cast (
    (uuid_reads _).seq <| (uuid_reads _).seq <| (uuid_reads _).seq <| (boolean_reads _).seq <|
    ((counter_reads _ _).given hterm).seq <| (digest_reads _).seq <| (text_reads_message hdetail).seq <|
    Reads.pure _) rfl Iff.rfl

lemma commitGrant_reads (message : CommitGrantMessage) :
    Reads readCommitGrant (encodeCommitGrant message) True message :=
  Reads.cast ((uuid_reads _).seq <| (uuid_reads _).seq <| (uuid_reads _).seq <| Reads.pure _) rfl Iff.rfl

lemma grantCommitted_reads {message : GrantCommittedMessage} (hterm : message.agentTerm.value ≤ Limits.maxGeneration)
    (hdetail : TextOk message.detail) : Reads readGrantCommitted (encodeGrantCommitted message) True message :=
  Reads.cast (
    (uuid_reads _).seq <| (uuid_reads _).seq <| (uuid_reads _).seq <| (boolean_reads _).seq <|
    ((counter_reads _ _).given hterm).seq <| (digest_reads _).seq <| (text_reads_message hdetail).seq <|
    Reads.pure _) rfl Iff.rfl

lemma abortGrant_reads {message : AbortGrantMessage} (h : TextOk message.reason) :
    Reads readAbortGrant (encodeAbortGrant message) True message :=
  Reads.cast (
    (uuid_reads _).seq <| (uuid_reads _).seq <| (uuid_reads _).seq <| (text_reads_message h).seq <|
    Reads.pure _) rfl Iff.rfl

lemma grantAborted_reads {message : GrantAbortedMessage} (h : TextOk message.reason) :
    Reads readGrantAborted (encodeGrantAborted message) True message :=
  Reads.cast (
    (uuid_reads _).seq <| (uuid_reads _).seq <| (uuid_reads _).seq <| (text_reads_message h).seq <|
    Reads.pure _) rfl Iff.rfl

lemma fence_reads {message : FenceMessage} (hterm : message.coordinatorTerm.value ≤ Limits.maxGeneration)
    (hgrants : message.grants.length ≤ Limits.maxGrants) (hreason : TextOk message.reason) :
    Reads readFence (encodeFence message) True message :=
  Reads.cast (
    (uuid_reads _).seq <| ((counter_reads _ _).given hterm).seq <|
    (list_reads (fun id _ => grantId_reads id) hgrants (by decide)).seq <| (text_reads_message hreason).seq <|
    Reads.pure _) rfl Iff.rfl

lemma fenceResult_reads (result : FenceResult) :
    Reads readFenceResult (encodeFenceResult result) True result :=
  Reads.cast ((uuid_reads _).seq <| (outcome_reads _ _).seq <| Reads.pure _) rfl Iff.rfl

lemma fenceAck_reads {message : FenceAckMessage} (h : message.results.length ≤ Limits.maxGrants) :
    Reads readFenceAck (encodeFenceAck message) True message :=
  Reads.cast (
    (uuid_reads _).seq <| (list_reads (fun result _ => fenceResult_reads result) h (by decide)).seq <|
    Reads.pure _) rfl Iff.rfl

lemma withdraw_reads {message : WithdrawMessage} (hcluster : message.cluster.value ≠ [])
    (hgeneration : message.generation.value ≤ Limits.maxGeneration) (hreason : TextOk message.reason) :
    Reads readWithdraw (encodeWithdraw message) True message :=
  Reads.cast (
    (uuid_reads _).seq <| ((name_reads _ le_rfl).given hcluster).seq <| (uuid_reads _).seq <|
    ((counter_reads _ _).given hgeneration).seq <| (text_reads_message hreason).seq <| Reads.pure _) rfl Iff.rfl

lemma withdrawAck_reads {message : WithdrawAckMessage} (hfenced : message.fencedGrants < 2 ^ 64)
    (hdetail : TextOk message.detail) : Reads readWithdrawAck (encodeWithdrawAck message) True message :=
  Reads.cast (
    (uuid_reads _).seq <| (outcome_reads _ _).seq <| (size_reads hfenced).seq <| (text_reads_message hdetail).seq <|
    Reads.pure _) rfl Iff.rfl

lemma statusRequest_reads (message : StatusRequestMessage) :
    Reads readStatusRequest (encodeStatusRequest message) True message :=
  Reads.cast ((uuid_reads _).seq <| (uuid_reads _).seq <| Reads.pure _) rfl Iff.rfl

lemma grantStatus_reads {entry : GrantStatusEntry} (h : entry.agentTerm.value ≤ Limits.maxGeneration) :
    Reads readGrantStatus (encodeGrantStatus entry) True entry :=
  Reads.cast (
    (uuid_reads _).seq <| (uuid_reads _).seq <|
    (enum8_reads (GrantState.ofNat_ctorIdx _) (by cases entry.state <;> decide)
      (by cases entry.state <;> decide)).seq <|
    ((counter_reads _ _).given h).seq <| (digest_reads _).seq <| Reads.pure _) rfl Iff.rfl

lemma statusReport_reads {message : StatusReportMessage} (h : StatusReportInBounds message) :
    Reads readStatusReport (encodeStatusReport message) True message := by
  refine Reads.cast (
    (uuid_reads _).seq <| (uuid_reads _).seq <| ((name_reads _ le_rfl).given h.cluster).seq <| (uuid_reads _).seq <|
    ((counter_reads _ _).given h.generation).seq <| ((counter_reads _ _).given h.policyGeneration).seq <|
    ((counter_reads _ _).given h.agentTerm).seq <|
    (list_reads (fun entry hentry => grantStatus_reads (h.grantTerms entry hentry)) h.grants (by decide)).seq <|
    Reads.pure _) ?_ Iff.rfl
  rfl

lemma limit_reads {limit : ℕ} (h : limit ≤ maxQueryResults) :
    Reads readLimit (putU32 (UInt32.ofNat limit)) True limit := by
  have hvalue : (UInt32.ofNat limit).toNat = limit := UInt32.toNat_ofNat_of_lt' (h.trans_lt (by decide))
  have hread : Reads readLimit (putU32 (UInt32.ofNat limit) ++ ([] ++ []))
      (True ∧ ¬maxQueryResults < (UInt32.ofNat limit).toNat ∧ True) (UInt32.ofNat limit).toNat :=
    (u32_reads _).bind ((Reads.check _ _).bind (Reads.pure _))
  rw [hvalue] at hread
  exact hread.cast (by simp) (by simpa using h)

lemma query_reads {message : QueryMessage} (h : QueryInBounds message) :
    Reads readQuery (encodeQuery message) True message := by
  refine Reads.cast (
    (uuid_reads _).seq <|
    (enum8_reads (QueryKind.ofNat_ctorIdx _) (by cases message.kind <;> decide)
      (by cases message.kind <;> decide)).seq <|
    (optionalName_reads _ le_rfl).seq <| (optionalName_reads _ le_rfl).seq <| (optionalName_reads _ le_rfl).seq <|
    (optionalName_reads _ le_rfl).seq <| (uuid_reads _).seq <| (uuid_reads _).seq <|
    (optionalName_reads _ le_rfl).seq <| (text_reads_message h.policyId).seq <|
    ((counter_reads _ _).given h.capacity).seq <| (boolean_reads _).seq <| (limit_reads h.limit).seq <|
    (boolean_reads _).seq <| ((counter_reads _ _).given h.sourceGeneration).seq <| (boolean_reads _).seq <|
    ((counter_reads _ _).given h.targetGeneration).seq <| (i64_reads _).seq <| Reads.pure _) ?_ Iff.rfl
  rfl

lemma admin_reads {message : AdminMessage} (h : AdminInBounds message) :
    Reads readAdmin (encodeAdmin message) True { message with cluster := message.cluster.map sorted } := by
  have hread : Reads readAdmin (encodeAdmin message) True
      { message with
        cluster := message.cluster.map sorted
        link := message.link.map id
        path := message.path.map id
        policy := message.policy.map id } := by
    refine Reads.cast (
      (uuid_reads _).seq <|
      (enum8_reads (AdminAction.ofNat_ctorIdx _) (by cases message.action <;> decide)
        (by cases message.action <;> decide)).seq <|
      (optional_reads fun record hrecord => cluster_reads_message (h.cluster record hrecord)).seq <|
      (optional_reads fun record hrecord => (link_reads record).given (h.link record hrecord)).seq <|
      (optional_reads fun record hrecord => path_reads_message (h.path record hrecord)).seq <|
      (optional_reads fun record hrecord => policy_reads_message (h.policy record hrecord)).seq <|
      (optionalName_reads _ le_rfl).seq <| (optionalName_reads _ le_rfl).seq <| (optionalName_reads _ le_rfl).seq <|
      (optionalName_reads _ le_rfl).seq <| (uuid_reads _).seq <| (uuid_reads _).seq <|
      (optionalName_reads _ le_rfl).seq <| (text_reads_message h.policyId).seq <|
      ((counter_reads _ _).given h.generation).seq <|
      (enum8_reads (ClusterState.ofNat_ctorIdx _) (by cases message.clusterState <;> decide)
        (by cases message.clusterState <;> decide)).seq <|
      (enum8_reads (LinkState.ofNat_ctorIdx _) (by cases message.linkState <;> decide)
        (by cases message.linkState <;> decide)).seq <|
      ((counter_reads _ _).given h.capacity).seq <| ((leaseDuration_reads _ _).given h.lease).seq <|
      (text_reads_message h.reason).seq <| Reads.pure _) ?_ Iff.rfl
    rfl
  simpa using hread

lemma adminResult_reads {message : AdminResultMessage} (hdetail : TextOk message.detail)
    (hrevision : message.revision.value ≤ Limits.maxGeneration) :
    Reads readAdminResult (encodeAdminResult message) True message :=
  Reads.cast (
    (uuid_reads _).seq <| (outcome_reads _ _).seq <| (text_reads_message hdetail).seq <| (digest_reads _).seq <|
    ((counter_reads _ _).given hrevision).seq <| (uuid_reads _).seq <| (uuid_reads _).seq <| Reads.pure _) rfl Iff.rfl

lemma error_reads {message : ErrorMessage} (h : TextOk message.detail) :
    Reads readError (encodeError message) True message :=
  Reads.cast ((uuid_reads _).seq <| (outcome_reads _ _).seq <| (text_reads_message h).seq <| Reads.pure _) rfl Iff.rfl

lemma content_reads {message : QueryResultMessage} (h : ContentInBounds message) :
    Reads (readContent (bare message)) (encodeContent message) True (resultAsRead message) := by
  have hlist {α : Type} {decode : ByteReader α} {encode : α → Bytes} {ok : α → Prop} {bound : ℕ} {records : List α}
      (hrecords : ListInBounds ok bound records) (hword : bound < 2 ^ 32)
      (hitem : ∀ x, ok x → Reads decode (encode x) True x) :
      Reads (decodeList decode bound) (encodeList encode records) True records :=
    list_reads (fun x hx => hitem x (hrecords.2 x hx)) hrecords.1 hword
  have hoptional {α : Type} {decode : ByteReader α} {encode : α → Bytes} {record : Option α}
      (hrecord : ∀ x ∈ record, Reads decode (encode x) True x) :
      Reads (decodeOptional decode) (encodeOptional encode record) True record := by
    have hread := optional_reads (g := id) hrecord
    rwa [Option.map_id, id_eq] at hread
  obtain ⟨request, kind, outcome, detail, clusters, links, paths, policies, contracts, grants, reservations, audit,
    accounting, decision, fencePlan, status⟩ := message
  cases kind with
  | unspecified => exact Reads.pure _
  | status => exact (hoptional fun x hx => status_reads (h x hx)).map _
  | listClusters | showCluster =>
    exact (list_reads_map (fun x hx => cluster_reads_message (h.2 x hx)) h.1 (by decide)).map _
  | listLinks => exact (hlist h (by decide) fun x hx => (link_reads x).given hx).map _
  | listPaths => exact (hlist h (by decide) fun x hx => path_reads_message hx).map _
  | listPolicies => exact (hlist h (by decide) fun x hx => policy_reads_message hx).map _
  | listContracts | showContract => exact (hlist h (by decide) fun x hx => contract_reads_message hx).map _
  | listGrants | showGrant => exact (hlist h (by decide) fun x hx => grant_reads_message hx).map _
  | listReservations => exact (hlist h (by decide) fun x hx => (reservation_reads x).given hx).map _
  | listAudit => exact (hlist h (by decide) fun x hx => audit_reads_message hx).map _
  | decide => exact (hoptional fun x hx => decision_reads (h x hx)).map _
  | fencePlan => exact (hoptional fun x hx => fencePlan_reads (h x hx)).map _
  | accounting => exact (hlist h (by decide) fun x hx => accounting_reads hx).map _

lemma queryResult_reads {message : QueryResultMessage} (hdetail : TextOk message.detail)
    (hcontent : ContentInBounds message) :
    Reads readQueryResult (encodeQueryResult message) True (resultAsRead message) := by
  refine Reads.cast (
    (uuid_reads _).seq <|
    (enum8_reads (QueryKind.ofNat_ctorIdx _) (by cases message.kind <;> decide)
      (by cases message.kind <;> decide)).seq <|
    (outcome_reads _ _).seq <| (text_reads_message hdetail).seq <| content_reads hcontent) ?_ Iff.rfl
  simp [encodeQueryResult]

end Codecs

/-! No message is taken before its last byte. -/

section Ends

instance {α : Type} (decode : ByteReader α) [Stable decode] : Stable (decodeOptional decode) := by
  unfold decodeOptional
  infer_instance

instance (message : QueryResultMessage) : Stable (readContent message) := by
  unfold readContent
  split <;> infer_instance

instance : Stable readOutcome := by
  unfold readOutcome
  infer_instance

instance : Stable readGrantId := by
  unfold readGrantId
  infer_instance

instance : Stable readFenceResult := by
  unfold readFenceResult
  infer_instance

instance : Stable readGrantStatus := by
  unfold readGrantStatus
  infer_instance

instance : Stable readLimit := by
  unfold readLimit
  infer_instance

instance : Stable readHello := by
  unfold readHello
  infer_instance

instance : Stable readHelloAck := by
  unfold readHelloAck
  infer_instance

instance : Stable readRefuse := by
  unfold readRefuse
  infer_instance

instance : Stable readPing := by
  unfold readPing
  infer_instance

instance : Stable readPong := by
  unfold readPong
  infer_instance

instance : Stable readReportCluster := by
  unfold readReportCluster
  infer_instance

instance : Stable readReportAck := by
  unfold readReportAck
  infer_instance

instance : Stable readProposeContract := by
  unfold readProposeContract
  infer_instance

instance : Stable readContractConsent := by
  unfold readContractConsent
  infer_instance

instance : Stable readPrepareGrant := by
  unfold readPrepareGrant
  infer_instance

instance : Stable readGrantPrepared := by
  unfold readGrantPrepared
  infer_instance

instance : Stable readCommitGrant := by
  unfold readCommitGrant
  infer_instance

instance : Stable readGrantCommitted := by
  unfold readGrantCommitted
  infer_instance

instance : Stable readAbortGrant := by
  unfold readAbortGrant
  infer_instance

instance : Stable readGrantAborted := by
  unfold readGrantAborted
  infer_instance

instance : Stable readFence := by
  unfold readFence
  infer_instance

instance : Stable readFenceAck := by
  unfold readFenceAck
  infer_instance

instance : Stable readWithdraw := by
  unfold readWithdraw
  infer_instance

instance : Stable readWithdrawAck := by
  unfold readWithdrawAck
  infer_instance

instance : Stable readStatusRequest := by
  unfold readStatusRequest
  infer_instance

instance : Stable readStatusReport := by
  unfold readStatusReport
  infer_instance

instance : Stable readQuery := by
  unfold readQuery
  infer_instance

instance : Stable readQueryResult := by
  unfold readQueryResult
  infer_instance

instance : Stable readAdmin := by
  unfold readAdmin
  infer_instance

instance : Stable readAdminResult := by
  unfold readAdminResult
  infer_instance

instance : Stable readError := by
  unfold readError
  infer_instance

lemma toEnd_exact {α : Type} {read : ByteReader α} [Stable read] {bytes : Bytes} {a : α} (h : Reads read bytes True a) :
    Exact (toEnd read) bytes a :=
  exact_of_reads h trivial

end Ends

/-! Messages as a whole. -/

/-- A message that is within the bounds is read back from its encoding, and from nothing shorter or longer. -/
lemma message_exact {message : Message} (h : InBounds message) :
    Exact (decoderOf message) (encodeMessage message) (asRead message) := by
  cases message with
  | hello message => exact (toEnd_exact (hello_reads h)).map Message.hello
  | helloAck message => exact (toEnd_exact (helloAck_reads h)).map Message.helloAck
  | refuse message => exact (toEnd_exact (refuse_reads h)).map Message.refuse
  | ping message => exact (toEnd_exact (ping_reads h)).map Message.ping
  | pong message => exact (toEnd_exact (pong_reads h)).map Message.pong
  | reportCluster message => exact (toEnd_exact (reportCluster_reads h)).map Message.reportCluster
  | reportAck message => exact (toEnd_exact (reportAck_reads h.1 h.2)).map Message.reportAck
  | proposeContract message => exact (toEnd_exact (proposeContract_reads h)).map Message.proposeContract
  | contractConsent message => exact (toEnd_exact (contractConsent_reads h)).map Message.contractConsent
  | prepareGrant message => exact (toEnd_exact (prepareGrant_reads h)).map Message.prepareGrant
  | grantPrepared message => exact (toEnd_exact (grantPrepared_reads h.1 h.2)).map Message.grantPrepared
  | commitGrant message => exact (toEnd_exact (commitGrant_reads message)).map Message.commitGrant
  | grantCommitted message => exact (toEnd_exact (grantCommitted_reads h.1 h.2)).map Message.grantCommitted
  | abortGrant message => exact (toEnd_exact (abortGrant_reads h)).map Message.abortGrant
  | grantAborted message => exact (toEnd_exact (grantAborted_reads h)).map Message.grantAborted
  | fence message => exact (toEnd_exact (fence_reads h.1 h.2.1 h.2.2)).map Message.fence
  | fenceAck message => exact (toEnd_exact (fenceAck_reads h)).map Message.fenceAck
  | withdraw message => exact (toEnd_exact (withdraw_reads h.1 h.2.1 h.2.2)).map Message.withdraw
  | withdrawAck message => exact (toEnd_exact (withdrawAck_reads h.1 h.2)).map Message.withdrawAck
  | statusRequest message => exact (toEnd_exact (statusRequest_reads message)).map Message.statusRequest
  | statusReport message => exact (toEnd_exact (statusReport_reads h)).map Message.statusReport
  | query message => exact (toEnd_exact (query_reads h)).map Message.query
  | queryResult message => exact (toEnd_exact (queryResult_reads h.1 h.2)).map Message.queryResult
  | admin message => exact (toEnd_exact (admin_reads h)).map Message.admin
  | adminResult message => exact (toEnd_exact (adminResult_reads h.1 h.2)).map Message.adminResult
  | error message => exact (toEnd_exact (error_reads h)).map Message.error

/-- All content but that of its kind is empty. -/
structure OwnContent (message : QueryResultMessage) : Prop where
  clusters : message.kind ≠ .listClusters → message.kind ≠ .showCluster → message.clusters = []
  links : message.kind ≠ .listLinks → message.links = []
  paths : message.kind ≠ .listPaths → message.paths = []
  policies : message.kind ≠ .listPolicies → message.policies = []
  contracts : message.kind ≠ .listContracts → message.kind ≠ .showContract → message.contracts = []
  grants : message.kind ≠ .listGrants → message.kind ≠ .showGrant → message.grants = []
  reservations : message.kind ≠ .listReservations → message.reservations = []
  audit : message.kind ≠ .listAudit → message.audit = []
  accounting : message.kind ≠ .accounting → message.accounting = []
  decision : message.kind ≠ .decide → message.decision = none
  fencePlan : message.kind ≠ .fencePlan → message.fencePlan = none
  status : message.kind ≠ .status → message.status = none

/-- A message in the form in which it arrives: cluster records list their endpoints in the order of their identities,
and a query result carries only the content of its kind. -/
def Canonical : Message → Prop
  | .reportCluster message => EndpointsOrdered message.cluster.endpoints
  | .queryResult message =>
    (∀ record ∈ message.clusters, EndpointsOrdered record.endpoints) ∧ OwnContent message
  | .admin message => ∀ record ∈ message.cluster, EndpointsOrdered record.endpoints
  | _ => True

lemma sorted_eq {record : ClusterRecord} (h : EndpointsOrdered record.endpoints) : sorted record = record := by
  rw [sorted, sortEndpoints_of_ordered h]

lemma map_sorted_eq {records : List ClusterRecord} (h : ∀ record ∈ records, EndpointsOrdered record.endpoints) :
    records.map sorted = records := by
  induction records with
  | nil => rfl
  | cons record records ih =>
    rw [List.map_cons, sorted_eq (h record (by simp)), ih fun other hother => h other (by simp [hother])]

lemma resultAsRead_eq {message : QueryResultMessage}
    (hclusters : ∀ record ∈ message.clusters, EndpointsOrdered record.endpoints) (h : OwnContent message) :
    resultAsRead message = message := by
  have hsorted := map_sorted_eq hclusters
  obtain ⟨h1, h2, h3, h4, h5, h6, h7, h8, h9, h10, h11, h12⟩ := h
  obtain ⟨request, kind, outcome, detail, clusters, links, paths, policies, contracts, grants, reservations, audit,
    accounting, decision, fencePlan, status⟩ := message
  cases kind <;> simp_all [resultAsRead, bare]

lemma asRead_eq {message : Message} (h : Canonical message) : asRead message = message := by
  cases message with
  | reportCluster message => rw [asRead, sorted_eq h]
  | queryResult message => rw [asRead, resultAsRead_eq h.1 h.2]
  | admin message =>
    have hcluster : message.cluster.map sorted = message.cluster := by
      cases hrecord : message.cluster with
      | none => rfl
      | some record => rw [Option.map_some, sorted_eq (h record hrecord)]
    rw [asRead, hcluster]
  | _ => rfl

theorem message_round_trip (message : Message) (h : InBounds message) :
    (Canonical message → (decoderOf message).run (encodeMessage message) = .ok (message, [])) ∧
      (∀ part, part <+: encodeMessage message → part ≠ encodeMessage message →
        ∃ e, (decoderOf message).run part = .error e) ∧
      ∀ whole, encodeMessage message <+: whole → whole ≠ encodeMessage message →
        ∃ e, (decoderOf message).run whole = .error e := by
  have hexact := message_exact h
  refine ⟨fun hcanonical => ?_, hexact.truncated, hexact.extended⟩
  have hreturns := hexact.returns
  rwa [asRead_eq hcanonical] at hreturns

def sampleName (tag : NameTag) (text : String) (h : nameAccepted tag (ascii text) = true) : Name tag :=
  .ofAccepted (ascii text) h

/-- The withdrawal of one cluster arrives as it was sent, and a byte more or less does not. -/
theorem withdraw_round_trip :
    let message : Message := .withdraw { session := ⟨1⟩, cluster := sampleName .cluster "alpha" (by decide),
                                         incarnation := ⟨2⟩, generation := ⟨3⟩, reason := ascii "drill" }
    InBounds message ∧ Canonical message ∧
      (decoderOf message).run (encodeMessage message) = .ok (message, []) ∧
      ∃ e, (decoderOf message).run (encodeMessage message).dropLast = .error e := by
  intro message
  have hbounds : InBounds message := ⟨by decide, by decide, by decide, by decide⟩
  have hexact := message_round_trip message hbounds
  refine ⟨hbounds, trivial, hexact.1 trivial, hexact.2.1 _ (List.dropLast_prefix _) ?_⟩
  intro heq
  have hlength := congrArg List.length heq
  revert hlength
  decide +kernel

/-! Two messages that do not come back as they were. -/

/-- A status result that also carries an accounting entry. -/
def strayResult : QueryResultMessage := { accounting := [{}] }

lemma alpha_accepted : nameAccepted .cluster (ascii "alpha") = true := by decide

lemma svc_accepted : nameAccepted .scope (ascii "/svc") = true := by decide

lemma domainA_accepted : nameAccepted .authorityDomain (ascii "domain-a") = true := by decide

def unsortedEndpoint (id : EndpointId) : EndpointRecord :=
  { id, cluster := sampleName .cluster "alpha" alpha_accepted, scope := sampleName .scope "/svc" svc_accepted }

/-- A report whose endpoints are out of order. -/
def unsortedReport : ReportClusterMessage where
  session := ⟨1⟩
  cluster :=
    { id := sampleName .cluster "alpha" alpha_accepted, domain := sampleName .authorityDomain "domain-a" domainA_accepted,
      endpoints := [unsortedEndpoint (sampleName .endpoint "b" (by decide)),
        unsortedEndpoint (sampleName .endpoint "a" (by decide))] }

lemma unsortedReport_inBounds : InBounds (.reportCluster unsortedReport) := by
  have hprovenance : ProvenanceStorable {} := by
    unfold ProvenanceStorable
    decide
  refine ⟨⟨by decide, by decide, by decide, by decide, by decide, ?_, by decide, by decide, hprovenance, by decide⟩,
    by decide +kernel⟩
  intro endpoint hendpoint
  simp only [unsortedReport, List.mem_cons, List.not_mem_nil, or_false] at hendpoint
  rcases hendpoint with rfl | rfl
  · exact ⟨by decide, by decide, by decide, by decide, by decide, by decide, hprovenance⟩
  · exact ⟨by decide, by decide, by decide, by decide, by decide, by decide, hprovenance⟩

/-- The stray entry is within its bounds and still does not arrive; the endpoints arrive in another order. -/
theorem message_not_returned :
    (InBounds (.queryResult strayResult) ∧ ListInBounds AccountingInBounds Limits.maxReservations strayResult.accounting ∧
      (decoderOf (.queryResult strayResult)).run (encodeMessage (.queryResult strayResult)) ≠
        .ok (.queryResult strayResult, [])) ∧
      InBounds (.reportCluster unsortedReport) ∧
      (decoderOf (.reportCluster unsortedReport)).run (encodeMessage (.reportCluster unsortedReport)) ≠
        .ok (.reportCluster unsortedReport, []) := by
  have hstray : InBounds (.queryResult strayResult) := by
    refine ⟨⟨by decide, by decide⟩, ?_⟩
    intro status hstatus
    cases hstatus
  refine ⟨⟨hstray, ⟨by decide, ?_⟩, ?_⟩, unsortedReport_inBounds, ?_⟩
  · intro entry hentry
    simp only [strayResult, List.mem_singleton] at hentry
    subst hentry
    exact ⟨by decide, by decide⟩
  · rw [(message_exact hstray).returns]
    intro heq
    injection heq with heq
    injection heq with heq
    injection heq with heq
    have hcontent := congrArg QueryResultMessage.accounting heq
    cases hcontent
  · rw [(message_exact unsortedReport_inBounds).returns]
    intro heq
    injection heq with heq
    injection heq with heq
    injection heq with heq
    have horder := congrArg (fun report => report.cluster.endpoints.map (·.id)) heq
    revert horder
    decide +kernel

end InterClusterFabric.WireExact
