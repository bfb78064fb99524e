import InterClusterFabric.ModelCanonicalReads
import InterClusterFabric.ModelCanonicalStable
import InterClusterFabric.WireMessages

/-! The records that only messages carry: contract terms, decisions, fence plans, accounting entries and the status of
a coordinator. Each has its encoder, its decoder, the bounds within which it may travel, and one lemma that puts them
together. -/
namespace InterClusterFabric.WireRecords
open CoreStatus CoreIds CoreTime CoreHash CoreBytes LibraryChecked LibraryReader LibraryStable
open ModelRecords ModelCanonical ModelCanonicalReads ModelCanonicalStable EngineDecision WireMessages

/-! Fields that several records share. -/

def codeByte {α : Type} (cast : ℕ → α) (last : ℕ) (message : String) : ByteReader α := do
  let value ← u8
  rejectIf (last < value) (Status.invalid message)
  return cast value

def codeWord {α : Type} (cast : ℕ → α) (last : ℕ) (message : String) : ByteReader α := do
  let value ← u16
  rejectIf (last < value) (Status.invalid message)
  return cast value

def boundedU64 (bound : UInt64) (message : String) : ByteReader UInt64 := do
  let value ← u64
  rejectIf (bound < value) (Status.make .overflow (ascii message))
  return value

def leaseDuration (message : String) : ByteReader Int64 := do
  let lease ← i64
  rejectIf (¬leaseInRange lease) (Status.invalid message)
  return lease

/-- A number of the platform's size type, which has the width of its field. -/
def size : ByteReader ℕ := UInt64.toNat <$> u64
def putSize (value : ℕ) : Bytes := putU64 (UInt64.ofNat value)

def encodeList {α : Type} (encode : α → Bytes) (records : List α) : Bytes :=
  putCount records.length ++ records.flatMap encode

def decodeList {α : Type} (decode : ByteReader α) (bound : ℕ) : ByteReader (List α) := do
  let n ← count bound
  readFold decode pushBack n []

section Fields

variable {α : Type}

lemma codeByte_reads {cast : ℕ → α} {code last : ℕ} {message : String} {x : α} (hcast : cast code = x)
    (hlast : code ≤ last) (hbyte : code < 256) : Reads (codeByte cast last message) (putU8 code) True x := by
  subst hcast
  exact Reads.cast ((u8_reads hbyte).bind ((Reads.check _ _).bind (Reads.pure _))) (by simp) (by simpa using hlast)

lemma codeWord_reads {cast : ℕ → α} {code last : ℕ} {message : String} {x : α} (hcast : cast code = x)
    (hlast : code ≤ last) (hword : code < 65536) : Reads (codeWord cast last message) (putU16 code) True x := by
  subst hcast
  exact Reads.cast ((u16_reads hword).bind ((Reads.check _ _).bind (Reads.pure _))) (by simp) (by simpa using hlast)

lemma boundedU64_reads (bound value : UInt64) (message : String) :
    Reads (boundedU64 bound message) (putU64 value) (value ≤ bound) value :=
  Reads.cast ((u64_reads value).bind ((Reads.check _ _).bind (Reads.pure _))) (by simp) (by simp)

lemma leaseDuration_reads (lease : Int64) (message : String) :
    Reads (leaseDuration message) (putI64 lease) (leaseInRange lease) lease :=
  Reads.cast ((i64_reads lease).bind ((Reads.check _ _).bind (Reads.pure _))) (by simp) (by simp)

lemma size_reads {value : ℕ} (h : value < 2 ^ 64) : Reads size (putSize value) True value := by
  have hread := (u64_reads (UInt64.ofNat value)).map UInt64.toNat
  rwa [UInt64.toNat_ofNat_of_lt' h] at hread

/-- The loop that reads the records of a list, when each of them comes back as `g` of what was sent. -/
lemma readRecords_reads {decode : ByteReader α} {encode : α → Bytes} {g : α → α} (records acc : List α)
    (hitem : ∀ x ∈ records, Reads decode (encode x) True (g x)) :
    Reads (readFold decode pushBack records.length acc) (records.flatMap encode) True (acc ++ records.map g) := by
  induction records generalizing acc with
  | nil =>
    rw [List.map_nil, List.append_nil]
    exact Reads.pure acc
  | cons x records ih =>
    have hpush : Reads (liftM (pushBack acc (g x)) : ByteReader (List α)) [] True (acc ++ [g x]) :=
      Reads.lift (fun _ => rfl) fun hnot => absurd trivial hnot
    have htail := ih (acc ++ [g x]) fun y hy => hitem y (by simp [hy])
    have hread := (hitem x (by simp)).seq
      (f := fun y => do readFold decode pushBack records.length (← liftM (pushBack acc y))) (hpush.seq htail)
    simpa [readFold] using hread

lemma list_reads_map {decode : ByteReader α} {encode : α → Bytes} {g : α → α} {bound : ℕ} {records : List α}
    (hitem : ∀ x ∈ records, Reads decode (encode x) True (g x)) (hbound : records.length ≤ bound)
    (hword : bound < 2 ^ 32) :
    Reads (decodeList decode bound) (encodeList encode records) True (records.map g) :=
  ((count_reads bound (hbound.trans_lt hword)).given hbound).seq (readRecords_reads records [] hitem)

lemma list_reads {decode : ByteReader α} {encode : α → Bytes} {bound : ℕ} {records : List α}
    (hitem : ∀ x ∈ records, Reads decode (encode x) True x) (hbound : records.length ≤ bound) (hword : bound < 2 ^ 32) :
    Reads (decodeList decode bound) (encodeList encode records) True records := by
  have hread := list_reads_map (g := id) hitem hbound hword
  rwa [List.map_id] at hread

instance (cast : ℕ → α) (last : ℕ) (message : String) : Stable (codeByte cast last message) := by
  unfold codeByte
  infer_instance

instance (cast : ℕ → α) (last : ℕ) (message : String) : Stable (codeWord cast last message) := by
  unfold codeWord
  infer_instance

instance (bound : UInt64) (message : String) : Stable (boundedU64 bound message) := by
  unfold boundedU64
  infer_instance

instance (message : String) : Stable (leaseDuration message) := by
  unfold leaseDuration
  infer_instance

instance : Stable size := by
  unfold size
  infer_instance

instance (decode : ByteReader α) [Stable decode] (bound : ℕ) : Stable (decodeList decode bound) := by
  unfold decodeList
  infer_instance

end Fields

/-! Contract terms. -/

def decodeTerms : ByteReader ContractTerms := do
  let first ← decodeParty
  let second ← decodeParty
  let capacity ← boundedU64 Limits.maxCapacity "contract capacity exceeds the maximum supported value"
  let lease ← leaseDuration "contract lease duration is out of range"
  let incarnation0 ← uuid
  let incarnation1 ← uuid
  let generation0 ← boundedU64 Limits.maxGeneration "generation exceeds the maximum supported value"
  let generation1 ← boundedU64 Limits.maxGeneration "generation exceeds the maximum supported value"
  let policy0 ← boundedU64 Limits.maxGeneration "policy generation exceeds the maximum supported value"
  let policy1 ← boundedU64 Limits.maxGeneration "policy generation exceeds the maximum supported value"
  let proposed ← i64
  return ⟨⟨first, second⟩, ⟨capacity⟩, ⟨lease⟩, ⟨⟨incarnation0⟩, ⟨incarnation1⟩⟩, ⟨⟨generation0⟩, ⟨generation1⟩⟩,
    ⟨⟨policy0⟩, ⟨policy1⟩⟩, ⟨proposed⟩⟩

structure TermsInBounds (terms : ContractTerms) : Prop where
  first : PartyStorable terms.parties.first
  second : PartyStorable terms.parties.second
  capacity : terms.capacity.value ≤ Limits.maxCapacity
  lease : leaseInRange terms.leaseDuration.nanos
  generation0 : terms.generations.first.value ≤ Limits.maxGeneration
  generation1 : terms.generations.second.value ≤ Limits.maxGeneration
  policy0 : terms.policies.first.value ≤ Limits.maxGeneration
  policy1 : terms.policies.second.value ≤ Limits.maxGeneration

lemma terms_reads {terms : ContractTerms} (h : TermsInBounds terms) :
    Reads decodeTerms terms.encodeTerms True terms := by
  refine Reads.cast (
  ((party_reads _).given h.first).seq <| ((party_reads _).given h.second).seq <|
  ((boundedU64_reads _ _ _).given h.capacity).seq <| ((leaseDuration_reads _ _).given h.lease).seq <|
  (uuid_reads _).seq <| (uuid_reads _).seq <|
  ((boundedU64_reads _ _ _).given h.generation0).seq <| ((boundedU64_reads _ _ _).given h.generation1).seq <|
  ((boundedU64_reads _ _ _).given h.policy0).seq <| ((boundedU64_reads _ _ _).given h.policy1).seq <|
  (i64_reads _).seq <| Reads.pure _) ?_ Iff.rfl
  simp [ContractTerms.encodeTerms, ContractTerms.encodeParty, encodeParty]

instance : Stable decodeTerms := by
  unfold decodeTerms
  infer_instance

/-! Decisions. -/

def encodeDecision (decision : Decision) : Bytes := List.flatten [
  putU16 decision.outcome.ctorIdx,
  encodeList (fun code => putU16 code.ctorIdx) decision.reasons,
  putUuid decision.contract.uuid,
  putUuid decision.grant.uuid,
  putBlob decision.authorities.first.value,
  putBlob decision.authorities.second.value,
  putU64 decision.term.value,
  putUuid decision.coordinator.uuid,
  putDigest decision.termsDigest,
  putDigest decision.viewDigest,
  putU64 decision.capacity.value,
  encodeList (fun id => putBlob id.value) decision.paths,
  encodeList (fun id => putBlob id.value) decision.edges,
  putBoolean decision.degraded,
  putI64 decision.decidedAt.unixNanos,
  putBlob decision.detail]

def decodeReason (message : String) : ByteReader ReasonCode :=
  codeWord ReasonCode.ofNat ReasonCode.authoritySatisfied.ctorIdx message

def decodeDecision : ByteReader Decision := do
  let outcome ← codeWord Outcome.ofNat Outcome.internal.ctorIdx "decision outcome is out of range"
  let reasons ← decodeList (decodeReason "decision reason code is out of range") Limits.maxDecisionReasons
  let contract ← uuid
  let grant ← uuid
  let authority0 ← decodeOptionalName .authorityDomain Limits.maxNameLength
  let authority1 ← decodeOptionalName .authorityDomain Limits.maxNameLength
  let term ← decodeCounter Limits.maxGeneration
  let coordinator ← uuid
  let terms ← digest
  let view ← digest
  let capacity ← decodeCounter Limits.maxCapacity
  let paths ← decodeList (decodeName .path Limits.maxNameLength) Limits.maxDecisionPaths
  let edges ← decodeList (decodeName .edge Limits.maxNameLength) Limits.maxEdges
  let degraded ← boolean
  let decidedAt ← i64
  let detail ← decodeText
  return ⟨outcome, reasons, ⟨contract⟩, ⟨grant⟩, ⟨authority0, authority1⟩, ⟨term⟩, ⟨coordinator⟩, terms, view,
    ⟨capacity⟩, paths, edges, degraded, ⟨decidedAt⟩, detail⟩

structure DecisionInBounds (decision : Decision) : Prop where
  reasons : decision.reasons.length ≤ Limits.maxDecisionReasons
  term : decision.term.value ≤ Limits.maxGeneration
  capacity : decision.capacity.value ≤ Limits.maxCapacity
  paths : decision.paths.length ≤ Limits.maxDecisionPaths
  pathNames : ∀ id ∈ decision.paths, id.value ≠ []
  edges : decision.edges.length ≤ Limits.maxEdges
  edgeNames : ∀ id ∈ decision.edges, id.value ≠ []
  detail : TextOk decision.detail

lemma reason_ctorIdx_le (reason : ReasonCode) : reason.ctorIdx ≤ ReasonCode.authoritySatisfied.ctorIdx := by
  cases reason <;> decide

lemma outcome_reads (outcome : Outcome) (message : String) :
    Reads (codeWord Outcome.ofNat Outcome.internal.ctorIdx message) (putU16 outcome.ctorIdx) True outcome :=
  codeWord_reads (Outcome.ofNat_ctorIdx _) (outcome_ctorIdx_le _) ((outcome_ctorIdx_le _).trans_lt (by decide))

lemma reason_reads (reason : ReasonCode) (message : String) :
    Reads (decodeReason message) (putU16 reason.ctorIdx) True reason :=
  codeWord_reads (ReasonCode.ofNat_ctorIdx _) (reason_ctorIdx_le _) ((reason_ctorIdx_le _).trans_lt (by decide))

lemma decision_reads {decision : Decision} (h : DecisionInBounds decision) :
    Reads decodeDecision (encodeDecision decision) True decision := by
  refine Reads.cast (
    (outcome_reads _ _).seq <|
    (list_reads (fun code _ => reason_reads code _) h.reasons (by decide)).seq <|
    (uuid_reads _).seq <| (uuid_reads _).seq <|
    (optionalName_reads _ le_rfl).seq <| (optionalName_reads _ le_rfl).seq <|
    ((counter_reads _ _).given h.term).seq <| (uuid_reads _).seq <| (digest_reads _).seq <| (digest_reads _).seq <|
    ((counter_reads _ _).given h.capacity).seq <|
    (list_reads (fun id hid => (name_reads id le_rfl).given (h.pathNames id hid)) h.paths (by decide)).seq <|
    (list_reads (fun id hid => (name_reads id le_rfl).given (h.edgeNames id hid)) h.edges (by decide)).seq <|
    (boolean_reads _).seq <| (i64_reads _).seq <| ((text_reads h.detail.sized).given h.detail).seq <|
    Reads.pure _) ?_ Iff.rfl
  rfl

instance (message : String) : Stable (decodeReason message) := by
  unfold decodeReason
  infer_instance

instance : Stable decodeDecision := by
  unfold decodeDecision
  infer_instance

/-! Fence plans. -/

def encodeFenceAction (action : FenceAction) : Bytes := List.flatten [
  putU8 action.target.ctorIdx,
  putUuid action.grant.uuid,
  putUuid action.contract.uuid,
  putUuid action.reservation.uuid,
  putU16 action.reason.ctorIdx]

def encodeFencePlan (plan : FencePlan) : Bytes := List.flatten [
  putU8 plan.trigger.ctorIdx,
  putBlob plan.cluster.value,
  putUuid plan.incarnation.uuid,
  putUuid plan.previousIncarnation.uuid,
  putU64 plan.generation.value,
  putU64 plan.term.value,
  putDigest plan.viewDigest,
  encodeList encodeFenceAction plan.actions,
  putBlob plan.detail]

def decodeFenceAction : ByteReader FenceAction := do
  let target ← codeByte FenceTarget.ofNat FenceTarget.reservation.ctorIdx "fence target is out of range"
  let grant ← uuid
  let contract ← uuid
  let reservation ← uuid
  let reason ← decodeReason "fence reason code is out of range"
  return ⟨target, ⟨grant⟩, ⟨contract⟩, ⟨reservation⟩, reason⟩

def decodeFencePlan : ByteReader FencePlan := do
  let trigger ← codeByte FenceTrigger.ofNat FenceTrigger.grantExpiry.ctorIdx "fence trigger is out of range"
  let cluster ← decodeOptionalName .cluster Limits.maxNameLength
  let incarnation ← uuid
  let previous ← uuid
  let generation ← decodeCounter Limits.maxGeneration
  let term ← decodeCounter Limits.maxGeneration
  let view ← digest
  let actions ← decodeList decodeFenceAction Limits.maxFencePlanEntries
  let detail ← decodeText
  return ⟨trigger, cluster, ⟨incarnation⟩, ⟨previous⟩, ⟨generation⟩, ⟨term⟩, view, actions, detail⟩

structure FencePlanInBounds (plan : FencePlan) : Prop where
  generation : plan.generation.value ≤ Limits.maxGeneration
  term : plan.term.value ≤ Limits.maxGeneration
  actions : plan.actions.length ≤ Limits.maxFencePlanEntries
  detail : TextOk plan.detail

lemma fenceAction_reads (action : FenceAction) :
    Reads decodeFenceAction (encodeFenceAction action) True action := by
  refine Reads.cast (
    (codeByte_reads (FenceTarget.ofNat_ctorIdx _) (by cases action.target <;> decide)
      (by cases action.target <;> decide)).seq <|
    (uuid_reads _).seq <| (uuid_reads _).seq <| (uuid_reads _).seq <| (reason_reads _ _).seq <|
    Reads.pure _) ?_ Iff.rfl
  rfl

lemma fencePlan_reads {plan : FencePlan} (h : FencePlanInBounds plan) :
    Reads decodeFencePlan (encodeFencePlan plan) True plan := by
  refine Reads.cast (
    (codeByte_reads (FenceTrigger.ofNat_ctorIdx _) (by cases plan.trigger <;> decide)
      (by cases plan.trigger <;> decide)).seq <|
    (optionalName_reads _ le_rfl).seq <| (uuid_reads _).seq <| (uuid_reads _).seq <|
    ((counter_reads _ _).given h.generation).seq <| ((counter_reads _ _).given h.term).seq <|
    (digest_reads _).seq <| (list_reads (fun action _ => fenceAction_reads action) h.actions (by decide)).seq <|
    ((text_reads h.detail.sized).given h.detail).seq <| Reads.pure _) ?_ Iff.rfl
  rfl

instance : Stable decodeFenceAction := by
  unfold decodeFenceAction
  infer_instance

instance : Stable decodeFencePlan := by
  unfold decodeFencePlan
  infer_instance

/-! Accounting entries. -/

def encodeAccounting (entry : AccountingEntry) : Bytes := List.flatten [
  putUuid entry.grant.uuid,
  putUuid entry.contract.uuid,
  putBlob entry.endpoint.value,
  putBlob entry.cluster.value,
  putU64 entry.reserved.value,
  putU64 entry.released.value,
  putBoolean entry.closed]

def parseOptional (tag : NameTag) (text : Bytes) : Result (Name tag) :=
  if text = [] then .ok .empty else Name.parse tag text

/-- Here the two names are read first and only looked at once the whole entry has been read. -/
def decodeAccounting : ByteReader AccountingEntry := do
  let grant ← uuid
  let contract ← uuid
  let endpointText ← blob Limits.maxNameLength
  let clusterText ← blob Limits.maxNameLength
  let reserved ← decodeCounter Limits.maxCapacity
  let released ← decodeCounter Limits.maxCapacity
  let closed ← boolean
  let endpoint ← liftM (parseOptional .endpoint endpointText)
  let cluster ← liftM (parseOptional .cluster clusterText)
  return ⟨⟨grant⟩, ⟨contract⟩, endpoint, cluster, ⟨reserved⟩, ⟨released⟩, closed⟩

structure AccountingInBounds (entry : AccountingEntry) : Prop where
  reserved : entry.reserved.value ≤ Limits.maxCapacity
  released : entry.released.value ≤ Limits.maxCapacity

lemma parseOptional_value {tag : NameTag} (name : Name tag) : parseOptional tag name.value = .ok name := by
  by_cases h : name.value = []
  · have hname : name = .empty := Name.ext h
    rw [parseOptional, if_pos h, hname]
  · rw [parseOptional, if_neg h, Name.parse, dif_pos (name.accepted.resolve_left h)]

lemma nameText_reads {tag : NameTag} (name : Name tag) {maxLength : ℕ} (hmax : tag.maxLength ≤ maxLength) :
    Reads (blob maxLength) (putBlob name.value) True name.value := by
  have hlength := name_length name
  have hword : name.value.length < 2 ^ 32 := by
    have : tag.maxLength ≤ 192 := by cases tag <;> decide
    omega
  exact (blob_reads maxLength hword).given ⟨hlength.trans hmax, isValidUtf8_of_isAscii (name_isAscii name)⟩

lemma accounting_reads {entry : AccountingEntry} (h : AccountingInBounds entry) :
    Reads decodeAccounting (encodeAccounting entry) True entry := by
  have hparse {tag : NameTag} (name : Name tag) :
      Reads (liftM (parseOptional tag name.value) : ByteReader (Name tag)) [] True name :=
    Reads.lift (fun _ => parseOptional_value name) fun hnot => absurd trivial hnot
  refine Reads.cast (
    (uuid_reads _).seq <| (uuid_reads _).seq <| (nameText_reads entry.endpoint le_rfl).seq <|
    (nameText_reads entry.cluster le_rfl).seq <| ((counter_reads _ _).given h.reserved).seq <|
    ((counter_reads _ _).given h.released).seq <| (boolean_reads _).seq <| (hparse entry.endpoint).seq <|
    (hparse entry.cluster).seq <| Reads.pure _) ?_ Iff.rfl
  rfl

instance : Stable decodeAccounting := by
  unfold decodeAccounting
  infer_instance

/-! The status of a coordinator. -/

/-- The status as it is sent, with the two fields that only its reader prints. -/
structure CoordinatorStatus extends WireMessages.CoordinatorStatus where
  uptimeNanos : UInt64
  storePath : Bytes

def encodeStatus (status : CoordinatorStatus) : Bytes := List.flatten [
  putBlob status.domain.value,
  putUuid status.incarnation.uuid,
  putU64 status.term.value,
  putI64 status.startedAt.unixNanos,
  putU64 status.uptimeNanos,
  putDigest status.viewDigest,
  putU64 status.revision.value,
  putBoolean status.recoveredFromStore,
  putSize status.recoveredRecords,
  putU64 status.truncationsRecovered,
  putSize status.clusters, putSize status.endpoints, putSize status.links, putSize status.paths,
  putSize status.contracts, putSize status.grants, putSize status.reservations, putSize status.policies,
  putSize status.audit, putSize status.connectedAgents,
  putU64 status.commits, putU64 status.fences, putU64 status.refusals, putU64 status.revalidations,
  putU64 status.rejectedReplays, putU64 status.rejectedFrames,
  putBlob status.storePath]

def decodeStatus : ByteReader CoordinatorStatus := do
  let domain ← decodeOptionalName .authorityDomain Limits.maxNameLength
  let incarnation ← uuid
  let term ← decodeCounter Limits.maxGeneration
  let startedAt ← i64
  let uptimeNanos ← u64
  let viewDigest ← digest
  let revision ← decodeCounter Limits.maxGeneration
  let recoveredFromStore ← boolean
  let recoveredRecords ← size
  let truncationsRecovered ← u64
  let clusters ← size
  let endpoints ← size
  let links ← size
  let paths ← size
  let contracts ← size
  let grants ← size
  let reservations ← size
  let policies ← size
  let audit ← size
  let connectedAgents ← size
  let commits ← u64
  let fences ← u64
  let refusals ← u64
  let revalidations ← u64
  let rejectedReplays ← u64
  let rejectedFrames ← u64
  let storePath ← decodeText
  return { domain, incarnation := ⟨incarnation⟩, term := ⟨term⟩, startedAt := ⟨startedAt⟩, uptimeNanos, viewDigest,
           revision := ⟨revision⟩, recoveredFromStore, recoveredRecords, truncationsRecovered, clusters, endpoints,
           links, paths, contracts, grants, reservations, policies, audit, connectedAgents, commits, fences, refusals,
           revalidations, rejectedReplays, rejectedFrames, storePath }

/-- The sizes are those of collections in memory. -/
structure StatusInBounds (status : CoordinatorStatus) : Prop where
  term : status.term.value ≤ Limits.maxGeneration
  revision : status.revision.value ≤ Limits.maxGeneration
  recoveredRecords : status.recoveredRecords < 2 ^ 64
  clusters : status.clusters < 2 ^ 64
  endpoints : status.endpoints < 2 ^ 64
  links : status.links < 2 ^ 64
  paths : status.paths < 2 ^ 64
  contracts : status.contracts < 2 ^ 64
  grants : status.grants < 2 ^ 64
  reservations : status.reservations < 2 ^ 64
  policies : status.policies < 2 ^ 64
  audit : status.audit < 2 ^ 64
  connectedAgents : status.connectedAgents < 2 ^ 64
  storePath : TextOk status.storePath

lemma status_reads {status : CoordinatorStatus} (h : StatusInBounds status) :
    Reads decodeStatus (encodeStatus status) True status := by
  refine Reads.cast (
    (optionalName_reads _ le_rfl).seq <| (uuid_reads _).seq <| ((counter_reads _ _).given h.term).seq <|
    (i64_reads _).seq <| (u64_reads _).seq <| (digest_reads _).seq <| ((counter_reads _ _).given h.revision).seq <|
    (boolean_reads _).seq <| (size_reads h.recoveredRecords).seq <| (u64_reads _).seq <|
    (size_reads h.clusters).seq <| (size_reads h.endpoints).seq <| (size_reads h.links).seq <|
    (size_reads h.paths).seq <| (size_reads h.contracts).seq <| (size_reads h.grants).seq <|
    (size_reads h.reservations).seq <| (size_reads h.policies).seq <| (size_reads h.audit).seq <|
    (size_reads h.connectedAgents).seq <|
    (u64_reads _).seq <| (u64_reads _).seq <| (u64_reads _).seq <| (u64_reads _).seq <| (u64_reads _).seq <|
    (u64_reads _).seq <| ((text_reads h.storePath.sized).given h.storePath).seq <| Reads.pure _) ?_ Iff.rfl
  rfl

instance : Stable decodeStatus := by
  unfold decodeStatus
  infer_instance

end InterClusterFabric.WireRecords
