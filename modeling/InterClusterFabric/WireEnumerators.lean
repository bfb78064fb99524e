import InterClusterFabric.WireParses

/-! The enumerations on the wire. A decoder checks a code against the last one declared and against nothing else, so
the code zero passes for the roles, query kinds and actions, which are declared from one on. -/
namespace InterClusterFabric.WireEnumerators
open CoreStatus CoreIds CoreBytes LibraryChecked LibraryReader
open ModelRecords ModelCanonical ModelCanonicalReads EngineDecision WireCodec WireExact WireParses
open WireMessages (PeerRole QueryKind AdminAction AdminMessage FenceResult)

/-- A field of an enumeration type: the code that it holds, and the first and the last that are declared. -/
structure EnumField where
  code : ℕ
  first : ℕ
  last : ℕ

/-- The codes of an enumeration follow one another. -/
def EnumField.Declared (field : EnumField) : Prop := field.first ≤ field.code ∧ field.code ≤ field.last

/-! The enumeration fields of the records. -/

def provenanceFields (provenance : Provenance) : List EnumField :=
  [⟨provenance.source.ctorIdx, 0, 5⟩, ⟨provenance.verification.ctorIdx, 0, 4⟩]

def endpointFields (record : EndpointRecord) : List EnumField :=
  ⟨record.state.ctorIdx, 0, 4⟩ :: provenanceFields record.provenance

def clusterFields (record : ClusterRecord) : List EnumField :=
  ⟨record.state.ctorIdx, 0, 4⟩ :: record.endpoints.flatMap endpointFields ++ provenanceFields record.provenance

def linkFields (record : LinkRecord) : List EnumField :=
  ⟨record.kind.ctorIdx, 0, 3⟩ :: ⟨record.state.ctorIdx, 0, 4⟩ :: provenanceFields record.provenance

def pathFields (record : PathRecord) : List EnumField :=
  ⟨record.state.ctorIdx, 0, 3⟩ :: provenanceFields record.provenance

def policyFields (rule : PolicyRule) : List EnumField := provenanceFields rule.provenance

def consentFields (record : ConsentRecord) : List EnumField :=
  [⟨record.decision.ctorIdx, 0, 1⟩, ⟨record.authenticity.ctorIdx, 0, 1⟩]

def contractFields (record : ContractRecord) : List EnumField :=
  ⟨record.state.ctorIdx, 0, 7⟩ :: record.consents.first.toList.flatMap consentFields ++
    record.consents.second.toList.flatMap consentFields ++ provenanceFields record.provenance

def grantFields (record : GrantRecord) : List EnumField :=
  ⟨record.state.ctorIdx, 0, 8⟩ :: provenanceFields record.provenance

def reservationFields (record : ReservationRecord) : List EnumField := provenanceFields record.provenance

def outcomeField (outcome : Outcome) : EnumField := ⟨outcome.ctorIdx, 0, 25⟩

def auditField (record : AuditRecord) : EnumField := outcomeField record.outcome

def reasonField (reason : ReasonCode) : EnumField := ⟨reason.ctorIdx, 0, 56⟩

def decisionFields (decision : Decision) : List EnumField :=
  outcomeField decision.outcome :: decision.reasons.map reasonField

def fencePlanFields (plan : FencePlan) : List EnumField :=
  ⟨plan.trigger.ctorIdx, 0, 7⟩ ::
    plan.actions.flatMap fun action => [⟨action.target.ctorIdx, 0, 2⟩, reasonField action.reason]

/-! Those of the messages. -/

def roleField (role : PeerRole) : EnumField := ⟨role.ctorIdx, 1, 2⟩
def kindField (kind : QueryKind) : EnumField := ⟨kind.ctorIdx, 1, 15⟩
def actionField (action : AdminAction) : EnumField := ⟨action.ctorIdx, 1, 18⟩

def contentFields (message : QueryResultMessage) : List EnumField := List.flatten [
  message.clusters.flatMap clusterFields,
  message.links.flatMap linkFields,
  message.paths.flatMap pathFields,
  message.policies.flatMap policyFields,
  message.contracts.flatMap contractFields,
  message.grants.flatMap grantFields,
  message.reservations.flatMap reservationFields,
  message.audit.map auditField,
  message.decision.toList.flatMap decisionFields,
  message.fencePlan.toList.flatMap fencePlanFields]

def enumFields : Message → List EnumField
  | .hello message => [roleField message.role]
  | .helloAck message => [outcomeField message.outcome]
  | .refuse message => [outcomeField message.outcome]
  | .ping _ | .pong _ => []
  | .reportCluster message => clusterFields message.cluster
  | .reportAck message => [outcomeField message.outcome]
  | .proposeContract _ => []
  | .contractConsent message => [⟨message.decision.ctorIdx, 0, 1⟩]
  | .prepareGrant message => grantFields message.grant
  | .grantPrepared _ | .commitGrant _ | .grantCommitted _ | .abortGrant _ | .grantAborted _ | .fence _ => []
  | .fenceAck message => message.results.map fun result => outcomeField result.outcome
  | .withdraw _ => []
  | .withdrawAck message => [outcomeField message.outcome]
  | .statusRequest _ => []
  | .statusReport message => message.grants.map fun entry => ⟨entry.state.ctorIdx, 0, 8⟩
  | .query message => [kindField message.kind]
  | .queryResult message => kindField message.kind :: outcomeField message.outcome :: contentFields message
  | .admin message =>
    actionField message.action :: ⟨message.clusterState.ctorIdx, 0, 4⟩ :: ⟨message.linkState.ctorIdx, 0, 4⟩ ::
      List.flatten [
        message.cluster.toList.flatMap clusterFields,
        message.link.toList.flatMap linkFields,
        message.path.toList.flatMap pathFields,
        message.policy.toList.flatMap policyFields]
  | .adminResult message => [outcomeField message.outcome]
  | .error message => [outcomeField message.outcome]

/-- Every enumeration field of a message holds one of the codes that are declared for its type. -/
def EnumeratorsDeclared (message : Message) : Prop := ∀ field ∈ enumFields message, field.Declared

/-! What is declared from zero on is always declared. -/

section Declared

@[simp] lemma declared_from_zero {code last : ℕ} : EnumField.Declared ⟨code, 0, last⟩ ↔ code ≤ last := by
  simp [EnumField.Declared]

lemma outcomeField_declared (outcome : Outcome) : (outcomeField outcome).Declared :=
  declared_from_zero.mpr (outcome_ctorIdx_le outcome)

lemma reasonField_declared (reason : ReasonCode) : (reasonField reason).Declared :=
  declared_from_zero.mpr (WireRecords.reason_ctorIdx_le reason)

lemma provenance_declared (provenance : Provenance) : ∀ field ∈ provenanceFields provenance, field.Declared := by
  have hsource : provenance.source.ctorIdx ≤ 5 := by cases provenance.source <;> decide
  have hverification : provenance.verification.ctorIdx ≤ 4 := by cases provenance.verification <;> decide
  simp [provenanceFields, hsource, hverification]

lemma endpoint_declared (record : EndpointRecord) : ∀ field ∈ endpointFields record, field.Declared := by
  have hstate : record.state.ctorIdx ≤ 4 := by cases record.state <;> decide
  simpa [endpointFields, hstate] using provenance_declared record.provenance

lemma flatMap_declared {α : Type} {fields : α → List EnumField} (h : ∀ x, ∀ field ∈ fields x, field.Declared)
    (records : List α) : ∀ field ∈ records.flatMap fields, field.Declared := by
  intro field hfield
  obtain ⟨record, -, hmem⟩ := List.mem_flatMap.mp hfield
  exact h record field hmem

lemma map_declared {α : Type} {get : α → EnumField} (h : ∀ x, (get x).Declared) (records : List α) :
    ∀ field ∈ records.map get, field.Declared :=
  List.forall_mem_map.mpr fun x _ => h x

lemma clusterState_le (state : ClusterState) : state.ctorIdx ≤ 4 := by cases state <;> decide

lemma linkState_le (state : LinkState) : state.ctorIdx ≤ 4 := by cases state <;> decide

lemma cluster_declared (record : ClusterRecord) : ∀ field ∈ clusterFields record, field.Declared :=
  List.forall_mem_append.mpr ⟨List.forall_mem_cons.mpr
    ⟨declared_from_zero.mpr (clusterState_le _), flatMap_declared endpoint_declared _⟩, provenance_declared _⟩

lemma link_declared (record : LinkRecord) : ∀ field ∈ linkFields record, field.Declared := by
  have hkind : record.kind.ctorIdx ≤ 3 := by cases record.kind <;> decide
  exact List.forall_mem_cons.mpr ⟨declared_from_zero.mpr hkind,
    List.forall_mem_cons.mpr ⟨declared_from_zero.mpr (linkState_le _), provenance_declared _⟩⟩

lemma path_declared (record : PathRecord) : ∀ field ∈ pathFields record, field.Declared := by
  have hstate : record.state.ctorIdx ≤ 3 := by cases record.state <;> decide
  exact List.forall_mem_cons.mpr ⟨declared_from_zero.mpr hstate, provenance_declared _⟩

lemma policy_declared (rule : PolicyRule) : ∀ field ∈ policyFields rule, field.Declared := provenance_declared _

lemma consentDecision_le (decision : ConsentDecision) : decision.ctorIdx ≤ 1 := by cases decision <;> decide

lemma consent_declared (record : ConsentRecord) : ∀ field ∈ consentFields record, field.Declared := by
  have hauthenticity : record.authenticity.ctorIdx ≤ 1 := by cases record.authenticity <;> decide
  simp [consentFields, consentDecision_le, hauthenticity]

lemma contract_declared (record : ContractRecord) : ∀ field ∈ contractFields record, field.Declared := by
  have hstate : record.state.ctorIdx ≤ 7 := by cases record.state <;> decide
  refine List.forall_mem_append.mpr ⟨List.forall_mem_append.mpr ⟨List.forall_mem_cons.mpr
    ⟨declared_from_zero.mpr hstate, ?_⟩, ?_⟩, provenance_declared _⟩
  · exact flatMap_declared consent_declared _
  · exact flatMap_declared consent_declared _

lemma grantState_le (state : GrantState) : state.ctorIdx ≤ 8 := by cases state <;> decide

lemma grant_declared (record : GrantRecord) : ∀ field ∈ grantFields record, field.Declared :=
  List.forall_mem_cons.mpr ⟨declared_from_zero.mpr (grantState_le _), provenance_declared _⟩

lemma reservation_declared (record : ReservationRecord) : ∀ field ∈ reservationFields record, field.Declared :=
  provenance_declared _

lemma audit_declared (record : AuditRecord) : (auditField record).Declared := outcomeField_declared _

lemma decision_declared (decision : Decision) : ∀ field ∈ decisionFields decision, field.Declared :=
  List.forall_mem_cons.mpr ⟨outcomeField_declared _, map_declared reasonField_declared _⟩

lemma fencePlan_declared (plan : FencePlan) : ∀ field ∈ fencePlanFields plan, field.Declared := by
  have htrigger : plan.trigger.ctorIdx ≤ 7 := by cases plan.trigger <;> decide
  refine List.forall_mem_cons.mpr ⟨declared_from_zero.mpr htrigger, flatMap_declared (fun action => ?_) _⟩
  have htarget : action.target.ctorIdx ≤ 2 := by cases action.target <;> decide
  simp [htarget, reasonField_declared]

lemma content_declared (message : QueryResultMessage) : ∀ field ∈ contentFields message, field.Declared := by
  simp only [contentFields, List.flatten_cons, List.flatten_nil, List.append_nil, List.forall_mem_append]
  exact ⟨flatMap_declared cluster_declared _, flatMap_declared link_declared _, flatMap_declared path_declared _,
    flatMap_declared policy_declared _, flatMap_declared contract_declared _, flatMap_declared grant_declared _,
    flatMap_declared reservation_declared _, map_declared audit_declared _, flatMap_declared decision_declared _,
    flatMap_declared fencePlan_declared _⟩

end Declared

/-! The three enumerations that begin at one. -/

lemma roleField_declared_iff (role : PeerRole) : (roleField role).Declared ↔ role.ctorIdx ≠ 0 := by
  cases role <;> simp [roleField, EnumField.Declared, PeerRole.ctorIdx]

lemma kindField_declared_iff (kind : QueryKind) : (kindField kind).Declared ↔ kind.ctorIdx ≠ 0 := by
  cases kind <;> simp [kindField, EnumField.Declared, QueryKind.ctorIdx]

lemma actionField_declared_iff (action : AdminAction) : (actionField action).Declared ↔ action.ctorIdx ≠ 0 := by
  cases action <;> simp [actionField, EnumField.Declared, AdminAction.ctorIdx]

/-- The code of such a field, in the messages that have one. -/
def tag : Message → Option ℕ
  | .hello message => some message.role.ctorIdx
  | .query message => some message.kind.ctorIdx
  | .queryResult message => some message.kind.ctorIdx
  | .admin message => some message.action.ctorIdx
  | _ => none

/-- Where it stands in the bytes: first in a handshake, and behind the request elsewhere. -/
def tagOffset : Message → Option ℕ
  | .hello _ => some 0
  | .query _ | .queryResult _ | .admin _ => some 16
  | _ => none

/-- No other field can hold a code that is not declared. -/
lemma declared_iff_tag (message : Message) : EnumeratorsDeclared message ↔ tag message ≠ some 0 := by
  cases message with
  | hello message => simp [EnumeratorsDeclared, enumFields, tag, roleField_declared_iff]
  | helloAck message => simp [EnumeratorsDeclared, enumFields, tag, outcomeField_declared]
  | refuse message => simp [EnumeratorsDeclared, enumFields, tag, outcomeField_declared]
  | ping message => simp [EnumeratorsDeclared, enumFields, tag]
  | pong message => simp [EnumeratorsDeclared, enumFields, tag]
  | reportCluster message => simpa [EnumeratorsDeclared, enumFields, tag] using cluster_declared message.cluster
  | reportAck message => simp [EnumeratorsDeclared, enumFields, tag, outcomeField_declared]
  | proposeContract message => simp [EnumeratorsDeclared, enumFields, tag]
  | contractConsent message => simp [EnumeratorsDeclared, enumFields, tag, consentDecision_le]
  | prepareGrant message => simpa [EnumeratorsDeclared, enumFields, tag] using grant_declared message.grant
  | grantPrepared message => simp [EnumeratorsDeclared, enumFields, tag]
  | commitGrant message => simp [EnumeratorsDeclared, enumFields, tag]
  | grantCommitted message => simp [EnumeratorsDeclared, enumFields, tag]
  | abortGrant message => simp [EnumeratorsDeclared, enumFields, tag]
  | grantAborted message => simp [EnumeratorsDeclared, enumFields, tag]
  | fence message => simp [EnumeratorsDeclared, enumFields, tag]
  | fenceAck message => simp [EnumeratorsDeclared, enumFields, tag, outcomeField_declared]
  | withdraw message => simp [EnumeratorsDeclared, enumFields, tag]
  | withdrawAck message => simp [EnumeratorsDeclared, enumFields, tag, outcomeField_declared]
  | statusRequest message => simp [EnumeratorsDeclared, enumFields, tag]
  | statusReport message => simp [EnumeratorsDeclared, enumFields, tag, grantState_le]
  | query message => simp [EnumeratorsDeclared, enumFields, tag, kindField_declared_iff]
  | queryResult message =>
    simpa [EnumeratorsDeclared, enumFields, tag, kindField_declared_iff, outcomeField_declared] using
      fun _ => content_declared message
  | admin message =>
    have hrecords : ∀ field ∈ message.cluster.toList.flatMap clusterFields ++ (message.link.toList.flatMap linkFields ++
        (message.path.toList.flatMap pathFields ++ message.policy.toList.flatMap policyFields)), field.Declared := by
      simp only [List.forall_mem_append]
      exact ⟨flatMap_declared cluster_declared _, flatMap_declared link_declared _, flatMap_declared path_declared _,
        flatMap_declared policy_declared _⟩
    simp only [EnumeratorsDeclared, enumFields, tag, List.forall_mem_cons, List.flatten_cons, List.flatten_nil,
      List.append_nil, declared_from_zero, clusterState_le, linkState_le, actionField_declared_iff, true_and, ne_eq,
      Option.some.injEq]
    exact ⟨fun h => h.1, fun h => ⟨h, hrecords⟩⟩
  | adminResult message => simp [EnumeratorsDeclared, enumFields, tag, outcomeField_declared]
  | error message => simp [EnumeratorsDeclared, enumFields, tag, outcomeField_declared]

/-! On the wire. -/

lemma getElem_putU8 (before after : Bytes) (n : ℕ) :
    (before ++ (putU8 n ++ after))[before.length]? = some (UInt8.ofNat n) := by
  rw [List.getElem?_append_right le_rfl, Nat.sub_self]
  simp [putU8, beBytes]

lemma putUuid_length (value : Uuid) : (putUuid value).length = 16 := beBytes_length 16 _

lemma ofNat_ne_zero_iff {n : ℕ} (h : n < 256) : some (UInt8.ofNat n) ≠ some 0 ↔ some n ≠ some 0 := by
  have hzero : UInt8.ofNat n = 0 ↔ n = 0 := by
    rw [← UInt8.toNat_inj, UInt8.toNat_ofNat_of_lt' h]
    rfl
  simp [hzero]

/-- The code behind a request. -/
lemma tag_behind_request {request : Uuid} {n : ℕ} (h : n < 256) (after : Bytes) :
    (putUuid request ++ (putU8 n ++ after))[16]? ≠ some 0 ↔ some n ≠ some 0 := by
  have hbyte := getElem_putU8 (putUuid request) after n
  rw [putUuid_length] at hbyte
  rw [hbyte, ofNat_ne_zero_iff h]

lemma spelled_tag_iff {bytes : Bytes} {message : Message} (h : Spelled bytes message) :
    (∀ offset ∈ tagOffset message, bytes[offset]? ≠ some 0) ↔ tag message ≠ some 0 := by
  cases message with
  | hello message =>
    have hcode : message.role.ctorIdx < 256 := by cases message.role <;> decide
    have hbyte : bytes[0]? = some (UInt8.ofNat message.role.ctorIdx) := by
      rw [show bytes = encodeHello message from h]
      exact getElem_putU8 [] _ _
    simp only [tagOffset, tag, Option.mem_some_iff, forall_eq', hbyte]
    exact ofNat_ne_zero_iff hcode
  | query message =>
    have hcode : message.kind.ctorIdx < 256 := by cases message.kind <;> decide
    simp only [tagOffset, tag, Option.mem_some_iff, forall_eq']
    rw [show bytes = encodeQuery message from h]
    exact tag_behind_request hcode _
  | queryResult message =>
    have hcode : message.kind.ctorIdx < 256 := by cases message.kind <;> decide
    obtain ⟨content, -, rfl⟩ := h
    simp only [tagOffset, tag, Option.mem_some_iff, forall_eq']
    exact tag_behind_request hcode _
  | admin message =>
    have hcode : message.action.ctorIdx < 256 := by cases message.action <;> decide
    obtain ⟨cluster, -, rfl⟩ := h
    simp only [tagOffset, tag, Option.mem_some_iff, forall_eq']
    exact tag_behind_request hcode _
  | _ => simp [tagOffset, tag]

lemma wrapped {α : Type} {wrap : α → Message} {p : ByteReader α} {bytes rest : Bytes} {message : Message}
    (h : (wrap <$> p).run bytes = .ok (message, rest)) : ∃ a, message = wrap a := by
  have hsplit : (p.run bytes >>= fun x => .ok (wrap x.1, x.2)) = .ok (message, rest) := h
  obtain ⟨x, -, hx⟩ := bind_eq_ok.mp hsplit
  cases hx
  exact ⟨x.1, rfl⟩

/-- A decoder returns a message of its own type. -/
lemma tagOffset_eq {type message : Message} {bytes rest : Bytes}
    (h : (decoderOf type).run bytes = .ok (message, rest)) : tagOffset message = tagOffset type := by
  cases type <;>
  · obtain ⟨_, rfl⟩ := wrapped h
    rfl

/-- What a decoder accepts is spelled by the message it returns, so that each of its codes is the one that stood on the
wire; and they are all declared exactly if the one that is declared from one on, where the type has such a field, is
not zero. -/
theorem enumerators_declared_iff {type message : Message} {bytes rest : Bytes}
    (h : (decoderOf type).run bytes = .ok (message, rest)) :
    Spelled bytes message ∧
      (EnumeratorsDeclared message ↔ ∀ offset ∈ tagOffset type, bytes[offset]? ≠ some 0) := by
  have hspelled := (decoder_accepts h).1
  refine ⟨hspelled, ?_⟩
  rw [declared_iff_tag, ← tagOffset_eq h, spelled_tag_iff hspelled]

lemma hello_inBounds (role : PeerRole) : InBounds (.hello { role := role }) := by
  cases role <;> exact ⟨by decide, by decide, by decide, by decide, by decide, by decide⟩

/-- The handshake of an agent. -/
theorem agent_hello_declared : EnumeratorsDeclared (.hello { role := .agent }) :=
  (enumerators_declared_iff (decodes (hello_inBounds .agent) trivial)).2.mpr (by decide)

def strayQuery : QueryMessage := { kind := .unspecified }

def strayAdmin : AdminMessage := { action := .unspecified }

/-- A handshake with no role, a query of no kind and an administrative request for no action are all accepted. -/
theorem undeclared_accepted :
    ((decoderOf (.hello { role := .unspecified })).run (encodeMessage (.hello { role := .unspecified })) =
        .ok (.hello { role := .unspecified }, []) ∧ ¬EnumeratorsDeclared (.hello { role := .unspecified })) ∧
      ((decoderOf (.query strayQuery)).run (encodeMessage (.query strayQuery)) = .ok (.query strayQuery, []) ∧
        ¬EnumeratorsDeclared (.query strayQuery)) ∧
      (decoderOf (.admin strayAdmin)).run (encodeMessage (.admin strayAdmin)) = .ok (.admin strayAdmin, []) ∧
        ¬EnumeratorsDeclared (.admin strayAdmin) := by
  have htext : TextOk [] := ⟨by decide, by decide⟩
  have hquery : InBounds (.query strayQuery) := ⟨htext, by decide, by decide, by decide, by decide⟩
  have hadmin : InBounds (.admin strayAdmin) :=
    ⟨by simp [strayAdmin], by simp [strayAdmin], by simp [strayAdmin], by simp [strayAdmin], htext, by decide,
      by decide, by decide, htext⟩
  refine ⟨⟨decodes (hello_inBounds .unspecified) trivial, fun h => ?_⟩, ⟨decodes hquery trivial, fun h => ?_⟩,
    decodes hadmin (by simp [Canonical, strayAdmin]), fun h => ?_⟩
  · exact (declared_iff_tag _).mp h rfl
  · exact (declared_iff_tag _).mp h rfl
  · exact (declared_iff_tag _).mp h rfl

end InterClusterFabric.WireEnumerators
