import InterClusterFabric.RuntimeStart

/-! Consents to a contract. The handler computes the state of the contract from the consent and the
record of the other side, whatever the state was: when that leaves a closed contract closed, and when
the order of two consents does not matter. -/
namespace InterClusterFabric.RuntimeConsents
open CoreStatus CoreIds CoreTime ModelRecords ModelRegistry ModelRegistryLaws EngineSoundness RuntimeFencing
open WireMessages RuntimeCoordinator RuntimeHandlers RuntimeAdmin RuntimeRun RuntimeEdits RuntimeSteps
open RuntimeStepsHandlers RuntimeStepsAdmin RuntimeStart LibraryOrdMap LibraryProgram
open StoreDurable hiding loadState

/-- The consent passes every check of the handler. -/
structure ConsentAccepted (s : Coordinator) (connection : ℕ) (message : ContractConsentMessage)
    (session : PeerSession) (contract : ContractRecord) (side : Side) : Prop where
  speaks : SpeaksAs s connection message.session session
  role : session.role = .agent
  registered : s.registry.contracts[message.contract]? = some contract
  party : contract.sideOf session.cluster = some side
  terms : message.termsDigest = contract.termsDigest
  endpoint : message.endpoint = (contract.parties.get side).endpoint
  current : message.incarnation = session.incarnation ∧ message.generation = session.generation

/-- The same decision is recorded already, under the same terms and generation. -/
def Repeated (contract : ContractRecord) (side : Side) (message : ContractConsentMessage) : Prop :=
  ∃ existing, contract.consents.get side = some existing ∧ existing.decision = message.decision ∧
    existing.termsDigest = message.termsDigest ∧ existing.generation = message.generation

lemma repeats_iff {contract : ContractRecord} {side : Side} {message : ContractConsentMessage}
    {session : PeerSession} {decidedAt : Timestamp} :
    repeats (contract.consents.get side) (consentRecord session message decidedAt) = true ↔
      Repeated contract side message := by
  unfold repeats Repeated
  cases contract.consents.get side with
  | none => simp
  | some existing => simp [consentRecord, and_assoc]

/-! What a consent does. -/

section Consent

variable {s : Coordinator} {connection : ℕ} {message : ContractConsentMessage}

lemma sendError_records (request : Uuid) (outcome : Outcome) (detail : Bytes) :
    Steps Recorded (sendError connection request outcome detail) s fun _ _ => True :=
  recorded_of_keeps (send_keeps _ rfl)

lemma countReplay_records : Steps Recorded countReplay s fun _ _ => True :=
  Steps.modify ⟨⟨rfl, rfl, rfl, rfl, rfl, le_rfl⟩, ⟨_, rfl⟩, rfl, rfl⟩ trivial

lemma replay_error_records (request : Uuid) (outcome : Outcome) (detail : Bytes) :
    Steps Recorded (do countReplay; sendError connection request outcome detail) s fun _ _ => True :=
  countReplay_records.bind fun _ _ _ _ => sendError_records _ _ _

/-- A consent that some check refuses, or that repeats what is recorded, moves nothing. -/
lemma consent_ignored (h : ∀ session contract side, ConsentAccepted s connection message session contract side →
      Repeated contract side message) : Recorded s (onContractConsent connection message s).2 := by
  suffices hsteps : Steps Recorded (onContractConsent connection message) s fun _ _ => True from hsteps.related
  refine Steps.get_bind ?_
  dsimp only
  cases hsession : s.sessions[connection]? with
  | none => exact replay_error_records _ _ _
  | some session =>
    split
    · exact replay_error_records _ _ _
    rename_i hfault
    have hspeaks : SpeaksAs s connection message.session session := ⟨hsession, hfault⟩
    simp only [Option.getD_some]
    split
    · exact sendError_records _ _ _
    rename_i hrole
    refine Steps.get_bind ?_
    split
    · exact sendError_records _ _ _
    rename_i contract hfind
    split
    · exact sendError_records _ _ _
    rename_i side hside
    split
    · exact (appendAudit_records _ _ _ _ _).bind fun _ _ _ _ => sendError_records _ _ _
    rename_i hterms
    split
    · exact sendError_records _ _ _
    rename_i hendpoint
    split
    · exact replay_error_records _ _ _
    rename_i hcurrent
    obtain ⟨hincarnation, hgeneration⟩ := not_or.mp hcurrent
    have hrepeated := h session contract side ⟨hspeaks, not_not.mp hrole, hfind, hside, not_not.mp hterms,
      not_not.mp hendpoint, not_not.mp hincarnation, not_not.mp hgeneration⟩
    refine Steps.bind (recorded_of_keeps now_keeps) fun decidedAt s₁ _ _ => ?_
    rw [if_pos (repeats_iff.mpr hrepeated)]
    exact Steps.pure trivial

/-- A new consent that passes every check is recorded, and decides the state. -/
lemma consent_recorded {session : PeerSession} {contract : ContractRecord} {side : Side}
    (h : ConsentAccepted s connection message session contract side) (hnew : ¬Repeated contract side message) :
    ∃ decidedAt updatedAt registry, registry = setContract s.registry message.contract
        (consented contract side (consentRecord session message decidedAt) updatedAt) ∧
      Recorded { s with registry } (onContractConsent connection message s).2 := by
  obtain ⟨hincarnation, hgeneration⟩ := h.current
  refine ⟨(s.moments s.index).now, (s.moments (s.index + 1)).now, _, rfl, ?_⟩
  set updated := consented contract side (consentRecord session message (s.moments s.index).now)
    (s.moments (s.index + 1)).now with hupdated
  set asked : Coordinator := { s with index := s.index + 1 } with hasked
  set again : Coordinator := { asked with index := s.index + 2 } with hagain
  have hnow : now s = (.ok (s.moments s.index).now, asked) := rfl
  have hnow' : now asked = (.ok (s.moments (s.index + 1)).now, again) := rfl
  have hrun : onContractConsent connection message s = (do
      writeContract message.contract updated
      appendMutation (.contractPut updated)
      RuntimeCoordinator.appendAudit "agent" "contract-consent" contract.id.toText .ok
        (ascii "decision=" ++ message.decision.toText) : Op Unit) again := by
    unfold onContractConsent
    rw [withSession_run h.speaks, if_neg (not_not.mpr h.role), Program.get_bind_run, h.registered]
    simp only [h.party]
    rw [if_neg (not_not.mpr h.terms), if_neg (not_not.mpr h.endpoint),
      if_neg (not_or.mpr ⟨not_not.mpr hincarnation, not_not.mpr hgeneration⟩), Program.bind_ok hnow,
      if_neg (fun hrepeats => hnew (repeats_iff.mp hrepeats)), Program.bind_ok hnow']
    rfl
  have hlogged : Coherent (setContract s.registry message.contract updated) (.contractPut updated) :=
    ⟨message.contract, Std.ExtTreeMap.getElem?_insert_self⟩
  have hsteps : Steps Recorded (do
      appendMutation (.contractPut updated)
      RuntimeCoordinator.appendAudit "agent" "contract-consent" contract.id.toText .ok
        (ascii "decision=" ++ message.decision.toText) : Op Unit)
      { again with registry := setContract s.registry message.contract updated } fun _ _ => True :=
    (recorded_of_keeps (appendMutation_keeps hlogged)).bind fun _ _ _ _ => appendAudit_records _ _ _ _ _
  have hwrite : writeContract message.contract updated again =
      (.ok (), { again with registry := setContract s.registry message.contract updated }) := rfl
  have hrelated := hsteps.related
  rw [hrun, Program.bind_ok hwrite]
  refine IsTrans.trans _ _ _ ?_ hrelated
  exact ⟨⟨rfl, rfl, rfl, rfl, rfl, by show s.index ≤ s.index + 2; omega⟩, ⟨_, rfl⟩, rfl, rfl⟩

end Consent

/-! Closed contracts. -/

def contractState (s : Coordinator) (id : ContractId) : Option ContractState :=
  s.registry.contracts[id]?.map ContractRecord.state

def Closed (state : ContractState) : Prop :=
  state = .refused ∨ state = .withdrawn ∨ state = .fenced ∨ state = .expired

/-- What the handler makes of the state: the consent just taken against the one of the other side. -/
def decidedState (other : Bool) : ConsentDecision → ContractState
  | .refused => .refused
  | .accepted => if other then .consented else .awaitingConsent

lemma consented_state (contract : ContractRecord) (side : Side) (record : ConsentRecord) (updatedAt : Timestamp) :
    (consented contract side record updatedAt).state =
      decidedState (ContractRecord.accepted (contract.consents.get side.other)) record.decision := by
  cases hdecision : record.decision with
  | refused => simp [consented, decidedState, hdecision]
  | accepted =>
    have haccepted : ContractRecord.accepted (some record) = true := by
      rw [ContractRecord.accepted, hdecision]
      rfl
    have hboth : ContractRecord.bothConsented { contract with
        consents := contract.consents.set side (some record), updatedAt, revision := contract.revision.increment } =
        ContractRecord.accepted (contract.consents.get side.other) := by
      cases side <;> simp [ContractRecord.bothConsented, PerSide.set, PerSide.get, Side.other, haccepted]
    rw [consented, hdecision, hboth]
    rfl

/-- The consent is taken, and is not the refusal of a contract that is refused. -/
def Reopens (s : Coordinator) (connection : ℕ) (message : ContractConsentMessage) : Prop :=
  ∃ session contract side, ConsentAccepted s connection message session contract side ∧
    ¬Repeated contract side message ∧ ¬(message.decision = .refused ∧ contract.state = .refused)

lemma contractState_of_recorded {s s' : Coordinator} (h : Recorded s s') (id : ContractId) :
    contractState s' id = contractState s id := by
  obtain ⟨audit, haudit⟩ := h.trail
  rw [contractState, contractState, haudit]

lemma contractState_set (s : Coordinator) (key : ContractId) (contract : ContractRecord) (id : ContractId) :
    contractState { s with registry := setContract s.registry key contract } id =
      if id = key then some contract.state else contractState s id := by
  unfold contractState setContract
  rw [getElem?_insert_eq]
  split <;> rfl

/-- A consent leaves a closed contract closed exactly if it does not reopen it. -/
lemma closed_stays_iff {s : Coordinator} (connection : ℕ) (message : ContractConsentMessage) {id : ContractId}
    {state : ContractState} (hstate : contractState s id = some state) (hclosed : Closed state) :
    contractState (step s (.message connection (.contractConsent message))) id = some state ↔
      ¬(message.contract = id ∧ Reopens s connection message) := by
  change contractState (onContractConsent connection message s).2 id = some state ↔ _
  by_cases htaken : ∃ session contract side, ConsentAccepted s connection message session contract side ∧
      ¬Repeated contract side message
  · obtain ⟨session, contract, side, haccepted, hnew⟩ := htaken
    obtain ⟨decidedAt, updatedAt, registry, rfl, hrecorded⟩ := consent_recorded haccepted hnew
    rw [contractState_of_recorded hrecorded, contractState_set, consented_state]
    by_cases hid : id = message.contract
    · subst hid
      have hsame : contract.state = state := by
        rw [contractState, haccepted.registered, Option.map_some, Option.some.injEq] at hstate
        exact hstate
      have hreopens : Reopens s connection message ↔ ¬(message.decision = .refused ∧ state = .refused) := by
        constructor
        · rintro ⟨session', contract', side', haccepted', -, hother⟩
          have hcontract : contract' = contract := by
            have h := haccepted'.registered
            rw [haccepted.registered, Option.some.injEq] at h
            exact h.symm
          rw [← hsame, ← hcontract]
          exact hother
        · intro hother
          exact ⟨session, contract, side, haccepted, hnew, by rw [hsame]; exact hother⟩
      rw [if_pos rfl, hreopens, Option.some.injEq]
      have hdecision : (consentRecord session message decidedAt).decision = message.decision := rfl
      rw [hdecision]
      cases message.decision with
      | refused => simp [decidedState, eq_comm]
      | accepted =>
        have hopen : decidedState (ContractRecord.accepted (contract.consents.get side.other)) .accepted ≠ state := by
          rw [decidedState]
          rcases hclosed with rfl | rfl | rfl | rfl <;> split <;> decide
        simp [hopen]
    · rw [if_neg hid, hstate]
      simp [Ne.symm hid]
  · have hrecorded : Recorded s (onContractConsent connection message s).2 := by
      refine consent_ignored fun session contract side haccepted => ?_
      by_contra hnew
      exact htaken ⟨session, contract, side, haccepted, hnew⟩
    rw [contractState_of_recorded hrecorded, hstate]
    refine iff_of_true rfl ?_
    rintro ⟨-, session, contract, side, haccepted, hnew, -⟩
    exact htaken ⟨session, contract, side, haccepted, hnew⟩

/-! Two consents. -/

/-- The contract has been proposed, and no side has answered. -/
structure Fresh (s : Coordinator) (id : ContractId) (contract : ContractRecord) : Prop where
  registered : s.registry.contracts[id]? = some contract
  state : contract.state = .proposed
  consents : contract.consents = ⟨none, none⟩

/-- Each side answers, whichever answer comes last. -/
lemma answers_state {s : Coordinator} {contract : ContractRecord} {side : Side} {id : ContractId}
    (hfresh : Fresh s id contract) {connection connection' : ℕ} {message message' : ContractConsentMessage}
    {session session' : PeerSession} (hid : message.contract = id) (hid' : message'.contract = id)
    (h : ConsentAccepted s connection message session contract side)
    (h' : ConsentAccepted s connection' message' session' contract side.other) :
    contractState (run s [.message connection (.contractConsent message),
        .message connection' (.contractConsent message')]) id =
      some (decidedState (message.decision == .accepted) message'.decision) := by
  have hnone (side : Side) : contract.consents.get side = none := by
    rw [hfresh.consents]
    cases side <;> rfl
  have hnew : ¬Repeated contract side message := by
    rintro ⟨existing, hexisting, -⟩
    rw [hnone] at hexisting
    cases hexisting
  obtain ⟨decidedAt, updatedAt, registry, rfl, hrecorded⟩ := consent_recorded h hnew
  set s₁ := (onContractConsent connection message s).2 with hs₁
  set contract₁ := consented contract side (consentRecord session message decidedAt) updatedAt with hcontract₁
  obtain ⟨audit, haudit⟩ := hrecorded.trail
  have hfind : s₁.registry.contracts[message'.contract]? = some contract₁ := by
    rw [haudit, hid', ← hid]
    exact Std.ExtTreeMap.getElem?_insert_self
  have haccepted : ConsentAccepted s₁ connection' message' session' contract₁ side.other := {
    speaks := ⟨by rw [hrecorded.sessions]; exact h'.speaks.open_, h'.speaks.valid⟩
    role := h'.role
    registered := hfind
    party := h'.party
    terms := h'.terms
    endpoint := h'.endpoint
    current := h'.current }
  have hconsent (other : Side) : contract₁.consents.get other =
      if other = side then some (consentRecord session message decidedAt) else none := by
    rw [hcontract₁]
    show (contract.consents.set side _).get other = _
    rw [PerSide.get_set, hnone]
  have hnew' : ¬Repeated contract₁ side.other message' := by
    rintro ⟨existing, hexisting, -⟩
    rw [hconsent, if_neg (by cases side <;> decide)] at hexisting
    cases hexisting
  obtain ⟨decidedAt', updatedAt', registry', rfl, hrecorded'⟩ := consent_recorded haccepted hnew'
  change contractState (onContractConsent connection' message' s₁).2 id = _
  have hother : contract₁.consents.get side.other.other = some (consentRecord session message decidedAt) := by
    rw [hconsent, if_pos (by cases side <;> rfl)]
  rw [contractState_of_recorded hrecorded', contractState_set, if_pos hid'.symm, consented_state, hother]
  rfl

/-- What the two answers should make of the contract. -/
def jointState : ConsentDecision → ConsentDecision → ContractState
  | .accepted, .accepted => .consented
  | _, _ => .refused

/-- Both orders of the two answers give what they should. -/
def OrderIrrelevant (s : Coordinator) (id : ContractId) (first second : Event) (a b : ConsentDecision) : Prop :=
  contractState (run s [first, second]) id = some (jointState a b) ∧
    contractState (run s [second, first]) id = some (jointState a b)

lemma order_irrelevant_iff {s : Coordinator} {contract : ContractRecord} {id : ContractId}
    (hfresh : Fresh s id contract) {connection connection' : ℕ} {message message' : ContractConsentMessage}
    {session session' : PeerSession} (hid : message.contract = id) (hid' : message'.contract = id)
    (h : ConsentAccepted s connection message session contract .first)
    (h' : ConsentAccepted s connection' message' session' contract .second) :
    OrderIrrelevant s id (.message connection (.contractConsent message))
        (.message connection' (.contractConsent message')) message.decision message'.decision ↔
      message.decision = message'.decision := by
  unfold OrderIrrelevant
  rw [answers_state hfresh hid hid' h h', answers_state hfresh hid' hid h' h]
  cases message.decision <;> cases message'.decision <;> simp [decidedState, jointState]

/-- In every state a consent leaves a closed contract as it is exactly if it does not reopen it, and
the answers of both parties to a fresh proposal give the same in both orders exactly if they agree. -/
theorem closure_final_iff (s : Coordinator) (id : ContractId) :
    (∀ connection message state, contractState s id = some state → Closed state →
      (contractState (step s (.message connection (.contractConsent message))) id = some state ↔
        ¬(message.contract = id ∧ Reopens s connection message))) ∧
    ∀ contract, Fresh s id contract →
      ∀ connection connection' message message' session session', message.contract = id → message'.contract = id →
        ConsentAccepted s connection message session contract .first →
        ConsentAccepted s connection' message' session' contract .second →
        (OrderIrrelevant s id (.message connection (.contractConsent message))
            (.message connection' (.contractConsent message')) message.decision message'.decision ↔
          message.decision = message'.decision) := by
  constructor
  · intro connection message state hstate hclosed
    exact closed_stays_iff connection message hstate hclosed
  · intro contract hfresh connection connection' message message' session session' hid hid' h h'
    exact order_irrelevant_iff hfresh hid hid' h h'

/-! The contract of the sample runs. -/

def answerMessage (side : Side) (decision : ConsentDecision) : ContractConsentMessage where
  session := tokenOf sampleProposed (agentOf side)
  contract := proposedId
  termsDigest := (sampleProposed.registry.contracts[proposedId]?.map ContractRecord.termsDigest).getD 0
  decision := decision
  endpoint := (sampleParty side).endpoint
  incarnation := (sampleCluster side).incarnation
  generation := (sampleCluster side).generation
  policyGeneration := ⟨0⟩
  agentTerm := ⟨0⟩

lemma answerMessage_contract (side : Side) (decision : ConsentDecision) :
    (answerMessage side decision).contract = proposedId := by simp only [answerMessage]

lemma answer_eq (side : Side) (decision : ConsentDecision) :
    answer side decision = .message (agentOf side) (.contractConsent (answerMessage side decision)) := rfl

lemma proposed_fresh : ∃ contract, Fresh sampleProposed proposedId contract := by
  have hproposed : (sampleProposed.registry.contracts[proposedId]?.map fun contract =>
      (contract.state, contract.consents.first.isNone, contract.consents.second.isNone)) =
      some (.proposed, true, true) := by
    rw [proposedId_eq]
    decide +kernel
  obtain ⟨contract, hcontract, hfacts⟩ := Option.map_eq_some_iff.mp hproposed
  rw [Prod.mk.injEq, Prod.mk.injEq, Option.isNone_iff_eq_none, Option.isNone_iff_eq_none] at hfacts
  exact ⟨contract, hcontract, hfacts.1, by ext1; exacts [hfacts.2.1, hfacts.2.2]⟩

/-- Whatever the agent of a side answers passes every check. -/
lemma answer_accepted {contract : ContractRecord}
    (hcontract : sampleProposed.registry.contracts[proposedId]? = some contract) (side : Side)
    (decision : ConsentDecision) :
    ∃ session, ConsentAccepted sampleProposed (agentOf side) (answerMessage side decision) session contract side := by
  have hsample : ∀ side,
      (sessionFault sampleProposed.sessions[agentOf side]? (tokenOf sampleProposed (agentOf side))).isNone = true ∧
      (sampleProposed.sessions[agentOf side]?.map fun session =>
        (session.role, session.cluster, session.incarnation, session.generation)) =
        some (.agent, (sampleParty side).cluster, (sampleCluster side).incarnation, (sampleCluster side).generation) ∧
      (sampleProposed.registry.contracts[proposedId]?.map fun contract =>
        (contract.sideOf (sampleParty side).cluster, (contract.parties.get side).endpoint)) =
        some (some side, (sampleParty side).endpoint) := by
    simp only [tokenOf_sampleProposed, proposedId_eq]
    rw [forall_side]
    decide +kernel
  obtain ⟨hspeaks, hopen, hparty⟩ := hsample side
  obtain ⟨session, hsession, hfacts⟩ := Option.map_eq_some_iff.mp hopen
  rw [hsession, Option.isNone_iff_eq_none] at hspeaks
  rw [Prod.mk.injEq, Prod.mk.injEq, Prod.mk.injEq] at hfacts
  rw [hcontract, Option.map_some, Option.some.injEq, Prod.mk.injEq] at hparty
  obtain ⟨hrole, hcluster, hincarnation, hgeneration⟩ := hfacts
  refine ⟨session, ⟨hsession, ?_⟩, hrole, ?_, ?_, ?_, ?_, ?_, ?_⟩
  · simp only [answerMessage]
    exact hspeaks
  · rw [answerMessage_contract]
    exact hcontract
  · rw [hcluster]
    exact hparty.1
  · simp only [answerMessage, hcontract, Option.map_some, Option.getD_some]
  · exact hparty.2.symm
  · exact hincarnation.symm
  · exact hgeneration.symm

/-- The first agent refuses. -/
def refusedFirst : Coordinator := run sampleProposed [answer .first .refused]

/-- The refusal closes the contract, and the acceptance of the other side opens it again. -/
lemma refusedFirst_states : contractState refusedFirst proposedId = some .refused ∧
    contractState (step refusedFirst (answer .second .accepted)) proposedId = some .awaitingConsent := by
  simp only [refusedFirst, answer, tokenOf_sampleProposed, proposedId_eq]
  rw [sampleProposed_eq]
  decide +kernel

/-- The same refusal again moves nothing, and two acceptances may come in either order. -/
theorem closure_final_sample :
    contractState (step refusedFirst (answer .first .refused)) proposedId = some .refused ∧
      OrderIrrelevant sampleProposed proposedId (answer .first .accepted) (answer .second .accepted)
        .accepted .accepted := by
  constructor
  · have hrefused := refusedFirst_states.1
    refine ((closure_final_iff refusedFirst proposedId).1 (agentOf .first) (answerMessage .first .refused) .refused
      hrefused (.inl rfl)).mpr ?_
    rintro ⟨-, session, contract, side, haccepted, -, hother⟩
    have hfind := haccepted.registered
    rw [answerMessage_contract] at hfind
    rw [contractState, hfind, Option.map_some, Option.some.injEq] at hrefused
    exact hother ⟨rfl, hrefused⟩
  · obtain ⟨contract, hfresh⟩ := proposed_fresh
    obtain ⟨session, hfirst⟩ := answer_accepted hfresh.registered .first .accepted
    obtain ⟨session', hsecond⟩ := answer_accepted hfresh.registered .second .accepted
    rw [answer_eq, answer_eq]
    exact ((closure_final_iff sampleProposed proposedId).2 contract hfresh _ _ _ _ session session'
      (answerMessage_contract _ _) (answerMessage_contract _ _) hfirst hsecond).mpr rfl

/-- A refused contract is open again once the other side accepts, and the other order gives another
state. -/
theorem refused_contract_reopens :
    Started sampleLaunch {} sampleProcess ∧
      (contractState refusedFirst proposedId = some .refused ∧
        contractState (step refusedFirst (answer .second .accepted)) proposedId = some .awaitingConsent) ∧
      ¬OrderIrrelevant sampleProposed proposedId (answer .first .refused) (answer .second .accepted)
        .refused .accepted := by
  have hstates := refusedFirst_states
  refine ⟨sampleProcess_started, hstates, fun h => ?_⟩
  have hstate : contractState (run sampleProposed [answer .first .refused, answer .second .accepted]) proposedId =
      some .awaitingConsent := by
    rw [refusedFirst, run_cons, run_nil] at hstates
    rw [run_cons, run_cons, run_nil]
    exact hstates.2
  rw [h.1] at hstate
  cases hstate

end InterClusterFabric.RuntimeConsents
