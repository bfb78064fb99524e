import InterClusterFabric.RuntimeConsents

/-! The bindings of a recorded consent. A consent that repeats the recorded one is passed over, and what counts as
the same leaves out two of the things a consent is bound to. -/
namespace InterClusterFabric.RuntimeBindings
open CoreStatus CoreIds CoreTime ModelRecords ModelRegistry EngineSoundness WireMessages RuntimeCoordinator
open RuntimeHandlers RuntimeRun RuntimeSteps RuntimeStepsHandlers RuntimeStart RuntimeConsents LibraryProgram

/-- The record carries what the message says and is bound to. -/
structure Carries (record : ConsentRecord) (message : ContractConsentMessage) : Prop where
  decision : record.decision = message.decision
  terms : record.termsDigest = message.termsDigest
  incarnation : record.incarnation = message.incarnation
  generation : record.generation = message.generation
  policyGeneration : record.policyGeneration = message.policyGeneration

/-- The record of one side carries what the message says. -/
def RecordedAs (s : Coordinator) (side : Side) (message : ContractConsentMessage) : Prop :=
  ∃ contract record, s.registry.contracts[message.contract]? = some contract ∧
    contract.consents.get side = some record ∧ Carries record message

/-- The recorded consent has the decision, the terms and the generation of the message, but another incarnation or
policy generation. -/
def PassedOver (contract : ContractRecord) (side : Side) (message : ContractConsentMessage) : Prop :=
  ∃ existing, contract.consents.get side = some existing ∧ existing.decision = message.decision ∧
    existing.termsDigest = message.termsDigest ∧ existing.generation = message.generation ∧
    (existing.incarnation ≠ message.incarnation ∨ existing.policyGeneration ≠ message.policyGeneration)

section Recording

variable {s : Coordinator} {connection : ℕ} {message : ContractConsentMessage} {session : PeerSession}
  {contract : ContractRecord} {side : Side}

lemma recordedAs_of_recorded {s s' : Coordinator} (h : Recorded s s') (side : Side) (message : ContractConsentMessage) :
    RecordedAs s' side message ↔ RecordedAs s side message := by
  obtain ⟨audit, haudit⟩ := h.trail
  rw [RecordedAs, RecordedAs, haudit]

/-- A new consent is recorded with its bindings. -/
lemma recordedAs_of_new (h : ConsentAccepted s connection message session contract side)
    (hnew : ¬Repeated contract side message) : RecordedAs (onContractConsent connection message s).2 side message := by
  obtain ⟨decidedAt, updatedAt, registry, rfl, hrecorded⟩ := consent_recorded h hnew
  refine (recordedAs_of_recorded hrecorded side message).mpr
    ⟨consented contract side (consentRecord session message decidedAt) updatedAt,
      consentRecord session message decidedAt, Std.ExtTreeMap.getElem?_insert_self, ?_, rfl, rfl, rfl, rfl, rfl⟩
  show (contract.consents.set side _).get side = _
  rw [PerSide.get_set, if_pos rfl]

/-- A repeated one leaves the record it repeats. -/
lemma recordedAs_of_repeated (h : ConsentAccepted s connection message session contract side)
    (hrepeated : Repeated contract side message) :
    RecordedAs (onContractConsent connection message s).2 side message ↔ RecordedAs s side message := by
  refine recordedAs_of_recorded (consent_ignored fun session' contract' side' h' => ?_) side message
  have hcontract : contract' = contract := by
    have hfind := h'.registered
    rw [h.registered] at hfind
    exact (Option.some.inj hfind).symm
  have hsession : session' = session := by
    have hopen := h'.speaks.open_
    rw [h.speaks.open_] at hopen
    exact (Option.some.inj hopen).symm
  have hside : side' = side := by
    have hparty := h'.party
    rw [hcontract, hsession, h.party] at hparty
    exact (Option.some.inj hparty).symm
  rw [hcontract, hside]
  exact hrepeated

end Recording

/-! What becomes of a consent that is not accepted. -/

/-- The program ends in an error report to the speaker, or fails before it can send one. -/
def EndsInError (connection : ℕ) (p : Op Unit) (s : Coordinator) : Prop :=
  (∃ s₁ outcome detail, p s = sendError connection 0 outcome detail s₁) ∨ ∃ status, (p s).1 = .error status

section Refused

variable {s : Coordinator} {connection : ℕ}

lemma endsInError_sendError (outcome : Outcome) (detail : Bytes) :
    EndsInError connection (sendError connection 0 outcome detail) s :=
  .inl ⟨s, outcome, detail, rfl⟩

/-- What comes before the report may fail, and nothing else. -/
lemma endsInError_after {α : Type} {p : Op α} {f : α → Op Unit} (h : ∀ a s', EndsInError connection (f a) s') :
    EndsInError connection (p >>= f) s := by
  cases hp : p s with
  | mk result s' =>
    cases result with
    | ok a =>
      unfold EndsInError
      rw [Program.bind_ok hp]
      exact h a s'
    | error status => exact .inr ⟨status, by rw [Program.bind_error hp]⟩

lemma endsInError_of_run {p q : Op Unit} (h : p s = q s) (hq : EndsInError connection q s) :
    EndsInError connection p s := by
  unfold EndsInError
  rw [h]
  exact hq

/-- A consent that some check refuses is answered with an error. -/
lemma endsInError_of_refused {message : ContractConsentMessage}
    (h : ∀ session contract side, ¬ConsentAccepted s connection message session contract side) :
    EndsInError connection (onContractConsent connection message) s := by
  have hreplay (outcome : Outcome) (detail : Bytes) (s : Coordinator) :
      EndsInError connection (do countReplay; sendError connection 0 outcome detail) s :=
    endsInError_after fun _ _ => endsInError_sendError outcome detail
  cases hfault : sessionFault s.sessions[connection]? message.session with
  | some status =>
    refine endsInError_of_run ?_ (hreplay status.outcome status.message s)
    unfold onContractConsent withSession
    rw [Program.get_bind_run]
    simp only [hfault]
  | none =>
    obtain ⟨session, hsession⟩ : ∃ session, s.sessions[connection]? = some session := by
      cases hsession : s.sessions[connection]? with
      | none =>
        rw [hsession] at hfault
        cases hfault
      | some session => exact ⟨session, rfl⟩
    have hspeaks : SpeaksAs s connection message.session session := ⟨hsession, by rwa [hsession] at hfault⟩
    refine endsInError_of_run (withSession_run hspeaks _) ?_
    split
    · exact endsInError_sendError _ _
    rename_i hrole
    refine endsInError_of_run (Program.get_bind_run _ s) ?_
    split
    · exact endsInError_sendError _ _
    rename_i contract hfind
    split
    · exact endsInError_sendError _ _
    rename_i side hside
    split
    · exact endsInError_after fun _ _ => endsInError_sendError _ _
    rename_i hterms
    split
    · exact endsInError_sendError _ _
    rename_i hendpoint
    split
    · exact hreplay _ _ s
    rename_i hcurrent
    obtain ⟨hincarnation, hgeneration⟩ := not_or.mp hcurrent
    exact absurd ⟨hspeaks, not_not.mp hrole, hfind, hside, not_not.mp hterms, not_not.mp hendpoint,
      not_not.mp hincarnation, not_not.mp hgeneration⟩ (h session contract side)

end Refused

/-- A consent that is not answered with an error is recorded with its bindings, exactly unless the recorded one
differs from it in nothing but the incarnation or the policy generation. -/
theorem accepted_consent_recorded_iff (s : Coordinator) (connection : ℕ) (message : ContractConsentMessage) :
    (EndsInError connection (onContractConsent connection message) s ∨
      ∃ session contract side, ConsentAccepted s connection message session contract side) ∧
    ∀ session contract side, ConsentAccepted s connection message session contract side →
      (RecordedAs (step s (.message connection (.contractConsent message))) side message ↔
        ¬PassedOver contract side message) := by
  constructor
  · by_cases haccepted : ∃ session contract side, ConsentAccepted s connection message session contract side
    · exact .inr haccepted
    · exact .inl (endsInError_of_refused fun session contract side h => haccepted ⟨session, contract, side, h⟩)
  · intro session contract side h
    change RecordedAs (onContractConsent connection message s).2 side message ↔ _
    by_cases hrepeated : Repeated contract side message
    · rw [recordedAs_of_repeated h hrepeated]
      obtain ⟨existing, hexisting, hdecision, hterms, hgeneration⟩ := hrepeated
      constructor
      · rintro ⟨contract', record, hfind, hrecord, hcarries⟩ ⟨existing', hexisting', -, -, -, hother⟩
        rw [h.registered] at hfind
        rw [← Option.some.inj hfind, hexisting'] at hrecord
        rw [Option.some.inj hrecord] at hother
        rcases hother with hincarnation | hpolicy
        · exact hincarnation hcarries.incarnation
        · exact hpolicy hcarries.policyGeneration
      · intro hkept
        refine ⟨contract, existing, h.registered, hexisting, hdecision, hterms, ?_, hgeneration, ?_⟩
        · by_contra hincarnation
          exact hkept ⟨existing, hexisting, hdecision, hterms, hgeneration, .inl hincarnation⟩
        · by_contra hpolicy
          exact hkept ⟨existing, hexisting, hdecision, hterms, hgeneration, .inr hpolicy⟩
    · refine iff_of_true (recordedAs_of_new h hrepeated) ?_
      rintro ⟨existing, hexisting, hdecision, hterms, hgeneration, -⟩
      exact hrepeated ⟨existing, hexisting, hdecision, hterms, hgeneration⟩

/-! A consent given again under another policy generation. -/

/-- The same consent under another policy generation. -/
def renewed (message : ContractConsentMessage) (policyGeneration : PolicyGeneration) : ContractConsentMessage :=
  { message with policyGeneration }

section Renewal

variable {s : Coordinator} {connection : ℕ} {message : ContractConsentMessage} {session : PeerSession}
  {contract : ContractRecord} {side : Side}

/-- Given after a consent that was recorded, it passes every check and finds that consent on record. -/
lemma renewed_accepted (h : ConsentAccepted s connection message session contract side)
    (hnew : ¬Repeated contract side message) (policyGeneration : PolicyGeneration) : ∃ contract₁ record,
      ConsentAccepted (onContractConsent connection message s).2 connection (renewed message policyGeneration) session
        contract₁ side ∧
      contract₁.consents.get side = some record ∧ Carries record message := by
  obtain ⟨decidedAt, updatedAt, registry, rfl, hrecorded⟩ := consent_recorded h hnew
  obtain ⟨audit, haudit⟩ := hrecorded.trail
  refine ⟨consented contract side (consentRecord session message decidedAt) updatedAt,
    consentRecord session message decidedAt, ⟨⟨?_, h.speaks.valid⟩, h.role, ?_, h.party, h.terms, h.endpoint, h.current⟩,
    ?_, rfl, rfl, rfl, rfl, rfl⟩
  · rw [hrecorded.sessions]
    exact h.speaks.open_
  · rw [haudit]
    exact Std.ExtTreeMap.getElem?_insert_self
  · show (contract.consents.set side _).get side = _
    rw [PerSide.get_set, if_pos rfl]

/-- It is then passed over, and the policy generation of the first one stays on record. -/
lemma renewed_passed_over (h : ConsentAccepted s connection message session contract side)
    (hnew : ¬Repeated contract side message) {policyGeneration : PolicyGeneration}
    (hother : policyGeneration ≠ message.policyGeneration) :
    ¬RecordedAs (run s [.message connection (.contractConsent message),
      .message connection (.contractConsent (renewed message policyGeneration))]) side
        (renewed message policyGeneration) := by
  obtain ⟨contract₁, record, haccepted, hrecord, hcarries⟩ := renewed_accepted h hnew policyGeneration
  intro hrecorded
  have hrepeated : Repeated contract₁ side (renewed message policyGeneration) :=
    ⟨record, hrecord, hcarries.decision, hcarries.terms, hcarries.generation⟩
  obtain ⟨contract', record', hfind, hrecord', hcarries'⟩ := (recordedAs_of_repeated haccepted hrepeated).mp hrecorded
  rw [haccepted.registered] at hfind
  rw [← Option.some.inj hfind, hrecord] at hrecord'
  have hgeneration := hcarries.policyGeneration
  rw [Option.some.inj hrecord', hcarries'.policyGeneration] at hgeneration
  exact hother hgeneration

end Renewal

/-! The first agent of the sample run accepts, and again under a newer policy generation. -/

lemma first_answer_new {contract : ContractRecord} (h : Fresh sampleProposed proposedId contract)
    (message : ContractConsentMessage) : ¬Repeated contract .first message := by
  rintro ⟨existing, hexisting, -⟩
  rw [h.consents] at hexisting
  cases hexisting

lemma step_consent (s : Coordinator) (connection : ℕ) (message : ContractConsentMessage) :
    step s (.message connection (.contractConsent message)) = (onContractConsent connection message s).2 := rfl

theorem first_acceptance_recorded :
    RecordedAs (step sampleProposed (answer .first .accepted)) .first (answerMessage .first .accepted) := by
  obtain ⟨contract, hfresh⟩ := proposed_fresh
  obtain ⟨session, haccepted⟩ := answer_accepted hfresh.registered .first .accepted
  rw [answer_eq]
  refine ((accepted_consent_recorded_iff _ _ _).2 session contract .first haccepted).mpr ?_
  rintro ⟨existing, hexisting, hdecision, hterms, hgeneration, -⟩
  exact first_answer_new hfresh _ ⟨existing, hexisting, hdecision, hterms, hgeneration⟩

/-- The renewed consent passes the checks and is not recorded. -/
theorem renewed_consent_lost : Started sampleLaunch {} sampleProcess ∧
    (∃ session contract, ConsentAccepted (step sampleProposed (answer .first .accepted)) (agentOf .first)
      (renewed (answerMessage .first .accepted) ⟨1⟩) session contract .first) ∧
    ¬RecordedAs (run sampleProposed [answer .first .accepted,
      .message (agentOf .first) (.contractConsent (renewed (answerMessage .first .accepted) ⟨1⟩))]) .first
        (renewed (answerMessage .first .accepted) ⟨1⟩) := by
  obtain ⟨contract, hfresh⟩ := proposed_fresh
  obtain ⟨session, haccepted⟩ := answer_accepted hfresh.registered .first .accepted
  have hnew := first_answer_new hfresh (answerMessage .first .accepted)
  obtain ⟨contract₁, -, haccepted₁, -⟩ := renewed_accepted haccepted hnew ⟨1⟩
  rw [answer_eq, step_consent]
  refine ⟨sampleProcess_started, ⟨session, contract₁, haccepted₁⟩, renewed_passed_over haccepted hnew ?_⟩
  simp [answerMessage]

end InterClusterFabric.RuntimeBindings
