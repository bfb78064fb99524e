import InterClusterFabric.RuntimeAgentRun
import InterClusterFabric.RuntimeCounters
import InterClusterFabric.WireExact

/-! The terms of a contract, from the request of an operator over the proposals to the consents of both agents: all of
them are about one digest. -/
namespace InterClusterFabric.RuntimeProposals
open CoreStatus CoreIds CoreTime CoreHash CoreBytes ModelRecords ModelCanonical ModelCanonicalReads ModelRegistry
open ModelRegistryLaws WireMessages WireRecords WireExact RuntimeCoordinator RuntimeAdmin RuntimeRun RuntimeSteps
open RuntimeStart RuntimeCounters EngineSoundness LibraryChecked LibraryOrdMap LibraryReader LibraryProgram
open RuntimeAgent (Agent AgentOp)
open RuntimeAgentRun (onProposeContract refuseTerms acceptTerms consentReply)

/-! Terms on the wire. -/

lemma decodeTerms_encode {terms : ContractTerms} (h : TermsInBounds terms) :
    decodeTerms.run terms.encodeTerms = .ok (terms, []) := by
  have hread := (terms_reads h).accept trivial []
  rwa [List.append_nil] at hread

lemma encodeTerms_injective {terms terms' : ContractTerms} (h : TermsInBounds terms) (h' : TermsInBounds terms')
    (heq : terms.encodeTerms = terms'.encodeTerms) : terms = terms' := by
  have hread := decodeTerms_encode h
  rw [heq, decodeTerms_encode h', Except.ok.injEq, Prod.mk.injEq] at hread
  exact hread.1.symm

lemma decodeProposeContract_encode {message : ProposeContractMessage} (h : TermsInBounds message.terms) :
    WireCodec.decodeProposeContract.run (WireCodec.encodeProposeContract message) = .ok (message, []) :=
  (toEnd_exact (proposeContract_reads h)).returns

/-- Terms that are valid can be sent, if the generations they are bound to can. -/
lemma termsInBounds {contract : ContractRecord} {source target : ClusterRecord} (hsource : Sendable source)
    (htarget : Sendable target) (hvalid : (contractTerms contract source target).validate = .ok ()) :
    TermsInBounds (contractTerms contract source target) := by
  simp only [ContractTerms.validate, rejectIf_bind_eq_ok, rejectIf_eq_ok, name_isEmpty_iff, not_or,
    UInt64.not_lt] at hvalid
  obtain ⟨hcluster, -, hendpoint, hdomain, hcapacity, ⟨hpositive, hlease⟩, -⟩ := hvalid
  refine ⟨⟨hcluster.1, hendpoint.1, hdomain.1⟩, ⟨hcluster.2, hendpoint.2, hdomain.2⟩, hcapacity, ⟨?_, hlease⟩,
    hsource.generation, htarget.generation, hsource.policyGeneration, htarget.policyGeneration⟩
  simpa [Duration.isNegative] using hpositive

/-! The proposals. -/

section Coordinator

variable {s : Coordinator}

/-- A message is queued, or dropped, or the sending fails. -/
lemma send_posts (connection : ℕ) (message : Outbound) : Steps Recorded (send connection message) s fun _ s' =>
    ∃ sent, s'.outbox = s.outbox ++ sent ∧ sent.Sublist [(connection, message)] := by
  unfold send
  split
  · exact Steps.pure ⟨[], by simp, by simp⟩
  refine (moment_keeps.weaken fun _ => Kept.recorded).bind fun m s₁ _ h₁ => ?_
  obtain ⟨-, -, rfl⟩ := h₁
  split
  · exact Steps.pure ⟨[], by simp, by simp⟩
  · exact Steps.throw
  · exact Steps.modify ⟨⟨rfl, rfl, rfl, rfl, rfl, le_rfl⟩, ⟨_, rfl⟩, rfl, rfl⟩ ⟨_, rfl, List.Sublist.refl _⟩

/-- Where the proposal to a party goes. -/
def recipient (s : Coordinator) (party : PartyRef) : SendTarget := targetFor s.sessions party.cluster

/-- The proposal of a contract under its terms, to the agent of a party that is connected. -/
structure ProposedTo (s : Coordinator) (contract : ContractRecord) (terms : ContractTerms) (party : PartyRef)
    (message : ProposeContractMessage) : Prop where
  connected : (recipient s party).connected = true
  session : message.session = (recipient s party).token
  contract : message.contract = contract.id
  terms : message.terms = terms

lemma proposeTo_posts {contract : ContractRecord} {terms : ContractTerms} (connected : Bool) (party : PartyRef)
    (hterms : proposalTerms s.registry contract = some terms) :
    Steps Recorded (proposeTo contract connected party) s fun all s' => all = true → connected = true ∧
      ∃ message sent, ProposedTo s contract terms party message ∧ s'.outbox = s.outbox ++ sent ∧
        sent.Sublist [((recipient s party).connectionId, .proposeContract message)] := by
  refine Steps.get_bind ?_
  dsimp only
  split
  · exact Steps.pure (by simp)
  rename_i hconnected
  rw [hterms]
  refine (random_notes.weaken fun _ => Noted.toRecorded).bind fun attempt s₁ _ h₁ => ?_
  refine (send_posts _ _).bind fun _ s₂ _ h₂ => Steps.pure fun hall => ⟨hall, ?_⟩
  obtain ⟨sent, hsent, hsublist⟩ := h₂
  refine ⟨_, sent, ⟨by simpa [recipient] using hconnected, rfl, rfl, rfl⟩, ?_, hsublist⟩
  rw [hsent, h₁.1.outbox]

lemma clusters_of_recorded {s s' : Coordinator} (h : Recorded s s') : s'.registry.clusters = s.registry.clusters := by
  obtain ⟨audit, haudit⟩ := h.trail
  rw [haudit]

lemma proposalTerms_congr {registry registry' : Registry} (h : registry'.clusters = registry.clusters)
    (contract : ContractRecord) : proposalTerms registry' contract = proposalTerms registry contract := by
  unfold proposalTerms
  rw [h]

/-- When both agents are connected each of them is sent the terms. -/
lemma proposeContractToAgents_posts {contract : ContractRecord} {terms : ContractTerms}
    (hterms : proposalTerms s.registry contract = some terms) :
    Steps Recorded (proposeContractToAgents contract) s fun _ s' => ∃ messages : PerSide ProposeContractMessage, ∃ sent,
      (∀ side, ProposedTo s contract terms (contract.parties.get side) (messages.get side)) ∧
      s'.outbox = s.outbox ++ sent ∧
      sent.Sublist [((recipient s contract.parties.first).connectionId, .proposeContract messages.first),
        ((recipient s contract.parties.second).connectionId, .proposeContract messages.second)] := by
  have hboth : Steps Recorded (Program.foldEach [contract.parties.first, contract.parties.second] true
      (proposeTo contract)) s fun all s' => all = true → ∃ messages : PerSide ProposeContractMessage, ∃ sent,
        (∀ side, ProposedTo s contract terms (contract.parties.get side) (messages.get side)) ∧
        s'.outbox = s.outbox ++ sent ∧
        sent.Sublist [((recipient s contract.parties.first).connectionId, .proposeContract messages.first),
          ((recipient s contract.parties.second).connectionId, .proposeContract messages.second)] := by
    refine (proposeTo_posts true contract.parties.first hterms).bind fun first s₁ h₁ hfirst => ?_
    have hterms₁ : proposalTerms s₁.registry contract = some terms :=
      (proposalTerms_congr (clusters_of_recorded h₁) contract).trans hterms
    refine (proposeTo_posts first contract.parties.second hterms₁).bind fun all s₂ _ hsecond =>
      Steps.pure fun hall => ?_
    obtain ⟨hfirstAll, message', sent', hproposed', hsent', hsublist'⟩ := hsecond hall
    obtain ⟨-, message, sent, hproposed, hsent, hsublist⟩ := hfirst hfirstAll
    have hrecipient (party : PartyRef) : recipient s₁ party = recipient s party := by rw [recipient, recipient, h₁.sessions]
    refine ⟨⟨message, message'⟩, sent ++ sent', fun side => ?_, by rw [hsent', hsent, List.append_assoc], ?_⟩
    · cases side with
      | first => exact hproposed
      | second =>
        obtain ⟨hconnected, hsession, hcontract, hterms'⟩ := hproposed'
        rw [hrecipient] at hconnected hsession
        exact ⟨hconnected, hsession, hcontract, hterms'⟩
    · rw [hrecipient] at hsublist'
      exact hsublist.append hsublist'
  refine hboth.bind fun all s₁ _ hall => ?_
  split
  · rename_i hconnected
    exact Steps.pure (hall hconnected)
  · exact Steps.throw

lemma onRegistry_returns {f : Registry → Result Registry} : Steps.Returns (onRegistry (Program.update f)) s
    fun _ s' => ∃ registry, f s.registry = .ok registry ∧ s' = { s with registry } := by
  refine ⟨trivial, fun _ hok => ?_⟩
  cases hf : f s.registry with
  | error status =>
    rw [onRegistry_error hf] at hok
    cases hok
  | ok registry => exact ⟨registry, rfl, by rw [onRegistry_ok hf]⟩

lemma contracts_of_recorded {s s' : Coordinator} (h : Recorded s s') : s'.registry.contracts = s.registry.contracts := by
  obtain ⟨audit, haudit⟩ := h.trail
  rw [haudit]

lemma ProposedTo.of_sessions {s' : Coordinator} {contract : ContractRecord} {terms : ContractTerms} {party : PartyRef}
    {message : ProposeContractMessage} (h : ProposedTo s' contract terms party message)
    (hsessions : s'.sessions = s.sessions) : ProposedTo s contract terms party message := by
  obtain ⟨hconnected, hsession, hcontract, hterms⟩ := h
  rw [recipient, hsessions] at hconnected hsession
  exact ⟨hconnected, hsession, hcontract, hterms⟩

/-- The contract that an accepted request proposes is stored under the digest of the terms that are proposed. -/
lemma applyContractProposal_posts (hformed : WellFormed s.registry) (hsendable : AllSendable s.registry)
    (request : AdminMessage) : Steps.Returns (applyContractProposal request) s fun result s' =>
      ∃ contract terms, ∃ messages : PerSide ProposeContractMessage, ∃ sent,
        result.contract = contract.id ∧ s'.registry.contracts[contract.id]? = some contract ∧
        contract.termsDigest = terms.digest ∧ TermsInBounds terms ∧
        (∀ side, ProposedTo s contract terms (contract.parties.get side) (messages.get side)) ∧
        s'.outbox = s.outbox ++ sent ∧
        sent.Sublist [((recipient s contract.parties.first).connectionId, .proposeContract messages.first),
          ((recipient s contract.parties.second).connectionId, .proposeContract messages.second)] := by
  refine Steps.get_bind ?_
  split
  · exact Steps.throw
  split
  swap
  · exact Steps.throw
  rename_i source target hsource htarget
  obtain ⟨hsourceKey, -⟩ := find_cluster hformed hsource
  obtain ⟨htargetKey, -⟩ := find_cluster hformed htarget
  refine Steps.bind random_notes.toReturns fun id s₁ _ h₁ => Steps.bind now_notes.toReturns fun createdAt s₂ _ h₂ => ?_
  dsimp only
  set contract := proposedContract s.config request id source target createdAt with hcontract
  refine Steps.bind (P := fun _ s₃ => s₃ = s₂ ∧ (contractTerms contract source target).validate = .ok ())
    (Steps.ofResult fun _ hvalid => ⟨rfl, hvalid⟩) fun _ s₃ _ h₃ => ?_
  obtain ⟨rfl, hvalid⟩ := h₃
  set terms := contractTerms contract source target with hterms
  set recorded : ContractRecord := { contract with termsDigest := terms.digest } with hrecorded
  refine Steps.bind onRegistry_returns fun _ s₄ _ h₄ => ?_
  obtain ⟨registry, hput, rfl⟩ := h₄
  obtain ⟨-, -, hstored⟩ := putContract_eq_ok.mp hput
  refine Steps.bind (appendMutation_notes _).toReturns fun _ s₅ _ h₅ =>
    Steps.bind (appendAudit_notes _ _ _ _ _).toReturns fun _ s₆ _ h₆ => ?_
  have hlogged : Noted { s₃ with registry } s₆ := IsTrans.trans _ _ _ h₅.1 h₆.1
  have hbegun : Noted s s₃ := IsTrans.trans _ _ _ h₁.1 h₂.1
  have hclusters : s₆.registry.clusters = s.registry.clusters := by
    rw [clusters_of_recorded hlogged.toRecorded, ← clusters_of_recorded hbegun.toRecorded, hstored]
    rfl
  have hproposal : proposalTerms s₆.registry recorded = some terms := by
    have hfirst : recorded.parties.first.cluster = request.clusterId := hsourceKey
    have hsecond : recorded.parties.second.cluster = request.clusterB := htargetKey
    rw [proposalTerms, hclusters, hfirst, hsecond, hsource, htarget]
    rfl
  refine Steps.bind (proposeContractToAgents_posts hproposal).toReturns fun _ s₇ _ h₇ => Steps.pure ?_
  obtain ⟨h₇, messages, sent, hproposed, hsent, hsublist⟩ := h₇
  have hsessions : s₆.sessions = s.sessions := hlogged.sessions.trans hbegun.sessions
  refine ⟨recorded, terms, messages, sent, rfl, ?_, rfl, ?_, fun side => (hproposed side).of_sessions hsessions, ?_, ?_⟩
  · rw [contracts_of_recorded h₇, contracts_of_recorded hlogged.toRecorded, hstored]
    exact Std.ExtTreeMap.getElem?_insert_self
  · exact termsInBounds (hsendable _ _ hsource) (hsendable _ _ htarget) hvalid
  · rw [hsent, hlogged.outbox]
    congr 1
    exact hbegun.outbox
  · simpa only [recipient, hsessions] using hsublist

end Coordinator

/-! The consents. -/

/-- A consent to a contract under the digest of its terms. -/
def Names (contract : ContractId) (digest : Digest) : Inbound → Prop
  | .contractConsent consent => consent.contract = contract ∧ consent.termsDigest = digest
  | _ => False

/-- What the agent has queued are consents about one contract and one digest. -/
def Answers (contract : ContractId) (digest : Digest) (a a' : Agent) : Prop :=
  ∃ sent, a'.outbox = a.outbox ++ sent ∧ ∀ message ∈ sent, Names contract digest message

section Agent

variable {contract : ContractId} {digest : Digest} {a : Agent}

instance : Std.Refl (Answers contract digest) := ⟨fun _ => ⟨[], by simp, by simp⟩⟩

instance : IsTrans Agent (Answers contract digest) where
  trans _ _ _ h h' := by
    obtain ⟨sent, hsent, hnames⟩ := h
    obtain ⟨sent', hsent', hnames'⟩ := h'
    refine ⟨sent ++ sent', by rw [hsent', hsent, List.append_assoc], fun message hmessage => ?_⟩
    rcases List.mem_append.mp hmessage with hmem | hmem
    · exact hnames message hmem
    · exact hnames' message hmem

/-- Nothing is queued. -/
lemma answers_of_outbox {a' : Agent} (h : a'.outbox = a.outbox) : Answers contract digest a a' :=
  ⟨[], by rw [h, List.append_nil], by simp⟩

lemma moment_answers : Steps (Answers contract digest) RuntimeAgent.moment a fun _ _ => True :=
  ⟨answers_of_outbox rfl, fun _ _ => trivial⟩

lemma now_answers : Steps (Answers contract digest) RuntimeAgent.now a fun _ _ => True :=
  moment_answers.bind fun _ _ _ _ => Steps.pure trivial

lemma appendMutation_answers (mutation : StoreMutation.Mutation) :
    Steps (Answers contract digest) (RuntimeAgent.appendMutation mutation) a fun _ _ => True :=
  moment_answers.bind fun _ _ _ _ => ⟨answers_of_outbox rfl, fun _ _ => trivial⟩

lemma onRegistry_answers (p : Program Registry Status Unit) : Steps (Answers contract digest)
    (Program.focus Agent.registry (fun a registry => { a with registry }) p) a fun _ _ => True :=
  ⟨answers_of_outbox rfl, fun _ _ => trivial⟩

lemma appendAudit_answers (action : String) (subject : Bytes) (outcome : Outcome) (detail : Bytes) :
    Steps (Answers contract digest) (RuntimeAgent.appendAudit action subject outcome detail) a fun _ _ => True := by
  refine Steps.get_bind ?_
  split
  · exact Steps.pure trivial
  refine now_answers.bind fun _ _ _ _ => (onRegistry_answers _).bind fun _ _ _ _ => Steps.get_bind ?_
  exact Steps.forEach trivial fun _ _ _ _ _ => appendMutation_answers _

lemma sendMessage_answers {message : Inbound} (h : Names contract digest message) :
    Steps (Answers contract digest) (RuntimeAgent.sendMessage message) a fun _ _ => True := by
  refine Steps.get_bind ?_
  split
  · exact Steps.throw
  refine moment_answers.bind fun m _ _ _ => ?_
  split
  · exact Steps.throw
  · exact Steps.throw
  · exact Steps.modify ⟨[message], rfl, by simpa using h⟩ trivial

lemma refuseTerms_answers {consent : ContractConsentMessage} (h : Names contract digest (.contractConsent consent))
    (reason : Bytes) : Steps (Answers contract digest) (refuseTerms consent reason) a fun _ _ => True :=
  Steps.modify_bind (answers_of_outbox rfl) (sendMessage_answers h)

lemma acceptTerms_answers (side : Side) (message : ProposeContractMessage) :
    Steps (Answers message.contract message.terms.digest) (acceptTerms side message) a fun _ _ => True := by
  refine now_answers.bind fun _ _ _ _ => now_answers.bind fun _ _ _ _ => now_answers.bind fun _ _ _ _ =>
    now_answers.bind fun _ _ _ _ => Steps.get_bind ?_
  refine (onRegistry_answers _).bind fun _ _ _ _ => (appendMutation_answers _).bind fun _ _ _ _ => ?_
  exact (appendAudit_answers _ _ _ _).bind fun _ _ _ _ => sendMessage_answers ⟨rfl, rfl⟩

/-- Whether it refuses or accepts, an agent answers a proposal under the digest of the terms it was sent. -/
lemma onProposeContract_answers (message : ProposeContractMessage) :
    Steps (Answers message.contract message.terms.digest) (onProposeContract message) a fun _ _ => True := by
  have hreply : Names message.contract message.terms.digest (.contractConsent (consentReply a message)) := ⟨rfl, rfl⟩
  refine Steps.get_bind ?_
  split
  · exact refuseTerms_answers hreply _
  split
  · exact refuseTerms_answers hreply _
  · exact acceptTerms_answers _ _

end Agent

/-- A proposal that reaches the agent of its party carries terms under the digest of the contract, and so do the
consents that answer it. -/
structure Delivers (s : Coordinator) (contract : ContractRecord) (party : PartyRef) (message : ProposeContractMessage) :
    Prop where
  connected : (recipient s party).connected = true
  session : message.session = (recipient s party).token
  arrives : ∃ received,
    WireCodec.decodeProposeContract.run (WireCodec.encodeProposeContract message) = .ok (received, []) ∧
    received.terms.digest = contract.termsDigest ∧
    ∀ a : Agent, Answers contract.id contract.termsDigest a (onProposeContract received a).2

lemma ProposedTo.delivers {s : Coordinator} {contract : ContractRecord} {terms : ContractTerms} {party : PartyRef}
    {message : ProposeContractMessage} (h : ProposedTo s contract terms party message)
    (hdigest : contract.termsDigest = terms.digest) (hbounds : TermsInBounds terms) :
    Delivers s contract party message := by
  obtain ⟨hconnected, hsession, hcontract, hterms⟩ := h
  refine ⟨hconnected, hsession, message, decodeProposeContract_encode (by rwa [hterms]), by rw [hterms, hdigest], ?_⟩
  intro a
  rw [hdigest, ← hterms, ← hcontract]
  exact (onProposeContract_answers message).related

/-- Terms are what their encoding says, and a contract that a process under decoded traffic proposes is stored under the
digest of the terms that both agents are sent, receive and answer. -/
theorem terms_agreed :
    (∀ terms, TermsInBounds terms → decodeTerms.run terms.encodeTerms = .ok (terms, [])) ∧
    (∀ terms terms', TermsInBounds terms → TermsInBounds terms' → terms.encodeTerms = terms'.encodeTerms →
      terms = terms') ∧
    ∀ (launch : Launch) (files : StoreDurable.Files) (s : Coordinator), Started launch files s →
      ∀ events : List Event, (∀ event ∈ events, FromWire event) →
      ∀ request : AdminMessage, request.action = .authorizeContract → ∀ result s',
      handleAdmin request (run s events) = (.ok result, s') →
      ∃ contract, s'.registry.contracts[result.contract]? = some contract ∧
        ∃ messages : PerSide ProposeContractMessage, ∃ sent, s'.outbox = (run s events).outbox ++ sent ∧
          sent.Sublist [
            ((recipient (run s events) contract.parties.first).connectionId, .proposeContract messages.first),
            ((recipient (run s events) contract.parties.second).connectionId, .proposeContract messages.second)] ∧
          ∀ side, Delivers (run s events) contract (contract.parties.get side) (messages.get side) := by
  refine ⟨fun _ => decodeTerms_encode, fun _ _ => encodeTerms_injective, ?_⟩
  intro launch files s hstarted events hwire request haction result s' hhandled
  have hrun : applyContractProposal request (run s events) = (.ok result, s') := by
    rw [← hhandled]
    simp only [handleAdmin, haction]
  have hposts := (applyContractProposal_posts (started_wellFormed hstarted events) (run_sendable hstarted hwire)
    request).returns
  rw [hrun] at hposts
  obtain ⟨contract, terms, messages, sent, hid, hstored, hdigest, hbounds, hproposed, houtbox, hsublist⟩ :=
    hposts result rfl
  rw [← hid] at hstored
  exact ⟨contract, hstored, messages, sent, houtbox, hsublist,
    fun side => (hproposed side).delivers hdigest hbounds⟩

/-! The clusters of the sample process are registered and its agents connected in frames, and a contract is proposed. -/

lemma sampleCluster_inBounds (side : Side) : ClusterInBounds (sampleCluster side) := by
  refine ⟨?_, by cases side <;> decide⟩
  simp only [ClusterStorable, EndpointStorable, ProvenanceStorable]
  cases side <;> decide

lemma registering_decoded (side : Side) :
    Decoded (.admin { action := .upsertCluster, cluster := some (sampleCluster side) }) := by
  have hbounds : AdminInBounds { action := .upsertCluster, cluster := some (sampleCluster side) } :=
    { cluster := fun record hrecord => by
        cases hrecord
        exact sampleCluster_inBounds side
      link := by simp
      path := by simp
      policy := by simp
      policyId := ⟨Nat.zero_le _, rfl⟩
      generation := by cases side <;> decide
      capacity := by cases side <;> decide
      lease := by cases side <;> decide
      reason := ⟨Nat.zero_le _, rfl⟩ }
  have hread := (toEnd_exact (admin_reads hbounds)).returns
  have hsorted : WireExact.sorted (sampleCluster side) = sampleCluster side := by cases side <;> rfl
  simp only [Option.map_some, hsorted] at hread
  exact ⟨_, hread⟩

lemma greeting_decoded (side : Side) : Decoded (.hello (sampleHello side)) := by
  have hbounds : HelloInBounds { toHelloMessage := sampleHello side } := by
    constructor <;> cases side <;> decide
  exact ⟨_, _, (toEnd_exact (hello_reads hbounds)).returns, rfl⟩

lemma connectAgents_decoded : ∀ event ∈ connectAgents, FromWire event := by
  intro event hevent connection frame heq
  simp only [connectAgents, List.mem_cons, List.not_mem_nil, or_false] at hevent
  rcases hevent with rfl | rfl | rfl | rfl <;> cases heq
  · exact registering_decoded .first
  · exact registering_decoded .second
  · exact greeting_decoded .first
  · exact greeting_decoded .second

def sampleRequest : AdminMessage where
  action := .authorizeContract
  clusterId := (sampleParty .first).cluster
  clusterB := (sampleParty .second).cluster
  endpoint := (sampleParty .first).endpoint
  endpointB := (sampleParty .second).endpoint
  capacity := ⟨4⟩

theorem sample_terms_agreed : ∃ result s' contract, ∃ messages : PerSide ProposeContractMessage,
    handleAdmin sampleRequest (run sampleProcess connectAgents) = (.ok result, s') ∧
    s'.registry.contracts[result.contract]? = some contract ∧
    ∀ side, Delivers (run sampleProcess connectAgents) contract (contract.parties.get side) (messages.get side) := by
  have hok : (handleAdmin sampleRequest (run sampleProcess connectAgents)).1.toOption.isSome = true := by decide +kernel
  cases hrun : handleAdmin sampleRequest (run sampleProcess connectAgents) with
  | mk outcome s' =>
    rw [hrun] at hok
    cases outcome with
    | error status => cases hok
    | ok result =>
      obtain ⟨contract, hstored, messages, -, -, -, hdelivers⟩ := terms_agreed.2.2 sampleLaunch {} sampleProcess
        sampleProcess_started connectAgents connectAgents_decoded sampleRequest rfl result s' hrun
      exact ⟨result, s', contract, messages, rfl, hstored, hdelivers⟩

end InterClusterFabric.RuntimeProposals
