import InterClusterFabric.RuntimeAgentSafety

/-! The consent behind what an agent enforces. A grant is bound to what the agent is when it is
prepared; the consent to its contract was given earlier, and may have been given under another
generation. -/
namespace InterClusterFabric.RuntimeAgentConsents
open CoreStatus CoreIds CoreTime CoreHash ModelRecords ModelRegistry WireMessages StoreDurable
open RuntimeFencing RuntimeAgent RuntimeAgentRun RuntimeEnforcement RuntimeAgentSafety EngineSoundness
open LibraryChecked LibraryOrdMap LibraryProgram LibraryTrace

/-- The stored contract of a grant carries the agent's own consent to its terms, given under some
identity of the agent. -/
def ConsentedAs (a : Agent) (grant : GrantRecord) (holds : Side → ConsentRecord → Prop) : Prop :=
  ∃ contract side consent, a.registry.contracts[grant.contract]? = some contract ∧
    ownSide a.cluster contract = some side ∧ contract.consents.get side = some consent ∧
    consent.decision = .accepted ∧ consent.termsDigest = grant.termsDigest ∧ holds side consent

/-- The consent was given under what the agent is now. -/
def isCurrent (a : Agent) (consent : ConsentRecord) : Prop :=
  consent.incarnation = a.incarnation ∧ consent.generation = a.generation ∧
    consent.policyGeneration = a.policyGeneration

/-- The consent was given under what the grant is bound to on a side. -/
def isBoundTo (grant : GrantRecord) (side : Side) (consent : ConsentRecord) : Prop :=
  consent.incarnation = grant.incarnations.get side ∧ consent.generation = grant.generations.get side ∧
    consent.policyGeneration = grant.policies.get side

/-- The grant may be enforced, now or after a commit. -/
def standing : GrantState → Bool
  | .prepared | .active => true
  | _ => false

/-- The event rests on a current consent: a grant is prepared only under a consent that is current, and
a contract is agreed to anew only if the grants that stand on it have the same terms and are bound to
what the agent is now. -/
def RestsOnConsent (a : Agent) : Event → Prop
  | .message connection (.prepareGrant incoming) =>
    connection = a.coordinatorConnection → Accepts a incoming → ∀ contract side consent,
      a.registry.contracts[incoming.contract]? = some contract → ownSide a.cluster contract = some side →
      contract.consents.get side = some consent → isCurrent a consent
  | .message connection (.proposeContract message) =>
    connection = a.coordinatorConnection → ∀ side, sideAmong a.cluster message.terms.parties = some side →
      termsFault a side message.terms = none → ∀ (id : GrantId) grant, a.registry.grants[id]? = some grant →
      grant.contract = message.contract → standing grant.state = true →
        grant.termsDigest = message.terms.digest ∧ grant.incarnations.get side = a.incarnation ∧
          grant.generations.get side = a.generation ∧ grant.policies.get side = a.policyGeneration
  | _ => True

/-- Every grant that stands is bound to the identity its consent was given under. -/
def Consented (a : Agent) : Prop :=
  ∀ (id : GrantId) grant, a.registry.grants[id]? = some grant → standing grant.state = true →
    ConsentedAs a grant (isBoundTo grant)

lemma rests_of_standing {state : GrantState} (h : standing state = true) : restsOnProcess state = true := by
  cases state <;> first | rfl | cases h

lemma consented_of_retired {a : Agent} (h : Retired a) : Consented a := by
  intro id grant hgrant hstanding
  have hrests := h id grant hgrant
  rw [rests_of_standing hstanding] at hrests
  cases hrests

lemma open_of_standing {state : GrantState} (h : standing state = true) : closed state = false := by
  cases state <;> first | rfl | cases h

/-- What a fault-free request to prepare a grant finds. -/
lemma consent_of_prepare {a : Agent} {incoming : GrantRecord} (h : prepareFault a incoming = none) :
    ∃ contract side consent, a.registry.contracts[incoming.contract]? = some contract ∧
      ownSide a.cluster contract = some side ∧ contract.consents.get side = some consent ∧
      consent.decision = .accepted ∧ consent.termsDigest = incoming.termsDigest ∧
      incoming.incarnations.get side = a.incarnation ∧ incoming.generations.get side = a.generation ∧
      incoming.policies.get side = a.policyGeneration := by
  unfold prepareFault at h
  split at h
  · cases h
  rename_i contract hcontract
  split at h
  · cases h
  rename_i side hside
  split at h
  · cases h
  rename_i consent hconsent
  obtain ⟨hconsent, haccepted⟩ := Option.filter_eq_some_iff.mp hconsent
  split at h
  · cases h
  rename_i hterms
  split at h
  · cases h
  rename_i hbinding
  simp only [not_or, not_not] at hterms hbinding
  exact ⟨contract, side, consent, hcontract, hside, hconsent, of_decide_eq_true haccepted, hterms.1, hbinding⟩

lemma ConsentedAs.same {a a' : Agent} {grant : GrantRecord} {holds : Side → ConsentRecord → Prop}
    (h : ConsentedAs a grant holds) (hcluster : a'.cluster = a.cluster)
    (hcontract : a'.registry.contracts[grant.contract]? = a.registry.contracts[grant.contract]?) :
    ConsentedAs a' grant holds := by
  obtain ⟨contract, side, consent, hfind, hside, hrest⟩ := h
  exact ⟨contract, side, consent, hcontract.trans hfind, by rw [hcluster]; exact hside, hrest⟩

lemma consented_step {a : Agent} {event : Event} (h : Consented a) (hrests : RestsOnConsent a event) :
    Consented (step a event) := by
  intro id grant hgrant hstanding
  rcases step_cases a event with hquiet | ⟨incoming, record, rfl, haccepts, _, hbinding, hsets⟩ |
    ⟨other, attempt, old, record, rfl, hold, _, hstates, _, hbinding, hsets⟩ | ⟨message, side, rfl, hagrees⟩
  · have hopen : closed grant.state = false := open_of_standing hstanding
    have hbefore := (hquiet.grants id).kept hgrant hopen
    exact (h id grant hbefore hstanding).same hquiet.cluster (by rw [hquiet.contracts])
  · rw [hsets.lookup] at hgrant
    split at hgrant
    · cases hgrant
      obtain ⟨contract, side, consent, hfind, hside, hconsent, haccepted, hterms, hbound⟩ := consent_of_prepare haccepts.1
      obtain ⟨hincarnation, hgeneration, hpolicy⟩ := hrests rfl haccepts contract side consent hfind hside hconsent
      have hstored : ConsentedAs a grant (isBoundTo grant) := by
        rw [hbinding]
        exact ⟨contract, side, consent, hfind, hside, hconsent, haccepted, hterms, hincarnation.trans hbound.1.symm,
          hgeneration.trans hbound.2.1.symm, hpolicy.trans hbound.2.2.symm⟩
      exact hstored.same hsets.cluster (by rw [hsets.contracts])
    · exact (h id grant hgrant hstanding).same hsets.cluster (by rw [hsets.contracts])
  · rw [hsets.lookup] at hgrant
    split at hgrant
    · cases hgrant
      have hbefore := h other old hold (by rcases hstates with hstate | hstate <;> rw [hstate] <;> rfl)
      have hstored : ConsentedAs a grant (isBoundTo grant) := by
        rw [hbinding]
        exact hbefore
      exact hstored.same hsets.cluster (by rw [hsets.contracts])
    · exact (h id grant hgrant hstanding).same hsets.cluster (by rw [hsets.contracts])
  · rw [hagrees.grants] at hgrant
    obtain ⟨contract, hcontracts, hparties, decidedAt, hconsent⟩ := hagrees.contracts
    by_cases hnamed : grant.contract = message.contract
    · obtain ⟨hterms, hbound⟩ := hrests rfl side hagrees.named hagrees.sound id grant hgrant hnamed hstanding
      refine ⟨contract, side, _, ?_, ?_, hconsent, rfl, hterms.symm, hbound.1.symm, hbound.2.1.symm, hbound.2.2.symm⟩
      · rw [hcontracts, hnamed, getElem?_insert_eq, if_pos rfl]
      · rw [ownSide, hparties, hagrees.cluster, hagrees.named]
    · refine (h id grant hgrant hstanding).same hagrees.cluster ?_
      rw [hcontracts, getElem?_insert_eq, if_neg hnamed]

/-- What an agent that depends on its coordinator enforces is bound to what the agent is. -/
lemma bound_of_enforceable {a : Agent} {now : Timestamp} {grant : GrantRecord}
    (hrequires : a.config.requireCoordinator = true) (h : grantEnforceable a now grant = true) :
    ∃ contract side, a.registry.contracts[grant.contract]? = some contract ∧ ownSide a.cluster contract = some side ∧
      grant.incarnations.get side = a.incarnation ∧ grant.generations.get side = a.generation ∧
      grant.policies.get side = a.policyGeneration := by
  have hactive := active_of_enforceable h
  unfold grantEnforceable at h
  rw [if_neg (not_not.mpr hactive), if_neg (by rw [hrequires]; decide)] at h
  split at h
  · cases h
  rename_i side hside
  obtain ⟨contract, hcontract, hown⟩ := Option.bind_eq_some_iff.mp hside
  split at h
  · cases h
  rename_i hbinding
  simp only [not_or, not_not] at hbinding
  exact ⟨contract, side, hcontract, hown, hbinding⟩

lemma requires_run (a : Agent) (events : List Event) :
    (run a events).config.requireCoordinator = a.config.requireCoordinator := by
  refine foldl_invariant (P := fun (a' : Agent) => a'.config.requireCoordinator = a.config.requireCoordinator) rfl
    fun before event _ _ hbefore => Eq.trans ?_ hbefore
  rcases step_cases (before.foldl step a) event with hquiet | ⟨_, _, _, _, _, _, hsets⟩ |
    ⟨_, _, _, _, _, _, _, _, _, _, hsets⟩ | ⟨_, _, _, hagrees⟩
  · exact hquiet.requires
  · exact hsets.requires
  · exact hsets.requires
  · exact hagrees.requires

/-- In every run of an agent that depends on its coordinator, all of whose steps rest on a current
consent, what the agent enforces has its own consent to the terms, given under what it is now. -/
theorem enforcement_rests_on_consent {launch : Launch} {files : Files} {a : Agent} (hstarted : Started launch files a)
    (hrequires : launch.config.requireCoordinator = true) (events : List Event)
    (hrests : EachStep step RestsOnConsent a events) (id : GrantId) (grant : GrantRecord) (now : Timestamp)
    (hgrant : (run a events).registry.grants[id]? = some grant)
    (henforceable : grantEnforceable (run a events) now grant = true) :
    ConsentedAs (run a events) grant fun _ consent => isCurrent (run a events) consent := by
  obtain ⟨hretired, hconfig⟩ := started_retired hstarted
  have hconsented : Consented (run a events) :=
    foldl_invariant (consented_of_retired hretired) fun before event after heq hP =>
      consented_step hP (hrests before event after heq)
  have hrequired : (run a events).config.requireCoordinator = true :=
    (requires_run a events).trans (hconfig.trans hrequires)
  have hstanding : standing grant.state = true := by
    rw [active_of_enforceable henforceable]
    rfl
  obtain ⟨contract, side, consent, hfind, hside, hget, haccepted, hterms, hbound⟩ := hconsented id grant hgrant hstanding
  obtain ⟨contract', side', hfind', hside', hcurrent⟩ := bound_of_enforceable hrequired henforceable
  cases hfind.symm.trans hfind'
  cases hside.symm.trans hside'
  exact ⟨contract, side, consent, hfind, hside, hget, haccepted, hterms, hbound.1.trans hcurrent.1,
    hbound.2.1.trans hcurrent.2.1, hbound.2.2.trans hcurrent.2.2⟩

/-- The own consent that is stored with a contract. -/
def storedConsent (a : Agent) (id : ContractId) : Option ConsentRecord :=
  a.registry.contracts[id]?.bind fun contract => (ownSide a.cluster contract).bind fun side => contract.consents.get side

lemma storedConsent_eq {a : Agent} {id : ContractId} {contract : ContractRecord} {side : Side}
    (hfind : a.registry.contracts[id]? = some contract) (hside : ownSide a.cluster contract = some side) :
    storedConsent a id = contract.consents.get side := by
  simp only [storedConsent, hfind, hside, Option.bind_some]

/-- Without grants there is nothing that a new agreement might change. -/
lemma restsOnConsent_propose {a : Agent} (hempty : a.registry.grants.isEmpty = true) (connection : ℕ)
    (message : ProposeContractMessage) : RestsOnConsent a (.message connection (.proposeContract message)) := by
  intro _ side _ _ id grant hgrant
  rw [Std.ExtTreeMap.isEmpty_iff.mp hempty] at hgrant
  simp at hgrant

lemma restsOnConsent_prepare {a : Agent} {incoming : GrantRecord}
    (h : (storedConsent a incoming.contract).map (fun consent =>
      (consent.incarnation, consent.generation, consent.policyGeneration)) =
        some (a.incarnation, a.generation, a.policyGeneration)) (connection : ℕ) :
    RestsOnConsent a (.message connection (.prepareGrant incoming)) := by
  intro _ _ contract side consent hfind hside hconsent
  rw [storedConsent_eq hfind hside, hconsent] at h
  simpa only [Option.map_some, Option.some.injEq, Prod.mk.injEq, isCurrent] using h

lemma installs_restOnConsent : EachStep step RestsOnConsent sampleAgent (consents ++ installs ⟨1⟩ ⟨2⟩) := by
  refine .cons trivial (.cons trivial (.cons ?_ (.cons ?_ (.cons trivial .nil))))
  · exact restsOnConsent_propose (by decide +kernel) _ _
  · exact restsOnConsent_prepare (by decide +kernel) _

/-- The agent of the sample run enforces a grant under the consent it has just given. -/
theorem enforcement_rests_on_consent_sample :
    ∃ grant, sampleInstalled.registry.grants[(⟨9⟩ : GrantId)]? = some grant ∧
      grantEnforceable sampleInstalled ⟨100⟩ grant = true ∧
      ConsentedAs sampleInstalled grant fun _ consent => isCurrent sampleInstalled consent := by
  obtain ⟨grant, hfind, hrecord⟩ := Option.map_eq_some_iff.mp sampleInstalled_facts.2
  obtain ⟨-, hrecord⟩ := Prod.mk.inj hrecord
  obtain ⟨-, henforceable⟩ := Prod.mk.inj hrecord
  refine ⟨grant, hfind, henforceable, ?_⟩
  simp only [sampleInstalled] at hfind henforceable ⊢
  exact enforcement_rests_on_consent sampleAgent_started rfl (consents ++ installs ⟨1⟩ ⟨2⟩) installs_restOnConsent ⟨9⟩
    grant ⟨100⟩ hfind henforceable

/-- The generation advances after the consent, and the grant is issued for the new one. -/
def sampleOutdated : Agent :=
  run sampleAgent (consents ++ [.bumpGeneration (ascii "rotated")] ++ installs ⟨2⟩ ⟨2⟩)

/-- The agent enforces a grant whose consent was given under an earlier generation. -/
theorem enforced_without_consent :
    Started agentLaunch {} sampleAgent ∧ agentLaunch.config.requireCoordinator = true ∧
      ∃ grant, sampleOutdated.registry.grants[(⟨9⟩ : GrantId)]? = some grant ∧
        grantEnforceable sampleOutdated ⟨100⟩ grant = true ∧
        ¬ConsentedAs sampleOutdated grant fun _ consent => isCurrent sampleOutdated consent := by
  have hfacts : sampleOutdated.registry.grants[(⟨9⟩ : GrantId)]?.map (fun grant =>
        (grant.contract, grantEnforceable sampleOutdated ⟨100⟩ grant)) = some (⟨5⟩, true) ∧
      (storedConsent sampleOutdated ⟨5⟩).map ConsentRecord.generation = some ⟨1⟩ ∧
      sampleOutdated.generation = ⟨2⟩ := by
    simp only [sampleOutdated, List.append_assoc, consents_run, installs, grantFor, sampleTerms_digest]
    decide +kernel
  obtain ⟨hgrant, hconsent⟩ := hfacts
  obtain ⟨grant, hfind, hrecord⟩ := Option.map_eq_some_iff.mp hgrant
  obtain ⟨hcontract, henforceable⟩ := Prod.mk.inj hrecord
  refine ⟨sampleAgent_started, rfl, grant, hfind, henforceable, ?_⟩
  rintro ⟨contract, side, consent, hstored, hside, hget, -, -, -, hgeneration, -⟩
  rw [hcontract] at hstored
  rw [storedConsent_eq hstored hside, hget, Option.map_some, hgeneration, hconsent.2] at hconsent
  have hno : (⟨2⟩ : Generation) ≠ ⟨1⟩ := by decide
  exact hno (Option.some.inj hconsent.1)

end InterClusterFabric.RuntimeAgentConsents
