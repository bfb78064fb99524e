import InterClusterFabric.EngineSoundness
import InterClusterFabric.RuntimeEnforcement

/-! What an agent enforces has been prepared and committed in this incarnation, and has not been taken
back since. -/
namespace InterClusterFabric.RuntimeAgentSafety
open CoreStatus CoreIds CoreTime CoreHash ModelRecords ModelRegistry WireMessages StoreDurable
open RuntimeFencing RuntimeAgent RuntimeAgentRun RuntimeEnforcement EngineSoundness
open LibraryChecked LibraryOrdMap LibraryProgram LibraryTrace

/-- A request to fence gets to a grant: no failure ends it earlier in the list. -/
def Reaches (a : Agent) (grants : List GrantId) (reason : Bytes) (id : GrantId) : Prop :=
  ∃ before after results, grants = before ++ id :: after ∧
    (Program.foldEach before [] (fenceGrant reason) a).1 = .ok results

/-- The event takes a grant back: a fence, an abort, or a local fence. -/
inductive TakesBack (a : Agent) (id : GrantId) : Event → Prop
  | fence {grants : List GrantId} {reason : Bytes} (hreaches : Reaches a grants reason id) :
    TakesBack a id (.message a.coordinatorConnection (.fence grants reason))
  | abort (attempt : AttemptId) (reason : Bytes) :
    TakesBack a id (.message a.coordinatorConnection (.abortGrant id attempt reason))
  | fenceLocal (reason : Bytes) : TakesBack a id (.fenceLocalGrant id reason)
  | admin (connection : ℕ) {request : AdminMessage} (haction : request.action = .fenceGrant)
    (hgrant : request.grant = id) : TakesBack a id (.admin connection request)

/-- An accepted request to prepare the grant. -/
def PreparedBy (a : Agent) (id : GrantId) (attempt : AttemptId) (event : Event) : Prop :=
  ∃ incoming, event = .message a.coordinatorConnection (.prepareGrant incoming) ∧ Accepts a incoming ∧
    incoming.id = id ∧ incoming.attempt = attempt

/-- The event takes a grant back or replaces it. -/
def Recalls (a : Agent) (id : GrantId) (event : Event) : Prop :=
  TakesBack a id event ∨ ∃ attempt, PreparedBy a id attempt event

section TakesBack

variable {a : Agent} {id : GrantId}

/-- What a closed record is followed by is closed. -/
lemma closed_after {a' : Agent} (h : Quiet a a') (hclosed : ∃ new, a.registry.grants[id]? = some new ∧
    closed new.state = true) : ∃ new, a'.registry.grants[id]? = some new ∧ closed new.state = true := by
  obtain ⟨new, hnew, hstate⟩ := hclosed
  exact (h.grants id).closed hnew hstate

lemma closed_of_write {new : GrantRecord} (hstate : closed new.state = true) :
    ∃ r, (writeGrant id new a).2.registry.grants[id]? = some r ∧ closed r.state = true := by
  refine ⟨new, ?_, hstate⟩
  show (a.registry.grants.insert id new)[id]? = _
  rw [getElem?_insert_eq, if_pos rfl]

lemma fenceGrant_closes {old : GrantRecord} (hold : a.registry.grants[id]? = some old) (reason : Bytes)
    (results : List FenceResult) :
    ∃ new, (fenceGrant reason results id a).2.registry.grants[id]? = some new ∧ closed new.state = true := by
  unfold fenceGrant
  rw [Program.get_bind_run, hold]
  dsimp only
  split
  · rename_i hfenced
    exact ⟨old, hold, by rw [hfenced]; rfl⟩
  · refine closed_after (Steps.after (Q := fun _ _ => True) fun _ => (appendMutation_calm _).bind fun _ _ _ _ => ?_)
      (closed_of_write rfl)
    exact Steps.modify_bind (quiet_of_same rfl rfl rfl rfl) (Steps.pure trivial)

lemma onFence_closes {old : GrantRecord} (hold : a.registry.grants[id]? = some old) {grants : List GrantId}
    {reason : Bytes} (hreaches : Reaches a grants reason id) :
    ∃ new, (onFence grants reason a).2.registry.grants[id]? = some new ∧ closed new.state = true := by
  obtain ⟨before, after, results, rfl, hok⟩ := hreaches
  unfold onFence
  rw [Program.get_bind_run]
  refine closed_after (Steps.after fun results => Steps.get_bind ((appendAudit_calm _ _ _ _).bind fun _ _ _ _ =>
    sendMessage_calm _)) ?_
  have hcalm : Calm (Program.foldEach before [] (fenceGrant reason)) a :=
    Steps.foldEach trivial fun _ _ _ _ _ _ => fenceGrant_calm _ _ _
  have hquiet := hcalm.related
  cases hrun : Program.foldEach before [] (fenceGrant reason) a with
  | mk result a₁ =>
    rw [hrun] at hok hquiet
    cases hok
    rw [Program.foldEach_append, Program.bind_ok hrun]
    -- the record is still there when its turn comes
    obtain ⟨here, hhere⟩ : ∃ here, a₁.registry.grants[id]? = some here := by
      rcases hquiet.grants id with hsame | ⟨_, new, _, hnew, _⟩
      · exact ⟨old, by rw [hsame, hold]⟩
      · exact ⟨new, hnew⟩
    exact closed_after (Steps.after fun _ => Steps.foldEach (I := fun _ _ => True) trivial fun _ _ _ _ _ _ =>
      fenceGrant_calm _ _ _) (fenceGrant_closes hhere reason results)

lemma onAbortGrant_closes {old : GrantRecord} (hold : a.registry.grants[id]? = some old) (attempt : AttemptId)
    (reason : Bytes) :
    ∃ new, (onAbortGrant id attempt reason a).2.registry.grants[id]? = some new ∧ closed new.state = true := by
  rw [onAbortGrant_grants, if_pos rfl, hold]
  exact ⟨_, rfl, rfl⟩

lemma fenceLocalGrant_closes {old : GrantRecord} (hold : a.registry.grants[id]? = some old) (reason : Bytes) :
    ∃ new, (fenceLocalGrant id reason a).2.registry.grants[id]? = some new ∧ closed new.state = true := by
  unfold fenceLocalGrant
  rw [Program.get_bind_run, hold]
  refine closed_after (Steps.after fun _ => countFence_calm.bind fun _ _ _ _ => appendAudit_calm _ _ _ _) ?_
  exact closed_after (Steps.after fun _ => appendMutation_calm _) (closed_of_write rfl)

/-- A grant that is taken back is closed. -/
lemma TakesBack.closes {event : Event} (h : TakesBack a id event) {old : GrantRecord}
    (hold : a.registry.grants[id]? = some old) :
    ∃ new, (step a event).registry.grants[id]? = some new ∧ closed new.state = true := by
  cases h with
  | fence hreaches =>
    rename_i grants reason
    have hrun : step a (.message a.coordinatorConnection (.fence grants reason)) = (onFence grants reason a).2 := by
      simp only [step, handle, Program.get_bind_run, if_pos, onCoordinatorMessage]
    rw [hrun]
    exact onFence_closes hold hreaches
  | abort attempt reason =>
    have hrun : step a (.message a.coordinatorConnection (.abortGrant id attempt reason)) =
        (onAbortGrant id attempt reason a).2 := by
      simp only [step, handle, Program.get_bind_run, if_pos, onCoordinatorMessage]
    rw [hrun]
    exact onAbortGrant_closes hold attempt reason
  | fenceLocal reason => exact fenceLocalGrant_closes hold reason
  | admin connection haction hgrant =>
    rename_i request
    refine closed_after (Steps.after (Q := fun _ _ => True) fun _ => Steps.get_bind ?_) (?_ :
      ∃ new, ((updateFromAdmin request).attempt a).2.registry.grants[id]? = some new ∧ closed new.state = true)
    · dsimp only
      split
      · exact sendTo_calm _ _
      · exact sendTo_calm _ _
    · have hrun : ((updateFromAdmin request).attempt a).2 = (fenceLocalGrant request.grant (reasonOf request) a).2 := by
        simp only [Program.attempt, updateFromAdmin, haction]
      rw [hrun, hgrant]
      exact fenceLocalGrant_closes hold _

end TakesBack

section History

variable {a : Agent} {id : GrantId}

lemma prepared_step {event : Event} {attempt : AttemptId} (h : PreparedBy a id attempt event) :
    ∃ new, (step a event).registry.grants[id]? = some new ∧ new.state = .prepared ∧ new.attempt = attempt := by
  obtain ⟨incoming, rfl, haccepts, rfl, rfl⟩ := h
  have hrun : step a (.message a.coordinatorConnection (.prepareGrant incoming)) = (onPrepareGrant incoming a).2 := by
    simp only [step, handle, Program.get_bind_run, if_pos, onCoordinatorMessage]
  rw [hrun]
  rcases onPrepareGrant_cases a incoming with ⟨hno, -⟩ | ⟨-, new, hstate, hbinding, hsets⟩
  · exact absurd haccepts hno
  · refine ⟨new, ?_, hstate, by rw [hbinding]⟩
    rw [hsets.lookup, if_pos rfl]

/-- After an event that recalls a grant, the grant is not active. -/
lemma not_recalled_of_active {event : Event} {new : GrantRecord} (hactive : new.state = .active)
    (hnew : (step a event).registry.grants[id]? = some new) (hold : ∃ old, a.registry.grants[id]? = some old) :
    ¬Recalls a id event := by
  rintro (htakes | ⟨attempt, hprepared⟩)
  · obtain ⟨old, hold⟩ := hold
    obtain ⟨closedRecord, hclosed, hstate⟩ := htakes.closes hold
    cases hnew.symm.trans hclosed
    rw [hactive] at hstate
    cases hstate
  · obtain ⟨prepared, hprepared, hstate, -⟩ := prepared_step hprepared
    cases hnew.symm.trans hprepared
    rw [hactive] at hstate
    cases hstate

/-- How a grant comes to be prepared. -/
lemma prepared_cases {event : Event} {new : GrantRecord} (hstate : new.state = .prepared)
    (hnew : (step a event).registry.grants[id]? = some new) :
    PreparedBy a id new.attempt event ∨ (¬Recalls a id event ∧ a.registry.grants[id]? = some new) := by
  by_cases hrecalls : ∃ attempt, PreparedBy a id attempt event
  · obtain ⟨attempt, hprepared⟩ := hrecalls
    obtain ⟨record, hrecord, -, hattempt⟩ := prepared_step hprepared
    cases hnew.symm.trans hrecord
    rw [hattempt]
    exact .inl hprepared
  · have hbefore : a.registry.grants[id]? = some new := by
      rcases step_cases a event with hquiet | ⟨incoming, record, rfl, haccepts, _, _, hsets⟩ |
        ⟨other, attempt, old, record, rfl, _, _, _, hactive, _, hsets⟩ | ⟨message, side, _, hagrees⟩
      · exact (hquiet.grants id).kept hnew (by rw [hstate]; rfl)
      · rw [hsets.lookup] at hnew
        split at hnew
        · rename_i hid
          exact absurd ⟨incoming.attempt, incoming, rfl, haccepts, hid.symm, rfl⟩ hrecalls
        · exact hnew
      · rw [hsets.lookup] at hnew
        split at hnew
        · cases hnew
          rw [hactive] at hstate
          cases hstate
        · exact hnew
      · rw [← hagrees.grants]
        exact hnew
    refine .inr ⟨?_, hbefore⟩
    rintro (htakes | hprepared)
    · obtain ⟨closedRecord, hclosed, hclosedState⟩ := htakes.closes hbefore
      cases hnew.symm.trans hclosed
      rw [hstate] at hclosedState
      cases hclosedState
    · exact hrecalls hprepared

/-- How a grant comes to be active. -/
lemma active_cases {event : Event} {new : GrantRecord} (hstate : new.state = .active)
    (hnew : (step a event).registry.grants[id]? = some new) :
    ¬Recalls a id event ∧ ∃ old, a.registry.grants[id]? = some old ∧ old.attempt = new.attempt ∧
      (old.state = .active ∨ (old.state = .prepared ∧
        event = .message a.coordinatorConnection (.commitGrant id new.attempt))) := by
  have hbefore : ∃ old, a.registry.grants[id]? = some old ∧ old.attempt = new.attempt ∧
      (old.state = .active ∨ (old.state = .prepared ∧
        event = .message a.coordinatorConnection (.commitGrant id new.attempt))) := by
    rcases step_cases a event with hquiet | ⟨incoming, record, rfl, haccepts, hprepared, _, hsets⟩ |
      ⟨other, attempt, old, record, rfl, hold, hattempt, hstates, _, hbinding, hsets⟩ | ⟨message, side, _, hagrees⟩
    · exact ⟨new, (hquiet.grants id).kept hnew (by rw [hstate]; rfl), rfl, .inl hstate⟩
    · rw [hsets.lookup] at hnew
      split at hnew
      · cases hnew
        rw [hstate] at hprepared
        cases hprepared
      · exact ⟨new, hnew, rfl, .inl hstate⟩
    · rw [hsets.lookup] at hnew
      split at hnew
      · rename_i hid
        cases hnew
        have hsame : new.attempt = old.attempt := by rw [hbinding]
        subst hid
        refine ⟨old, hold, hsame.symm, ?_⟩
        rw [hsame, hattempt]
        exact hstates.symm.imp_right fun h => ⟨h, rfl⟩
      · exact ⟨new, hnew, rfl, .inl hstate⟩
    · rw [hagrees.grants] at hnew
      exact ⟨new, hnew, rfl, .inl hstate⟩
  obtain ⟨old, hold, hrest⟩ := hbefore
  exact ⟨not_recalled_of_active hstate hnew ⟨old, hold⟩, old, hold, hrest⟩

/-- The grant was prepared, and nothing has recalled it since. -/
def PreparedIn (a : Agent) (events : List Event) (id : GrantId) (attempt : AttemptId) : Prop :=
  ∃ before prepare since, events = before ++ prepare :: since ∧ PreparedBy (run a before) id attempt prepare ∧
    EachStep step (fun a event => ¬Recalls a id event) (run a (before ++ [prepare])) since

/-- The grant was prepared and then committed, and nothing has recalled it in between or since. -/
def CommittedIn (a : Agent) (events : List Event) (id : GrantId) (attempt : AttemptId) : Prop :=
  ∃ before prepare between commit since, events = before ++ prepare :: (between ++ commit :: since) ∧
    PreparedBy (run a before) id attempt prepare ∧
    commit = .message (run a (before ++ prepare :: between)).coordinatorConnection (.commitGrant id attempt) ∧
    (∃ grant, (run a (before ++ prepare :: between)).registry.grants[id]? = some grant ∧ grant.state = .prepared ∧
      grant.attempt = attempt) ∧
    EachStep step (fun a event => ¬Recalls a id event) (run a (before ++ [prepare])) (between ++ commit :: since)

lemma run_snoc (events : List Event) (event : Event) : run a (events ++ [event]) = step (run a events) event := by
  simp only [run, List.foldl_append, List.foldl_cons, List.foldl_nil]

lemma run_run (before after : List Event) : run (run a before) after = run a (before ++ after) :=
  (List.foldl_append).symm

lemma PreparedIn.snoc {events : List Event} {attempt : AttemptId} {event : Event} (h : PreparedIn a events id attempt)
    (hkept : ¬Recalls (run a events) id event) : PreparedIn a (events ++ [event]) id attempt := by
  obtain ⟨before, prepare, since, rfl, hprepared, hsince⟩ := h
  refine ⟨before, prepare, since ++ [event], by simp, hprepared, hsince.snoc ?_⟩
  show ¬Recalls (run (run a (before ++ [prepare])) since) id event
  rw [run_run, List.append_assoc]
  exact hkept

lemma CommittedIn.snoc {events : List Event} {attempt : AttemptId} {event : Event} (h : CommittedIn a events id attempt)
    (hkept : ¬Recalls (run a events) id event) : CommittedIn a (events ++ [event]) id attempt := by
  obtain ⟨before, prepare, between, commit, since, rfl, hprepared, hcommit, hgrant, hsince⟩ := h
  refine ⟨before, prepare, between, commit, since ++ [event], by simp, hprepared, hcommit, hgrant, ?_⟩
  rw [← List.cons_append, ← List.append_assoc]
  refine hsince.snoc ?_
  show ¬Recalls (run (run a (before ++ [prepare])) _) id event
  rw [run_run, List.append_assoc]
  exact hkept

lemma PreparedIn.commit {events : List Event} {attempt : AttemptId} (h : PreparedIn a events id attempt)
    {grant : GrantRecord} (hgrant : (run a events).registry.grants[id]? = some grant) (hstate : grant.state = .prepared)
    (hattempt : grant.attempt = attempt)
    (hkept : ¬Recalls (run a events) id (.message (run a events).coordinatorConnection (.commitGrant id attempt))) :
    CommittedIn a (events ++ [.message (run a events).coordinatorConnection (.commitGrant id attempt)]) id attempt := by
  obtain ⟨before, prepare, since, rfl, hprepared, hsince⟩ := h
  refine ⟨before, prepare, since, _, [], by simp, hprepared, rfl, ⟨grant, hgrant, hstate, hattempt⟩, hsince.snoc ?_⟩
  show ¬Recalls (run (run a (before ++ [prepare])) since) id _
  rw [run_run, List.append_assoc]
  exact hkept

/-- What every state of a run says of its own past. -/
structure Accounted (a : Agent) (events : List Event) : Prop where
  prepared : ∀ (id : GrantId) grant, (run a events).registry.grants[id]? = some grant → grant.state = .prepared →
    PreparedIn a events id grant.attempt
  active : ∀ (id : GrantId) grant, (run a events).registry.grants[id]? = some grant → grant.state = .active →
    CommittedIn a events id grant.attempt

lemma accounted_nil (h : Retired a) : Accounted a [] where
  prepared id grant hgrant hstate := by
    have hrests := h id grant hgrant
    rw [hstate] at hrests
    cases hrests
  active id grant hgrant hstate := by
    have hrests := h id grant hgrant
    rw [hstate] at hrests
    cases hrests

lemma Accounted.snoc {events : List Event} (h : Accounted a events) (event : Event) :
    Accounted a (events ++ [event]) where
  prepared id grant hgrant hstate := by
    rw [run_snoc] at hgrant
    rcases prepared_cases hstate hgrant with hprepared | ⟨hkept, hbefore⟩
    · exact ⟨events, event, [], rfl, hprepared, .nil⟩
    · exact (h.prepared id grant hbefore hstate).snoc hkept
  active id grant hgrant hstate := by
    rw [run_snoc] at hgrant
    obtain ⟨hkept, old, hold, hattempt, hactive | ⟨hprepared, rfl⟩⟩ := active_cases hstate hgrant
    · have hcommitted := h.active id old hold hactive
      rw [hattempt] at hcommitted
      exact hcommitted.snoc hkept
    · have hbefore := h.prepared id old hold hprepared
      rw [hattempt] at hbefore
      exact hbefore.commit hold hprepared hattempt hkept

lemma accounted_run (h : Retired a) (events : List Event) : Accounted a events := by
  induction events using List.reverseRecOn with
  | nil => exact accounted_nil h
  | append_singleton events event ih => exact ih.snoc event

end History

def agentMoments (i : ℕ) : RuntimeCoordinator.Moment :=
  { now := ⟨Int64.ofNat i⟩, entropy := BitVec.ofNat 128 i, delivery := .queued }

def agentLaunch : Launch where
  config := {
    cluster := (sampleParty .first).cluster, domain := (sampleParty .first).domain, generation := ⟨1⟩
    endpoints := [sampleEndpoint .first], stateDirectory := ascii "agent" }
  moments := agentMoments

def sampleAgent : Agent := (start agentLaunch (launched agentLaunch {})).2

lemma sampleAgent_started : Started agentLaunch {} sampleAgent := by
  have hok : ((start agentLaunch (launched agentLaunch {})).1.toOption = some ()) := by decide +kernel
  cases hrun : start agentLaunch (launched agentLaunch {}) with
  | mk result a =>
    rw [hrun] at hok
    cases result with
    | error status => cases hok
    | ok u => rw [Started, sampleAgent, hrun]

/-- The connection to the coordinator. -/
def upstream : ℕ := 1

def sampleTerms : ContractTerms where
  parties := ⟨sampleParty .first, sampleParty .second⟩
  capacity := ⟨4⟩
  leaseDuration := ⟨1⟩
  incarnations := ⟨sampleAgent.incarnation, ⟨1⟩⟩
  generations := ⟨⟨1⟩, ⟨1⟩⟩
  policies := ⟨⟨1⟩, ⟨1⟩⟩
  proposedAt := ⟨1⟩

/-- The grant of the contract, for an agent of some generation. -/
def grantFor (generation : Generation) (attempt : AttemptId) : GrantRecord where
  id := ⟨9⟩
  contract := ⟨5⟩
  termsDigest := sampleTerms.digest
  coordinatorTerm := ⟨1⟩
  attempt := attempt
  incarnations := ⟨sampleAgent.incarnation, ⟨1⟩⟩
  generations := ⟨generation, ⟨1⟩⟩
  policies := ⟨⟨1⟩, ⟨1⟩⟩
  capacity := ⟨4⟩
  validUntil := ⟨1000⟩

def consents : List Event := [
  .reconnect (.adopted upstream),
  .message upstream (.helloAck {
    session := ⟨7⟩, coordinator := ⟨1⟩, coordinatorTerm := ⟨1⟩, outcome := .ok, viewDigest := 0 }),
  .message upstream (.proposeContract { session := ⟨7⟩, contract := ⟨5⟩, terms := sampleTerms, attempt := ⟨1⟩ })]

def installs (generation : Generation) (attempt : AttemptId) : List Event := [
  .message upstream (.prepareGrant (grantFor generation attempt)),
  .message upstream (.commitGrant ⟨9⟩ attempt)]

/-- The contract with the digest written out. -/
def withTermsDigest (digest : CoreHash.Digest) (contract : ContractRecord) : ContractRecord :=
  let written (consent : Option ConsentRecord) := consent.map fun consent => { consent with termsDigest := digest }
  { contract with
    termsDigest := digest
    consents := ⟨written contract.consents.first, written contract.consents.second⟩ }

lemma withTermsDigest_eq {contract : ContractRecord} {digest : CoreHash.Digest} (h : Carries digest contract) :
    withTermsDigest digest contract = contract := by
  obtain ⟨rfl, hconsents⟩ := h
  have hwritten (side : Side) :
      (contract.consents.get side).map (fun consent => { consent with termsDigest := contract.termsDigest }) =
        contract.consents.get side := by
    cases hconsent : contract.consents.get side with
    | none => rfl
    | some consent => rw [Option.map_some, ← hconsents side consent hconsent]
  exact congrArg (fun consents => { contract with consents })
    (congrArg₂ PerSide.mk (hwritten .first) (hwritten .second))

/-- The agent with one contract rewritten. -/
def withContract (a : Agent) (id : ContractId) (f : ContractRecord → ContractRecord) : Agent :=
  { a with registry := { a.registry with contracts := a.registry.contracts.modify id f } }

lemma withContract_eq {a : Agent} {id : ContractId} {f : ContractRecord → ContractRecord}
    (h : ∀ contract, a.registry.contracts[id]? = some contract → f contract = contract) : withContract a id f = a := by
  rw [withContract, modify_eq_self h]

/-- The agent that has taken a proposal, with the digest of the terms written out: a run from there does not compute
it again. -/
def proposed (a : Agent) (connection : ℕ) (message : ProposeContractMessage) (digest : CoreHash.Digest) : Agent :=
  withContract (step a (.message connection (.proposeContract message))) message.contract (withTermsDigest digest)

lemma run_proposed (a : Agent) (before : List Event) (connection : ℕ) (message : ProposeContractMessage)
    (later : List Event) {digest : CoreHash.Digest} (hdigest : message.terms.digest = digest)
    (hnone : (run a before).registry.contracts[message.contract]? = none) :
    run a (before ++ [.message connection (.proposeContract message)] ++ later) =
      run (proposed (run a before) connection message digest) later := by
  have hsame : proposed (run a before) connection message digest =
      step (run a before) (.message connection (.proposeContract message)) := by
    refine withContract_eq fun contract hfind => withTermsDigest_eq ?_
    rw [← hdigest]
    exact carries_step hnone hfind
  rw [hsame, run, run, List.foldl_append, List.foldl_append]
  rfl

/-- The digest of the sample terms. -/
def sampleTermsDigest : CoreHash.Digest :=
  2930444938171281377958731309517350843127243087793035714091458375866728912658

lemma sampleTerms_digest : sampleTerms.digest = sampleTermsDigest := by decide +kernel

def sampleProposal : ProposeContractMessage :=
  { session := ⟨7⟩, contract := ⟨5⟩, terms := sampleTerms, attempt := ⟨1⟩ }

/-- The agent that has consented. -/
def sampleConsented : Agent := proposed (run sampleAgent (consents.take 2)) upstream sampleProposal sampleTermsDigest

lemma consents_run (events : List Event) : run sampleAgent (consents ++ events) = run sampleConsented events :=
  run_proposed sampleAgent (consents.take 2) upstream sampleProposal events sampleTerms_digest (by decide +kernel)

def sampleInstalled : Agent := run sampleAgent (consents ++ installs ⟨1⟩ ⟨2⟩)

lemma sampleInstalled_eq : sampleInstalled = run sampleConsented (installs ⟨1⟩ ⟨2⟩) := by
  rw [sampleInstalled, consents_run]

/-- What an agent enforces at a moment. -/
def enforces (a : Agent) (now : Timestamp) (id : GrantId) : Bool :=
  (a.registry.grants[id]?.map (grantEnforceable a now)).getD false

lemma sampleInstalled_facts : sampleInstalled.coordinatorConnection = upstream ∧
    sampleInstalled.registry.grants[(⟨9⟩ : GrantId)]?.map (fun grant =>
      (grant.state, grant.attempt, grantEnforceable sampleInstalled ⟨100⟩ grant)) = some (.active, ⟨2⟩, true) := by
  simp only [sampleInstalled_eq, installs, grantFor, sampleTerms_digest]
  decide +kernel

/-- The grant is recorded, and its record is closed. -/
def ClosedAt (a : Agent) (id : GrantId) : Prop :=
  ∃ grant, a.registry.grants[id]? = some grant ∧ closed grant.state = true

lemma not_enforceable_of_closed {a : Agent} {id : GrantId} (h : ClosedAt a id) (now : Timestamp) :
    enforces a now id = false := by
  obtain ⟨grant, hgrant, hclosed⟩ := h
  rw [enforces, hgrant, Option.map_some, Option.getD_some]
  by_contra hno
  rw [active_of_enforceable (by simpa using hno)] at hclosed
  cases hclosed

/-- A closed record stays closed unless the grant is prepared anew. -/
lemma closedAt_step {a : Agent} {id : GrantId} {event : Event} (h : ClosedAt a id)
    (hno : ¬∃ attempt, PreparedBy a id attempt event) : ClosedAt (step a event) id := by
  obtain ⟨grant, hgrant, hclosed⟩ := h
  rcases step_cases a event with hquiet | ⟨incoming, record, rfl, haccepts, _, _, hsets⟩ |
    ⟨other, attempt, old, record, rfl, hold, _, hstates, _, _, hsets⟩ | ⟨message, side, _, hagrees⟩
  · exact closed_after hquiet ⟨grant, hgrant, hclosed⟩
  · refine ⟨grant, ?_, hclosed⟩
    rw [hsets.lookup, if_neg, hgrant]
    intro hid
    exact hno ⟨incoming.attempt, incoming, rfl, haccepts, hid.symm, rfl⟩
  · refine ⟨grant, ?_, hclosed⟩
    rw [hsets.lookup, if_neg, hgrant]
    intro hid
    rw [← hid, hgrant] at hold
    cases hold
    rcases hstates with hstate | hstate <;> (rw [hstate] at hclosed; cases hclosed)
  · exact ⟨grant, by rw [hagrees.grants, hgrant], hclosed⟩

/-- Once a recorded grant has been fenced or aborted, the agent does not enforce it again as long as
no request to prepare it is accepted: neither in this process, nor in one that is started later,
whatever files it starts on. -/
theorem fence_final (a : Agent) (id : GrantId) (before : List Event) (event : Event)
    (htakes : TakesBack (run a before) id event)
    (hrecorded : ∃ old, (run a before).registry.grants[id]? = some old) :
    (∀ after, EachStep step (fun a event => ¬∃ attempt, PreparedBy a id attempt event) (run a (before ++ [event])) after →
      ∀ now, enforces (run a (before ++ event :: after)) now id = false) ∧
    (∀ launch' files' a', Started launch' files' a' → ∀ after,
      EachStep step (fun a event => ¬∃ attempt, PreparedBy a id attempt event) a' after →
        ∀ now, enforces (run a' after) now id = false) := by
  constructor
  · intro after hafter now
    have hclosed : ClosedAt (run a (before ++ [event])) id := by
      obtain ⟨old, hold⟩ := hrecorded
      rw [run_snoc]
      exact htakes.closes hold
    have hend : ClosedAt (run (run a (before ++ [event])) after) id :=
      foldl_invariant (P := fun a' => ClosedAt a' id) hclosed fun first e last heq hP => closedAt_step hP (hafter first e last heq)
    rw [run_run, List.append_assoc] at hend
    exact not_enforceable_of_closed hend now
  · intro launch' files' a' hstarted' after hafter now
    cases hfind : (run a' after).registry.grants[id]? with
    | none => rw [enforces, hfind, Option.map_none, Option.getD_none]
    | some grant =>
      rw [enforces, hfind, Option.map_some, Option.getD_some]
      by_contra hno
      have hactive := active_of_enforceable (by simpa using hno)
      have haccounted := accounted_run (started_retired hstarted').1 after
      -- an active grant would have been prepared in this process
      obtain ⟨first, prepare, between, commit, since, heq, hprepared, -⟩ := haccounted.active id grant hfind hactive
      exact hafter first prepare (between ++ commit :: since) heq ⟨_, hprepared⟩

/-- The coordinator fences the grant of the sample run. -/
def revokes : Event := .message upstream (.fence [⟨9⟩] (ascii "revoked"))

lemma revokes_takesBack : TakesBack sampleInstalled ⟨9⟩ revokes ∧
    ∃ old, sampleInstalled.registry.grants[(⟨9⟩ : GrantId)]? = some old := by
  obtain ⟨grant, hfind, -⟩ := Option.map_eq_some_iff.mp sampleInstalled_facts.2
  refine ⟨?_, grant, hfind⟩
  rw [revokes, ← sampleInstalled_facts.1]
  exact .fence ⟨[], [], [], rfl, rfl⟩

/-- After the fence the clock goes on, and a commit for the fenced attempt comes too late. -/
theorem fence_final_sample :
    TakesBack (run sampleAgent (consents ++ installs ⟨1⟩ ⟨2⟩)) ⟨9⟩ revokes ∧
      enforces (run sampleAgent ((consents ++ installs ⟨1⟩ ⟨2⟩) ++
        revokes :: [.tick .inUse, .message upstream (.commitGrant ⟨9⟩ ⟨2⟩)])) ⟨100⟩ ⟨9⟩ = false := by
  have hrevokes := revokes_takesBack
  rw [sampleInstalled] at hrevokes
  refine ⟨hrevokes.1, ?_⟩
  refine (fence_final sampleAgent ⟨9⟩ _ revokes hrevokes.1 hrevokes.2).1 _ ?_ ⟨100⟩
  rintro first event last heq ⟨attempt, incoming, hevent, -⟩
  have hmem : event ∈ [Event.tick .inUse, .message upstream (.commitGrant ⟨9⟩ ⟨2⟩)] := by rw [heq]; simp
  rw [hevent] at hmem
  simp at hmem

/-- A request to prepare the fenced grant is accepted, and the agent enforces it again. -/
theorem fence_undone :
    Started agentLaunch {} sampleAgent ∧ TakesBack sampleInstalled ⟨9⟩ revokes ∧
      enforces (run sampleInstalled [revokes]) ⟨100⟩ ⟨9⟩ = false ∧
      enforces (run sampleInstalled (revokes :: installs ⟨1⟩ ⟨3⟩)) ⟨100⟩ ⟨9⟩ = true := by
  refine ⟨sampleAgent_started, revokes_takesBack.1, ?_⟩
  simp only [sampleInstalled_eq, installs, grantFor, sampleTerms_digest]
  decide +kernel

end InterClusterFabric.RuntimeAgentSafety
