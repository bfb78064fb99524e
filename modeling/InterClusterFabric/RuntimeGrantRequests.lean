import InterClusterFabric.RuntimeCommits

/-! Requests to issue and to revalidate a grant that fail before either agent has been asked. Both write
the grant into the registry before `prepare_grant` makes its own checks. -/
namespace InterClusterFabric.RuntimeGrantRequests
open CoreStatus CoreIds CoreTime CoreHash ModelRecords ModelRegistry ModelRegistryLaws EngineDecision RuntimeFencing StoreMutation
open StoreDurable StoreWal WireMessages RuntimeCoordinator RuntimeHandlers RuntimeAdmin RuntimeRun RuntimeEdits
open RuntimeSteps RuntimeStepsHandlers RuntimeStart RuntimeCommits EngineSoundness LibraryChecked LibraryOrdMap LibraryProgram

/-- The operation fails, and no frame has been queued. -/
def FailsUnasked {α : Type} (op : Op α) (s : Coordinator) : Prop :=
  (∃ status, (op s).1 = .error status) ∧ (op s).2.outbox = s.outbox

/-- A failure before the first frame is queued leaves the grants and the pending flows as they were. -/
def Atomic (op : Op AdminResultMessage) (s : Coordinator) : Prop :=
  FailsUnasked op s → (op s).2.registry.grants = s.registry.grants ∧ (op s).2.pending = s.pending

/-! Asking the agents. -/

/-- What becomes of a frame to a connection; the virtual one takes none. -/
def deliveryTo (moments : ℕ → Moment) (index connection : ℕ) : Delivery :=
  if connection = virtualConnection then .absent else (moments index).delivery

/-- The answers of the environment that a frame to a connection takes. -/
def asked (connection : ℕ) : ℕ := if connection = virtualConnection then 0 else 1

/-- Two frames are sent and neither fails while nothing is queued. -/
def Asks (moments : ℕ → Moment) (index first second : ℕ) : Prop :=
  match deliveryTo moments index first with
  | .failed _ => False
  | .queued => True
  | .absent =>
    match deliveryTo moments (index + asked first) second with
    | .failed _ => False
    | .queued | .absent => True

section Frames

variable {s : Coordinator} {connection : ℕ} {message : Outbound}

lemma send_absent (h : deliveryTo s.moments s.index connection = .absent) :
    send connection message s = (.ok (), { s with index := s.index + asked connection }) := by
  unfold send asked
  by_cases hvirtual : connection = virtualConnection
  · rw [if_pos hvirtual, if_pos hvirtual]
    rfl
  · rw [if_neg hvirtual, if_neg hvirtual]
    have hmoment : moment s = (.ok (s.moments s.index), { s with index := s.index + 1 }) := rfl
    rw [deliveryTo, if_neg hvirtual] at h
    rw [Program.bind_ok hmoment, h]
    rfl

lemma send_failed {status : Status} (h : deliveryTo s.moments s.index connection = .failed status) :
    send connection message s = (.error status, { s with index := s.index + 1 }) := by
  unfold send
  by_cases hvirtual : connection = virtualConnection
  · rw [deliveryTo, if_pos hvirtual] at h
    cases h
  · rw [if_neg hvirtual]
    have hmoment : moment s = (.ok (s.moments s.index), { s with index := s.index + 1 }) := rfl
    rw [deliveryTo, if_neg hvirtual] at h
    rw [Program.bind_ok hmoment, h]
    rfl

lemma send_queued (h : deliveryTo s.moments s.index connection = .queued) :
    send connection message s =
      (.ok (), { s with index := s.index + 1, outbox := s.outbox ++ [(connection, message)] }) := by
  unfold send
  by_cases hvirtual : connection = virtualConnection
  · rw [deliveryTo, if_pos hvirtual] at h
    cases h
  · rw [if_neg hvirtual]
    have hmoment : moment s = (.ok (s.moments s.index), { s with index := s.index + 1 }) := rfl
    rw [deliveryTo, if_neg hvirtual] at h
    rw [Program.bind_ok hmoment, h]
    rfl

/-- A frame never takes another one out of the queue. -/
lemma send_outbox (connection : ℕ) (message : Outbound) (s : Coordinator) :
    s.outbox.length ≤ (send connection message s).2.outbox.length := by
  cases h : deliveryTo s.moments s.index connection with
  | absent => rw [send_absent h]
  | failed status => rw [send_failed h]
  | queued =>
    rw [send_queued h]
    simp

/-- The two requests of a flow fail before a frame is queued exactly when `Asks` fails. -/
lemma failsUnasked_sends {s : Coordinator} {targets : PerSide SendTarget} {grant : GrantRecord} :
    FailsUnasked (do sendPrepare targets grant .first; sendPrepare targets grant .second) s ↔
      ¬Asks s.moments s.index targets.first.connectionId targets.second.connectionId := by
  unfold FailsUnasked Asks sendPrepare
  simp only [PerSide.get]
  cases hfirst : deliveryTo s.moments s.index targets.first.connectionId with
  | failed status =>
    rw [Program.bind_error (send_failed hfirst)]
    simp
  | queued =>
    rw [Program.bind_ok (send_queued hfirst)]
    -- the first frame is in the queue and stays there
    have hlength := send_outbox targets.second.connectionId (.prepareGrant targets.second.token grant)
      { s with index := s.index + 1, outbox :=
        s.outbox ++ [(targets.first.connectionId, .prepareGrant targets.first.token grant)] }
    simp only [List.length_append, List.length_singleton] at hlength
    simp only [not_true, iff_false, not_and]
    intro _ hsame
    rw [hsame] at hlength
    omega
  | absent =>
    rw [Program.bind_ok (send_absent hfirst)]
    cases hsecond : deliveryTo s.moments (s.index + asked targets.first.connectionId)
      targets.second.connectionId with
    | failed status =>
      rw [send_failed hsecond]
      simp
    | queued =>
      rw [send_queued hsecond]
      simp
    | absent =>
      rw [send_absent hsecond]
      simp

end Frames

/-! The flow. -/

/-- The record `prepare_grant` logs. -/
def preparingAt (observedAt : Timestamp) (grant : GrantRecord) : GrantRecord :=
  { grant with
    state := .preparing
    provenance := { grant.provenance with
      source := .derivedFromTopology, verification := .verified, observedAt } }

/-- The agents of both parties are connected, the log takes the record, and asking the agents does not
fail before the first frame is queued. The store is asked after `ahead` other questions. -/
structure Opens (s : Coordinator) (ahead : ℕ) (record : GrantRecord) (contract : ContractRecord) : Prop where
  connected : ∀ side, (targetFor s.sessions (contract.parties.get side).cluster).connected = true
  admitted : s.store.wal.admits .mutation (encodeMutation (.grantPut record)) = .ok ()
  written : (s.moments (s.index + ahead)).append = none
  asks : Asks s.moments (s.index + ahead + 1) (targetFor s.sessions contract.parties.first.cluster).connectionId
    (targetFor s.sessions contract.parties.second.cluster).connectionId

/-- Only the sessions, the store and the answers still to come matter. -/
lemma Opens.of_eq {s t : Coordinator} {ahead further : ℕ} {record : GrantRecord} {contract : ContractRecord}
    (h : Opens s ahead record contract) (hsessions : t.sessions = s.sessions) (hstore : t.store = s.store)
    (hmoments : t.moments = s.moments) (hindex : t.index + further = s.index + ahead) :
    Opens t further record contract := by
  obtain ⟨hconnected, hadmitted, hwritten, hasks⟩ := h
  constructor
  · rwa [hsessions]
  · rwa [hstore]
  · rwa [hmoments, hindex]
  · rwa [hsessions, hmoments, hindex]

section Flow

variable {s : Coordinator} {grant : GrantRecord} {contract : ContractRecord} {inPlace : Bool}

/-- An append changes nothing but the store and what it takes from the environment. -/
lemma appendMutation_frame (mutation : Mutation) (s : Coordinator) : ∃ store files failures,
    (appendMutation mutation s).2 = { s with index := s.index + 1, store, files, failures } := by
  have hmoment : moment s = (.ok (s.moments s.index), { s with index := s.index + 1 }) := rfl
  rw [appendMutation, Program.bind_ok hmoment]
  unfold onStore
  dsimp only
  split <;> exact ⟨_, _, _, rfl⟩

/-- It succeeds exactly when the log admits the record and the disk takes it. -/
lemma appendMutation_ok_iff {mutation : Mutation} : (appendMutation mutation s).1 = .ok () ↔
    s.store.wal.admits .mutation (encodeMutation mutation) = .ok () ∧ (s.moments s.index).append = none := by
  refine ⟨fun h => ?_, fun h => appendMutation_run h.1 h.2⟩
  have hmoment : moment s = (.ok (s.moments s.index), { s with index := s.index + 1 }) := rfl
  rw [appendMutation, Program.bind_ok hmoment] at h
  simp only [onStore, DurableStore.append, DurableStore.write] at h
  cases hadmits : s.store.wal.admits .mutation (encodeMutation mutation) with
  | error status => simp [hadmits] at h
  | ok u =>
    cases hfault : (s.moments s.index).append with
    | some fault => simp [hadmits, hfault] at h
    | none => exact ⟨rfl, rfl⟩

lemma requireTarget_absent {party : PartyRef} (h : (targetFor s.sessions party.cluster).connected ≠ true) :
    ∃ status, requireTarget party s = (.error status, s) := by
  unfold requireTarget
  rw [Program.get_bind_run]
  simp only [h, Bool.false_eq_true, if_false]
  exact ⟨_, rfl⟩

/-- The rest of `prepare_grant`, once the log has the record. -/
def openFlow (grant preparing : GrantRecord) (targets : PerSide SendTarget) (started : Timestamp) : Op Unit := do
  (onRegistry (Program.update fun registry => registry.putGrant preparing)).ignore
  modify fun s => { s with
    pending := s.pending.insert grant.id {
      grant := grant.id, contract := grant.contract, targets
      deadline := started.plus s.config.grantFlowDeadline } }
  match (← get).registry.grants[grant.id]? with
  | none => throw (Status.internalError "the grant disappeared after being stored")
  | some stored =>
    sendPrepare targets stored .first
    sendPrepare targets stored .second

/-- A grant that is put again, whether or not there is room. -/
lemma putGrant_frame (record : GrantRecord) (s : Coordinator) : ∃ grants,
    (onRegistry (Program.update fun registry => registry.putGrant record)).ignore s =
      (.ok (), { s with registry := { s.registry with grants } }) ∧
    (grants = s.registry.grants ∨ grants = s.registry.grants.insert record.id record) := by
  simp only [Program.ignore, onRegistry, Program.focus, Program.update]
  cases hput : s.registry.putGrant record with
  | error status => exact ⟨_, rfl, .inl rfl⟩
  | ok registry =>
    obtain ⟨-, -, rfl⟩ := putGrant_eq_ok.mp hput
    exact ⟨_, rfl, .inr rfl⟩

lemma openFlow_unasked {preparing : GrantRecord} {targets : PerSide SendTarget} {started : Timestamp}
    (hstored : ∃ old, s.registry.grants[grant.id]? = some old) :
    FailsUnasked (openFlow grant preparing targets started) s ↔
      ¬Asks s.moments s.index targets.first.connectionId targets.second.connectionId := by
  obtain ⟨grants, hput, hgrants⟩ := putGrant_frame preparing s
  have hthere : ∃ stored, grants[grant.id]? = some stored := by
    rcases hgrants with rfl | rfl
    · exact hstored
    · rw [getElem?_insert_eq]
      split
      · exact ⟨_, rfl⟩
      · exact hstored
  obtain ⟨stored, hthere⟩ := hthere
  unfold FailsUnasked openFlow
  rw [Program.bind_ok hput, Program.modify_bind_run, Program.get_bind_run]
  simp only [hthere]
  exact failsUnasked_sends

/-- `prepare_grant` fails before the first agent is asked exactly when something on the way there is
missing. -/
lemma prepareGrant_unasked (hcontract : s.registry.contracts[grant.contract]? = some contract)
    (hconsented : contract.state = .consented ∨ contract.state = .active)
    (hstored : inPlace = true ∨ ∃ old, s.registry.grants[grant.id]? = some old) :
    FailsUnasked (prepareGrant inPlace grant) s ↔
      ¬Opens s 2 (preparingAt (s.moments (s.index + 1)).now grant) contract := by
  have hopen : ¬(contract.state ≠ .consented ∧ contract.state ≠ .active) := by
    rcases hconsented with h | h <;> simp [h]
  set s₁ : Coordinator := { s with index := s.index + 1 } with hs₁
  set s₂ : Coordinator := { s with index := s.index + 2 } with hs₂
  have hstarted : now s = (.ok (s.moments s.index).now, s₁) := rfl
  have hobserved : now s₁ = (.ok (s.moments (s.index + 1)).now, s₂) := rfl
  unfold FailsUnasked prepareGrant
  rw [Program.get_bind_run, hcontract]
  simp only
  rw [if_neg hopen, Program.bind_ok hstarted]
  by_cases hfirst : (targetFor s.sessions contract.parties.first.cluster).connected = true
  swap
  · obtain ⟨status, hrun⟩ := requireTarget_absent (s := s₁) hfirst
    rw [Program.bind_error hrun]
    exact iff_of_true ⟨⟨status, rfl⟩, rfl⟩ fun h => hfirst (h.connected .first)
  rw [Program.bind_ok (requireTarget_run (s := s₁) hfirst)]
  by_cases hsecond : (targetFor s.sessions contract.parties.second.cluster).connected = true
  swap
  · obtain ⟨status, hrun⟩ := requireTarget_absent (s := s₁) hsecond
    rw [Program.bind_error hrun]
    exact iff_of_true ⟨⟨status, rfl⟩, rfl⟩ fun h => hsecond (h.connected .second)
  rw [Program.bind_ok (requireTarget_run (s := s₁) hsecond), Program.bind_ok hobserved]
  have hrecord : ({ grant with
    state := .preparing
    provenance := { grant.provenance with
      source := .derivedFromTopology, verification := .verified
      observedAt := (s.moments (s.index + 1)).now } } : GrantRecord) =
      preparingAt (s.moments (s.index + 1)).now grant := rfl
  rw [hrecord]
  generalize preparingAt (s.moments (s.index + 1)).now grant = preparing
  -- in place or not, the grant is registered before the record is logged
  have hwrite : ∃ registry old, Program.onlyIf (inPlace = true) (writeGrant grant.id preparing) s₂ =
      (.ok (), { s₂ with registry }) ∧ registry.grants[grant.id]? = some old := by
    rcases Bool.eq_false_or_eq_true inPlace with rfl | rfl
    · exact ⟨setGrant s.registry grant.id preparing, preparing, rfl, Std.ExtTreeMap.getElem?_insert_self⟩
    · obtain ⟨old, hold⟩ := hstored.resolve_left Bool.false_ne_true
      exact ⟨s.registry, old, rfl, hold⟩
  obtain ⟨registry, old, hwrite, hold⟩ := hwrite
  rw [Program.bind_ok hwrite]
  set s₃ : Coordinator := { s₂ with registry } with hs₃
  obtain ⟨store, files, failures, hframe⟩ := appendMutation_frame (.grantPut preparing) s₃
  have hlogs : (appendMutation (.grantPut preparing) s₃).1 = .ok () ↔ _ := appendMutation_ok_iff
  cases hrun : appendMutation (.grantPut preparing) s₃ with
  | mk result s₄ =>
    rw [hrun] at hframe hlogs
    cases result with
    | error status =>
      rw [Program.bind_error hrun]
      refine iff_of_true ⟨⟨status, rfl⟩, by rw [hframe]⟩ fun h => ?_
      have hok := hlogs.mpr ⟨h.admitted, h.written⟩
      cases hok
    | ok u =>
      obtain ⟨hadmitted, hwritten⟩ := hlogs.mp rfl
      obtain rfl : s₄ = _ := hframe
      rw [Program.bind_ok hrun]
      refine (openFlow_unasked ⟨old, hold⟩).trans (not_congr ⟨fun hasks => ⟨fun side => ?_, hadmitted, hwritten, hasks⟩, fun h => h.asks⟩)
      cases side with
      | first => exact hfirst
      | second => exact hsecond

/-- The registry holds a grant of that attempt under a key. -/
def HasAttempt (key : GrantId) (attempt : AttemptId) (s : Coordinator) : Prop :=
  ∃ record, s.registry.grants[key]? = some record ∧ record.attempt = attempt

/-- The attempt under a key stays. -/
def Retains (key : GrantId) (attempt : AttemptId) (s s' : Coordinator) : Prop :=
  HasAttempt key attempt s → HasAttempt key attempt s'

instance (key : GrantId) (attempt : AttemptId) : Std.Refl (Retains key attempt) := ⟨fun _ h => h⟩
instance (key : GrantId) (attempt : AttemptId) : IsTrans Coordinator (Retains key attempt) :=
  ⟨fun _ _ _ h h' hs => h' (h hs)⟩

section Retains

variable {key : GrantId} {attempt : AttemptId}

lemma kept_retains {s s' : Coordinator} (h : Kept s s') : Retains key attempt s s' := by
  intro hs
  unfold HasAttempt
  rw [h.registry]
  exact hs

lemma insert_retains {s s' : Coordinator} {id : GrantId} (record : GrantRecord)
    (h : s'.registry.grants = s.registry.grants.insert id record) (hattempt : record.attempt = attempt) :
    Retains key attempt s s' := by
  intro hs
  unfold HasAttempt
  rw [h, getElem?_insert_eq]
  split
  · exact ⟨record, rfl, hattempt⟩
  · exact hs

lemma send_retains (connection : ℕ) (message : Outbound) :
    Steps (Retains key attempt) (send connection message) s fun _ _ => True := by
  refine ⟨fun h => ?_, fun _ _ => trivial⟩
  cases hdelivery : deliveryTo s.moments s.index connection with
  | absent =>
    rw [send_absent hdelivery]
    exact h
  | failed status =>
    rw [send_failed hdelivery]
    exact h
  | queued =>
    rw [send_queued hdelivery]
    exact h

/-- Whatever becomes of `prepare_grant`, it writes no other attempt than that of its grant. -/
lemma prepareGrant_retains (inPlace : Bool) (grant : GrantRecord) (s : Coordinator) :
    Steps (Retains key grant.attempt) (prepareGrant inPlace grant) s fun _ _ => True := by
  have hquiet : ∀ {α : Type} {p : Op α} {t : Coordinator}, Steps Kept p t (fun _ _ => True) →
      Steps (Retains key grant.attempt) p t fun _ _ => True :=
    fun h => (h.weaken fun _ => kept_retains).mono fun _ _ _ => trivial
  refine Steps.get_bind ?_
  split
  · exact Steps.throw
  dsimp only
  split
  · exact Steps.throw
  refine (hquiet now_keeps).bind fun _ _ _ _ => ?_
  refine (hquiet (requireTarget_keeps _)).bind fun _ _ _ _ => ?_
  refine (hquiet (requireTarget_keeps _)).bind fun _ _ _ _ => ?_
  refine (hquiet now_keeps).bind fun observed _ _ _ => ?_
  refine (Steps.onlyIf (Q := fun _ _ => True) (fun _ => Steps.modify (insert_retains (preparingAt observed grant) rfl rfl) trivial) fun _ => trivial).bind
    fun _ s₃ _ _ => ?_
  obtain ⟨store, files, failures, hframe⟩ := appendMutation_frame (.grantPut (preparingAt observed grant)) s₃
  refine Steps.bind (P := fun _ _ => True) ⟨fun h => ?_, fun _ _ => trivial⟩ fun _ s₄ _ _ => ?_
  · change HasAttempt key grant.attempt (appendMutation (.grantPut (preparingAt observed grant)) s₃).2
    rw [hframe]
    exact h
  obtain ⟨grants, hput, hgrants⟩ := putGrant_frame (preparingAt observed grant) s₄
  refine Steps.bind (P := fun _ _ => True) ⟨?_, fun _ _ => trivial⟩ fun _ s₅ _ _ => ?_
  · change Retains key grant.attempt s₄ (Prod.snd
      ((onRegistry (Program.update fun registry => registry.putGrant (preparingAt observed grant))).ignore s₄))
    rw [hput]
    rcases hgrants with rfl | rfl
    · exact fun h => h
    · exact insert_retains (preparingAt observed grant) rfl rfl
  refine Steps.modify_bind (fun h => h) (Steps.get_bind ?_)
  split
  · exact Steps.throw
  · exact (send_retains _ _).bind fun _ _ _ _ => send_retains _ _

end Retains

end Flow

/-! The requests. -/

/-- What a request writes into the registry before the flow is opened, it also keeps if the flow fails. -/
lemma not_atomic {op : Op AdminResultMessage} {s : Coordinator} {key : GrantId} {attempt : AttemptId}
    (hfails : FailsUnasked op s) (hafter : HasAttempt key attempt (op s).2) (hbefore : ¬HasAttempt key attempt s) :
    ¬Atomic op s := by
  intro hatomic
  obtain ⟨record, hrecord, hattempt⟩ := hafter
  rw [(hatomic hfails).1] at hrecord
  exact hbefore ⟨record, hrecord, hattempt⟩

/-- A program that goes on after a flow without touching anything fails where the flow does. -/
lemma failsUnasked_return {α β : Type} {op : Op α} {s : Coordinator} (result : α → β) :
    FailsUnasked (op >>= fun a => pure (result a)) s ↔ FailsUnasked op s := by
  unfold FailsUnasked
  cases hrun : op s with
  | mk r s' =>
    cases r with
    | error status =>
      rw [Program.bind_error hrun]
      simp
    | ok a =>
      rw [Program.bind_ok hrun]
      simp [pure]

/-- The grant that a request to issue one stores. -/
def issuing (s : Coordinator) (request : AdminMessage) (contract : ContractRecord) (first second : ClusterRecord) :
    GrantRecord :=
  issuedGrant s (nextUuid s) (stamp (s.moments (s.index + 1)).entropy) contract
    (if request.capacity.value = 0 then contract.capacity else request.capacity) first second
    (s.moments (s.index + 2)).now

/-- The checks of `apply_grant_issue` itself: the contract is consented to and has the capacity, its
clusters are registered, and the registry takes the grant. -/
structure Issues (s : Coordinator) (request : AdminMessage) (contract : ContractRecord) (first second : ClusterRecord) :
    Prop where
  registered : s.registry.contracts[request.contract]? = some contract
  consented : contract.state = .consented ∨ contract.state = .active
  capacity : ¬contract.capacity < if request.capacity.value = 0 then contract.capacity else request.capacity
  firstFound : s.registry.clusters[contract.parties.first.cluster]? = some first
  secondFound : s.registry.clusters[contract.parties.second.cluster]? = some second
  stored : (s.registry.putGrant (issuing s request contract first second)).isOk = true

/-- A request to issue a grant that passes its checks also opens the flow. -/
def IssueOpens (s : Coordinator) (request : AdminMessage) : Prop :=
  ∀ contract first second, Issues s request contract first second →
    Opens s 5 (preparingAt (s.moments (s.index + 4)).now (issuing s request contract first second)) contract

/-- A request to revalidate a grant that is there and not fenced also opens the flow. -/
def RevalidationOpens (s : Coordinator) (request : AdminMessage) : Prop :=
  ∀ grant, s.registry.grants[request.grant]? = some grant → grant.state ≠ .fenced → ∃ contract,
    s.registry.contracts[grant.contract]? = some contract ∧
      (contract.state = .consented ∨ contract.state = .active) ∧ Opens s 4 (relogged s contract grant) contract

section Requests

variable {s : Coordinator} {request : AdminMessage} {contract : ContractRecord} {first second : ClusterRecord}

/-- A request that passes its checks stores the grant and goes on to `prepare_grant`. -/
lemma applyGrantIssue_run (h : Issues s request contract first second) : ∃ result : AdminResultMessage,
    applyGrantIssue request s = (prepareGrant false (issuing s request contract first second) >>= fun _ => pure result)
      { s with
        index := s.index + 3
        registry := setGrant s.registry ⟨nextUuid s⟩ (issuing s request contract first second) } := by
  have hopen : ¬(contract.state ≠ .consented ∧ contract.state ≠ .active) := by
    rcases h.consented with h | h <;> simp [h]
  set s₁ : Coordinator := { s with index := s.index + 1 } with hs₁
  set s₂ : Coordinator := { s with index := s.index + 2 } with hs₂
  set s₃ : Coordinator := { s with index := s.index + 3 } with hs₃
  have hid : random s = (.ok (nextUuid s), s₁) := rfl
  have hattempt : random s₁ = (.ok (stamp (s.moments (s.index + 1)).entropy), s₂) := rfl
  have hissued : now s₂ = (.ok (s.moments (s.index + 2)).now, s₃) := rfl
  unfold applyGrantIssue
  rw [Program.get_bind_run, h.registered]
  simp only
  rw [if_neg hopen, Program.bind_ok hid, Program.bind_ok hattempt, if_neg h.capacity, Program.bind_ok hissued,
    h.firstFound, h.secondFound]
  simp only
  cases hput : s.registry.putGrant (issuing s request contract first second) with
  | error status =>
    have hok := h.stored
    rw [hput] at hok
    cases hok
  | ok registry =>
    obtain ⟨-, -, rfl⟩ := putGrant_eq_ok.mp hput
    have hstore : onRegistry (Program.update fun registry =>
        registry.putGrant (issuing s request contract first second)) s₃ = (.ok (), { s₃ with
          registry := store s.registry (.grant (issuing s request contract first second)) }) := by
      simp only [onRegistry, Program.focus, Program.update, hs₃, hput]
    exact ⟨_, Program.bind_ok hstore⟩

/-- The grants and the pending flows are as they were. -/
def Spares (s s' : Coordinator) : Prop := s'.registry.grants = s.registry.grants ∧ s'.pending = s.pending

instance : Std.Refl Spares := ⟨fun _ => ⟨rfl, rfl⟩⟩
instance : IsTrans Coordinator Spares := ⟨fun _ _ _ h h' => ⟨h'.1.trans h.1, h'.2.trans h.2⟩⟩

/-- A request that fails one of its own checks has changed nothing. -/
lemma applyGrantIssue_refused (h : ∀ contract first second, ¬Issues s request contract first second) :
    Spares s (applyGrantIssue request s).2 := by
  set s₁ : Coordinator := { s with index := s.index + 1 } with hs₁
  set s₂ : Coordinator := { s with index := s.index + 2 } with hs₂
  set s₃ : Coordinator := { s with index := s.index + 3 } with hs₃
  have hid : random s = (.ok (nextUuid s), s₁) := rfl
  have hattempt : random s₁ = (.ok (stamp (s.moments (s.index + 1)).entropy), s₂) := rfl
  have hissued : now s₂ = (.ok (s.moments (s.index + 2)).now, s₃) := rfl
  unfold applyGrantIssue
  rw [Program.get_bind_run]
  cases hcontract : s.registry.contracts[request.contract]? with
  | none => exact ⟨rfl, rfl⟩
  | some contract =>
    simp only
    split
    · exact ⟨rfl, rfl⟩
    next hopen =>
    rw [Program.bind_ok hid, Program.bind_ok hattempt]
    by_cases hcapacity : contract.capacity < if request.capacity.value = 0 then contract.capacity else request.capacity
    · rw [if_pos hcapacity]
      exact ⟨rfl, rfl⟩
    rw [if_neg hcapacity, Program.bind_ok hissued]
    cases hfirst : s.registry.clusters[contract.parties.first.cluster]? with
    | none => exact ⟨rfl, rfl⟩
    | some first =>
      cases hsecond : s.registry.clusters[contract.parties.second.cluster]? with
      | none => exact ⟨rfl, rfl⟩
      | some second =>
        simp only
        cases hput : s.registry.putGrant (issuing s request contract first second) with
        | ok registry =>
          refine absurd ⟨hcontract, ?_, hcapacity, hfirst, hsecond, ?_⟩ (h contract first second)
          · by_contra hneither
            exact hopen (not_or.mp hneither)
          · rw [hput]
            rfl
        | error status =>
          have hstore : onRegistry (Program.update fun registry =>
              registry.putGrant (issuing s request contract first second)) s₃ = (.error status, s₃) := by
            simp only [onRegistry, Program.focus, Program.update, hs₃, hput]
          have hrun := Program.bind_error (f := fun _ => prepareGrant false (issuing s request contract first second) >>=
            fun _ => (pure {
              outcome := .ok, contract := contract.id, grant := ⟨nextUuid s⟩
              detail := ascii "grant " ++ (⟨nextUuid s⟩ : GrantId).toText ++ ascii " is being prepared on both sides" } :
              Op AdminResultMessage)) hstore
          exact hrun ▸ ⟨rfl, rfl⟩

/-- Whether an issue fails before the agents are asked, and what it leaves behind then. -/
lemma applyGrantIssue_unasked (hformed : WellFormed s.registry) (h : Issues s request contract first second) :
    (FailsUnasked (applyGrantIssue request) s ↔
      ¬Opens s 5 (preparingAt (s.moments (s.index + 4)).now (issuing s request contract first second)) contract) ∧
    HasAttempt ⟨nextUuid s⟩ (issuing s request contract first second).attempt (applyGrantIssue request s).2 := by
  obtain ⟨result, hrun⟩ := applyGrantIssue_run h
  set grant := issuing s request contract first second with hgrant
  set s₄ : Coordinator := { s with
    index := s.index + 3, registry := setGrant s.registry ⟨nextUuid s⟩ grant } with hs₄
  have hcontract : s₄.registry.contracts[grant.contract]? = some contract := by
    have hkey := (find_contract hformed h.registered).1
    show s.registry.contracts[contract.id]? = some contract
    rw [hkey]
    exact h.registered
  have hstored : s₄.registry.grants[grant.id]? = some grant := Std.ExtTreeMap.getElem?_insert_self
  constructor
  · have hsame : FailsUnasked (applyGrantIssue request) s ↔
        FailsUnasked (prepareGrant false grant >>= fun _ => pure result) s₄ := by
      unfold FailsUnasked
      rw [hrun]
    rw [hsame, failsUnasked_return fun _ => result]
    refine (prepareGrant_unasked hcontract h.consented (.inr ⟨grant, hstored⟩)).trans (not_congr ⟨?_, ?_⟩)
    · exact fun hopens => hopens.of_eq rfl rfl rfl rfl
    · exact fun hopens => hopens.of_eq rfl rfl rfl rfl
  · have hsteps : Steps (Retains ⟨nextUuid s⟩ grant.attempt) (prepareGrant false grant >>= fun _ => pure result) s₄
        fun _ _ => True := (prepareGrant_retains false grant s₄).bind fun _ _ _ _ => Steps.pure trivial
    rw [hrun]
    exact hsteps.related ⟨grant, hstored, rfl⟩

/-- A flow that no consent supports does not open. -/
lemma prepareGrant_unconsented {inPlace : Bool} {grant : GrantRecord}
    (h : ∀ contract, s.registry.contracts[grant.contract]? = some contract →
      ¬(contract.state = .consented ∨ contract.state = .active)) : FailsUnasked (prepareGrant inPlace grant) s := by
  unfold FailsUnasked prepareGrant
  rw [Program.get_bind_run]
  cases hcontract : s.registry.contracts[grant.contract]? with
  | none => exact ⟨⟨_, rfl⟩, rfl⟩
  | some contract =>
    simp only
    rw [if_pos (not_or.mp (h contract hcontract))]
    exact ⟨⟨_, rfl⟩, rfl⟩

/-- Whether a revalidation fails before the agents are asked, and what it leaves behind then. -/
lemma applyGrantRevalidation_unasked {grant : GrantRecord} (hfind : s.registry.grants[request.grant]? = some grant)
    (hlive : grant.state ≠ .fenced) :
    (FailsUnasked (applyGrantRevalidation request) s ↔ ¬∃ contract,
      s.registry.contracts[grant.contract]? = some contract ∧
        (contract.state = .consented ∨ contract.state = .active) ∧ Opens s 4 (relogged s contract grant) contract) ∧
    HasAttempt request.grant ⟨nextUuid s⟩ (applyGrantRevalidation request s).2 := by
  set s₁ : Coordinator := { s with index := s.index + 1 } with hs₁
  set s₂ : Coordinator := { s with index := s.index + 2 } with hs₂
  set again := reattempted s (nextUuid s) (s.moments (s.index + 1)).now grant with hagain
  set s₃ : Coordinator := { s₂ with registry := setGrant s.registry request.grant again } with hs₃
  have hdraw : random s = (.ok (nextUuid s), s₁) := rfl
  have hnow : now s₁ = (.ok (s.moments (s.index + 1)).now, s₂) := rfl
  have hwrite : writeGrant request.grant again s₂ = (.ok (), s₃) := rfl
  have hstored : s₃.registry.grants[request.grant]? = some again := Std.ExtTreeMap.getElem?_insert_self
  unfold FailsUnasked applyGrantRevalidation
  rw [Program.get_bind_run, hfind]
  simp only
  rw [if_neg hlive, Program.bind_ok hdraw, Program.bind_ok hnow, ← hagain, Program.bind_ok hwrite]
  have hbinding : again.contract = grant.contract := rfl
  rw [hbinding]
  cases hcontract : s.registry.contracts[grant.contract]? with
  | none =>
    refine ⟨iff_of_true ⟨⟨_, rfl⟩, rfl⟩ ?_, again, hstored, rfl⟩
    rintro ⟨contract, hfound, -⟩
    cases hfound
  | some contract =>
    simp only
    set s₄ : Coordinator := { s₃ with
      registry := setGrant s₃.registry request.grant (revalidating contract again) } with hs₄
    have hwrite' : writeGrant request.grant (revalidating contract again) s₃ = (.ok (), s₄) := rfl
    have hstored' : s₄.registry.grants[request.grant]? = some (revalidating contract again) :=
      Std.ExtTreeMap.getElem?_insert_self
    rw [Program.bind_ok hwrite']
    generalize ({
      outcome := .ok, contract := (revalidating contract again).contract, grant := (revalidating contract again).id
      detail := ascii "grant revalidation started with a fresh attempt identifier" } : AdminResultMessage) = result
    constructor
    · have hreturn : FailsUnasked (prepareGrant true (revalidating contract again) >>= fun _ => pure result) s₄ ↔ _ :=
        failsUnasked_return fun _ => result
      refine hreturn.trans ?_
      by_cases hconsented : contract.state = .consented ∨ contract.state = .active
      · have hrecord : preparingAt (s₄.moments (s₄.index + 1)).now (revalidating contract again) =
          relogged s contract grant := rfl
        have hcontract' : s₄.registry.contracts[(revalidating contract again).contract]? = some contract := hcontract
        have hprepare : FailsUnasked (prepareGrant true (revalidating contract again)) s₄ ↔ _ :=
          prepareGrant_unasked hcontract' hconsented (.inl rfl)
        rw [hrecord] at hprepare
        refine hprepare.trans (not_congr ?_)
        constructor
        · exact fun h => ⟨contract, rfl, hconsented, h.of_eq rfl rfl rfl rfl⟩
        · rintro ⟨other, hother, -, h⟩
          cases hother
          exact h.of_eq rfl rfl rfl rfl
      · refine iff_of_true (prepareGrant_unconsented fun other hother => ?_) ?_
        · have hsame : contract = other := Option.some.inj (hcontract.symm.trans hother)
          rw [← hsame]
          exact hconsented
        · rintro ⟨other, hother, hother', -⟩
          cases hother
          exact hconsented hother'
    · have hsteps : Steps (Retains request.grant ⟨nextUuid s⟩)
          (prepareGrant true (revalidating contract again) >>= fun _ => pure result) s₄ fun _ _ => True :=
        (prepareGrant_retains true (revalidating contract again) s₄).bind fun _ _ _ _ => Steps.pure trivial
      exact hsteps.related ⟨_, hstored', rfl⟩

lemma applyGrantIssue_atomic (hformed : WellFormed s.registry) (h : IssueOpens s request) :
    Atomic (applyGrantIssue request) s := by
  intro hfails
  by_cases hissues : ∃ contract first second, Issues s request contract first second
  · obtain ⟨contract, first, second, hissues⟩ := hissues
    exact absurd (h contract first second hissues) ((applyGrantIssue_unasked hformed hissues).1.mp hfails)
  · exact applyGrantIssue_refused fun contract first second h => hissues ⟨contract, first, second, h⟩

lemma applyGrantRevalidation_atomic (h : RevalidationOpens s request) :
    Atomic (applyGrantRevalidation request) s := by
  intro hfails
  by_cases hlive : ∃ grant, s.registry.grants[request.grant]? = some grant ∧ grant.state ≠ .fenced
  · obtain ⟨grant, hfind, hlive⟩ := hlive
    exact absurd (h grant hfind hlive) ((applyGrantRevalidation_unasked hfind hlive).1.mp hfails)
  · rw [revalidation_refused fun grant hfind => by_contra fun hstate => hlive ⟨grant, hfind, hstate⟩]
    exact ⟨rfl, rfl⟩

/-- The next random draw names no registered grant, and not the attempt of the grant in question. -/
structure FreshDraw (s : Coordinator) (request : AdminMessage) : Prop where
  grant : s.registry.grants[(⟨nextUuid s⟩ : GrantId)]? = none
  attempt : ∀ grant, s.registry.grants[request.grant]? = some grant → grant.attempt ≠ ⟨nextUuid s⟩

/-- An issue that passes its checks and does not open the flow leaves the grant behind. -/
lemma issueOpens_of_atomic (hformed : WellFormed s.registry) (hfresh : FreshDraw s request)
    (h : Atomic (applyGrantIssue request) s) : IssueOpens s request := by
  intro contract first second hissues
  by_contra hopens
  obtain ⟨hfails, hafter⟩ := applyGrantIssue_unasked hformed hissues
  refine not_atomic (hfails.mpr hopens) hafter ?_ h
  rintro ⟨record, hrecord, -⟩
  rw [hfresh.grant] at hrecord
  cases hrecord

/-- A revalidation that does not open the flow leaves the grant under the new attempt. -/
lemma revalidationOpens_of_atomic (hfresh : FreshDraw s request) (h : Atomic (applyGrantRevalidation request) s) :
    RevalidationOpens s request := by
  intro grant hfind hlive
  by_contra hopens
  obtain ⟨hfails, hafter⟩ := applyGrantRevalidation_unasked hfind hlive
  refine not_atomic (hfails.mpr hopens) hafter ?_ h
  rintro ⟨record, hrecord, hattempt⟩
  exact hfresh.attempt record hrecord hattempt

end Requests

/-- Requests to issue and to revalidate a grant are atomic on a failure before the agents are asked if
what passes their own checks also opens the flow, and, with fresh identifiers, only then. -/
theorem grant_requests_atomic (s : Coordinator) (request : AdminMessage) (hformed : WellFormed s.registry) :
    (IssueOpens s request → Atomic (applyGrantIssue request) s) ∧
      (RevalidationOpens s request → Atomic (applyGrantRevalidation request) s) ∧
      (FreshDraw s request → (Atomic (applyGrantIssue request) s → IssueOpens s request) ∧
        (Atomic (applyGrantRevalidation request) s → RevalidationOpens s request)) := by
  refine ⟨applyGrantIssue_atomic hformed, applyGrantRevalidation_atomic, fun hfresh => ⟨?_, ?_⟩⟩
  · exact issueOpens_of_atomic hformed hfresh
  · exact revalidationOpens_of_atomic hfresh

/-! The agent of the second cluster is gone when the committed grant is revalidated. -/

def sampleParted : Coordinator :=
  run sampleProcess (agree ++ [issueGrant] ++ commitBoth ++ [.disconnect (agentOf .second) .ok])

/-- The same contract and grant for both requests. -/
def sampleRequest : AdminMessage := { contract := proposedId, grant := issuedId }

lemma sampleRequest_grant : sampleRequest.grant = issuedId := by
  simp only [sampleRequest]

lemma sampleParted_facts :
    (sampleParted.registry.grants[issuedId]?.map fun grant => (grant.state, grant.attempt, grant.contract)) =
      some (.committed, issuedAttempt, proposedId) ∧
    issuedAttempt ≠ ⟨nextUuid sampleParted⟩ ∧ (⟨nextUuid sampleParted⟩ : GrantId) ∉ sampleParted.registry.grants ∧
    (sampleParted.registry.contracts[proposedId]?.map fun contract => contract.parties.second.cluster) =
      some (sampleParty .second).cluster ∧
    (targetFor sampleParted.sessions (sampleParty .second).cluster).connected = false := by
  rw [sampleParted, run_commit, proposedId_eq, issuedId_eq, issuedAttempt_eq]
  decide +kernel

/-- The failed revalidation of a committed grant leaves it under an attempt nobody was asked about. -/
theorem revalidation_not_atomic : Started sampleLaunch {} sampleProcess ∧
    ¬Atomic (applyGrantRevalidation sampleRequest) sampleParted := by
  refine ⟨sampleProcess_started, ?_⟩
  obtain ⟨hgrant, hattempt, -, hcontract, hgone⟩ := sampleParted_facts
  obtain ⟨grant, hfind, hfields⟩ := Option.map_eq_some_iff.mp hgrant
  simp only [Prod.mk.injEq] at hfields
  obtain ⟨hstate, hold, hbound⟩ := hfields
  obtain ⟨contract, hcontract, hparty⟩ := Option.map_eq_some_iff.mp hcontract
  have hlive : grant.state ≠ .fenced := by
    rw [hstate]
    decide
  rw [← sampleRequest_grant] at hfind
  obtain ⟨hfails, hafter⟩ := applyGrantRevalidation_unasked hfind hlive
  refine not_atomic (hfails.mpr ?_) hafter ?_
  · rintro ⟨other, hother, -, hopens⟩
    rw [hbound, hcontract] at hother
    cases hother
    have hconnected := hopens.connected .second
    simp only [PerSide.get, hparty, hgone] at hconnected
    cases hconnected
  · rintro ⟨record, hrecord, hsame⟩
    obtain rfl : grant = record := Option.some.inj (hfind.symm.trans hrecord)
    exact hattempt (hold.symm.trans hsame)

/-- The agents being gone, neither request opens a flow. -/
theorem grant_requests_atomic_sample : WellFormed sampleParted.registry ∧ FreshDraw sampleParted sampleRequest ∧
    ((Atomic (applyGrantIssue sampleRequest) sampleParted → IssueOpens sampleParted sampleRequest) ∧
      (Atomic (applyGrantRevalidation sampleRequest) sampleParted →
        RevalidationOpens sampleParted sampleRequest)) := by
  have hformed : WellFormed sampleParted.registry := started_wellFormed sampleProcess_started _
  obtain ⟨hgrant, hattempt, hunused, -, -⟩ := sampleParted_facts
  have hfresh : FreshDraw sampleParted sampleRequest := by
    constructor
    · exact Std.ExtTreeMap.getElem?_eq_none hunused
    · intro grant hfind
      rw [sampleRequest_grant] at hfind
      obtain ⟨other, hother, hfields⟩ := Option.map_eq_some_iff.mp hgrant
      obtain rfl : other = grant := Option.some.inj (hother.symm.trans hfind)
      simp only [Prod.mk.injEq] at hfields
      rw [hfields.2.1]
      exact hattempt
  exact ⟨hformed, hfresh, (grant_requests_atomic sampleParted sampleRequest hformed).2.2 hfresh⟩

end InterClusterFabric.RuntimeGrantRequests
