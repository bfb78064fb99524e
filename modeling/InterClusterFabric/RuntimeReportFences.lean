import InterClusterFabric.RuntimeFenceComplete
import InterClusterFabric.RuntimeGrantRequests
import InterClusterFabric.RuntimeReports

/-! What an accepted report of a cluster fences. The report replaces the record of the cluster whole, and the grants
of its contracts are looked at again only if the policy generation has changed. -/
namespace InterClusterFabric.RuntimeReportFences
open CoreStatus CoreIds CoreTime ModelRecords ModelRegistry ModelRegistryLaws EngineDecision EngineSoundness
open EngineInterference WireMessages StoreMutation RuntimeFencing RuntimeCoordinator RuntimeHandlers RuntimeRun
open RuntimeEdits RuntimeSteps RuntimeStepsHandlers RuntimeStepsAdmin RuntimeFencePlans RuntimeClusterFences
open RuntimeFenceComplete RuntimeStart RuntimeGrantRequests RuntimeReports StoreDurable LibraryOrdMap LibraryProgram

/-! The answer. -/

/-- The message acknowledges a report with Ok. -/
def okReport : Outbound → Bool
  | .reportAck ack => ack.outcome == .ok
  | _ => false

/-- How many reports have been acknowledged with Ok on the connection. -/
def okAnswers (connection : ℕ) (s : Coordinator) : ℕ :=
  s.outbox.countP fun entry => entry.1 == connection && okReport entry.2

/-- No report has been acknowledged with Ok. -/
def Unanswered (connection : ℕ) (s s' : Coordinator) : Prop := okAnswers connection s' = okAnswers connection s

instance (connection : ℕ) : Std.Refl (Unanswered connection) := ⟨fun _ => rfl⟩

instance (connection : ℕ) : IsTrans Coordinator (Unanswered connection) := ⟨fun _ _ _ h h' => h'.trans h⟩

section Unanswered

variable {connection : ℕ} {s s' : Coordinator}

lemma unanswered_of_outbox (h : s'.outbox = s.outbox) : Unanswered connection s s' := by
  rw [Unanswered, okAnswers, okAnswers, h]

lemma moment_unanswered : Steps (Unanswered connection) moment s fun _ _ => True :=
  ⟨unanswered_of_outbox rfl, fun _ _ => trivial⟩

lemma now_unanswered : Steps (Unanswered connection) now s fun _ _ => True :=
  moment_unanswered.bind fun _ _ _ _ => Steps.pure trivial

lemma onRegistry_unanswered {α : Type} (p : Program Registry Status α) :
    Steps (Unanswered connection) (onRegistry p) s fun _ _ => True :=
  ⟨unanswered_of_outbox rfl, fun _ _ => trivial⟩

lemma appendMutation_unanswered (mutation : Mutation) :
    Steps (Unanswered connection) (appendMutation mutation) s fun _ _ => True := by
  obtain ⟨store, files, failures, hframe⟩ := appendMutation_frame mutation s
  exact ⟨unanswered_of_outbox (by rw [hframe]), fun _ _ => trivial⟩

lemma send_unanswered (other : ℕ) {message : Outbound} (h : okReport message = false) :
    Steps (Unanswered connection) (send other message) s fun _ _ => True := by
  unfold send
  split
  · exact Steps.pure trivial
  refine moment_unanswered.bind fun m s₁ _ _ => ?_
  split
  · exact Steps.pure trivial
  · exact Steps.throw
  · refine Steps.modify ?_ trivial
    simp [Unanswered, okAnswers, h]

lemma appendAudit_unanswered (actor action : String) (subject : Bytes) (outcome : Outcome) (detail : Bytes) :
    Steps (Unanswered connection) (RuntimeCoordinator.appendAudit actor action subject outcome detail) s
      fun _ _ => True := by
  refine now_unanswered.bind fun _ _ _ _ => Steps.get_bind ?_
  split
  · exact Steps.pure trivial
  refine (onRegistry_unanswered _).bind fun _ _ _ _ => Steps.get_bind ?_
  exact Steps.forEach trivial fun _ _ _ _ _ => appendMutation_unanswered _

lemma logAction_unanswered (fenced : List GrantId) (action : FenceAction) :
    Steps (Unanswered connection) (logAction fenced action) s fun _ _ => True := by
  refine Steps.get_bind ?_
  dsimp only
  split <;> split
  all_goals first
    | exact Steps.pure trivial
    | exact (appendMutation_unanswered _).bind fun _ _ _ _ => Steps.pure trivial

lemma announceFence_unanswered (trigger : FenceTrigger) (fenced : List GrantId) :
    Steps (Unanswered connection) (announceFence trigger fenced) s fun _ _ => True := by
  refine Steps.get_bind ?_
  split
  · exact Steps.pure trivial
  refine Steps.forEach trivial fun entry _ _ _ _ => ?_
  split
  · exact (send_unanswered _ rfl).ignore
  · exact Steps.pure trivial

lemma fenceCluster_unanswered (cluster : ClusterId) (trigger : FenceTrigger)
    (newIncarnation previousIncarnation : IncarnationId) (generation : Generation) :
    Steps (Unanswered connection) (fenceCluster cluster trigger newIncarnation previousIncarnation generation) s
      fun _ _ => True := by
  refine Steps.get_bind ?_
  refine Steps.bind (P := fun _ _ => True) ?_ fun _ _ _ _ => appendAudit_unanswered _ _ _ _ _
  unfold fencePlanApply
  split
  · exact Steps.pure trivial
  refine Steps.get_bind (now_unanswered.bind fun _ _ _ _ => ?_)
  refine (onRegistry_unanswered _).bind fun _ _ _ _ => Steps.modify_bind (unanswered_of_outbox rfl) ?_
  refine Steps.bind (Steps.foldEach (I := fun _ _ => True) trivial fun _ _ _ _ _ _ => logAction_unanswered _ _)
    fun _ _ _ _ => ?_
  refine Steps.bind (P := fun _ _ => True) ?_ fun _ _ _ _ => Steps.bind (P := fun _ _ => True) ?_ fun _ _ _ _ =>
    announceFence_unanswered _ _
  · exact Steps.get_bind (Steps.forEach trivial fun _ _ _ _ _ => appendMutation_unanswered _)
  · exact Steps.get_bind (Steps.forEach trivial fun _ _ _ _ _ => appendMutation_unanswered _)

end Unanswered

/-- If the program acknowledges a report with Ok, it ends in a state of that kind. -/
def Answers (connection : ℕ) (p : Op Unit) (s : Coordinator) (Q : Coordinator → Prop) : Prop :=
  okAnswers connection s < okAnswers connection (p s).2 → Q (p s).2

section Answers

variable {connection : ℕ} {s : Coordinator} {Q : Coordinator → Prop}

lemma answers_of_unanswered {p : Op Unit} {P : Unit → Coordinator → Prop}
    (h : Steps (Unanswered connection) p s P) : Answers connection p s Q :=
  fun hmore => absurd h.related.symm hmore.ne

lemma answers_of_run {p q : Op Unit} (hrun : p s = q s) (h : Answers connection q s Q) : Answers connection p s Q := by
  unfold Answers
  rw [hrun]
  exact h

/-- What comes before the acknowledgement has succeeded. -/
lemma answers_bind {α : Type} {p : Op α} {f : α → Op Unit} {P : α → Coordinator → Prop}
    (hp : Steps (Unanswered connection) p s P)
    (hf : ∀ a s₁, p s = (.ok a, s₁) → Answers connection (f a) s₁ Q) : Answers connection (p >>= f) s Q := by
  cases hrun : p s with
  | mk result s₁ =>
    have hquiet := hp.related
    rw [hrun] at hquiet
    unfold Answers
    cases result with
    | ok a =>
      rw [Program.bind_ok hrun, ← show okAnswers connection s₁ = okAnswers connection s from hquiet]
      exact hf a s₁ hrun
    | error status =>
      rw [Program.bind_error hrun]
      exact fun hmore => absurd (Eq.symm hquiet) hmore.ne

lemma answers_modify {f : Coordinator → Coordinator} {p : Unit → Op Unit} (hkept : (f s).outbox = s.outbox)
    (h : Answers connection (p ()) (f s) Q) : Answers connection (modify f >>= p) s Q := by
  have hquiet : okAnswers connection (f s) = okAnswers connection s := unanswered_of_outbox hkept
  unfold Answers at h ⊢
  rw [Program.modify_bind_run, ← hquiet]
  exact h

/-- What a program does is what it did if it returned. -/
lemma of_ran {α : Type} {R : Coordinator → Coordinator → Prop} {p : Op α} {P : α → Coordinator → Prop} {a : α}
    {s₁ : Coordinator} (h : Steps R p s P) (hrun : p s = (.ok a, s₁)) : R s s₁ ∧ P a s₁ := by
  have hrelated := h.related
  have hreturns := h.returns a (by rw [hrun])
  rw [hrun] at hrelated hreturns
  exact ⟨hrelated, hreturns⟩

end Answers

/-! The course of a report that is answered with Ok. -/

/-- The registry after a fence of the cluster, if there was one. -/
def FencedFrom (cluster incoming : ClusterRecord) (term : Term) (stored fenced : Registry) : Prop :=
  if incoming.policyGeneration = cluster.policyGeneration then fenced = stored
  else ∃ now, Fences .policyGenerationChange now stored fenced ∧
    Spares (planFence stored .policyGenerationChange incoming.id incoming.incarnation incoming.incarnation
      incoming.generation term).actions stored fenced ∧
    ∀ action ∈ (planFence stored .policyGenerationChange incoming.id incoming.incarnation incoming.incarnation
      incoming.generation term).actions, Done fenced action

/-- The record was stored, the cluster fenced if its policy generation changed, and the paths were looked at again. -/
structure Completed (cluster incoming : ClusterRecord) (token : SessionToken) (s s' : Coordinator)
    (stored fenced : Registry) : Prop where
  stores : ∃ observedAt, s.registry.putCluster (reportedCluster cluster incoming token observedAt) = .ok stored
  fences : FencedFrom cluster incoming s.term stored fenced
  final : ∃ audit, s'.registry = { fenced.recomputePathStates with audit }

section Course

variable {s : Coordinator} {connection : ℕ}

/-- A fence of a cluster that went through. -/
lemma fenceCluster_ran {cluster : ClusterId} {trigger : FenceTrigger} {new previous : IncarnationId}
    {generation : Generation} {s' : Coordinator} (hformed : WellFormed s.registry)
    (hrun : fenceCluster cluster trigger new previous generation s = (.ok (), s')) :
    ∃ fenced audit now, s'.registry = { fenced with audit } ∧ Fences trigger now s.registry fenced ∧
      Spares (planFence s.registry trigger cluster new previous generation s.term).actions s.registry fenced ∧
      ∀ action ∈ (planFence s.registry trigger cluster new previous generation s.term).actions, Done fenced action := by
  unfold fenceCluster at hrun
  rw [Program.get_bind_run] at hrun
  cases hplan : fencePlanApply (planFence s.registry trigger cluster new previous generation s.term) "coordinator" s with
  | mk result s₁ =>
    cases result with
    | error status =>
      rw [Program.bind_error hplan] at hrun
      cases hrun
    | ok u =>
      rw [Program.bind_ok hplan] at hrun
      have happlied : Does quiet (fencePlanApply (planFence s.registry trigger cluster new previous generation s.term)
          "coordinator") s fun _ s' => Fenced _ s s' := fencePlanApply_fences hformed _ _
      obtain ⟨-, hfenced⟩ := of_ran happlied hplan
      obtain ⟨hrecorded, -⟩ := of_ran (appendAudit_records _ _ _ _ _) hrun
      obtain ⟨audit, haudit⟩ := hrecorded.trail
      obtain ⟨now, hfences⟩ := hfenced.fences
      exact ⟨s₁.registry, audit, now, haudit, hfences, hfenced.spares, hfenced.done⟩

lemma acceptReport_answers {ack : ReportAckMessage} {token : SessionToken} {cluster incoming : ClusterRecord}
    (hformed : WellFormed s.registry) : Answers connection (acceptReport connection ack token cluster incoming) s
      fun s' => ∃ stored fenced, Completed cluster incoming token s s' stored fenced := by
  refine answers_bind now_unanswered fun observedAt s₁ hrun₁ => ?_
  have hkept₁ := (of_ran now_keeps hrun₁).1
  refine answers_bind (onRegistry_unanswered _).attempt fun result s₂ hrun₂ => ?_
  simp only [Program.attempt, onRegistry, Program.focus, Program.update] at hrun₂
  cases hput : s₁.registry.putCluster (reportedCluster cluster incoming token observedAt) with
  | error status =>
    rw [hput] at hrun₂
    obtain ⟨hresult, rfl⟩ := Prod.mk.inj hrun₂
    obtain rfl := Except.ok.inj hresult
    exact answers_of_unanswered (send_unanswered _ rfl)
  | ok stored =>
    rw [hput] at hrun₂
    obtain ⟨hresult, rfl⟩ := Prod.mk.inj hrun₂
    obtain rfl := Except.ok.inj hresult
    have hstored : s.registry.putCluster (reportedCluster cluster incoming token observedAt) = .ok stored := by
      rw [← hkept₁.registry]
      exact hput
    refine answers_modify rfl ?_
    refine answers_bind (P := fun _ _ => True)
      (Steps.get_bind (Steps.forEach trivial fun _ _ _ _ _ => appendMutation_unanswered _)) fun _ s₄ hrun₄ => ?_
    have hkept₄ := (of_ran (logCluster_keeps _) hrun₄).1
    have hregistry₄ : s₄.registry = stored := hkept₄.registry
    refine answers_bind (Steps.onlyIf (fun _ => fenceCluster_unanswered _ _ _ _ _) fun _ => trivial)
      fun _ s₅ hrun₅ => ?_
    have hfenced : ∃ fenced audit, s₅.registry = { fenced with audit } ∧
        FencedFrom cluster incoming s.term stored fenced := by
      unfold Program.onlyIf at hrun₅
      split at hrun₅
      · rename_i hchanged
        have hformed₄ : WellFormed s₄.registry := by
          rw [hregistry₄]
          exact putCluster_wellFormed hformed hstored
        obtain ⟨fenced, audit, now, hregistry₅, hfences⟩ := fenceCluster_ran hformed₄ hrun₅
        have hterm : s₄.term = s.term := by rw [hkept₄.term]; exact hkept₁.term
        rw [hregistry₄, hterm] at hfences
        refine ⟨fenced, audit, hregistry₅, ?_⟩
        rw [FencedFrom, if_neg hchanged]
        exact ⟨now, hfences⟩
      · rename_i hsame
        obtain ⟨-, rfl⟩ := Prod.mk.inj hrun₅
        refine ⟨stored, stored.audit, hregistry₄, ?_⟩
        rw [FencedFrom, if_pos (not_not.mp hsame)]
    obtain ⟨fenced, audit, hregistry₅, hfenced⟩ := hfenced
    refine answers_modify rfl ?_
    refine answers_of_run (Program.get_bind_run _ _) ?_
    refine answers_bind (appendAudit_unanswered _ _ _ _ _) fun _ s₇ hrun₇ => fun _ => ?_
    obtain ⟨audit', haudit'⟩ := (of_ran (appendAudit_records _ _ _ _ _) hrun₇).1.trail
    refine ⟨stored, fenced, ⟨observedAt, hstored⟩, hfenced, audit', ?_⟩
    rw [(send_keeps _ rfl).related.registry, haudit']
    dsimp only
    rw [hregistry₅]
    rfl

lemma sendError_unanswered (other : ℕ) (request : Uuid) (outcome : Outcome) (detail : Bytes) :
    Steps (Unanswered connection) (sendError other request outcome detail) s fun _ _ => True :=
  send_unanswered other rfl

lemma refuseReport_unanswered (ack : ReportAckMessage) (detail : String) :
    Steps (Unanswered connection) (refuseReport connection ack detail) s fun _ _ => True :=
  Steps.modify_bind (unanswered_of_outbox rfl) (send_unanswered _ rfl)

lemma reportConflict_unanswered (ack : ReportAckMessage) (cluster incoming : ClusterRecord) :
    Steps (Unanswered connection) (reportConflict connection ack cluster incoming) s fun _ _ => True := by
  refine Steps.modify_bind (unanswered_of_outbox rfl) (Steps.modify_bind (unanswered_of_outbox rfl) ?_)
  refine (fenceCluster_unanswered _ _ _ _ _).bind fun _ _ _ _ => ?_
  refine Steps.bind (P := fun _ _ => True)
    (Steps.get_bind (Steps.forEach trivial fun _ _ _ _ _ => appendMutation_unanswered _)) fun _ _ _ _ => ?_
  exact (appendAudit_unanswered _ _ _ _ _).bind fun _ _ _ _ => Steps.get_bind (send_unanswered _ rfl)

lemma withSession_answers {token : SessionToken} {body : PeerSession → Op Unit} {Q : Coordinator → Prop}
    (h : ∀ session, SpeaksAs s connection token session → Answers connection (body session) s Q) :
    Answers connection (withSession connection token body) s Q := by
  refine answers_of_run (Program.get_bind_run _ _) ?_
  have hfault (outcome : Outcome) (detail : Bytes) :
      Answers connection (countReplay >>= fun _ => sendError connection 0 outcome detail) s Q :=
    answers_of_unanswered (Steps.modify_bind (unanswered_of_outbox rfl) (sendError_unanswered _ _ _ _))
  cases hsession : s.sessions[connection]? with
  | none => exact hfault _ _
  | some session =>
    split
    · exact hfault _ _
    · rename_i hvalid
      exact h session ⟨hsession, hvalid⟩

/-- Only an accepted report that went all the way is answered with Ok. -/
lemma onReportCluster_answers {message : ReportClusterMessage} (hformed : WellFormed s.registry) :
    Answers connection (onReportCluster connection message) s fun s' =>
      ∃ session cluster stored fenced, ReportAccepted s connection message session cluster ∧
        Completed cluster message.cluster session.token s s' stored fenced := by
  refine withSession_answers fun session hspeaks => answers_of_run (Program.get_bind_run _ _) ?_
  dsimp only
  split
  · exact answers_of_unanswered (sendError_unanswered _ _ _ _)
  rename_i hrole
  split
  · exact answers_of_unanswered (sendError_unanswered _ _ _ _)
  rename_i howner
  split
  · exact answers_of_unanswered (sendError_unanswered _ _ _ _)
  rename_i cluster hfind
  split
  · exact answers_of_unanswered (refuseReport_unanswered _ _)
  rename_i hgeneration
  split
  · exact answers_of_unanswered (refuseReport_unanswered _ _)
  rename_i hincarnation
  split
  · exact answers_of_unanswered (reportConflict_unanswered _ _ _)
  rename_i hcontent
  split
  · exact answers_of_unanswered (refuseReport_unanswered _ _)
  rename_i hpolicy
  intro hmore
  obtain ⟨stored, fenced, hcompleted⟩ := acceptReport_answers hformed hmore
  exact ⟨session, cluster, stored, fenced, ⟨hspeaks, not_not.mp hrole, not_not.mp howner, hfind, hgeneration,
    not_not.mp hincarnation, hpolicy, hcontent⟩, hcompleted⟩

end Course

/-! What the report invalidates. -/

/-- The grant is bound to what the record says of the cluster, and its endpoint there is in use. -/
structure RestsOn (record : ClusterRecord) (contract : ContractRecord) (grant : GrantRecord) (side : Side) : Prop where
  generation : grant.generations.get side = record.generation
  policy : grant.policies.get side = record.policyGeneration
  endpoint : ∃ endpoint ∈ record.endpoints, endpoint.id = (contract.parties.get side).endpoint ∧ endpoint.state = .active

/-- A committed or active grant of a contract that names the cluster. -/
structure UsableUnder (registry : Registry) (cluster : ClusterId) (id : GrantId) (grant : GrantRecord)
    (contract : ContractRecord) (side : Side) : Prop where
  registered : registry.grants[id]? = some grant
  usable : grant.usableState = true
  agreed : registry.contracts[grant.contract]? = some contract
  party : contract.sideOf cluster = some side

/-- Nothing of the grant is left in use. -/
structure FencedOff (registry : Registry) (id : GrantId) : Prop where
  grant : ∃ grant, registry.grants[id]? = some grant ∧ grant.state = .fenced
  reservations : ∀ (key : ReservationId) reservation, registry.reservations[key]? = some reservation →
    reservation.grant = id → reservation.released = true

/-- Every usable grant of the cluster rests on its record, and those that do not any more are fenced. -/
structure FencesInvalidated (registry next : Registry) (cluster : ClusterId) : Prop where
  bound : ∀ id grant contract side, UsableUnder next cluster id grant contract side →
    ∃ record, next.clusters[cluster]? = some record ∧ RestsOn record contract grant side
  fenced : ∀ id grant contract side, UsableUnder registry cluster id grant contract side →
    (¬∃ record, next.clusters[cluster]? = some record ∧ RestsOn record contract grant side) → FencedOff next id

/-- The plan of a fence of the cluster gets to the contract. -/
def Reached (registry : Registry) (incoming : ClusterRecord) (id : ContractId) : Prop :=
  (∃ cluster, registry.clusters[incoming.id]? = some cluster ∧
    incoming.policyGeneration ≠ cluster.policyGeneration) ∧
    entriesBefore registry incoming.id id ≤ Limits.maxFencePlanEntries

/-- Every usable grant of the cluster rests on what is reported, or is reached by a fence. -/
def Covered (registry : Registry) (incoming : ClusterRecord) : Prop :=
  ∀ id grant contract side, UsableUnder registry incoming.id id grant contract side →
    RestsOn incoming contract grant side ∨ Reached registry incoming grant.contract

section Invalidated

variable {contract : ContractRecord} {grant : GrantRecord} {side : Side}

/-- What is reserved at the endpoints does not matter. -/
lemma restsOn_bare {record : ClusterRecord} : RestsOn (bare record) contract grant side ↔ RestsOn record contract grant side := by
  constructor
  · rintro ⟨hgeneration, hpolicy, e, he, hid, hactive⟩
    obtain ⟨endpoint, hmem, rfl⟩ := List.mem_map.mp he
    exact ⟨hgeneration, hpolicy, endpoint, hmem, hid, hactive⟩
  · rintro ⟨hgeneration, hpolicy, endpoint, hmem, hid, hactive⟩
    exact ⟨hgeneration, hpolicy, unreserved endpoint, List.mem_map_of_mem hmem, hid, hactive⟩

lemma restsOn_of_bare {record other : ClusterRecord} (h : bare other = bare record) :
    RestsOn other contract grant side ↔ RestsOn record contract grant side := by
  rw [← restsOn_bare, h, restsOn_bare]

/-- The stored record says of the grant what the report says. -/
lemma restsOn_reported {cluster incoming : ClusterRecord} {token : SessionToken} {observedAt : Timestamp} :
    RestsOn (sorted (reportedCluster cluster incoming token observedAt)) contract grant side ↔
      RestsOn incoming contract grant side := by
  constructor
  · rintro ⟨hgeneration, hpolicy, endpoint, hmem, hin⟩
    exact ⟨hgeneration, hpolicy, endpoint, ModelCanonicalAccepts.mem_sortEndpoints.mp hmem, hin⟩
  · rintro ⟨hgeneration, hpolicy, endpoint, hmem, hin⟩
    exact ⟨hgeneration, hpolicy, endpoint, ModelCanonicalAccepts.mem_sortEndpoints.mpr hmem, hin⟩

lemma not_gone_of_usable (h : grant.usableState = true) : ¬GrantGone grant.state := by
  revert h
  unfold GrantRecord.usableState GrantGone
  cases grant.state <;> decide

lemma held_of_usable (h : grant.usableState = true) : Held grant.state := by
  revert h
  unfold GrantRecord.usableState Held
  cases grant.state <;> decide

end Invalidated

section Fenced

variable {cluster incoming : ClusterRecord} {term : Term} {stored fenced : Registry}

/-- The fence of a report leaves what a grant rests on. -/
lemma fencedFrom_clusters (h : FencedFrom cluster incoming term stored fenced) (id : ClusterId) :
    fenced.clusters[id]?.map bare = stored.clusters[id]?.map bare := by
  unfold FencedFrom at h
  split at h
  · rw [h]
  · obtain ⟨now, -, hspares, -⟩ := h
    exact hspares.clusters id

/-- A usable grant is fenced off if the plan gets to it, and left alone otherwise. -/
lemma fencedFrom_grant (hformed : WellFormed stored) (h : FencedFrom cluster incoming term stored fenced)
    {id : GrantId} {grant : GrantRecord} {contract : ContractRecord} {side : Side}
    (husable : UsableUnder stored incoming.id id grant contract side) :
    (incoming.policyGeneration ≠ cluster.policyGeneration ∧
      entriesBefore stored incoming.id grant.contract ≤ Limits.maxFencePlanEntries ∧ FencedOff fenced id) ∨
    (¬(incoming.policyGeneration ≠ cluster.policyGeneration ∧
      entriesBefore stored incoming.id grant.contract ≤ Limits.maxFencePlanEntries) ∧
      fenced.grants[id]? = some grant) := by
  have hparty : names incoming.id contract = true := by rw [names, husable.party]; rfl
  unfold FencedFrom at h
  split at h
  · rename_i hsame
    exact .inr ⟨fun hchanged => hchanged.1 hsame, by rw [h]; exact husable.registered⟩
  rename_i hchanged
  obtain ⟨now, hfences, hspares, hdone⟩ := h
  by_cases hfits : entriesBefore stored incoming.id grant.contract ≤ Limits.maxFencePlanEntries
  · refine .inl ⟨hchanged, hfits, ?_, ?_⟩
    · obtain ⟨action, haction, htarget, rfl⟩ := (planFence_grants hformed id).mpr
        ⟨grant, contract, husable.registered, held_of_usable husable.usable, husable.agreed, hparty, hfits⟩
      have hgone := hdone action haction
      simp only [Done, htarget] at hgone
      rcases hfences.grants action.grant with hkept | ⟨old, -, -, hnext⟩
      · rw [husable.registered] at hkept
        exact absurd (hgone grant hkept) (not_gone_of_usable husable.usable)
      · exact ⟨_, hnext, rfl⟩
    · intro key reservation hfind hof
      by_contra hopen
      have hbefore : stored.reservations[key]? = some reservation := by
        rcases hfences.reservations key with hkept | ⟨old, -, -, hnext⟩
        · rw [← hkept]
          exact hfind
        · rw [hnext] at hfind
          cases hfind
          exact absurd rfl hopen
      obtain ⟨action, haction, htarget, rfl⟩ := (planFence_reservations hformed key).mpr
        ⟨reservation, grant, contract, hbefore, by simpa using hopen, by rw [hof]; exact husable.registered,
          husable.agreed, hparty, hfits⟩
      have hreleased := hdone action haction
      simp only [Done, htarget] at hreleased
      exact hopen (hreleased reservation hfind)
  · refine .inr ⟨fun hreached => hfits hreached.2, ?_⟩
    rcases hspares.grants id with hkept | ⟨-, hnamed⟩
    · rw [hkept]
      exact husable.registered
    · obtain ⟨g, c, hg, -, -, -, hreached⟩ := (planFence_grants hformed id).mp hnamed
      rw [husable.registered, Option.some.injEq] at hg
      subst hg
      exact absurd hreached hfits

/-- A grant that is usable after the fence was so before. -/
lemma fencedFrom_usable (h : FencedFrom cluster incoming term stored fenced) {id : GrantId} {grant : GrantRecord}
    {contract : ContractRecord} {side : Side} {name : ClusterId}
    (husable : UsableUnder fenced name id grant contract side) :
    ∃ before, UsableUnder stored name id grant before side ∧ before.parties = contract.parties := by
  unfold FencedFrom at h
  split at h
  · rw [h] at husable
    exact ⟨contract, husable, rfl⟩
  obtain ⟨now, hfences, -, -⟩ := h
  have hgrant : stored.grants[id]? = some grant := by
    rcases hfences.grants id with hkept | ⟨old, -, -, hnext⟩
    · rw [← hkept]
      exact husable.registered
    · have hregistered := husable.registered
      have hstate := husable.usable
      rw [hnext, Option.some.injEq] at hregistered
      subst hregistered
      cases hstate
  rcases hfences.contracts grant.contract with hkept | ⟨old, hold, -, hnext⟩
  · exact ⟨contract, ⟨hgrant, husable.usable, by rw [← hkept]; exact husable.agreed, husable.party⟩, rfl⟩
  · have hcontract := husable.agreed
    rw [hnext, Option.some.injEq] at hcontract
    subst hcontract
    exact ⟨old, ⟨hgrant, husable.usable, hold, husable.party⟩, rfl⟩

end Fenced

/-- The report is acknowledged with Ok. -/
def AnsweredOk (s : Coordinator) (connection : ℕ) (message : ReportClusterMessage) : Prop :=
  okAnswers connection s < okAnswers connection (step s (.message connection (.reportCluster message)))

instance (s : Coordinator) (connection : ℕ) (message : ReportClusterMessage) :
    Decidable (AnsweredOk s connection message) :=
  inferInstanceAs (Decidable (_ < _))

/-! The registry before and after a report that went all the way. -/

section Completed

variable {s s' : Coordinator} {cluster incoming : ClusterRecord} {token : SessionToken} {stored fenced : Registry}
  {id : GrantId} {grant : GrantRecord} {contract : ContractRecord} {side : Side}

lemma FencedOff.not_usable {next : Registry} (h : FencedOff next id) (husable : grant.usableState = true) :
    next.grants[id]? ≠ some grant := by
  intro hkept
  obtain ⟨⟨after, hafter, hstate⟩, -⟩ := h
  rw [hkept, Option.some.injEq] at hafter
  subst hafter
  simp [GrantRecord.usableState, hstate] at husable

/-- What a grant rests on afterwards is what has been reported. -/
lemma Completed.rests (h : Completed cluster incoming token s s' stored fenced) :
    ∃ record, s'.registry.clusters[incoming.id]? = some record ∧
      ∀ contract grant side, RestsOn record contract grant side ↔ RestsOn incoming contract grant side := by
  obtain ⟨⟨observedAt, hstored⟩, hfenced, audit, hfinal⟩ := h
  obtain ⟨-, -, rfl⟩ := putCluster_eq_ok.mp hstored
  have hbare := fencedFrom_clusters hfenced incoming.id
  rw [show (store s.registry (.cluster (sorted (reportedCluster cluster incoming token observedAt)))).clusters[
    incoming.id]? = some (sorted (reportedCluster cluster incoming token observedAt)) from
      Std.ExtTreeMap.getElem?_insert_self, Option.map_some] at hbare
  obtain ⟨record, hfind, hsame⟩ := Option.map_eq_some_iff.mp hbare
  refine ⟨record, by rw [hfinal]; exact hfind, fun contract grant side => ?_⟩
  rw [restsOn_of_bare hsame, restsOn_reported]

/-- A usable grant of the cluster is fenced off if a plan gets to its contract, and left alone otherwise. -/
lemma Completed.fences_or_keeps (h : Completed cluster incoming token s s' stored fenced) (hformed : WellFormed s.registry)
    (hregistered : s.registry.clusters[incoming.id]? = some cluster)
    (husable : UsableUnder s.registry incoming.id id grant contract side) :
    (Reached s.registry incoming grant.contract ∧ FencedOff s'.registry id) ∨
      (¬Reached s.registry incoming grant.contract ∧ s'.registry.grants[id]? = some grant) := by
  obtain ⟨⟨observedAt, hstored⟩, hfenced, audit, hfinal⟩ := h
  have hformed' := putCluster_wellFormed hformed hstored
  obtain ⟨-, -, rfl⟩ := putCluster_eq_ok.mp hstored
  have hreached : Reached s.registry incoming grant.contract ↔
      incoming.policyGeneration ≠ cluster.policyGeneration ∧
        entriesBefore s.registry incoming.id grant.contract ≤ Limits.maxFencePlanEntries := by
    simp only [Reached, hregistered, Option.some.injEq, exists_eq_left']
  rw [hreached, hfinal]
  rcases fencedFrom_grant hformed' hfenced
      (UsableUnder.mk husable.registered husable.usable husable.agreed husable.party) with
    ⟨hchanged, hfits, hgrant, hreservations⟩ | ⟨hmissed, hkept⟩
  · exact .inl ⟨⟨hchanged, hfits⟩, hgrant, hreservations⟩
  · exact .inr ⟨hmissed, hkept⟩

/-- A grant that is usable afterwards was so before. -/
lemma Completed.usable_before (h : Completed cluster incoming token s s' stored fenced) {name : ClusterId}
    (husable : UsableUnder s'.registry name id grant contract side) :
    ∃ before, UsableUnder s.registry name id grant before side ∧ before.parties = contract.parties := by
  obtain ⟨⟨observedAt, hstored⟩, hfenced, audit, hfinal⟩ := h
  obtain ⟨-, -, rfl⟩ := putCluster_eq_ok.mp hstored
  rw [hfinal] at husable
  obtain ⟨before, hbefore, hparties⟩ := fencedFrom_usable hfenced
    (UsableUnder.mk husable.registered husable.usable husable.agreed husable.party)
  exact ⟨before, ⟨hbefore.registered, hbefore.usable, hbefore.agreed, hbefore.party⟩, hparties⟩

lemma fencesInvalidated_iff (hformed : WellFormed s.registry)
    (hregistered : s.registry.clusters[incoming.id]? = some cluster)
    (h : Completed cluster incoming token s s' stored fenced) :
    FencesInvalidated s.registry s'.registry incoming.id ↔ Covered s.registry incoming := by
  obtain ⟨record, hrecord, hrests⟩ := h.rests
  constructor
  · intro hinvalidated id grant contract side husable
    by_cases hrest : RestsOn incoming contract grant side
    · exact .inl hrest
    have hoff : FencedOff s'.registry id := by
      refine hinvalidated.fenced id grant contract side husable ?_
      rintro ⟨other, hother, hon⟩
      rw [hrecord, Option.some.injEq] at hother
      subst hother
      exact hrest ((hrests _ _ _).mp hon)
    rcases h.fences_or_keeps hformed hregistered husable with ⟨hreached, -⟩ | ⟨-, hkept⟩
    · exact .inr hreached
    · exact absurd hkept (hoff.not_usable husable.usable)
  · intro hcovered
    have hoff {id : GrantId} {grant : GrantRecord} {contract : ContractRecord} {side : Side}
        (husable : UsableUnder s.registry incoming.id id grant contract side)
        (hrest : ¬RestsOn incoming contract grant side) : FencedOff s'.registry id := by
      have hreached := (hcovered id grant contract side husable).resolve_left hrest
      rcases h.fences_or_keeps hformed hregistered husable with ⟨-, hoff⟩ | ⟨hmissed, -⟩
      · exact hoff
      · exact absurd hreached hmissed
    refine ⟨fun id grant contract side husable => ⟨record, hrecord, ?_⟩, fun id grant contract side husable hrest => ?_⟩
    · obtain ⟨before, hbefore, hparties⟩ := h.usable_before husable
      rw [hrests]
      by_contra hrest
      have hrest' : ¬RestsOn incoming before grant side := by
        rintro ⟨hgeneration, hpolicy, hendpoint⟩
        rw [hparties] at hendpoint
        exact hrest ⟨hgeneration, hpolicy, hendpoint⟩
      exact (hoff hbefore hrest').not_usable husable.usable husable.registered
    · exact hoff husable fun hon => hrest ⟨record, hrecord, (hrests _ _ _).mpr hon⟩

end Completed

lemma answered_fences_iff {s : Coordinator} {connection : ℕ} {message : ReportClusterMessage}
    (hformed : WellFormed s.registry) (hanswered : AnsweredOk s connection message) :
    FencesInvalidated s.registry (step s (.message connection (.reportCluster message))).registry message.cluster.id ↔
      Covered s.registry message.cluster := by
  obtain ⟨session, cluster, stored, fenced, haccepted, hcompleted⟩ := onReportCluster_answers hformed hanswered
  refine fencesInvalidated_iff hformed ?_ hcompleted
  rw [haccepted.owner]
  exact haccepted.registered

/-- An acknowledged report fences what it invalidates exactly if every usable grant of the cluster still rests on what
is reported, or the report brings a new policy generation and the plan gets to the contract of the grant. -/
theorem report_fences_iff (launch : Launch) (files : Files) (s₀ : Coordinator) (hstarted : Started launch files s₀)
    (events : List Event) (connection : ℕ) (message : ReportClusterMessage)
    (hanswered : AnsweredOk (run s₀ events) connection message) :
    FencesInvalidated (run s₀ events).registry
      (step (run s₀ events) (.message connection (.reportCluster message))).registry message.cluster.id ↔
        Covered (run s₀ events).registry message.cluster :=
  answered_fences_iff (started_wellFormed hstarted events) hanswered

/-! The agent of the first cluster reports while the grant of the sample runs is committed. -/

def reportOf (cluster : ClusterRecord) : ReportClusterMessage where
  session := tokenOf sampleProposed (agentOf .first)
  cluster := cluster

/-- The cluster under a new policy generation. -/
def underNewPolicy : ClusterRecord := { sampleCluster .first with policyGeneration := ⟨1⟩ }

/-- The cluster with its only endpoint suspended. -/
def suspendedEndpoint : ClusterRecord :=
  { sampleCluster .first with endpoints := [{ sampleEndpoint .first with state := .suspended }] }

lemma sample_reports_answered : AnsweredOk sampleCommitted (agentOf .first) (reportOf underNewPolicy) ∧
    AnsweredOk sampleCommitted (agentOf .first) (reportOf suspendedEndpoint) := by
  simp only [reportOf, tokenOf_sampleProposed, sampleCommitted_eq]
  decide +kernel

/-- What the reports find: one committed grant, under the first policy generation. -/
lemma sampleCommitted_held : ∃ grant contract cluster,
    UsableUnder sampleCommitted.registry (sampleParty .first).cluster issuedId grant contract .first ∧
      sampleCommitted.registry.clusters[(sampleParty .first).cluster]? = some cluster ∧
      cluster.policyGeneration = ⟨0⟩ ∧
      (values sampleCommitted.registry.grants).all (fun grant => entriesBefore sampleCommitted.registry
        (sampleParty .first).cluster grant.contract ≤ Limits.maxFencePlanEntries) = true := by
  have hfacts : sampleCommitted.registry.grants[issuedId]?.map (fun grant => (grant.usableState, grant.contract)) =
        some (true, proposedId) ∧
      sampleCommitted.registry.contracts[proposedId]?.map (fun contract =>
        contract.sideOf (sampleParty .first).cluster) = some (some .first) ∧
      sampleCommitted.registry.clusters[(sampleParty .first).cluster]?.map ClusterRecord.policyGeneration =
        some ⟨0⟩ ∧
      (values sampleCommitted.registry.grants).all (fun grant => entriesBefore sampleCommitted.registry
        (sampleParty .first).cluster grant.contract ≤ Limits.maxFencePlanEntries) = true := by
    rw [sampleCommitted_eq, issuedId_eq, proposedId_eq]
    decide +kernel
  obtain ⟨hgrant, hcontract, hcluster, hshort⟩ := hfacts
  obtain ⟨grant, hfind, hfields⟩ := Option.map_eq_some_iff.mp hgrant
  obtain ⟨husable, hof⟩ := Prod.mk.inj hfields
  obtain ⟨contract, hagreed, hparty⟩ := Option.map_eq_some_iff.mp hcontract
  obtain ⟨cluster, hcluster, hpolicy⟩ := Option.map_eq_some_iff.mp hcluster
  exact ⟨grant, contract, cluster, ⟨hfind, husable, by rw [hof]; exact hagreed, hparty⟩, hcluster, hpolicy, hshort⟩

/-- A new policy generation fences the grant. -/
theorem report_fences_new_policy : AnsweredOk sampleCommitted (agentOf .first) (reportOf underNewPolicy) ∧
    FencesInvalidated sampleCommitted.registry
      (step sampleCommitted (.message (agentOf .first) (.reportCluster (reportOf underNewPolicy)))).registry
        underNewPolicy.id := by
  have hanswered := sample_reports_answered.1
  obtain ⟨-, -, cluster, -, hcluster, hpolicy, hshort⟩ := sampleCommitted_held
  have hcovered : Covered sampleCommitted.registry underNewPolicy := by
    intro id grant contract side husable
    refine .inr ⟨⟨cluster, hcluster, fun hsame => ?_⟩, ?_⟩
    · rw [hpolicy] at hsame
      cases hsame
    · exact of_decide_eq_true (List.all_eq_true.mp hshort grant (mem_values.mpr ⟨id, husable.registered⟩))
  exact ⟨hanswered, (report_fences_iff sampleLaunch {} sampleProcess sampleProcess_started
    (agree ++ [issueGrant] ++ commitBoth) (agentOf .first) (reportOf underNewPolicy) hanswered).mpr hcovered⟩

/-- A suspended endpoint does not. -/
theorem suspension_leaves_grant : Started sampleLaunch {} sampleProcess ∧
    AnsweredOk sampleCommitted (agentOf .first) (reportOf suspendedEndpoint) ∧
    ¬FencesInvalidated sampleCommitted.registry
      (step sampleCommitted (.message (agentOf .first) (.reportCluster (reportOf suspendedEndpoint)))).registry
        suspendedEndpoint.id := by
  have hanswered := sample_reports_answered.2
  obtain ⟨grant, contract, cluster, husable, hcluster, hpolicy, -⟩ := sampleCommitted_held
  refine ⟨sampleProcess_started, hanswered, fun h => ?_⟩
  have hcovered : Covered sampleCommitted.registry suspendedEndpoint :=
    (answered_fences_iff (started_wellFormed sampleProcess_started _) hanswered).mp h
  rcases hcovered issuedId grant contract .first husable with hrests | ⟨⟨other, hother, hchanged⟩, -⟩
  · obtain ⟨endpoint, hmem, -, hactive⟩ := hrests.endpoint
    obtain rfl := List.mem_singleton.mp hmem
    cases hactive
  · have hsame := hother.symm.trans hcluster
    rw [Option.some.inj hsame, hpolicy] at hchanged
    exact hchanged rfl

end InterClusterFabric.RuntimeReportFences
