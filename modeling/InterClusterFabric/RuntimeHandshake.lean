import InterClusterFabric.RuntimeStart

/-! What a peer can do before it has completed a handshake. Every handler that changes something asks for
a session, except the one for administration, which takes a missing session for permission. -/
namespace InterClusterFabric.RuntimeHandshake
open CoreStatus CoreIds CoreTime ModelRecords ModelRegistry EngineDecision EngineSoundness WireMessages
open RuntimeCoordinator RuntimeHandlers RuntimeAdmin RuntimeRun RuntimeStart LibraryOrdMap LibraryProgram

/-- The registry, the pending flows and the store with its files are as they were. -/
structure Undisturbed (s s' : Coordinator) : Prop where
  registry : s'.registry = s.registry
  pending : s'.pending = s.pending
  store : s'.store = s.store
  files : s'.files = s.files

instance : Std.Refl Undisturbed := ⟨fun _ => ⟨rfl, rfl, rfl, rfl⟩⟩
instance : IsTrans Coordinator Undisturbed := ⟨fun _ _ _ h h' =>
  ⟨h'.registry.trans h.registry, h'.pending.trans h.pending, h'.store.trans h.store, h'.files.trans h.files⟩⟩

/-- No handshake has been completed on the connection. -/
def Unshaken (s : Coordinator) (connection : ℕ) : Prop :=
  ∀ session, s.sessions[connection]? = some session → session.helloComplete = false

/-- Frames by what they ask for: a handshake, an administrative action, or anything else. -/
inductive FrameSort
  | handshake | ordinary
  | administrative (action : AdminAction)
deriving DecidableEq

def sortOf : Inbound → FrameSort
  | .hello _ => .handshake
  | .admin request => .administrative request.action
  | _ => .ordinary

/-- The two administrative actions that are answered and do nothing. -/
def Idle (action : AdminAction) : Prop := action = .unspecified ∨ action = .reloadStore

instance (action : AdminAction) : Decidable (Idle action) := instDecidableOr

/-- Without a handshake, frames of the sort change nothing, whatever the state and the payload. -/
def Harmless (sort : FrameSort) : Prop :=
  ∀ (s : Coordinator) (connection : ℕ) (frame : Inbound), sortOf frame = sort → Unshaken s connection →
    Undisturbed s (handleMessage connection frame s).2

section Handlers

variable {s : Coordinator} {connection : ℕ}

lemma moment_undisturbed : Steps Undisturbed moment s fun _ _ => True :=
  ⟨⟨rfl, rfl, rfl, rfl⟩, fun _ _ => trivial⟩

lemma send_undisturbed (connection : ℕ) (message : Outbound) :
    Steps Undisturbed (send connection message) s fun _ _ => True := by
  unfold send
  split
  · exact Steps.pure trivial
  · refine moment_undisturbed.bind fun answer _ _ _ => ?_
    split
    · exact Steps.pure trivial
    · exact Steps.throw
    · exact Steps.modify ⟨rfl, rfl, rfl, rfl⟩ trivial

lemma countReplay_undisturbed : Steps Undisturbed countReplay s fun _ _ => True :=
  Steps.modify ⟨rfl, rfl, rfl, rfl⟩ trivial

lemma countFrame_undisturbed : Steps Undisturbed countFrame s fun _ _ => True :=
  Steps.modify ⟨rfl, rfl, rfl, rfl⟩ trivial

lemma sessionFault_of_unshaken (h : Unshaken s connection) (token : SessionToken) :
    ∃ status, sessionFault s.sessions[connection]? token = some status := by
  cases hsession : s.sessions[connection]? with
  | none => exact ⟨_, rfl⟩
  | some session =>
    have hincomplete := h session hsession
    simp only [sessionFault, hincomplete, if_true]
    exact ⟨_, rfl⟩

/-- A handler that asks for a session never gets to its body. -/
lemma withSession_undisturbed (h : Unshaken s connection) (token : SessionToken) (body : PeerSession → Op Unit) :
    Undisturbed s (withSession connection token body s).2 := by
  obtain ⟨status, hfault⟩ := sessionFault_of_unshaken h token
  refine (Steps.get_bind (R := Undisturbed) (Q := fun _ _ => True) ?_).related
  simp only [hfault]
  exact countReplay_undisturbed.bind fun _ _ _ _ => send_undisturbed _ _

lemma onQuery_undisturbed (query : QueryMessage) : Undisturbed s (onQuery connection query s).2 := by
  refine (Steps.get_bind (R := Undisturbed) (Q := fun _ _ => True) ?_).related
  refine Steps.bind (P := fun _ _ => True) (moment_undisturbed.bind fun _ _ _ _ => Steps.pure trivial) fun _ _ _ _ => ?_
  refine Steps.bind (P := fun _ _ => True) (moment_undisturbed.bind fun _ _ _ _ => Steps.pure trivial) fun _ _ _ _ => ?_
  exact send_undisturbed _ _

/-- An idle action is answered from the state as it is. -/
lemma onAdmin_undisturbed {request : AdminMessage} (h : Idle request.action) :
    Undisturbed s (onAdmin connection request s).2 := by
  have hidle : (handleAdmin request s).2 = s := by
    unfold handleAdmin
    rcases h with h | h <;> rw [h] <;> rfl
  refine (Steps.get_bind (R := Undisturbed) (Q := fun _ _ => True) ?_).related
  split
  · exact countReplay_undisturbed.bind fun _ _ _ _ => send_undisturbed _ _
  · refine Steps.bind (P := fun _ _ => True) ⟨?_, fun _ _ => trivial⟩ fun _ _ _ _ => Steps.get_bind (send_undisturbed _ _)
    show Undisturbed s (handleAdmin request s).2
    rw [hidle]
    exact Std.Refl.refl s

/-- No other frame than an administrative one changes anything before a handshake. -/
lemma harmless_ordinary : Harmless .ordinary := by
  intro s connection frame hsort h
  cases frame with
  | hello message => cases hsort
  | admin request => cases hsort
  | malformed request status => exact (countFrame_undisturbed.bind fun _ _ _ _ => send_undisturbed _ _).related
  | unsupported kind => exact (countFrame_undisturbed.bind fun _ _ _ _ => send_undisturbed _ _).related
  | query message => exact onQuery_undisturbed message
  | ping sequence => exact (send_undisturbed _ _).related
  | pong => exact ⟨rfl, rfl, rfl, rfl⟩
  | error => exact ⟨rfl, rfl, rfl, rfl⟩
  | _ => exact withSession_undisturbed h _ _

lemma harmless_idle {action : AdminAction} (hidle : Idle action) : Harmless (.administrative action) := by
  intro s connection frame hsort _
  cases frame with
  | admin request =>
    have haction : request.action = action := FrameSort.administrative.inj hsort
    exact onAdmin_undisturbed (by rwa [haction])
  | _ => cases hsort

end Handlers

/-! A process with a record of every kind, and a request that has something to say to each of them. -/

def sampleEdge : EdgeId := sampleName .edge "e1" e1_accepted

def disputedCluster : ClusterRecord where
  id := sampleName .cluster "gamma" (by decide)
  domain := (sampleParty .first).domain
  generation := ⟨1⟩
  state := .active
  generationConflict := true

def stageRequest (action : AdminAction) : AdminMessage where
  action := action
  cluster := some disputedCluster
  link := some {
    id := sampleEdge, a := (sampleParty .first).endpoint, b := (sampleParty .second).endpoint
    kind := .syntheticModel, capacity := ⟨10⟩ }
  path := some { samplePath with id := pathOfEdge sampleEdge }
  policy := some (samplePolicy .first)
  clusterId := if action = .authorizeContract then (sampleParty .first).cluster else disputedCluster.id
  clusterB := (sampleParty .second).cluster
  endpoint := (sampleParty .first).endpoint
  endpointB := (sampleParty .second).endpoint
  contract := proposedId
  grant := issuedId
  edge := sampleEdge
  policyId := (samplePolicy .first).id
  generation := ⟨5⟩
  linkState := .down
  clusterState := .draining
  capacity := ⟨4⟩

def sampleStage : Coordinator :=
  run sampleProcess (agree ++ [issueGrant] ++
    [AdminAction.upsertCluster, .upsertLink, .upsertPath, .upsertPolicy].map fun action =>
      .message operator (.admin (stageRequest action)))

/-- The administrative actions that are not idle. -/
def effective : List AdminAction := [
  .upsertCluster, .deleteCluster, .setClusterState, .upsertLink, .setLinkState, .deleteLink, .upsertPath, .deletePath,
  .upsertPolicy, .deletePolicy, .withdrawConsent, .restoreConsent, .resolveConflict, .authorizeContract, .issueGrant,
  .revalidateGrant, .fenceGrant]

lemma mem_effective {action : AdminAction} (h : ¬Idle action) : action ∈ effective := by
  revert h
  cases action <;> decide

/-- Every one of them is carried out for the operator, who has no session. -/
lemma stage_logged : sampleStage.sessions[operator]?.isNone = true ∧
    effective.all (fun action =>
      (handleMessage operator (.admin (stageRequest action)) sampleStage).2.store.nextSequence !=
        sampleStage.store.nextSequence) = true := by
  simp only [sampleStage, List.append_assoc, run_agree, issueGrant_eq, stageRequest, proposedId_eq, issuedId_eq]
  decide +kernel

lemma operator_unshaken : Unshaken sampleStage operator := by
  have hnone := stage_logged.1
  intro session hsession
  rw [hsession] at hnone
  cases hnone

lemma harmful_action {action : AdminAction} (h : ¬Idle action) : ¬Harmless (.administrative action) := by
  intro hharmless
  have hsame := hharmless sampleStage operator (.admin (stageRequest action)) rfl operator_unshaken
  have hlogged := List.all_eq_true.mp stage_logged.2 action (mem_effective h)
  rw [hsame.store] at hlogged
  simp at hlogged

/-- Before a handshake, the frames that change nothing are those that do not ask for an administrative
action, and of these the ones whose action is idle. -/
theorem unshaken_harmless_iff (sort : FrameSort) (hsort : sort ≠ .handshake) :
    Harmless sort ↔ ∀ action, sort = .administrative action → Idle action := by
  cases sort with
  | handshake => exact absurd rfl hsort
  | ordinary => exact iff_of_true harmless_ordinary fun action h => nomatch h
  | administrative action =>
    constructor
    · intro h other hother
      cases hother
      by_contra hidle
      exact harmful_action hidle h
    · exact fun h => harmless_idle (h action rfl)

/-- Queries, reports and answers belong to the first kind. -/
theorem unshaken_harmless_ordinary : FrameSort.ordinary ≠ .handshake ∧ Harmless .ordinary :=
  ⟨by decide, (unshaken_harmless_iff .ordinary (by decide)).mpr fun _ h => nomatch h⟩

/-- A peer that never said hello registers a policy rule. -/
theorem unshaken_policy_registered : Started sampleLaunch {} sampleProcess ∧ Unshaken sampleProcess operator ∧
    ¬Undisturbed sampleProcess
      (handleMessage operator (.admin { action := .upsertPolicy, policy := some (samplePolicy .first) })
        sampleProcess).2 := by
  refine ⟨sampleProcess_started, ?_, fun h => ?_⟩
  · have hnone : sampleProcess.sessions[operator]?.isNone = true := by decide +kernel
    intro session hsession
    rw [hsession] at hnone
    cases hnone
  · have hadded : (handleMessage operator (.admin { action := .upsertPolicy, policy := some (samplePolicy .first) })
        sampleProcess).2.registry.policies.size ≠ sampleProcess.registry.policies.size := by decide +kernel
    exact hadded (by rw [h.registry])

end InterClusterFabric.RuntimeHandshake
