import InterClusterFabric.RuntimeEdits
import InterClusterFabric.RuntimeRun

/-! Every operation of the coordinator is a sequence of edits. -/
namespace InterClusterFabric.RuntimeSteps
open CoreStatus CoreIds CoreTime CoreHash ModelRecords ModelRegistry ModelRegistryLaws EngineDecision
open RuntimeFencing StoreMutation StoreDurable WireMessages RuntimeCoordinator RuntimeHandlers RuntimeAdmin
open RuntimeEdits LibraryChecked LibraryOrdMap LibraryProgram Relation

/-! The store. -/

/-- The handle of the store, its files, how many operations on it have failed, and how often the
environment has been asked. -/
structure Disk where
  store : DurableStore
  files : Files
  failures : ℕ
  index : ℕ

def diskOf (s : Coordinator) : Disk := ⟨s.store, s.files, s.failures, s.index⟩

/-- What an operation leaves behind, with the answer of the environment it used. -/
def Disk.after {α : Type} (disk : Disk) (written : Written α) : Disk where
  store := written.store
  files := written.files
  failures :=
    match written.result with
    | .ok _ => disk.failures
    | .error _ => disk.failures + 1
  index := disk.index + 1

/-- The mutation says of its record what the registry says. -/
def Coherent (registry : Registry) : Mutation → Prop
  | .clusterPut cluster => ∃ key : ClusterId, registry.clusters[key]? = some cluster
  | .linkPut link => ∃ key : EdgeId, registry.links[key]? = some link
  | .pathPut path => ∃ key : PathId, registry.paths[key]? = some path
  | .policyPut policy => ∃ key : Bytes, registry.policies[key]? = some policy
  | .contractPut contract => ∃ key : ContractId, registry.contracts[key]? = some contract
  | .grantPut grant => ∃ key : GrantId, registry.grants[key]? = some grant
  | .reservationPut reservation => ∃ key : ReservationId, registry.reservations[key]? = some reservation
  | .clusterErase cluster => registry.clusters[cluster.id]? = none
  | .linkErase link => registry.links[link.id]? = none
  | .pathErase path => registry.paths[path.id]? = none
  | .policyErase policy => registry.policies[policy.id]? = none
  | .auditAppend audit => audit ∈ registry.audit
  | .contractErase _ | .grantErase _ | .metaSet _ _ | .invalid => False

/-- What stands still while the store is written. -/
structure Ground where
  registry : Registry
  term : Term
  moments : ℕ → Moment

def groundOf (s : Coordinator) : Ground := ⟨s.registry, s.term, s.moments⟩

/-- One question to the environment, with the operation on the store it is for. -/
inductive Stores (ground : Ground) (disk : Disk) : Disk → Prop
  | ask : Stores ground disk { disk with index := disk.index + 1 }
  | append (mutation : Mutation) (writtenAt : Timestamp) (hcoherent : Coherent ground.registry mutation) :
      Stores ground disk
        (disk.after (disk.store.append disk.files mutation writtenAt (ground.moments disk.index).append))
  | term (incarnation : IncarnationId) (writtenAt : Timestamp) :
      Stores ground disk (disk.after
        (disk.store.append disk.files (.metaSet ground.term incarnation) writtenAt (ground.moments disk.index).append))
  | incident (text : Bytes) (writtenAt : Timestamp) :
      Stores ground disk
        (disk.after (disk.store.appendIncident disk.files text writtenAt (ground.moments disk.index).append))
  | compact (storeMeta : StoreMeta) (writtenAt : Timestamp) (stream : IncarnationId)
      (hterm : storeMeta.term = ground.term) :
      Stores ground disk (disk.after (disk.store.compact disk.files ground.registry storeMeta writtenAt stream
        (ground.moments disk.index).save (ground.moments disk.index).reset))

/-! What operations do. -/

/-- What no operation of a running process changes. -/
structure Settled (s s' : Coordinator) : Prop where
  term : s'.term = s.term
  incarnation : s'.incarnation = s.incarnation
  config : s'.config = s.config
  recovery : s'.recovery = s.recovery
  moments : s'.moments = s.moments
  index : s.index ≤ s'.index

/-- Every message but the request to commit a grant. -/
def plain : Outbound → Bool
  | .commitGrant _ _ _ => false
  | _ => true

/-- Only the environment was asked, the store written and plain messages sent. -/
structure Kept (s s' : Coordinator) : Prop extends Settled s s' where
  registry : s'.registry = s.registry
  sessions : s'.sessions = s.sessions
  pending : s'.pending = s.pending
  outbox : ∃ sent, s'.outbox = s.outbox ++ sent ∧ ∀ entry ∈ sent, plain entry.2 = true
  disk : ReflTransGen (Stores (groundOf s)) (diskOf s) (diskOf s')

/-- A session that a handshake establishes. -/
structure Joins (connection : ℕ) (session : PeerSession) : Prop where
  connection : session.connectionId = connection
  complete : session.helloComplete = true
  role : session.role = .agent ∨ session.cluster = .empty

/-- A session under another generation or policy generation. -/
def Regenerates (session next : PeerSession) : Prop :=
  ∃ generation policyGeneration, next = { session with generation, policyGeneration }

/-- One change of the state of the process. -/
inductive Act (scene : Scene) (s : Coordinator) : Coordinator → Prop
  | keep {s' : Coordinator} (h : Kept s s') : Act scene s s'
  | count (commits fences refusals revalidations rejectedReplays rejectedFrames pongsReceived errorsReceived : UInt64) :
      Act scene s { s with
        commits, fences, refusals, revalidations, rejectedReplays, rejectedFrames, pongsReceived, errorsReceived }
  | edit {next : Registry} (h : Edit scene s.registry next) : Act scene s { s with registry := next }
  | join (connection : ℕ) (session : PeerSession) (h : Joins connection session) :
      Act scene s { s with sessions := s.sessions.insert connection session }
  | regenerate (connection : ℕ) (f : PeerSession → PeerSession) (h : ∀ session, Regenerates session (f session)) :
      Act scene s { s with sessions := s.sessions.modify connection f }
  | leave (connection : ℕ) : Act scene s { s with sessions := s.sessions.erase connection }
  | open_ (pending : PendingGrant) (h : pending.prepared = ⟨false, false⟩) :
      Act scene s { s with pending := s.pending.insert pending.grant pending }
  | prepared (id : GrantId) (pending : PendingGrant) (grant : GrantRecord) (side : Side)
      (hpending : s.pending[id]? = some pending) (hgrant : s.registry.grants[id]? = some grant)
      (hscene : scene.prepares id grant.attempt side) :
      Act scene s { s with
        pending := s.pending.insert id { pending with prepared := pending.prepared.set side true } }
  | drop (id : GrantId) : Act scene s { s with pending := s.pending.erase id }
  | retarget (f : GrantId → PendingGrant → PendingGrant)
      (h : ∀ id pending, (f id pending).prepared = pending.prepared) :
      Act scene s { s with pending := s.pending.map f }
  | commit (connection : ℕ) (token : SessionToken) (id : GrantId) (pending : PendingGrant) (grant : GrantRecord)
      (side : Side) (hpending : s.pending[id]? = some pending) (hprepared : pending.prepared = ⟨true, true⟩)
      (hgrant : s.registry.grants[id]? = some grant) (hscene : scene.prepares id grant.attempt side) :
      Act scene s { s with outbox := s.outbox ++ [(connection, .commitGrant token id grant.attempt)] }
  | announce (grant : GrantRecord) (hscene : scene.issues grant.id) (hstate : grant.state = .preparing)
      (hacks : grant.acknowledged = ⟨false, false⟩) (writtenAt : Timestamp) :
      Act scene s { s with
        store := (s.store.append s.files (.grantPut grant) writtenAt (s.moments s.index).append).store
        files := (s.store.append s.files (.grantPut grant) writtenAt (s.moments s.index).append).files
        failures := ((diskOf s).after
          (s.store.append s.files (.grantPut grant) writtenAt (s.moments s.index).append)).failures
        index := s.index + 1 }

/-- The state went through changes of the scene. -/
structure Within (scene : Scene) (s s' : Coordinator) : Prop extends Settled s s' where
  acts : ReflTransGen (Act scene) s s'

lemma Settled.refl (s : Coordinator) : Settled s s := ⟨rfl, rfl, rfl, rfl, rfl, le_rfl⟩

lemma Settled.trans {s s' s'' : Coordinator} (h : Settled s s') (h' : Settled s' s'') : Settled s s'' :=
  ⟨h'.term.trans h.term, h'.incarnation.trans h.incarnation, h'.config.trans h.config,
    h'.recovery.trans h.recovery, h'.moments.trans h.moments, h.index.trans h'.index⟩

instance : Std.Refl Kept := ⟨fun s => ⟨.refl s, rfl, rfl, rfl, ⟨[], by simp, by simp⟩, .refl⟩⟩

lemma Kept.ground {s s' : Coordinator} (h : Kept s s') : groundOf s' = groundOf s := by
  rw [groundOf, groundOf, h.registry, h.term, h.moments]

instance : IsTrans Coordinator Kept where
  trans _ _ _ h h' := by
    obtain ⟨sent, hsent, hplain⟩ := h.outbox
    obtain ⟨sent', hsent', hplain'⟩ := h'.outbox
    refine ⟨h.toSettled.trans h'.toSettled, h'.registry.trans h.registry, h'.sessions.trans h.sessions,
      h'.pending.trans h.pending, ⟨sent ++ sent', by rw [hsent', hsent, List.append_assoc], fun entry hentry => ?_⟩,
      h.disk.trans (by rw [← h.ground]; exact h'.disk)⟩
    rcases List.mem_append.mp hentry with hmem | hmem
    · exact hplain entry hmem
    · exact hplain' entry hmem

instance (scene : Scene) : Std.Refl (Within scene) := ⟨fun s => ⟨.refl s, .refl⟩⟩

instance (scene : Scene) : IsTrans Coordinator (Within scene) where
  trans _ _ _ h h' := ⟨h.toSettled.trans h'.toSettled, h.acts.trans h'.acts⟩

lemma Kept.within {scene : Scene} {s s' : Coordinator} (h : Kept s s') : Within scene s s' :=
  ⟨h.toSettled, .single (.keep h)⟩

/-- The registry goes through edits. -/
lemma act_edits {scene : Scene} {s s' : Coordinator} (h : Act scene s s') : Edits scene s.registry s'.registry := by
  cases h with
  | keep h => rw [h.registry]
  | edit h => exact .single h
  | _ => exact .refl

lemma Within.edits {scene : Scene} {s s' : Coordinator} (h : Within scene s s') :
    Edits scene s.registry s'.registry := by
  have hacts := h.acts
  clear h
  induction hacts with
  | refl => exact .refl
  | tail _ hact ih => exact ih.trans (act_edits hact)

lemma Within.formed {scene : Scene} {s s' : Coordinator} (h : Within scene s s')
    (hformed : WellFormed s.registry) : WellFormed s'.registry := edits_wellFormed hformed h.edits

/-! The environment. -/

section Environment

variable {s : Coordinator} {α β : Type}

lemma moment_keeps : Steps Kept moment s fun m s' => m = s.moments s.index ∧ s' = { s with index := s.index + 1 } :=
  ⟨⟨⟨rfl, rfl, rfl, rfl, rfl, Nat.le_succ _⟩, rfl, rfl, rfl, ⟨[], by simp [moment, modifyGet, MonadStateOf.modifyGet], by simp⟩, .single .ask⟩, fun m hm => by cases hm; exact ⟨rfl, rfl⟩⟩

lemma now_keeps : Steps Kept now s fun _ _ => True :=
  moment_keeps.bind fun _ _ _ _ => Steps.pure trivial

lemma random_keeps : Steps Kept random s fun _ _ => True :=
  moment_keeps.bind fun _ _ _ _ => Steps.pure trivial

/-- An operation on the store leaves its disk behind, and fails if the store does. -/
lemma onStore_state (op : DurableStore → Files → Written α) (s : Coordinator) :
    (onStore op s).2 = { s with
      store := (op s.store s.files).store, files := (op s.store s.files).files
      failures := ((diskOf s).after (op s.store s.files)).failures } := by
  unfold onStore Disk.after diskOf
  dsimp only
  split <;> rename_i hresult <;> simp [hresult]

/-- The environment is asked and the store is written. -/
lemma onStore_keeps (op : Moment → DurableStore → Files → Written α)
    (h : Stores (groundOf s) (diskOf s) ((diskOf s).after (op (s.moments s.index) s.store s.files))) :
    Steps Kept (moment >>= fun m => onStore (op m)) s fun _ _ => True := by
  refine ⟨?_, fun _ _ => trivial⟩
  have hrun : (moment >>= fun m => onStore (op m) : Op Unit) s =
      onStore (op (s.moments s.index)) { s with index := s.index + 1 } := rfl
  rw [hrun, onStore_state]
  exact ⟨⟨rfl, rfl, rfl, rfl, rfl, Nat.le_succ _⟩, rfl, rfl, rfl, ⟨[], by simp, by simp⟩, .single h⟩

lemma appendMutation_keeps {mutation : Mutation} (h : Coherent s.registry mutation) :
    Steps Kept (appendMutation mutation) s fun _ _ => True :=
  onStore_keeps (fun m store files => store.append files mutation m.now m.append) (.append mutation _ h)

lemma send_keeps (connection : ℕ) {message : Outbound} (h : plain message = true) :
    Steps Kept (send connection message) s fun _ _ => True := by
  unfold send
  split
  · exact Steps.pure trivial
  · refine moment_keeps.bind fun m _ _ _ => ?_
    split
    · exact Steps.pure trivial
    · exact Steps.throw
    · refine Steps.modify ⟨⟨rfl, rfl, rfl, rfl, rfl, le_rfl⟩, rfl, rfl, rfl, ⟨[(connection, message)], rfl, ?_⟩, .refl⟩ trivial
      simpa using h

lemma forEach_keeps {xs : List α} {f : α → Op Unit}
    (hf : ∀ x ∈ xs, ∀ s', Kept s s' → Steps Kept (f x) s' fun _ _ => True) :
    Steps Kept (Program.forEach xs f) s fun _ _ => True :=
  Steps.forEach (I := fun _ => True) trivial fun x hx s' hkept _ => hf x hx s' hkept

/-- Records of the registry are logged as they are. -/
lemma logEach_keeps {xs : List α} {mutation : α → Mutation} (h : ∀ x ∈ xs, Coherent s.registry (mutation x)) :
    Steps Kept (Program.forEach xs fun x => appendMutation (mutation x)) s fun _ _ => True := by
  refine forEach_keeps fun x hx s' hkept => appendMutation_keeps ?_
  rw [hkept.registry]
  exact h x hx

lemma logCluster_keeps (id : ClusterId) : Steps Kept (logCluster id) s fun _ _ => True := by
  refine Steps.get_bind (logEach_keeps fun cluster hcluster => ⟨id, ?_⟩)
  simpa using hcluster

lemma logClusters_keeps : Steps Kept logClusters s fun _ _ => True :=
  Steps.get_bind (logEach_keeps fun _ hcluster => mem_values.mp hcluster)

lemma logAudit_keeps (before : ℕ) : Steps Kept (logAudit before) s fun _ _ => True :=
  Steps.get_bind (logEach_keeps fun _ hrecord => List.mem_of_mem_drop hrecord)

lemma announceFence_keeps (trigger : FenceTrigger) (fenced : List GrantId) :
    Steps Kept (announceFence trigger fenced) s fun _ _ => True := by
  refine Steps.get_bind ?_
  split
  · exact Steps.pure trivial
  · refine forEach_keeps fun entry _ s' _ => ?_
    split
    · exact (send_keeps _ rfl).ignore
    · exact Steps.pure trivial

lemma logAction_keeps (fenced : List GrantId) (action : FenceAction) :
    Steps Kept (logAction fenced action) s fun _ _ => True := by
  refine Steps.get_bind ?_
  dsimp only
  split <;> split
  · exact Steps.pure trivial
  · rename_i hfind
    exact Steps.bind (appendMutation_keeps ⟨_, hfind⟩) fun _ _ _ _ => Steps.pure trivial
  · exact Steps.pure trivial
  · rename_i hfind
    exact Steps.bind (appendMutation_keeps ⟨_, hfind⟩) fun _ _ _ _ => Steps.pure trivial
  · exact Steps.pure trivial
  · rename_i hfind
    exact Steps.bind (appendMutation_keeps ⟨_, hfind⟩) fun _ _ _ _ => Steps.pure trivial

end Environment

/-- The run of an operation within the edits of a scene. -/
abbrev Does (scene : Scene) {α : Type} (p : Op α) (s : Coordinator) (Q : α → Coordinator → Prop) : Prop :=
  Steps (Within scene) p s Q

section Scenes

variable {scene : Scene} {s : Coordinator} {α β : Type}

/-- An operation that only asks the environment. -/
lemma Kept.does {p : Op α} {Q : α → Coordinator → Prop} (h : Steps Kept p s Q) :
    Does scene p s fun a s' => Kept s s' ∧ Q a s' :=
  h.weaken fun _ => Kept.within

lemma does_of_keeps {p : Op α} (h : Steps Kept p s fun _ _ => True) : Does scene p s fun _ _ => True :=
  (Kept.does h).mono fun _ _ _ => trivial

/-- After an operation that only asks the environment. -/
lemma keeps_bind {p : Op α} {f : α → Op β} {Q : β → Coordinator → Prop}
    (h : Steps Kept p s fun _ _ => True) (hf : ∀ a s', Kept s s' → Does scene (f a) s' Q) :
    Does scene (p >>= f) s Q :=
  Steps.bind (Kept.does h) fun a s' _ hkept => hf a s' hkept.1

lemma sendError_does (connection : ℕ) (request : Uuid) (outcome : Outcome) (detail : Bytes) :
    Does scene (sendError connection request outcome detail) s fun _ _ => True :=
  does_of_keeps (send_keeps _ rfl)

lemma within_act {s' : Coordinator} (hsettled : Settled s s') (h : Act scene s s') : Within scene s s' :=
  ⟨hsettled, .single h⟩

lemma within_edit {registry : Registry} (h : Edit scene s.registry registry) :
    Within scene s { s with registry } :=
  within_act ⟨rfl, rfl, rfl, rfl, rfl, le_rfl⟩ (.edit h)

/-- Only counters moved. -/
lemma within_count {commits fences refusals revalidations rejectedReplays rejectedFrames pongsReceived
    errorsReceived : UInt64} :
    Within scene s { s with
      commits, fences, refusals, revalidations, rejectedReplays, rejectedFrames, pongsReceived, errorsReceived } :=
  within_act ⟨rfl, rfl, rfl, rfl, rfl, le_rfl⟩ (.count _ _ _ _ _ _ _ _)

lemma acts_of_edits {registry : Registry} (h : Edits scene s.registry registry) :
    ReflTransGen (Act scene) s { s with registry } := by
  induction h with
  | refl => exact .refl
  | tail _ hedit ih => exact ih.tail (.edit hedit)

lemma onRegistry_does {p : Program Registry Status α} {P : α → Registry → Prop} {Q : α → Coordinator → Prop}
    (h : Steps (Edits scene) p s.registry P) (hQ : ∀ a registry, P a registry → Q a { s with registry }) :
    Does scene (onRegistry p) s Q :=
  Steps.focus h (fun _ hedits => ⟨⟨rfl, rfl, rfl, rfl, rfl, le_rfl⟩, acts_of_edits hedits⟩) fun a registry _ hP => hQ a registry hP

lemma edits_does {p : Program Registry Status α} (h : Steps (Edits scene) p s.registry fun _ _ => True) :
    Does scene (onRegistry p) s fun _ _ => True :=
  onRegistry_does h fun _ _ _ => trivial

lemma onRegistry_ok {f : Registry → Result Registry} {next : Registry} (h : f s.registry = .ok next) :
    onRegistry (Program.update f) s = (.ok (), { s with registry := next }) := by
  simp [onRegistry, Program.focus, Program.update, h]

lemma onRegistry_error {f : Registry → Result Registry} {status : Status} (h : f s.registry = .error status) :
    onRegistry (Program.update f) s = (.error status, s) := by
  simp [onRegistry, Program.focus, Program.update, h]

/-- A checked insertion or removal. -/
lemma update_does {f : Registry → Result Registry} {Q : Unit → Coordinator → Prop}
    (h : ∀ next, f s.registry = .ok next → Edit scene s.registry next ∧ Q () { s with registry := next }) :
    Does scene (onRegistry (Program.update f)) s Q :=
  onRegistry_does (P := fun _ registry => Q () { s with registry })
    (Steps.update fun next hok => ⟨.single (h next hok).1, (h next hok).2⟩) fun _ _ hQ => hQ

lemma put_does {f : Registry → Result Registry}
    (h : ∀ next, f s.registry = .ok next → Edit scene s.registry next) :
    Does scene (onRegistry (Program.update f)) s fun _ _ => True :=
  update_does fun next hok => ⟨h next hok, trivial⟩

/-! The trail and the fences. -/

lemma audit_edits {registry : Registry} (now : Timestamp) (actor action subject : Bytes) (outcome : Outcome)
    (detail : Bytes) : Steps (Edits scene) (RuntimeFencing.appendAudit now actor action subject outcome detail)
      registry fun _ _ => True :=
  Steps.update fun _ hok => ⟨.single (.audit _ hok), trivial⟩

lemma appendAudit_does (actor action : String) (subject : Bytes) (outcome : Outcome) (detail : Bytes) :
    Does scene (appendAudit actor action subject outcome detail) s fun _ _ => True := by
  refine keeps_bind now_keeps fun t s₁ _ => Steps.get_bind ?_
  split
  · exact Steps.pure trivial
  · refine Steps.bind (edits_does (audit_edits _ _ _ _ _ _)) fun _ s₂ _ _ => ?_
    exact Steps.get_bind (does_of_keeps (logEach_keeps fun _ hlast => List.mem_of_getLast? (by simpa using hlast)))

lemma fenceGrantAction_edits (trigger : FenceTrigger) (now : Timestamp) (actor : Bytes) (outcome : FenceOutcome)
    (id : GrantId) {registry : Registry} :
    Steps (Edits scene) (fenceGrantAction trigger now actor outcome id) registry fun _ _ => True := by
  refine Steps.get_bind ?_
  split
  · exact Steps.pure trivial
  · rename_i grant hfind
    split
    · exact Steps.pure trivial
    · rename_i hstate
      refine Steps.modify_bind (.single (.grant id grant _ hfind (.fence trigger now hstate))) ?_
      exact (audit_edits _ _ _ _ _ _).bind fun _ _ _ _ => Steps.pure trivial

lemma fenceContractAction_edits (trigger : FenceTrigger) (now : Timestamp) (actor : Bytes)
    (outcome : FenceOutcome) (id : ContractId) {registry : Registry} :
    Steps (Edits scene) (fenceContractAction trigger now actor outcome id) registry fun _ _ => True := by
  refine Steps.get_bind ?_
  split
  · exact Steps.pure trivial
  · rename_i contract hfind
    split
    · exact Steps.pure trivial
    · rename_i hopen
      have hclosed : (fencedContract trigger now contract).state = .withdrawn ∨
          (fencedContract trigger now contract).state = .fenced := by
        simp only [fencedContract]
        split
        · exact .inl rfl
        · exact .inr rfl
      refine Steps.modify_bind (.single (.contract id contract _ hfind rfl rfl rfl (.inl ⟨hopen, hclosed⟩))) ?_
      exact (audit_edits _ _ _ _ _ _).bind fun _ _ _ _ => Steps.pure trivial

lemma releaseAction_edits (now : Timestamp) (outcome : FenceOutcome) (id : ReservationId)
    {registry : Registry} : Steps (Edits scene) (releaseAction now outcome id) registry fun _ _ => True := by
  refine Steps.get_bind ?_
  split
  · exact Steps.pure trivial
  · rename_i reservation hfind
    exact ⟨.single (.release id reservation now outcome hfind), fun _ _ => trivial⟩

lemma applyFencePlan_edits (plan : FencePlan) (now : Timestamp) (actor : Bytes) {registry : Registry} :
    Steps (Edits scene) (applyFencePlan plan now actor) registry fun _ _ => True := by
  refine Steps.foldEach (I := fun _ _ => True) trivial fun action _ outcome r _ _ => ?_
  unfold fenceAction
  split
  · exact fenceGrantAction_edits _ _ _ _ _
  · exact fenceContractAction_edits _ _ _ _ _
  · exact releaseAction_edits _ _ _

lemma fencePlanApply_does (plan : FencePlan) (actor : String) :
    Does scene (fencePlanApply plan actor) s fun _ _ => True := by
  unfold fencePlanApply
  split
  · exact Steps.pure trivial
  · refine Steps.get_bind (keeps_bind now_keeps fun t s₁ _ => ?_)
    refine Steps.bind (edits_does (applyFencePlan_edits _ _ _)) fun outcome s₂ _ _ => ?_
    refine Steps.modify_bind within_count ?_
    refine keeps_bind (Steps.foldEach (I := fun _ _ => True) trivial fun _ _ _ _ _ _ => logAction_keeps _ _)
      fun fenced s₃ _ => ?_
    refine keeps_bind logClusters_keeps fun _ s₄ _ => keeps_bind (logAudit_keeps _) fun _ s₅ _ => ?_
    exact does_of_keeps (announceFence_keeps _ _)

lemma fenceCluster_does (cluster : ClusterId) (trigger : FenceTrigger) (newIncarnation previous : IncarnationId)
    (generation : Generation) :
    Does scene (fenceCluster cluster trigger newIncarnation previous generation) s fun _ _ => True :=
  Steps.get_bind ((fencePlanApply_does _ _).bind fun _ _ _ _ => appendAudit_does _ _ _ _ _)

/-! Grants. -/

/-- The charge of an endpoint and the insertion of its reservation, taken together. -/
lemma charge_does {key : ClusterId} {cluster : ClusterRecord} {reservation : Uuid → ReservationRecord}
    {rest : Uuid → Op Unit} {Q : Unit → Coordinator → Prop}
    (hok : ∀ id next, (setCluster s.registry key cluster).putReservation (reservation id) = .ok next →
      Edit scene s.registry next ∧ ∀ index, Does scene (rest id) { s with registry := next, index } Q)
    (herror : ∀ id status, (setCluster s.registry key cluster).putReservation (reservation id) = .error status →
      Edit scene s.registry (setCluster s.registry key cluster)) :
    Does scene (do
      writeCluster key cluster
      let id ← random
      onRegistry (Program.update fun registry => registry.putReservation (reservation id))
      rest id) s Q := by
  let id := stamp (s.moments s.index).entropy
  have hasked : Kept s { s with index := s.index + 1 } := moment_keeps.related
  let s₁ : Coordinator := { s with registry := setCluster s.registry key cluster }
  let s₂ : Coordinator := { s₁ with index := s.index + 1 }
  have hrun : (do
      writeCluster key cluster
      let id ← random
      onRegistry (Program.update fun registry => registry.putReservation (reservation id))
      rest id : Op Unit) s = (do
      onRegistry (Program.update fun registry => registry.putReservation (reservation id))
      rest id : Op Unit) s₂ := by
    have hwrite : writeCluster key cluster s = (.ok (), s₁) := rfl
    have hdraw : random s₁ = (.ok id, s₂) := rfl
    rw [Program.bind_ok hwrite, Program.bind_ok hdraw]
  cases hput : (setCluster s.registry key cluster).putReservation (reservation id) with
  | error status =>
    have hupdate : onRegistry (Program.update fun registry => registry.putReservation (reservation id)) s₂ =
        (.error status, s₂) := by
      simp only [onRegistry, Program.focus, Program.update, s₂, s₁, hput]
    rw [Program.bind_error hupdate] at hrun
    constructor
    · rw [hrun]
      exact IsTrans.trans _ _ _ hasked.within (within_edit (herror id status hput))
    · intro a ha
      rw [hrun] at ha
      cases ha
  | ok next =>
    obtain ⟨hedit, hrest⟩ := hok id next hput
    have hupdate : onRegistry (Program.update fun registry => registry.putReservation (reservation id)) s₂ =
        (.ok (), { s₂ with registry := next }) := by
      simp only [onRegistry, Program.focus, Program.update, s₂, s₁, hput]
    rw [Program.bind_ok hupdate] at hrun
    have hwithin : Within scene s { s₂ with registry := next } :=
      IsTrans.trans _ _ _ hasked.within (within_edit hedit)
    constructor
    · rw [hrun]
      exact IsTrans.trans _ _ _ hwithin (hrest _).related
    · intro a ha
      rw [hrun] at ha ⊢
      exact (hrest _).returns a ha

lemma reserves_of_check {registry : Registry} (hformed : WellFormed registry) {key : ClusterId}
    {cluster : ClusterRecord} {endpoint : EndpointRecord} {name : EndpointId} (reservation : ReservationRecord)
    (hcluster : registry.clusters[key]? = some cluster)
    (hendpoint : cluster.endpoints.find? (fun e => e.id = name) = some endpoint)
    (hroom : ¬(endpoint.capacity.value < reservation.amount.value ∨
      endpoint.capacity.value - reservation.amount.value < endpoint.reserved.value))
    (hnamed : reservation.cluster = cluster.id ∧ reservation.endpoint = endpoint.id)
    (hreleased : reservation.released = false) : Reserves registry cluster endpoint reservation := by
  obtain ⟨hkey, -⟩ := find_cluster hformed hcluster
  have hname : endpoint.id = name := by simpa using List.find?_some hendpoint
  subst hname
  obtain ⟨hfits, hrest⟩ := not_or.mp hroom
  rw [UInt64.not_lt, UInt64.le_iff_toNat_le] at hfits hrest
  rw [UInt64.toNat_sub_of_le _ _ (UInt64.le_iff_toNat_le.mpr hfits)] at hrest
  exact ⟨by rw [hkey]; exact hcluster, hendpoint, hnamed, hreleased, by omega⟩

lemma reserveSide_does (hsettles : scene.settles) (hformed : WellFormed s.registry) (grant : GrantRecord)
    (now : Timestamp) (party : PartyRef) :
    Does scene (reserveSide grant now party) s fun _ s' => s'.registry.grants = s.registry.grants := by
  refine Steps.get_bind ?_
  split
  · exact Steps.throw
  · rename_i cluster hcluster
    split
    · exact Steps.throw
    · rename_i endpoint hendpoint
      dsimp only
      split
      · exact Steps.throw
      · rename_i hroom
        have hname : endpoint.id = party.endpoint := by simpa using List.find?_some hendpoint
        obtain ⟨hkey, -⟩ := find_cluster hformed hcluster
        rw [← hname, ← hkey]
        let reservation (id : Uuid) : ReservationRecord := {
          id := ⟨id⟩, grant := grant.id, endpoint := endpoint.id, cluster := cluster.id
          amount := grant.capacity, createdAt := now, provenance := derived now }
        have hreserves (id : Uuid) : Reserves s.registry cluster endpoint (reservation id) :=
          reserves_of_check hformed (reservation id) hcluster hendpoint hroom ⟨rfl, rfl⟩ rfl
        let updated : ClusterRecord := charged cluster endpoint grant.capacity
        let rest (id : Uuid) : Op Unit := do
          appendMutation (.reservationPut (reservation id))
          appendMutation (.clusterPut updated)
        refine @charge_does scene s cluster.id updated reservation rest _
          (fun id next hok => ⟨.reserve hsettles cluster endpoint (reservation id) (hreserves id) hok, fun index => ?_⟩)
          fun id status herror => .leak cluster endpoint (reservation id) status (hreserves id) herror
        obtain ⟨-, -, rfl⟩ := putReservation_eq_ok.mp hok
        refine keeps_bind (appendMutation_keeps ⟨⟨id⟩, Std.ExtTreeMap.getElem?_insert_self⟩) fun _ s₁ hs₁ => ?_
        have hlogged : Coherent s₁.registry (.clusterPut (charged cluster endpoint grant.capacity)) := by
          rw [hs₁.registry]
          exact ⟨cluster.id, Std.ExtTreeMap.getElem?_insert_self⟩
        refine (Kept.does (appendMutation_keeps hlogged)).mono fun _ s₂ hs₂ => ?_
        rw [hs₂.1.registry, hs₁.registry]
        rfl

lemma reserveCapacity_does (hsettles : scene.settles) (hformed : WellFormed s.registry) (grant : GrantRecord)
    (now : Timestamp) :
    Does scene (reserveCapacity grant now) s fun _ s' => s'.registry.grants = s.registry.grants := by
  refine Steps.get_bind ?_
  split
  · exact Steps.throw
  · refine Steps.forEach (I := fun s' : Coordinator => s'.registry.grants = s.registry.grants) rfl fun party _ s' hR hI => ?_
    refine (reserveSide_does hsettles (hR.formed hformed) grant now party).mono fun _ s'' h => ?_
    rw [h]
    exact hI

/-- A registered grant is written back after a move. -/
lemma writeGrant_does {id : GrantId} {grant next : GrantRecord} (hfind : s.registry.grants[id]? = some grant)
    (hmove : Move scene grant next) : Does scene (writeGrant id next) s fun _ s' =>
      s' = { s with registry := setGrant s.registry id next } :=
  Steps.modify (within_edit (.grant id grant next hfind hmove)) rfl

lemma setGrant_coherent (registry : Registry) (id : GrantId) (grant : GrantRecord) :
    Coherent (setGrant registry id grant) (.grantPut grant) :=
  ⟨id, Std.ExtTreeMap.getElem?_insert_self⟩

/-- A grant that was just written back is logged as it is. -/
lemma logWritten_keeps {s' : Coordinator} {id : GrantId} {grant : GrantRecord}
    (h : s' = { s with registry := setGrant s.registry id grant }) :
    Steps Kept (appendMutation (.grantPut grant)) s' fun _ _ => True := by
  refine appendMutation_keeps ?_
  rw [h]
  exact setGrant_coherent _ _ _

lemma dropPending_does (id : GrantId) : Does scene (dropPending id) s fun _ s' => s'.registry = s.registry :=
  Steps.modify (within_act ⟨rfl, rfl, rfl, rfl, rfl, le_rfl⟩ (.drop id)) rfl

lemma abortGrant_does (id : GrantId) (reason : Bytes) :
    Does scene (abortGrant id reason) s fun _ _ => True := by
  refine Steps.get_bind ?_
  split
  · exact (dropPending_does id).mono fun _ _ _ => trivial
  · rename_i grant hfind
    split
    · exact (dropPending_does id).mono fun _ _ _ => trivial
    · rename_i hstate
      refine Steps.bind (writeGrant_does hfind (.abort reason hstate)) fun _ s₁ _ hs₁ => ?_
      refine Steps.bind (Kept.does (logWritten_keeps hs₁)).attempt fun persisted s₂ _ _ => ?_
      refine Steps.bind (dropPending_does id) fun _ s₃ _ _ => ?_
      refine Steps.bind (Steps.ofResult (Q := fun _ _ => True) fun _ _ => trivial) fun _ s₄ _ _ => ?_
      exact appendAudit_does _ _ _ _ _

lemma finaliseGrant_does (hsettles : scene.settles) (hformed : WellFormed s.registry) (id : GrantId)
    (now : Timestamp)
    (hstate : ∀ grant, s.registry.grants[id]? = some grant → grant.state ≠ .committed → grant.state ≠ .active →
      grant.state = .indeterminate ∨ scene.completes grant.id ∧
        scene.base.grants[grant.id]?.map GrantRecord.state = some grant.state) :
    Does scene (finaliseGrant id now) s fun _ _ => True := by
  refine Steps.get_bind ?_
  split
  · exact Steps.throw
  · rename_i grant hfind
    split
    · exact Steps.pure trivial
    · rename_i hopen
      obtain ⟨hcommitted, hactive⟩ := not_or.mp hopen
      split
      · exact Steps.throw
      · rename_i hacks
        refine Steps.attempt_bind (reserveCapacity_does hsettles hformed grant now) (fun _ s₁ hR hgrants => ?_)
          fun status s₁ _ => ?_
        · rw [← hgrants] at hfind
          refine Steps.bind (writeGrant_does hfind (.commit now (by simpa using hacks) ?_)) fun _ s₂ _ hs₂ => ?_
          · rw [hgrants] at hfind
            exact (hstate grant hfind hcommitted hactive).imp_left fun hlost => ⟨hsettles, hlost⟩
          refine keeps_bind (logWritten_keeps hs₂) fun _ s₃ _ => ?_
          refine Steps.modify_bind within_count ?_
          refine Steps.bind (dropPending_does id) fun _ s₄ _ _ => ?_
          exact appendAudit_does _ _ _ _ _
        · exact (abortGrant_does id _).bind fun _ _ _ _ => Steps.throw

lemma requireTarget_keeps (party : PartyRef) : Steps Kept (requireTarget party) s fun _ _ => True := by
  refine Steps.get_bind ?_
  dsimp only
  split
  · exact Steps.pure trivial
  · exact Steps.throw

/-- The grant of a prepare request is logged: as it is, or before it is put under the identity just
issued. -/
lemma logPrepared_does (inPlace : Bool) {grant : GrantRecord} (hstate : grant.state = .preparing)
    (hacks : grant.acknowledged = ⟨false, false⟩) (hissue : inPlace = false → scene.issues grant.id)
    (hplaced : inPlace = true → s.registry.grants[grant.id]? = some grant) :
    Does scene (appendMutation (.grantPut grant)) s fun _ s' => s'.registry = s.registry := by
  cases inPlace with
  | true =>
    have hcoherent : Coherent s.registry (.grantPut grant) := ⟨grant.id, hplaced rfl⟩
    exact (Kept.does (appendMutation_keeps hcoherent)).mono fun _ _ h => h.1.registry
  | false =>
    have hrun : appendMutation (.grantPut grant) s = onStore (fun store files => store.append files (.grantPut grant)
        (s.moments s.index).now (s.moments s.index).append) { s with index := s.index + 1 } := rfl
    constructor
    · rw [hrun, onStore_state]
      exact within_act ⟨rfl, rfl, rfl, rfl, rfl, Nat.le_succ _⟩ (.announce grant (hissue rfl) hstate hacks _)
    · intro _ _
      rw [hrun, onStore_state]

/-- The grant of a prepare request is put where it is already, or under the identity just issued. -/
lemma putPrepared_does (inPlace : Bool) {grant : GrantRecord} (hstate : grant.state = .preparing)
    (hacks : grant.acknowledged = ⟨false, false⟩) (hissue : inPlace = false → scene.issues grant.id)
    (hreval : inPlace = true → scene.revalidates grant.id ∧ s.registry.grants[grant.id]? = some grant) :
    Does scene (onRegistry (Program.update fun registry => registry.putGrant grant)) s fun _ _ => True := by
  refine put_does fun next hok => ?_
  cases inPlace with
  | false => exact .issue grant (hissue rfl) hstate hacks hok
  | true =>
    obtain ⟨hscene, hfind⟩ := hreval rfl
    obtain ⟨-, -, rfl⟩ := putGrant_eq_ok.mp hok
    refine .grant grant.id grant grant hfind (.revalidate grant hscene ?_ rfl rfl rfl hstate hacks)
    rw [hstate]
    decide

lemma prepareGrant_does {inPlace : Bool} {grant : GrantRecord} (hacks : grant.acknowledged = ⟨false, false⟩)
    (hissue : inPlace = false → scene.issues grant.id)
    (hreval : inPlace = true → scene.revalidates grant.id ∧ s.registry.grants[grant.id]? = some grant ∧
      grant.state ≠ .fenced) : Does scene (prepareGrant inPlace grant) s fun _ _ => True := by
  refine Steps.get_bind ?_
  split
  · exact Steps.throw
  · split
    · exact Steps.throw
    · refine keeps_bind now_keeps fun started s₁ h₁ => keeps_bind (requireTarget_keeps _) fun first s₂ h₂ =>
        keeps_bind (requireTarget_keeps _) fun second s₃ h₃ => keeps_bind now_keeps fun observed s₄ h₄ => ?_
      have hregistry : s₄.registry = s.registry :=
        h₄.registry.trans (h₃.registry.trans (h₂.registry.trans h₁.registry))
      dsimp only
      generalize hpreparing : ({ grant with
        state := .preparing
        provenance := { grant.provenance with
          source := .derivedFromTopology, verification := .verified, observedAt := observed } } : GrantRecord) =
        preparing
      have hid : preparing.id = grant.id := by rw [← hpreparing]
      have hstate : preparing.state = .preparing := by rw [← hpreparing]
      have hnone : preparing.acknowledged = ⟨false, false⟩ := by rw [← hpreparing]; exact hacks
      have hissue' (h : inPlace = false) : scene.issues preparing.id := by rw [hid]; exact hissue h
      have hwrite : Does scene (Program.onlyIf (inPlace = true) (writeGrant grant.id preparing)) s₄ fun _ s' =>
          inPlace = true → s'.registry.grants[preparing.id]? = some preparing := by
        refine Steps.onlyIf (fun hplace => ?_) fun hplace h => absurd h hplace
        obtain ⟨hscene, hfind, hfenced⟩ := hreval hplace
        rw [← hregistry] at hfind
        refine (writeGrant_does hfind (.revalidate preparing hscene hfenced hid ?_ ?_ hstate hnone)).mono
          fun _ s' hs' _ => ?_
        · rw [← hpreparing]
        · rw [← hpreparing]
        · rw [hs', hid]
          exact Std.ExtTreeMap.getElem?_insert_self
      refine Steps.bind hwrite fun _ s₅ _ hplaced => ?_
      refine Steps.bind (logPrepared_does inPlace hstate hnone hissue' hplaced) fun _ s₆ _ h₆ => ?_
      have hput : Does scene (onRegistry (Program.update fun registry => registry.putGrant preparing)) s₆
          fun _ _ => True := by
        refine putPrepared_does inPlace hstate hnone hissue' fun h => ⟨?_, ?_⟩
        · rw [hid]
          exact (hreval h).1
        · rw [h₆]
          exact hplaced h
      refine Steps.bind hput.ignore fun _ s₇ _ _ => ?_
      refine Steps.modify_bind (within_act ⟨rfl, rfl, rfl, rfl, rfl, le_rfl⟩ (.open_ {
        grant := grant.id, contract := grant.contract, targets := ⟨first, second⟩
        deadline := started.plus s₇.config.grantFlowDeadline } rfl)) (Steps.get_bind ?_)
      split
      · exact Steps.throw
      · exact keeps_bind (send_keeps _ rfl) fun _ _ _ => does_of_keeps (send_keeps _ rfl)

/-- The request to commit, to a side of a flow in which both sides are prepared. -/
lemma sendCommit_does (connection : ℕ) (token : SessionToken) {id : GrantId} {pending : PendingGrant}
    {grant : GrantRecord} {attempt : AttemptId} {side : Side} (hpending : s.pending[id]? = some pending)
    (hprepared : pending.prepared = ⟨true, true⟩) (hgrant : s.registry.grants[id]? = some grant)
    (hattempt : grant.attempt = attempt) (hscene : scene.prepares id attempt side) :
    Does scene (send connection (.commitGrant token id attempt)) s fun _ s' =>
      s'.registry = s.registry ∧ s'.pending = s.pending := by
  subst hattempt
  unfold send
  split
  · exact Steps.pure ⟨rfl, rfl⟩
  · refine keeps_bind (moment_keeps.mono fun _ _ _ => trivial) fun m s₁ h₁ => ?_
    split
    · exact Steps.pure ⟨h₁.registry, h₁.pending⟩
    · exact Steps.throw
    · rw [← h₁.pending] at hpending
      rw [← h₁.registry] at hgrant
      exact Steps.modify (within_act ⟨rfl, rfl, rfl, rfl, rfl, le_rfl⟩
        (.commit connection token id pending grant side hpending hprepared hgrant hscene)) ⟨h₁.registry, h₁.pending⟩

lemma commitGrant_does {id : GrantId} (side : Side) (hstate : ∀ grant, s.registry.grants[id]? = some grant →
      (grant.state = .preparing ∨ grant.state = .prepared) ∧ scene.prepares id grant.attempt side)
    (hprepared : ∀ pending, s.pending[id]? = some pending → pending.prepared = ⟨true, true⟩) :
    Does scene (commitGrant id) s fun _ _ => True := by
  refine Steps.get_bind ?_
  split
  · exact Steps.throw
  · rename_i grant hfind
    obtain ⟨hopen, hscene⟩ := hstate grant hfind
    split
    · exact Steps.throw
    · rename_i pending hpending
      have hboth := hprepared pending hpending
      split
      · have hopen : grant.state = .preparing ∨ grant.state = .prepared ∨ grant.usableState = true :=
          hopen.imp_right Or.inl
        refine Steps.bind (writeGrant_does hfind (.suspend _ hopen)) fun _ s₁ _ hs₁ => ?_
        exact does_of_keeps (logWritten_keeps hs₁)
      · refine Steps.bind (writeGrant_does hfind (.prepare _ hopen)) fun _ s₁ _ hs₁ => ?_
        refine keeps_bind (logWritten_keeps hs₁) fun _ s₂ h₂ => ?_
        have hpending₂ : s₂.pending[id]? = some pending := by
          rw [h₂.pending, hs₁]
          exact hpending
        have hgrant₂ : s₂.registry.grants[id]? = some { grant with
            state := .prepared, note := ascii "both cluster agents prepared the same attempt" } := by
          rw [h₂.registry, hs₁]
          exact Std.ExtTreeMap.getElem?_insert_self
        refine Steps.bind (sendCommit_does _ _ hpending₂ hboth hgrant₂ rfl hscene) fun _ s₃ _ h₃ => ?_
        rw [← h₃.2] at hpending₂
        rw [← h₃.1] at hgrant₂
        exact (sendCommit_does _ _ hpending₂ hboth hgrant₂ rfl hscene).mono fun _ _ _ => trivial

end Scenes

end InterClusterFabric.RuntimeSteps
