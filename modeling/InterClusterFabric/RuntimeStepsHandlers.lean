import InterClusterFabric.RuntimeSteps

/-! The handlers of messages, lost connections and ticks, as edits of the scene of their event. -/
namespace InterClusterFabric.RuntimeStepsHandlers
open CoreStatus CoreIds CoreTime CoreHash ModelRecords ModelRegistry ModelRegistryLaws EngineDecision
open RuntimeFencing StoreMutation StoreDurable WireMessages RuntimeCoordinator RuntimeHandlers RuntimeAdmin
open RuntimeRun RuntimeEdits RuntimeSteps LibraryChecked LibraryOrdMap LibraryProgram Relation

/-- The session a connection speaks in with that token. -/
structure SpeaksAs (s : Coordinator) (connection : ℕ) (token : SessionToken) (session : PeerSession) : Prop where
  open_ : s.sessions[connection]? = some session
  valid : sessionFault (some session) token = none

/-- The report passes every check before it is stored. -/
structure ReportAccepted (s : Coordinator) (connection : ℕ) (message : ReportClusterMessage)
    (session : PeerSession) (cluster : ClusterRecord) : Prop where
  speaks : SpeaksAs s connection message.session session
  role : session.role = .agent
  owner : message.cluster.id = session.cluster
  registered : s.registry.clusters[session.cluster]? = some cluster
  generation : ¬message.cluster.generation < cluster.generation
  incarnation : message.cluster.incarnation = cluster.incarnation
  policy : ¬message.cluster.policyGeneration < cluster.policyGeneration
  content : ¬(¬cluster.policyGeneration < message.cluster.policyGeneration ∧
    message.cluster.generation = cluster.generation ∧ message.cluster.contentDigest ≠ 0 ∧
    cluster.contentDigest ≠ 0 ∧ message.cluster.contentDigest ≠ cluster.contentDigest)

/-- The acknowledgement passes the checks of `withGrant`. -/
structure SpeaksFor (s : Coordinator) (session : PeerSession) (id : GrantId) (attempt : AttemptId)
    (grant : GrantRecord) (side : Side) : Prop where
  registered : s.registry.grants[id]? = some grant
  party : ∃ contract, s.registry.contracts[grant.contract]? = some contract ∧
    contract.sideOf session.cluster = some side
  attempt : attempt = grant.attempt
  bound : grant.incarnations.get side = session.incarnation ∧ grant.generations.get side = session.generation

/-- An accepted commit acknowledgement that leaves the grant acknowledged by both sides. -/
structure CommitCompletes (s : Coordinator) (connection : ℕ) (message : GrantCommittedMessage)
    (grant : GrantRecord) : Prop where
  installed : message.installed = true
  accepted : ∃ session side, SpeaksAs s connection message.session session ∧
    SpeaksFor s session message.grant message.attempt grant side ∧
    (acknowledge grant side message.enforcementDigest).bothAcknowledged = true

/-- An accepted prepare acknowledgement of one side. -/
structure PrepareAccepted (s : Coordinator) (connection : ℕ) (message : GrantPreparedMessage) (side : Side) :
    Prop where
  accepted : message.accepted = true
  speaks : ∃ session grant, SpeaksAs s connection message.session session ∧
    SpeaksFor s session message.grant message.attempt grant side ∧
    (grant.state = .preparing ∨ grant.state = .prepared)

/-- The session speaks for a side of the grant, under the incarnation and the generation the grant is
bound to on that side. -/
structure SpeaksBound (s : Coordinator) (session : PeerSession) (grant : GrantRecord) (side : Side) : Prop where
  party : ∃ contract, s.registry.contracts[grant.contract]? = some contract ∧
    contract.sideOf session.cluster = some side
  bound : grant.incarnations.get side = session.incarnation ∧ grant.generations.get side = session.generation

/-- The message says that a side enforces the very attempt of the grant: it acknowledges the commit, or
reports the grant as installed. -/
def Confirms (s : Coordinator) (event : Event) (grant : GrantRecord) (side : Side) : Prop :=
  (∃ connection message session, event = .message connection (.grantCommitted message) ∧
    SpeaksAs s connection message.session session ∧ SpeaksBound s session grant side ∧
    message.installed = true ∧ message.grant = grant.id ∧ message.attempt = grant.attempt) ∨
  ∃ connection message session entry, event = .message connection (.statusReport message) ∧
    SpeaksAs s connection message.session session ∧ SpeaksBound s session grant side ∧
    entry ∈ message.grants ∧ installed entry.state = true ∧ entry.grant = grant.id ∧ entry.attempt = grant.attempt

/-- The handshake names what an agent has to name, in a version both sides know. -/
structure HelloAdmitted (request : HelloMessage) : Prop where
  version : ¬min request.protocolMax protocolVersionMax < max request.protocolMin protocolVersionMin
  role : request.role ≠ .observer
  cluster : request.cluster.isEmpty ≠ true
  domain : request.domain.isEmpty ≠ true
  capable : request.capabilities &&& capabilityTwoSidedConsent ≠ 0

/-- The handshake presents a new incarnation of a registered cluster under a later generation. -/
structure Reincarnates (s : Coordinator) (request : HelloMessage) (cluster : ClusterRecord) : Prop where
  admitted : HelloAdmitted request
  registered : s.registry.clusters[request.cluster]? = some cluster
  domain : cluster.domain = request.domain
  generation : ¬request.generation < cluster.generation ∧ request.generation ≠ cluster.generation
  incarnation : request.incarnation ≠ cluster.incarnation

/-- What a handshake can make of the claim of a registered cluster. -/
inductive Renewal (request : HelloMessage) (cluster : ClusterRecord) : ClusterRecord → Prop
  | reincarnate (lastSeen observedAt : Timestamp) (hincarnation : request.incarnation ≠ cluster.incarnation) :
      Renewal request cluster (reincarnated request lastSeen observedAt cluster)
  | advance (lastSeen : Timestamp) (hgeneration : ¬request.generation < cluster.generation)
      (hpolicy : cluster.policyGeneration < request.policyGeneration) :
      Renewal request cluster { cluster with policyGeneration := request.policyGeneration, lastSeen }

/-- The report claims another content for the generation on record. -/
structure Contradicts (incoming cluster : ClusterRecord) : Prop where
  incarnation : incoming.incarnation = cluster.incarnation
  content : ¬cluster.policyGeneration < incoming.policyGeneration ∧ incoming.generation = cluster.generation ∧
    incoming.contentDigest ≠ 0 ∧ cluster.contentDigest ≠ 0 ∧ incoming.contentDigest ≠ cluster.contentDigest

/-- The identity the next draw gives. -/
def nextUuid (s : Coordinator) : Uuid := stamp (s.moments s.index).entropy

/-- The event is an administrative action the coordinator performs. -/
def Administers (s : Coordinator) (event : Event) (request : AdminMessage) : Prop :=
  ∃ connection, event = .message connection (.admin request) ∧ mayAdminister s connection = true

/-- The action may change links or paths. -/
def rewires : AdminAction → Bool
  | .upsertLink | .setLinkState | .deleteLink | .upsertPath | .deletePath => true
  | _ => false

/-- What the step of an event is about. -/
def sceneOf (s : Coordinator) (event : Event) : Scene where
  base := s.registry
  term := s.term
  incarnation := s.incarnation
  issues id := (∃ request, Administers s event request ∧ request.action = .issueGrant) ∧ id = ⟨nextUuid s⟩
  revalidates id := ∃ request, Administers s event request ∧ request.action = .revalidateGrant ∧
    request.grant = id
  strands id := ∃ request grant, Administers s event request ∧ request.action = .revalidateGrant ∧
    request.grant = id ∧ s.registry.grants[id]? = some grant ∧ grant.state ≠ .fenced ∧
    s.registry.contracts[grant.contract]? = none
  acknowledges grant side := Confirms s event grant side
  prepares id attempt side := ∃ connection message, event = .message connection (.grantPrepared message) ∧
    PrepareAccepted s connection message side ∧ message.grant = id ∧ message.attempt = attempt
  completes id := ∃ connection message grant, event = .message connection (.grantCommitted message) ∧
    CommitCompletes s connection message grant ∧ message.grant = id
  proposes contract := ∃ request source target, Administers s event request ∧
    request.action = .authorizeContract ∧ s.registry.clusters[request.clusterId]? = some source ∧
    s.registry.clusters[request.clusterB]? = some target ∧
    contract.parties = ⟨⟨source.id, request.endpoint, source.domain⟩, ⟨target.id, request.endpointB, target.domain⟩⟩ ∧
    contract.id = ⟨nextUuid s⟩
  answers id := ∃ connection message, event = .message connection (.contractConsent message) ∧ message.contract = id
  replaces record :=
    (∃ connection message session cluster token observedAt, event = .message connection (.reportCluster message) ∧
      ReportAccepted s connection message session cluster ∧
      record = reportedCluster cluster message.cluster token observedAt) ∨
    ∃ request cluster, Administers s event request ∧ request.action = .upsertCluster ∧
      request.cluster = some cluster ∧ record.id = cluster.id ∧ record.endpoints = cluster.endpoints ∧
      record.domain = if cluster.domain.isEmpty then s.config.domain else cluster.domain
  registers record := ∃ connection request lastSeen observedAt, event = .message connection (.hello request) ∧
    record = registeredCluster request lastSeen observedAt
  renews id cluster next :=
    (∃ connection request, event = .message connection (.hello request) ∧ request.cluster = id ∧
      s.registry.clusters[id]? = some cluster ∧ Renewal request cluster next) ∨
    (∃ connection message, event = .message connection (.reportCluster message) ∧ message.cluster.id = id ∧
      s.registry.clusters[id]? = some cluster ∧ Contradicts message.cluster cluster) ∨
    ∃ request, Administers s event request ∧ request.action = .resolveConflict ∧ request.clusterId = id ∧
      cluster.generationConflict ≠ false
  deletes id := ∃ request, Administers s event request ∧ request.action = .deleteCluster ∧ request.clusterId = id
  clears id :=
    (∃ connection request cluster, event = .message connection (.hello request) ∧
      Reincarnates s request cluster ∧ request.cluster = id) ∨
    ∃ request, Administers s event request ∧ request.action = .resolveConflict ∧ request.clusterId = id
  restores id := ∃ request, Administers s event request ∧ request.action = .restoreConsent ∧
    request.clusterId = id
  sets id state := ∃ request, Administers s event request ∧ request.action = .setClusterState ∧
    request.clusterId = id ∧ request.clusterState = state
  rewires := (∃ request, Administers s event request ∧ rewires request.action = true) ∨
    ∃ connection message, event = .message connection (.reportCluster message)
  settles := ∃ connection, (∃ message, event = .message connection (.grantCommitted message)) ∨
    ∃ message, event = .message connection (.statusReport message)

section Handlers

variable {scene : Scene} {s : Coordinator}

lemma countReplay_does : Does scene countReplay s fun _ s' => s'.registry = s.registry :=
  Steps.modify within_count rfl

lemma countRefusal_does : Does scene countRefusal s fun _ s' => s'.registry = s.registry :=
  Steps.modify within_count rfl

lemma countFrame_does : Does scene countFrame s fun _ s' => s'.registry = s.registry :=
  Steps.modify within_count rfl

lemma setSession_does (connection : ℕ) {f : PeerSession → PeerSession}
    (h : ∀ session, Regenerates session (f session)) :
    Does scene (setSession connection f) s fun _ s' => s'.registry = s.registry :=
  Steps.modify (within_act ⟨rfl, rfl, rfl, rfl, rfl, le_rfl⟩ (.regenerate connection f h)) rfl

/-- A counted rejection that is answered with an error. -/
lemma replay_error_does (connection : ℕ) (request : Uuid) (outcome : Outcome) (detail : Bytes) :
    Does scene (do countReplay; sendError connection request outcome detail) s fun _ _ => True :=
  countReplay_does.bind fun _ _ _ _ => sendError_does _ _ _ _

lemma withSession_does {connection : ℕ} {token : SessionToken} {body : PeerSession → Op Unit}
    (h : ∀ session, SpeaksAs s connection token session → Does scene (body session) s fun _ _ => True) :
    Does scene (withSession connection token body) s fun _ _ => True := by
  refine Steps.get_bind ?_
  dsimp only
  cases hsession : s.sessions[connection]? with
  | none => exact replay_error_does _ _ _ _
  | some session =>
    split
    · exact replay_error_does _ _ _ _
    · rename_i hfault
      exact h session ⟨hsession, hfault⟩

/-- A session that may speak is what the handler is run with. -/
lemma withSession_run {connection : ℕ} {token : SessionToken} {session : PeerSession}
    (hspeaks : SpeaksAs s connection token session) (body : PeerSession → Op Unit) :
    withSession connection token body s = body session s := by
  unfold withSession
  rw [Program.get_bind_run, hspeaks.open_, hspeaks.valid]
  rfl

lemma withGrant_does {connection : ℕ} {session : PeerSession} {id : GrantId} {attempt : AttemptId}
    {body : GrantRecord → Side → Op Unit}
    (h : ∀ grant side, SpeaksFor s session id attempt grant side → Does scene (body grant side) s fun _ _ => True) :
    Does scene (withGrant connection session id attempt body) s fun _ _ => True := by
  refine Steps.get_bind ?_
  dsimp only
  split
  · exact sendError_does _ _ _ _
  · rename_i grant hgrant
    split
    · exact sendError_does _ _ _ _
    · rename_i contract hcontract
      split
      · exact sendError_does _ _ _ _
      · rename_i side hside
        split
        · exact replay_error_does _ _ _ _
        · rename_i hattempt
          split
          · exact replay_error_does _ _ _ _
          · rename_i hbound
            obtain ⟨hincarnation, hgeneration⟩ := not_or.mp hbound
            exact h grant side ⟨hgrant, ⟨contract, hcontract, hside⟩, not_not.mp hattempt,
              not_not.mp hincarnation, not_not.mp hgeneration⟩

/-! Handshakes. -/

lemma refuseHello_does (connection : ℕ) (ack : HelloAckMessage) (outcome : Outcome) (detail : Bytes) :
    Does scene (refuseHello connection ack outcome detail) s fun _ _ => True :=
  countRefusal_does.bind fun _ _ _ _ => does_of_keeps (send_keeps _ rfl)

lemma welcomeAgent_does (connection : ℕ) (request : HelloMessage) (ack : HelloAckMessage) (signing : Bool)
    (fenced : List GrantId) (detail : Bytes) :
    Does scene (welcomeAgent connection request ack signing fenced detail) s fun _ _ => True := by
  refine keeps_bind random_keeps fun token s₁ _ => keeps_bind now_keeps fun connectedAt s₂ _ => ?_
  refine Steps.get_bind (Steps.modify_bind (within_act ⟨rfl, rfl, rfl, rfl, rfl, le_rfl⟩
    (.join connection _ ⟨rfl, rfl, .inl rfl⟩)) ?_)
  refine keeps_bind (send_keeps _ rfl) fun _ s₃ _ => ?_
  refine Steps.bind (Steps.onlyIf (fun _ => does_of_keeps (send_keeps _ rfl)) fun _ => trivial) fun _ s₄ _ _ => ?_
  exact keeps_bind random_keeps fun query s₅ _ => does_of_keeps (send_keeps _ rfl)

lemma writeCluster_does {id : ClusterId} {cluster next : ClusterRecord}
    (hfind : s.registry.clusters[id]? = some cluster) (htouch : Touch scene id cluster next) :
    Does scene (writeCluster id next) s fun _ _ => True :=
  Steps.modify (within_edit (.touch id cluster next hfind htouch)) trivial

lemma registerAgent_does (connection : ℕ) (request : HelloMessage) (ack : HelloAckMessage) (signing : Bool)
    (hnew : s.registry.clusters[request.cluster]? = none)
    (hregisters : ∀ lastSeen observedAt, scene.registers (registeredCluster request lastSeen observedAt)) :
    Does scene (registerAgent connection request ack signing) s fun _ _ => True := by
  refine Steps.get_bind ?_
  split
  · exact refuseHello_does _ _ _ _
  · refine keeps_bind now_keeps fun lastSeen s₁ h₁ => keeps_bind now_keeps fun observedAt s₂ h₂ => ?_
    have hregistry : s₂.registry = s.registry := h₂.registry.trans h₁.registry
    refine Steps.attempt_bind (put_does fun next hok => .replace _ (.inl ⟨rfl, ?_, hregisters _ _⟩) hok)
      (fun _ s₃ _ _ => ?_) fun status s₃ _ => refuseHello_does _ _ _ _
    · rw [hregistry, mem_iff_isSome]
      simp [registeredCluster, hnew]
    · refine keeps_bind (logCluster_keeps _) fun _ s₄ _ => ?_
      exact (appendAudit_does _ _ _ _ _).bind fun _ _ _ _ => welcomeAgent_does _ _ _ _ _ _

lemma reincarnateAgent_does {cluster : ClusterRecord} (connection : ℕ) (request : HelloMessage)
    (ack : HelloAckMessage) (signing : Bool) (hfind : s.registry.clusters[request.cluster]? = some cluster)
    (hclears : scene.clears request.cluster) (hlater : cluster.generation < request.generation)
    (hrenews : ∀ next, Renewal request cluster next → scene.renews request.cluster cluster next)
    (hincarnation : request.incarnation ≠ cluster.incarnation) :
    Does scene (reincarnateAgent connection request ack signing cluster) s fun _ _ => True := by
  refine keeps_bind now_keeps fun lastSeen s₁ h₁ => keeps_bind now_keeps fun observedAt s₂ h₂ => ?_
  rw [← h₁.registry, ← h₂.registry] at hfind
  have hnewer : Newer cluster (reincarnated request lastSeen observedAt cluster) :=
    ⟨Counter.le_iff.mpr (Counter.lt_iff.mp hlater).le, Counter.le_iff.mpr le_rfl, fun _ => hlater⟩
  have htouch : Touch scene request.cluster cluster (reincarnated request lastSeen observedAt cluster) :=
    ⟨rfl, rfl, rfl, .inr (.inr hclears), .inl rfl, .inl rfl, hnewer, .inr (hrenews _ (.reincarnate _ _ hincarnation))⟩
  refine Steps.bind (writeCluster_does hfind htouch) fun _ s₃ _ _ => ?_
  refine Steps.bind (fenceCluster_does _ _ _ _ _) fun _ s₄ _ _ => Steps.get_bind ?_
  exact keeps_bind (logCluster_keeps _) fun _ s₅ _ => welcomeAgent_does _ _ _ _ _ _

lemma advancePolicy_does {cluster : ClusterRecord} (connection : ℕ) (request : HelloMessage)
    (ack : HelloAckMessage) (signing : Bool) (hfind : s.registry.clusters[request.cluster]? = some cluster)
    (hgeneration : ¬request.generation < cluster.generation) (hlater : cluster.policyGeneration < request.policyGeneration)
    (hrenews : ∀ next, Renewal request cluster next → scene.renews request.cluster cluster next) :
    Does scene (advancePolicy connection request ack signing cluster) s fun _ _ => True := by
  refine keeps_bind now_keeps fun lastSeen s₁ h₁ => ?_
  rw [← h₁.registry] at hfind
  have hnewer : Newer cluster { cluster with policyGeneration := request.policyGeneration, lastSeen } :=
    ⟨Counter.le_iff.mpr le_rfl, Counter.le_iff.mpr (Counter.lt_iff.mp hlater).le, fun h => absurd rfl h⟩
  refine Steps.bind (writeCluster_does hfind
    ⟨rfl, rfl, rfl, .inl rfl, .inl rfl, .inl rfl, hnewer, .inr (hrenews _ (.advance _ hgeneration hlater))⟩)
    fun _ s₂ _ _ => ?_
  refine Steps.bind (fenceCluster_does _ _ _ _ _) fun _ s₃ _ _ => ?_
  exact keeps_bind (logCluster_keeps _) fun _ s₄ _ => welcomeAgent_does _ _ _ _ _ _

lemma returningAgent_does {cluster : ClusterRecord} (connection : ℕ) (request : HelloMessage)
    (ack : HelloAckMessage) (signing : Bool) (hfind : s.registry.clusters[request.cluster]? = some cluster)
    (hclears : cluster.domain = request.domain → ¬request.generation < cluster.generation →
      request.incarnation ≠ cluster.incarnation → request.generation ≠ cluster.generation →
      scene.clears request.cluster)
    (hrenews : ∀ next, Renewal request cluster next → scene.renews request.cluster cluster next) :
    Does scene (returningAgent connection request ack signing cluster) s fun _ _ => True := by
  unfold returningAgent
  split
  · exact refuseHello_does _ _ _ _
  rename_i hdomain
  split
  · refine countRefusal_does.bind fun _ s₁ _ _ => ?_
    exact (appendAudit_does _ _ _ _ _).bind fun _ _ _ _ => does_of_keeps (send_keeps _ rfl)
  rename_i hgeneration
  split
  · rename_i hincarnation
    split
    · exact refuseHello_does _ _ _ _
    · rename_i hlater
      have hgreater : cluster.generation < request.generation := by
        have hle := Counter.le_iff.mp (Counter.not_lt_iff.mp hgeneration)
        have hne : request.generation.value.toNat ≠ cluster.generation.value.toNat :=
          fun h => hlater (Counter.ext (UInt64.toNat_inj.mp h))
        rw [Counter.lt_iff]
        omega
      exact reincarnateAgent_does _ _ _ _ hfind (hclears (not_not.mp hdomain) hgeneration hincarnation hlater)
        hgreater hrenews hincarnation
  split
  · rename_i hother
    split
    · exact refuseHello_does _ _ _ _
    · rename_i hpolicy
      have hadvanced : cluster.policyGeneration < request.policyGeneration := by
        have hle := Counter.le_iff.mp (Counter.not_lt_iff.mp hpolicy)
        have hne : request.policyGeneration.value.toNat ≠ cluster.policyGeneration.value.toNat :=
          fun h => hother (Counter.ext (UInt64.toNat_inj.mp h))
        rw [Counter.lt_iff]
        omega
      exact advancePolicy_does _ _ _ _ hfind hgeneration hadvanced hrenews
  · refine keeps_bind now_keeps fun lastSeen s₁ h₁ => ?_
    rw [← h₁.registry] at hfind
    refine Steps.bind (writeCluster_does hfind
      ⟨rfl, rfl, rfl, .inl rfl, .inl rfl, .inl rfl, .of_same rfl rfl rfl, .inl ⟨rfl, rfl, rfl, rfl, rfl⟩⟩)
      fun _ s₂ _ _ => ?_
    exact welcomeAgent_does _ _ _ _ _ _

lemma welcomeObserver_does (connection : ℕ) (request : HelloMessage) (ack : HelloAckMessage) (signing : Bool) :
    Does scene (welcomeObserver connection request ack signing) s fun _ _ => True := by
  refine keeps_bind random_keeps fun token s₁ _ => keeps_bind now_keeps fun connectedAt s₂ _ => ?_
  refine Steps.modify_bind (within_act ⟨rfl, rfl, rfl, rfl, rfl, le_rfl⟩
    (.join connection _ ⟨rfl, rfl, .inr rfl⟩)) ?_
  exact does_of_keeps (send_keeps _ rfl)

lemma onHello_does (connection : ℕ) (request : HelloMessage)
    (hclears : ∀ cluster, Reincarnates s request cluster → scene.clears request.cluster)
    (hregisters : ∀ lastSeen observedAt, scene.registers (registeredCluster request lastSeen observedAt))
    (hrenews : ∀ cluster next, s.registry.clusters[request.cluster]? = some cluster → Renewal request cluster next →
      scene.renews request.cluster cluster next) :
    Does scene (onHello connection request) s fun _ _ => True := by
  refine Steps.get_bind ?_
  dsimp only
  split
  · exact refuseHello_does _ _ _ _
  rename_i hversion
  split
  · exact welcomeObserver_does _ _ _ _
  rename_i hrole
  split
  · exact refuseHello_does _ _ _ _
  rename_i hcluster
  split
  · exact refuseHello_does _ _ _ _
  rename_i hdomain
  split
  · exact refuseHello_does _ _ _ _
  rename_i hcapable
  have hadmitted : HelloAdmitted request := ⟨hversion, hrole, hcluster, hdomain, hcapable⟩
  split
  · rename_i hnew
    exact registerAgent_does _ _ _ _ hnew hregisters
  · rename_i cluster hfind
    refine returningAgent_does _ _ _ _ hfind (fun hdomain hgeneration hincarnation hlater => ?_)
      fun next => hrenews cluster next hfind
    exact hclears cluster ⟨hadmitted, hfind, hdomain, ⟨hgeneration, hlater⟩, hincarnation⟩

/-! Reports. -/

lemma reportConflict_does {cluster incoming : ClusterRecord} (connection : ℕ) (ack : ReportAckMessage)
    (hfind : s.registry.clusters[incoming.id]? = some cluster)
    (hrenews : ∀ next, next.generation = cluster.generation → next.policyGeneration = cluster.policyGeneration →
      scene.renews incoming.id cluster next) :
    Does scene (reportConflict connection ack cluster incoming) s fun _ _ => True := by
  refine Steps.bind (writeCluster_does hfind
    ⟨rfl, rfl, rfl, .inr (.inl rfl), .inl rfl, .inl rfl, .of_same rfl rfl rfl, .inr (hrenews _ rfl rfl)⟩)
    fun _ s₁ _ _ => Steps.bind (setSession_does _ fun _ => ⟨_, _, rfl⟩) fun _ s₂ _ _ => ?_
  refine Steps.bind (fenceCluster_does _ _ _ _ _) fun _ s₃ _ _ => keeps_bind (logCluster_keeps _) fun _ s₄ _ => ?_
  refine Steps.bind (appendAudit_does _ _ _ _ _) fun _ s₅ _ _ => Steps.get_bind ?_
  exact does_of_keeps (send_keeps _ rfl)

/-- The states of the paths follow from the links. -/
lemma recompute_edit (hrewires : scene.rewires) (registry : Registry) :
    Edit scene registry registry.recomputePathStates := by
  refine .topology rfl rfl rfl rfl rfl (fun h => ?_) (.inl hrewires)
  refine ⟨fun key record hfind => ?_, { h.bounded with paths := ?_ }, h.contiguous, h.trail⟩
  · cases key with
    | path id =>
      simp only [find, Registry.recomputePathStates, Std.ExtTreeMap.getElem?_map, Option.map_map,
        Option.map_eq_some_iff, Function.comp] at hfind
      obtain ⟨path, hpath, rfl⟩ := hfind
      obtain ⟨hkey, hsound⟩ := find_path h hpath
      exact ⟨by rw [Record.key, ← hkey]; rfl, hsound⟩
    | _ => exact h.sound _ record hfind
  · rw [Registry.recomputePathStates, Std.ExtTreeMap.size_map]
    exact h.bounded.paths

lemma recomputePaths_does (hrewires : scene.rewires) :
    Does scene (modify fun s => { s with registry := s.registry.recomputePathStates }) s fun _ _ => True :=
  Steps.modify (within_edit (recompute_edit hrewires _)) trivial

lemma acceptReport_does {cluster incoming : ClusterRecord} (connection : ℕ) (ack : ReportAckMessage)
    (token : SessionToken)
    (hreplaces : ∀ observedAt, scene.replaces (reportedCluster cluster incoming token observedAt))
    (hrewires : scene.rewires) :
    Does scene (acceptReport connection ack token cluster incoming) s fun _ _ => True := by
  refine keeps_bind now_keeps fun observedAt s₁ _ => ?_
  refine Steps.attempt_bind (put_does fun next hok => .replace _ (.inr (hreplaces observedAt)) hok)
    (fun _ s₂ _ _ => ?_) fun status s₂ _ => sendError_does _ _ _ _
  refine Steps.bind (setSession_does _ fun _ => ⟨_, _, rfl⟩) fun _ s₃ _ _ => keeps_bind (logCluster_keeps _) fun _ s₄ _ => ?_
  refine Steps.bind (Steps.onlyIf (fun _ => fenceCluster_does _ _ _ _ _) fun _ => trivial) fun _ s₅ _ _ => ?_
  refine Steps.bind (recomputePaths_does hrewires) fun _ s₆ _ _ => Steps.get_bind ?_
  exact (appendAudit_does _ _ _ _ _).bind fun _ _ _ _ => does_of_keeps (send_keeps _ rfl)

lemma refuseReport_does (connection : ℕ) (ack : ReportAckMessage) (detail : String) :
    Does scene (refuseReport connection ack detail) s fun _ _ => True :=
  countRefusal_does.bind fun _ _ _ _ => does_of_keeps (send_keeps _ rfl)

lemma onReportCluster_does (connection : ℕ) (message : ReportClusterMessage)
    (hreplaces : ∀ session cluster token observedAt, ReportAccepted s connection message session cluster →
      scene.replaces (reportedCluster cluster message.cluster token observedAt)) (hrewires : scene.rewires)
    (hrenews : ∀ cluster next, s.registry.clusters[message.cluster.id]? = some cluster →
      Contradicts message.cluster cluster → next.generation = cluster.generation →
      next.policyGeneration = cluster.policyGeneration → scene.renews message.cluster.id cluster next) :
    Does scene (onReportCluster connection message) s fun _ _ => True := by
  refine withSession_does fun session hspeaks => Steps.get_bind ?_
  dsimp only
  split
  · exact sendError_does _ _ _ _
  rename_i hrole
  split
  · exact sendError_does _ _ _ _
  rename_i howner
  have howner := not_not.mp howner
  split
  · exact sendError_does _ _ _ _
  rename_i cluster hfind
  split
  · exact refuseReport_does _ _ _
  rename_i hgeneration
  split
  · exact refuseReport_does _ _ _
  rename_i hincarnation
  split
  · rename_i hcontent
    have hcontradicts : Contradicts message.cluster cluster := ⟨not_not.mp hincarnation, hcontent⟩
    rw [← howner] at hfind
    exact reportConflict_does _ _ hfind fun next => hrenews cluster next hfind hcontradicts
  rename_i hcontent
  split
  · exact refuseReport_does _ _ _
  rename_i hpolicy
  refine acceptReport_does _ _ _ (fun observedAt => hreplaces session cluster session.token observedAt ?_) hrewires
  exact ⟨hspeaks, not_not.mp hrole, howner, hfind, hgeneration, not_not.mp hincarnation, hpolicy, hcontent⟩

/-! Consents. -/

lemma writeContract_does {id : ContractId} {contract next : ContractRecord}
    (hfind : s.registry.contracts[id]? = some contract) (hid : next.id = contract.id)
    (hparties : next.parties = contract.parties) (hcapacity : next.capacity = contract.capacity)
    (hanswers : scene.answers id) :
    Does scene (writeContract id next) s fun _ s' => s'.registry.contracts[id]? = some next :=
  Steps.modify (within_edit (.contract id contract next hfind hid hparties hcapacity (.inr hanswers)))
    Std.ExtTreeMap.getElem?_insert_self

lemma onContractConsent_does (connection : ℕ) (message : ContractConsentMessage)
    (hanswers : scene.answers message.contract) :
    Does scene (onContractConsent connection message) s fun _ _ => True := by
  refine withSession_does fun session _ => ?_
  split
  · exact sendError_does _ _ _ _
  refine Steps.get_bind ?_
  split
  · exact sendError_does _ _ _ _
  rename_i contract hfind
  split
  · exact sendError_does _ _ _ _
  rename_i side hside
  split
  · exact (appendAudit_does _ _ _ _ _).bind fun _ _ _ _ => sendError_does _ _ _ _
  split
  · exact sendError_does _ _ _ _
  split
  · exact replay_error_does _ _ _ _
  refine keeps_bind now_keeps fun decidedAt s₁ h₁ => ?_
  dsimp only
  split
  · exact Steps.pure trivial
  refine keeps_bind now_keeps fun updatedAt s₂ h₂ => ?_
  rw [← h₁.registry, ← h₂.registry] at hfind
  refine Steps.bind (writeContract_does hfind rfl rfl rfl hanswers) fun _ s₃ _ h₃ => ?_
  exact keeps_bind (appendMutation_keeps ⟨_, h₃⟩) fun _ s₄ _ => appendAudit_does _ _ _ _ _

/-! Acknowledgements. -/

lemma onGrantPrepared_does (hformed : WellFormed s.registry) (connection : ℕ) (message : GrantPreparedMessage)
    (hprepares : ∀ side, PrepareAccepted s connection message side →
      scene.prepares message.grant message.attempt side) :
    Does scene (onGrantPrepared connection message) s fun _ _ => True := by
  refine withSession_does fun session hsession => withGrant_does fun grant side hspeaks => ?_
  have hid := (find_grant hformed hspeaks.registered).1
  split
  · exact sendError_does _ _ _ _
  rename_i hopen
  have hstate : grant.state = .preparing ∨ grant.state = .prepared := by
    by_contra hno
    exact hopen (not_or.mp hno)
  split
  · exact (abortGrant_does _ _).bind fun _ _ _ _ => appendAudit_does _ _ _ _ _
  rename_i haccepted
  refine Steps.get_bind ?_
  split
  · exact sendError_does _ _ _ _
  rename_i pending hpending
  have hscene : scene.prepares grant.id grant.attempt side := by
    rw [hid, ← hspeaks.attempt]
    exact hprepares side ⟨by simpa using haccepted, session, grant, hsession, hspeaks, hstate⟩
  refine Steps.modify_bind (within_act ⟨rfl, rfl, rfl, rfl, rfl, le_rfl⟩
    (.prepared grant.id pending grant side hpending (by rw [hid]; exact hspeaks.registered) hscene)) ?_
  refine Steps.bind (writeGrant_does hspeaks.registered (.digest side message.enforcementDigest))
    fun _ s₁ _ hs₁ => Steps.onlyIf (fun hboth => commitGrant_does side (fun g hg => ?_) fun flow hflow => ?_) fun _ => trivial
  · rw [hs₁, hid] at hg
    simp only [setGrant, Std.ExtTreeMap.getElem?_insert_self, Option.some.injEq] at hg
    rw [← hg]
    exact ⟨hstate, hscene⟩
  · rw [hs₁] at hflow
    simp only [Std.ExtTreeMap.getElem?_insert_self, Option.some.injEq] at hflow
    rw [← hflow]
    exact PerSide.ext hboth.1 hboth.2

lemma onGrantCommitted_does (hsettles : scene.settles) (hformed : WellFormed s.registry)
    (hbase : scene.base = s.registry) (connection : ℕ) (message : GrantCommittedMessage)
    (hconfirms : ∀ grant side, Confirms s (.message connection (.grantCommitted message)) grant side →
      scene.acknowledges grant side)
    (hcompletes : ∀ grant, CommitCompletes s connection message grant → scene.completes message.grant) :
    Does scene (onGrantCommitted connection message) s fun _ _ => True := by
  refine withSession_does fun session hsession => withGrant_does fun grant side hspeaks => ?_
  have hid := (find_grant hformed hspeaks.registered).1
  split
  · exact (abortGrant_does _ _).bind fun _ _ _ _ => appendAudit_does _ _ _ _ _
  rename_i hinstalled
  have hscene : scene.acknowledges grant side := by
    refine hconfirms grant side (.inl ⟨connection, message, session, rfl, hsession, ⟨hspeaks.party, hspeaks.bound⟩,
      by simpa using hinstalled, hid.symm, hspeaks.attempt⟩)
  refine Steps.bind (writeGrant_does hspeaks.registered (.acknowledge side message.enforcementDigest hscene))
    fun _ s₁ hw₁ hs₁ => keeps_bind (logWritten_keeps hs₁) fun _ s₂ h₂ => ?_
  split
  · rename_i hboth
    refine keeps_bind now_keeps fun now s₃ h₃ => ?_
    have hregistry : s₃.registry =
        setGrant s.registry message.grant (acknowledge grant side message.enforcementDigest) := by
      rw [h₃.registry, h₂.registry, hs₁]
    have hformed₃ : WellFormed s₃.registry := by
      rw [h₃.registry, h₂.registry]
      exact hw₁.formed hformed
    refine finaliseGrant_does hsettles hformed₃ grant.id now fun g hg _ _ => .inr ?_
    rw [hregistry, hid] at hg
    simp only [setGrant, Std.ExtTreeMap.getElem?_insert_self, Option.some.injEq] at hg
    have hgid : g.id = message.grant := by rw [← hg, ← hid]; rfl
    have hgstate : g.state = grant.state := by rw [← hg]; rfl
    rw [hgid, hbase, hspeaks.registered, hgstate]
    exact ⟨hcompletes grant ⟨by simpa using hinstalled, session, side, hsession, hspeaks, hboth⟩, rfl⟩
  · exact Steps.pure trivial

lemma onGrantAborted_does (connection : ℕ) (message : GrantAbortedMessage) :
    Does scene (onGrantAborted connection message) s fun _ _ => True :=
  withSession_does fun _ _ => abortGrant_does _ _

lemma onFenceAck_does (connection : ℕ) (message : FenceAckMessage) :
    Does scene (onFenceAck connection message) s fun _ _ => True :=
  withSession_does fun _ _ =>
    Steps.forEach (I := fun _ => True) trivial fun _ _ _ _ _ => appendAudit_does _ _ _ _ _

lemma onWithdraw_does (connection : ℕ) (message : WithdrawMessage) :
    Does scene (onWithdraw connection message) s fun _ _ => True := by
  refine withSession_does fun session _ => ?_
  split
  · exact sendError_does _ _ _ _
  refine Steps.get_bind ?_
  split
  · exact sendError_does _ _ _ _
  rename_i cluster hfind
  split
  · exact replay_error_does _ _ _ _
  refine keeps_bind now_keeps fun lastSeen s₁ h₁ => ?_
  rw [← h₁.registry] at hfind
  refine Steps.bind (writeCluster_does hfind
    ⟨rfl, rfl, rfl, .inl rfl, .inr (.inl rfl), .inl rfl, .of_same rfl rfl rfl, .inl ⟨rfl, rfl, rfl, rfl, rfl⟩⟩)
    fun _ s₂ _ _ => Steps.bind (fenceCluster_does _ _ _ _ _) fun _ s₃ _ _ => ?_
  refine keeps_bind (logCluster_keeps _) fun _ s₄ _ => Steps.get_bind ?_
  exact (appendAudit_does _ _ _ _ _).bind fun _ _ _ _ => does_of_keeps (send_keeps _ rfl)

/-! Status reports. -/

/-- What a report says of one grant is what it says of the grant as it is when its turn comes. -/
lemma reconcile_does {session : PeerSession} {report : StatusReportMessage} {id : GrantId}
    (hconfirms : ∀ grant contract side entry, s.registry.contracts[grant.contract]? = some contract →
      contract.sideOf session.cluster = some side → entry ∈ report.grants → installed entry.state = true →
      entry.grant = grant.id → entry.attempt = grant.attempt →
      (grant.incarnations.get side = session.incarnation ∧ grant.generations.get side = session.generation) →
      scene.acknowledges grant side) (fence : List GrantId) :
    Does scene (reconcile session report fence id) s fun _ s' => s'.registry.contracts = s.registry.contracts := by
  refine Steps.get_bind ?_
  dsimp only
  split
  · exact Steps.pure rfl
  rename_i grant hfind
  split
  · exact Steps.pure rfl
  rename_i contract hcontract
  split
  · exact Steps.pure rfl
  rename_i side hside
  split
  · rename_i entry hreported
    obtain ⟨hentry, hinstalled⟩ := Option.filter_eq_some_iff.mp hreported
    split
    · exact Steps.pure rfl
    rename_i hattempt
    split
    · exact Steps.pure rfl
    rename_i hbound
    obtain ⟨hincarnation, hgeneration⟩ := not_or.mp hbound
    split
    · exact Steps.pure rfl
    have hscene : scene.acknowledges grant side :=
      hconfirms grant contract side entry hcontract hside (List.mem_of_find?_eq_some hentry) hinstalled
        (by simpa using List.find?_some hentry) (not_not.mp hattempt) ⟨not_not.mp hincarnation, not_not.mp hgeneration⟩
    refine Steps.bind (writeGrant_does hfind (.acknowledge side entry.enforcementDigest hscene)) fun _ s₁ _ hs₁ => ?_
    refine keeps_bind (logWritten_keeps hs₁) fun _ s₂ h₂ => Steps.pure ?_
    rw [h₂.registry, hs₁]
    rfl
  · split
    · rename_i husable
      refine Steps.bind (writeGrant_does hfind (.suspend _ (.inr (.inr husable)))) fun _ s₁ _ hs₁ => ?_
      refine keeps_bind (logWritten_keeps hs₁) fun _ s₂ h₂ => Steps.pure ?_
      rw [h₂.registry, hs₁]
      rfl
    · exact Steps.pure rfl

lemma finaliseInstalled_does (hsettles : scene.settles) (hformed : WellFormed s.registry) (id : GrantId) :
    Does scene (finaliseInstalled id) s fun _ _ => True := by
  refine Steps.get_bind ?_
  split
  · exact Steps.pure trivial
  rename_i grant hfind
  split
  · exact Steps.pure trivial
  rename_i hopen
  obtain ⟨hstate, -⟩ := not_or.mp hopen
  refine keeps_bind now_keeps fun now s₁ h₁ => ?_
  refine finaliseGrant_does hsettles (by rw [h₁.registry]; exact hformed) id now fun g hg _ _ => .inl ?_
  rw [h₁.registry, hfind] at hg
  cases hg
  exact not_not.mp hstate

lemma onStatusReport_does (hsettles : scene.settles) (hformed : WellFormed s.registry) (connection : ℕ)
    (message : StatusReportMessage)
    (hconfirms : ∀ grant side, Confirms s (.message connection (.statusReport message)) grant side →
      scene.acknowledges grant side) :
    Does scene (onStatusReport connection message) s fun _ _ => True := by
  refine withSession_does fun session hsession => ?_
  refine Steps.bind (P := fun _ s' => s'.registry = s.registry) (Steps.modify within_count rfl) fun _ s₁ hw₁ h₁ => ?_
  refine Steps.get_bind ?_
  refine Steps.bind (Steps.foldEach (I := fun _ s' => s'.registry.contracts = s.registry.contracts) (by rw [h₁])
    fun id _ fence s' _ hcontracts => (reconcile_does ?_ fence).mono fun _ _ h => h.trans hcontracts)
    fun fence s₂ hw₂ _ => Steps.get_bind ?_
  · intro grant contract side entry hcontract hside hentry hinstalled hgrant hattempt hbound
    rw [hcontracts] at hcontract
    exact hconfirms grant side (.inr ⟨connection, message, session, entry, rfl, hsession,
      ⟨⟨contract, hcontract, hside⟩, hbound⟩, hentry, hinstalled, hgrant, hattempt⟩)
  refine Steps.bind (Steps.onlyIf (fun _ => fencePlanApply_does _ _) fun _ => trivial) fun _ s₃ hw₃ _ => ?_
  have hformed₃ : WellFormed s₃.registry := hw₃.formed (hw₂.formed (hw₁.formed hformed))
  refine Steps.get_bind (Steps.forEach (I := fun _ => True) trivial fun id _ s₄ hw₄ _ => ?_)
  exact finaliseInstalled_does hsettles (hw₄.formed hformed₃) id

/-! Lost connections and ticks. -/

lemma suspendGrant_does (cluster : ClusterId) (id : GrantId) :
    Does scene (suspendGrant cluster id) s fun _ _ => True := by
  refine Steps.get_bind ?_
  dsimp only
  split
  · exact Steps.pure trivial
  rename_i grant hfind
  split
  · exact Steps.pure trivial
  rename_i hopen
  have hstate : grant.state = .preparing ∨ grant.state = .prepared ∨ grant.usableState = true := by
    by_contra hno
    obtain ⟨hpreparing, hrest⟩ := not_or.mp hno
    exact hopen ⟨hpreparing, (not_or.mp hrest).1⟩
  split
  · exact Steps.pure trivial
  split
  · exact Steps.pure trivial
  refine Steps.bind (writeGrant_does hfind (.suspend _ hstate)) fun _ s₁ _ hs₁ => ?_
  exact Steps.ignore (does_of_keeps (logWritten_keeps hs₁))

lemma handleDisconnect_does (connection : ℕ) (reason : Outcome) :
    Does scene (handleDisconnect connection reason) s fun _ _ => True := by
  refine Steps.bind (Steps.onlyIf (fun _ => countFrame_does.mono fun _ _ _ => trivial) fun _ => trivial)
    fun _ s₁ _ _ => Steps.get_bind ?_
  split
  · exact Steps.pure trivial
  refine Steps.modify_bind (within_act ⟨rfl, rfl, rfl, rfl, rfl, le_rfl⟩ (.leave connection)) ?_
  split
  · exact Steps.pure trivial
  refine Steps.modify_bind (within_act ⟨rfl, rfl, rfl, rfl, rfl, le_rfl⟩
    (.retarget (fun _ => disconnectPending connection) fun _ _ => rfl)) (Steps.get_bind ?_)
  exact Steps.forEach (I := fun _ => True) trivial fun _ _ _ _ _ => suspendGrant_does _ _

lemma expireGrant_does (hformed : WellFormed s.registry) {id : GrantId}
    (hbase : ∃ g, scene.base.grants[id]? = some g ∧ g.usableState = true) :
    Does scene (expireGrant id) s fun _ _ => True := by
  refine Steps.get_bind ?_
  split
  · exact Steps.pure trivial
  rename_i grant hfind
  rw [← (find_grant hformed hfind).1] at hbase
  refine Steps.bind (writeGrant_does hfind (.expire hbase)) fun _ s₁ _ hs₁ => ?_
  exact Steps.ignore (does_of_keeps (logWritten_keeps hs₁))

lemma mem_expiredGrants {registry : Registry} (hformed : WellFormed registry) {now : Timestamp} {id : GrantId}
    (h : id ∈ expiredGrants registry now) :
    ∃ g, registry.grants[id]? = some g ∧ g.usableState = true := by
  obtain ⟨grant, hmem, rfl⟩ := List.mem_map.mp h
  obtain ⟨hvalue, htest⟩ := List.mem_filter.mp hmem
  obtain ⟨key, hkey⟩ := mem_values.mp hvalue
  rw [(find_grant hformed hkey).1]
  exact ⟨grant, hkey, ((Bool.and_eq_true _ _).mp htest).1⟩

lemma expireGrants_does (hformed : WellFormed s.registry) (hbase : scene.base = s.registry) :
    Does scene expireGrants s fun _ _ => True := by
  refine keeps_bind now_keeps fun now s₁ h₁ => Steps.get_bind ?_
  dsimp only
  split
  · exact Steps.pure trivial
  have hformed₁ : WellFormed s₁.registry := by
    rw [h₁.registry]
    exact hformed
  refine Steps.bind (Steps.ignore (fencePlanApply_does _ _)) fun _ s₂ hw₂ _ => ?_
  refine Steps.forEach (I := fun _ => True) trivial fun id hid s₃ hw₃ _ => ?_
  refine expireGrant_does (hw₃.formed (hw₂.formed hformed₁)) ?_
  rw [hbase, ← h₁.registry]
  exact mem_expiredGrants hformed₁ hid

lemma resendPrepare_keeps (id : GrantId) : Steps Kept (resendPrepare id) s fun _ _ => True := by
  refine Steps.get_bind ?_
  split
  · exact Steps.pure trivial
  split
  · exact Steps.pure trivial
  split
  · exact Steps.pure trivial
  refine forEach_keeps fun side _ s' _ => ?_
  split
  · exact Steps.pure trivial
  · exact (send_keeps _ rfl).ignore

lemma retryPendingFlows_does : Does scene retryPendingFlows s fun _ _ => True := by
  refine keeps_bind now_keeps fun now s₁ _ => Steps.get_bind ?_
  have hrefresh : Within scene s₁ { s₁ with pending := s₁.pending.map fun _ => refreshPending s₁ } :=
    within_act ⟨rfl, rfl, rfl, rfl, rfl, le_rfl⟩ (.retarget (fun _ => refreshPending s₁) fun _ _ => rfl)
  refine Steps.modify_bind (IsTrans.trans _ _ _ hrefresh (within_act ⟨rfl, rfl, rfl, rfl, rfl, le_rfl⟩
    (.retarget _ fun _ pending => ?_))) ?_
  · show (if timedOut now pending then pending else { pending with attempts := pending.attempts + 1 }).prepared = _
    split <;> rfl
  refine Steps.bind (Steps.forEach (I := fun _ => True) trivial fun _ _ _ _ _ => (abortGrant_does _ _).ignore)
    fun _ s₂ _ _ => Steps.get_bind ?_
  exact does_of_keeps (forEach_keeps fun _ _ _ _ => resendPrepare_keeps _)

lemma compactIfNeeded_keeps : Steps Kept compactIfNeeded s fun _ _ => True := by
  refine Steps.get_bind ?_
  split
  · exact Steps.pure trivial
  · exact onStore_keeps (fun m store files => store.compact files s.registry (compactionMeta s) m.now
      ⟨stamp m.entropy⟩ m.save m.reset) (.compact _ _ _ rfl)

lemma pingAgent_keeps (now : Timestamp) (entry : ℕ × PeerSession) :
    Steps Kept (pingAgent now entry) s fun _ _ => True := by
  unfold pingAgent
  split
  · exact (send_keeps _ rfl).ignore
  · exact Steps.pure trivial

lemma tick_does (hformed : WellFormed s.registry) (hbase : scene.base = s.registry) :
    Does scene tick s fun _ _ => True := by
  refine Steps.bind (expireGrants_does hformed hbase) fun _ s₁ _ _ => ?_
  refine Steps.bind retryPendingFlows_does fun _ s₂ _ _ => ?_
  refine keeps_bind compactIfNeeded_keeps.ignore fun _ s₃ _ => keeps_bind now_keeps fun now s₄ _ => ?_
  refine Steps.get_bind (Steps.onlyIf (fun _ => ?_) fun _ => trivial)
  exact does_of_keeps (forEach_keeps fun _ _ _ _ => pingAgent_keeps _ _)

end Handlers

end InterClusterFabric.RuntimeStepsHandlers
