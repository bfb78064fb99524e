import InterClusterFabric.RuntimeAuthorities
import InterClusterFabric.RuntimeClosure

/-! What the handshakes and reports of one cluster do to the records of the others, and when a decision
between two other clusters cannot tell that they came. -/
namespace InterClusterFabric.RuntimeInterference
open CoreStatus CoreIds CoreTime CoreHash ModelRecords ModelCanonicalReads ModelRegistry ModelRegistryLaws EngineDecision
open EngineDecide EngineSoundness EngineReference EngineAuthorities EngineInterference RuntimeFencing WireMessages
open RuntimeCoordinator RuntimeHandlers RuntimeAdmin RuntimeRun RuntimeEdits RuntimeSteps RuntimeStepsHandlers
open RuntimeStepsAdmin RuntimeFencePlans RuntimeClusterFences RuntimeStart RuntimeClosure RuntimeRecovery
open RuntimeAuthorities LibraryChecked LibraryOrdMap LibraryProgram
open StoreDurable hiding loadState

/-- Who speaks, which endpoints the message declares, and whether it has the paths looked at again. -/
structure Voice where
  cluster : ClusterId
  offers : EndpointId → Prop := fun _ => False
  refreshes : Prop := False

/-- What the message of a cluster may have done to a registry: contracts that do not name the cluster, their
grants and the other clusters are as they were, apart from returned capacity. -/
structure Apart (voice : Voice) (registry next : Registry) : Prop where
  clusters : ∀ id : ClusterId, id ≠ voice.cluster → next.clusters[id]?.map bare = registry.clusters[id]?.map bare
  declares : ∀ record id, next.clusters[voice.cluster]? = some record → Declares record id →
    (∃ old, registry.clusters[voice.cluster]? = some old ∧ Declares old id) ∨ voice.offers id
  contracts : ∀ id : ContractId, next.contracts[id]? = registry.contracts[id]? ∨
    ∃ k k', registry.contracts[id]? = some k ∧ next.contracts[id]? = some k' ∧ k'.parties = k.parties ∧
      names voice.cluster k = true
  grants : ∀ id : GrantId, next.grants[id]? = registry.grants[id]? ∨
    ∃ g g' k, registry.grants[id]? = some g ∧ next.grants[id]? = some g' ∧ g'.contract = g.contract ∧
      registry.contracts[g.contract]? = some k ∧ names voice.cluster k = true
  policies : next.policies = registry.policies
  links : next.links = registry.links
  paths : next.paths = registry.paths ∨ voice.refreshes ∧ next.paths = registry.recomputePathStates.paths

section Apart

variable {voice : Voice} {registry next last : Registry}

lemma names_congr {k k' : ContractRecord} (h : k'.parties = k.parties) (cluster : ClusterId) :
    names cluster k' = names cluster k := by
  rw [names, names, ContractRecord.sideOf, ContractRecord.sideOf, h]

/-- Paths looked at twice are as paths looked at once. -/
lemma recompute_twice (hlinks : next.links = registry.links) (hpaths : next.paths = registry.recomputePathStates.paths) :
    next.recomputePathStates.paths = registry.recomputePathStates.paths := by
  rw [Registry.recomputePathStates, hpaths, hlinks, Registry.recomputePathStates]
  rw [Std.ExtTreeMap.map_map]
  rfl

lemma Apart.refl (registry : Registry) : Apart voice registry registry where
  clusters _ _ := rfl
  declares record _ hfind hdeclares := .inl ⟨record, hfind, hdeclares⟩
  contracts _ := .inl rfl
  grants _ := .inl rfl
  policies := rfl
  links := rfl
  paths := .inl rfl

lemma Apart.trans (h : Apart voice registry next) (h' : Apart voice next last) : Apart voice registry last where
  clusters id hid := (h'.clusters id hid).trans (h.clusters id hid)
  declares record id hfind hdeclares := by
    rcases h'.declares record id hfind hdeclares with ⟨middle, hmiddle, hdeclares'⟩ | hoffers
    · exact h.declares middle id hmiddle hdeclares'
    · exact .inr hoffers
  contracts id := by
    rcases h.contracts id with hsame | ⟨k, k', hk, hk', hparties, hnames⟩
    · rw [← hsame]
      exact h'.contracts id
    · rcases h'.contracts id with hsame | ⟨old, k'', hold, hk'', hparties', -⟩
      · exact .inr ⟨k, k', hk, by rw [hsame, hk'], hparties, hnames⟩
      · rw [hk', Option.some.injEq] at hold
        subst hold
        exact .inr ⟨k, k'', hk, hk'', hparties'.trans hparties, hnames⟩
  grants id := by
    rcases h.grants id with hsame | ⟨g, g', k, hg, hg', hcontract, hk, hnames⟩
    · rcases h'.grants id with hsame' | ⟨g, g', k', hg, hg', hcontract, hk', hnames⟩
      · exact .inl (hsame'.trans hsame)
      · rw [hsame] at hg
        rcases h.contracts g.contract with hkept | ⟨k, old, hk, hold, hparties, hnamed⟩
        · exact .inr ⟨g, g', k', hg, hg', hcontract, by rw [← hkept, hk'], hnames⟩
        · exact .inr ⟨g, g', k, hg, hg', hcontract, hk, hnamed⟩
    · rcases h'.grants id with hsame | ⟨old, g'', _, hold, hg'', hcontract', -⟩
      · exact .inr ⟨g, g', k, hg, by rw [hsame, hg'], hcontract, hk, hnames⟩
      · rw [hg', Option.some.injEq] at hold
        subst hold
        exact .inr ⟨g, g'', k, hg, hg'', hcontract'.trans hcontract, hk, hnames⟩
  policies := h'.policies.trans h.policies
  links := h'.links.trans h.links
  paths := by
    rcases h'.paths with hsame | ⟨hrefreshes, hpaths⟩
    · rcases h.paths with hkept | ⟨hrefreshes, hpaths⟩
      · exact .inl (hsame.trans hkept)
      · exact .inr ⟨hrefreshes, hsame.trans hpaths⟩
    · refine .inr ⟨hrefreshes, ?_⟩
      rcases h.paths with hkept | ⟨-, hrecomputed⟩
      · rw [hpaths, Registry.recomputePathStates, Registry.recomputePathStates, hkept, h.links]
      · rw [hpaths, recompute_twice h.links hrecomputed]

end Apart

/-! The operations of the handlers. -/

/-- What an operation for a cluster does, from any well-formed registry. -/
def Hushed (voice : Voice) (s s' : Coordinator) : Prop :=
  WellFormed s.registry → WellFormed s'.registry ∧ Apart voice s.registry s'.registry

instance (voice : Voice) : Std.Refl (Hushed voice) := ⟨fun s hformed => ⟨hformed, .refl s.registry⟩⟩

instance (voice : Voice) : IsTrans Coordinator (Hushed voice) where
  trans _ _ _ h h' hformed := by
    obtain ⟨hmiddle, hfirst⟩ := h hformed
    obtain ⟨hlast, hsecond⟩ := h' hmiddle
    exact ⟨hlast, hfirst.trans hsecond⟩

/-- The registry keeps all its records, whatever becomes of the trail. -/
lemma apart_of_trail {voice : Voice} {registry next : Registry} (h : ∃ audit, next = { registry with audit }) :
    Apart voice registry next := by
  obtain ⟨audit, rfl⟩ := h
  exact { Apart.refl registry with }

lemma bare_declares {cluster other : ClusterRecord} (h : bare other = bare cluster) {id : EndpointId}
    (hdeclares : Declares other id) : Declares cluster id := by
  have hids (record : ClusterRecord) :
      (bare record).endpoints.map EndpointRecord.id = record.endpoints.map EndpointRecord.id := by
    simp only [bare, List.map_map]
    rfl
  exact declares_of_ids hdeclares (by rw [← hids, h, hids])

/-- The fences against a cluster are fences of its contracts and of their grants. -/
lemma apart_of_spares {voice : Voice} {registry next : Registry} (hformed : WellFormed registry)
    {trigger : FenceTrigger} {new previous : IncarnationId} {generation : Generation} {term : Term}
    (h : Spares (planFence registry trigger voice.cluster new previous generation term).actions registry next) :
    Apart voice registry next where
  clusters id _ := h.clusters id
  declares record id hfind hdeclares := by
    have hmap := h.clusters voice.cluster
    rw [hfind, Option.map_some] at hmap
    obtain ⟨old, hold, hbare⟩ := Option.map_eq_some_iff.mp hmap.symm
    exact .inl ⟨old, hold, bare_declares hbare.symm hdeclares⟩
  contracts id := by
    rcases h.contracts id with hsame | ⟨⟨k, k', hk, hk', hparties⟩, action, haction, htarget, hid⟩
    · exact .inl hsame
    · obtain ⟨contract, hnames, hcontract, hof, -⟩ := planFence_names hformed _ _ _ _ _ _ haction
      rw [← hof htarget, hid, hk, Option.some.injEq] at hcontract
      subst hcontract
      exact .inr ⟨k, k', hk, hk', hparties, hnames⟩
  grants id := by
    rcases h.grants id with hsame | ⟨⟨g, g', hg, hg', hcontract⟩, action, haction, htarget, hid⟩
    · exact .inl hsame
    · obtain ⟨contract, hnames, hregistered, -, hof⟩ := planFence_names hformed _ _ _ _ _ _ haction
      obtain ⟨grant, hgrant, hgrantOf⟩ := hof htarget
      rw [hid, hg, Option.some.injEq] at hgrant
      subst hgrant
      exact .inr ⟨g, g', contract, hg, hg', hcontract, by rw [hgrantOf, hregistered], hnames⟩
  policies := h.policies
  links := h.topology.1
  paths := .inl h.topology.2

/-- The cluster that speaks is written, with endpoints it had or offers. -/
lemma apart_of_write {voice : Voice} {registry : Registry} {record : ClusterRecord}
    (h : ∀ id, Declares record id →
      (∃ old, registry.clusters[voice.cluster]? = some old ∧ Declares old id) ∨ voice.offers id) :
    Apart voice registry (setCluster registry voice.cluster record) :=
  { Apart.refl registry with
    clusters := fun id hid => by rw [setCluster, getElem?_insert_eq, if_neg hid]
    declares := fun found id hfind hdeclares => by
      rw [setCluster, getElem?_insert_eq, if_pos rfl, Option.some.injEq] at hfind
      subst hfind
      exact h id hdeclares }

section Operations

variable {voice : Voice} {s : Coordinator}

lemma hushed_of_same {α : Type} {p : Op α} (h : Steps SameRegistry p s fun _ _ => True) :
    Steps (Hushed voice) p s fun _ _ => True := by
  refine (h.weaken fun s' hsame hformed => ?_).mono fun _ _ _ => trivial
  rw [show s'.registry = s.registry from hsame]
  exact ⟨hformed, .refl _⟩

lemma hushed_of_keeps {α : Type} {Q : α → Coordinator → Prop} {p : Op α} (h : Steps Kept p s Q) :
    Steps (Hushed voice) p s fun _ s' => s'.registry = s.registry := by
  refine (h.weaken fun s' hkept hformed => ?_).mono fun _ _ h' => h'.1.registry
  rw [hkept.registry]
  exact ⟨hformed, .refl _⟩

lemma appendAudit_hushed (actor action : String) (subject : Bytes) (outcome : Outcome) (detail : Bytes) :
    Steps (Hushed voice) (RuntimeCoordinator.appendAudit actor action subject outcome detail) s fun _ _ => True := by
  have hdoes : Does quiet (RuntimeCoordinator.appendAudit actor action subject outcome detail) s fun _ _ => True :=
    appendAudit_does actor action subject outcome detail
  have hboth := (appendAudit_records (s := s) actor action subject outcome detail).and hdoes
  refine (hboth.weaken fun s' h hformed => ?_).mono fun _ _ _ => trivial
  exact ⟨h.2.formed hformed, apart_of_trail h.1.trail⟩

lemma fenceCluster_hushed (trigger : FenceTrigger) (new previous : IncarnationId) (generation : Generation) :
    Steps (Hushed voice) (fenceCluster voice.cluster trigger new previous generation) s fun _ _ => True := by
  refine Steps.get_bind (Steps.bind (P := fun _ _ => True) ?_ fun _ s₁ _ _ => appendAudit_hushed _ _ _ _ _)
  set plan := planFence s.registry trigger voice.cluster new previous generation s.term
  have hdoes : Does quiet (fencePlanApply plan "coordinator") s fun _ _ => True := fencePlanApply_does plan "coordinator"
  have hboth := (fencePlanApply_spares (s := s) plan "coordinator").and hdoes
  refine (hboth.weaken fun s' h hformed => ?_).mono fun _ _ _ => trivial
  exact ⟨h.2.formed hformed, apart_of_spares hformed h.1⟩

/-- A registered cluster is written back with its endpoints. -/
lemma writeCluster_hushed {cluster next : ClusterRecord} (hfind : s.registry.clusters[voice.cluster]? = some cluster)
    (hid : next.id = cluster.id) (hdomain : next.domain = cluster.domain)
    (hendpoints : next.endpoints = cluster.endpoints) :
    Steps (Hushed voice) (writeCluster voice.cluster next) s fun _ _ => True := by
  refine Steps.modify (fun hformed => ⟨rewritten_wellFormed hformed hfind hid hdomain hendpoints, ?_⟩) trivial
  refine apart_of_write fun id hdeclares => .inl ⟨cluster, hfind, ?_⟩
  rw [Declares, ← hendpoints]
  exact hdeclares

/-- A record is put in the registry with the endpoints the message offers. -/
lemma putCluster_hushed {record : ClusterRecord} (hid : record.id = voice.cluster)
    (hoffers : ∀ endpoint ∈ record.endpoints, voice.offers endpoint.id) :
    Steps (Hushed voice) (onRegistry (Program.update fun registry => registry.putCluster record)) s
      fun _ _ => True := by
  refine Steps.focus (S := fun registry next => WellFormed registry → WellFormed next ∧ Apart voice registry next)
    (P := fun _ _ => True) ?_ (fun _ h => h) fun _ _ _ _ => trivial
  have hrefl : Std.Refl fun registry next => WellFormed registry → WellFormed next ∧ Apart voice registry next :=
    ⟨fun registry hformed => ⟨hformed, .refl registry⟩⟩
  refine Steps.update fun next hok => ⟨fun hformed => ?_, trivial⟩
  obtain ⟨hsound, hroom, rfl⟩ := putCluster_eq_ok.mp hok
  refine ⟨store_wellFormed hformed hsound hroom, ?_⟩
  have hstore : store s.registry (.cluster (sorted record)) = setCluster s.registry voice.cluster (sorted record) := by
    rw [← hid]
    rfl
  rw [hstore]
  refine apart_of_write fun id hdeclares => .inr ?_
  obtain ⟨endpoint, hmem, rfl⟩ := declares_of_sorted hdeclares
  exact hoffers endpoint hmem

lemma recompute_hushed (hrefreshes : voice.refreshes) :
    Steps (Hushed voice) (modify fun s => { s with registry := s.registry.recomputePathStates } : Op Unit) s
      fun _ _ => True := by
  refine Steps.modify (fun hformed => ?_) trivial
  have hedit : Edit quiet s.registry s.registry.recomputePathStates := recompute_edit trivial s.registry
  exact ⟨edit_wellFormed hformed hedit,
    { Apart.refl s.registry with paths := .inr ⟨hrefreshes, rfl⟩ }⟩

end Operations

/-! The handlers. -/

section Handlers

variable {voice : Voice} {s : Coordinator}

lemma same_hushed {s' : Coordinator} (h : s'.registry = s.registry) : Hushed voice s s' := by
  intro hformed
  rw [h]
  exact ⟨hformed, .refl _⟩

lemma refuseHello_hushed (connection : ℕ) (ack : HelloAckMessage) (outcome : Outcome) (detail : Bytes) :
    Steps (Hushed voice) (refuseHello connection ack outcome detail) s fun _ _ => True :=
  Steps.modify_bind (same_hushed rfl) ((hushed_of_keeps (send_keeps _ rfl)).mono fun _ _ _ => trivial)

lemma welcomeAgent_hushed (connection : ℕ) (request : HelloMessage) (ack : HelloAckMessage) (signing : Bool)
    (fenced : List GrantId) (detail : Bytes) :
    Steps (Hushed voice) (welcomeAgent connection request ack signing fenced detail) s fun _ _ => True :=
  hushed_of_same (welcomeAgent_same _ _ _ _ _ _)

lemma welcomeObserver_hushed (connection : ℕ) (request : HelloMessage) (ack : HelloAckMessage) (signing : Bool) :
    Steps (Hushed voice) (welcomeObserver connection request ack signing) s fun _ _ => True := by
  refine Steps.bind (hushed_of_keeps random_keeps) fun token s₁ _ _ => ?_
  refine Steps.bind (hushed_of_keeps now_keeps) fun connectedAt s₂ _ _ => Steps.modify_bind (same_hushed rfl) ?_
  exact (hushed_of_keeps (send_keeps _ rfl)).mono fun _ _ _ => trivial

lemma registerAgent_hushed (connection : ℕ) {request : HelloMessage} (ack : HelloAckMessage) (signing : Bool)
    (hcluster : request.cluster = voice.cluster) :
    Steps (Hushed voice) (registerAgent connection request ack signing) s fun _ _ => True := by
  refine Steps.get_bind ?_
  split
  · exact refuseHello_hushed _ _ _ _
  refine Steps.bind (hushed_of_keeps now_keeps) fun lastSeen s₁ _ _ => ?_
  refine Steps.bind (hushed_of_keeps now_keeps) fun observedAt s₂ _ _ => ?_
  refine Steps.attempt_bind (putCluster_hushed hcluster fun _ hmem => (by cases hmem)) (fun _ s₃ _ _ => ?_)
    fun status s₃ _ => refuseHello_hushed _ _ _ _
  refine Steps.bind (hushed_of_keeps (logCluster_keeps _)) fun _ s₄ _ _ => ?_
  exact Steps.bind (appendAudit_hushed _ _ _ _ _) fun _ s₅ _ _ => welcomeAgent_hushed _ _ _ _ _ _

/-- The cluster is written back, its contracts are fenced, and the agent is welcomed. -/
lemma rewrite_hushed {cluster next : ClusterRecord} {trigger : FenceTrigger} {new previous : IncarnationId}
    {generation : Generation} {rest : Op Unit} (hfind : s.registry.clusters[voice.cluster]? = some cluster)
    (hid : next.id = cluster.id) (hdomain : next.domain = cluster.domain)
    (hendpoints : next.endpoints = cluster.endpoints)
    (hrest : ∀ s', Steps (Hushed voice) rest s' fun _ _ => True) :
    Steps (Hushed voice) (do
      writeCluster voice.cluster next
      fenceCluster voice.cluster trigger new previous generation
      rest) s fun _ _ => True := by
  refine Steps.bind (writeCluster_hushed hfind hid hdomain hendpoints) fun _ s₁ _ _ => ?_
  exact Steps.bind (fenceCluster_hushed _ _ _ _) fun _ s₂ _ _ => hrest s₂

lemma reincarnateAgent_hushed {cluster : ClusterRecord} (connection : ℕ) {request : HelloMessage}
    (ack : HelloAckMessage) (signing : Bool) (hcluster : request.cluster = voice.cluster)
    (hfind : s.registry.clusters[voice.cluster]? = some cluster) :
    Steps (Hushed voice) (reincarnateAgent connection request ack signing cluster) s fun _ _ => True := by
  refine Steps.bind (hushed_of_keeps now_keeps) fun lastSeen s₁ _ h₁ => ?_
  refine Steps.bind (hushed_of_keeps now_keeps) fun observedAt s₂ _ h₂ => ?_
  rw [← h₁, ← h₂] at hfind
  rw [hcluster]
  refine rewrite_hushed hfind rfl rfl rfl fun s₃ => Steps.get_bind ?_
  exact Steps.bind (hushed_of_keeps (logCluster_keeps _)) fun _ s₄ _ _ => welcomeAgent_hushed _ _ _ _ _ _

lemma advancePolicy_hushed {cluster : ClusterRecord} (connection : ℕ) {request : HelloMessage}
    (ack : HelloAckMessage) (signing : Bool) (hcluster : request.cluster = voice.cluster)
    (hfind : s.registry.clusters[voice.cluster]? = some cluster) :
    Steps (Hushed voice) (advancePolicy connection request ack signing cluster) s fun _ _ => True := by
  refine Steps.bind (hushed_of_keeps now_keeps) fun lastSeen s₁ _ h₁ => ?_
  rw [← h₁] at hfind
  rw [hcluster]
  refine rewrite_hushed hfind rfl rfl rfl fun s₂ => ?_
  exact Steps.bind (hushed_of_keeps (logCluster_keeps _)) fun _ s₃ _ _ => welcomeAgent_hushed _ _ _ _ _ _

lemma returningAgent_hushed {cluster : ClusterRecord} (connection : ℕ) {request : HelloMessage}
    (ack : HelloAckMessage) (signing : Bool) (hcluster : request.cluster = voice.cluster)
    (hfind : s.registry.clusters[voice.cluster]? = some cluster) :
    Steps (Hushed voice) (returningAgent connection request ack signing cluster) s fun _ _ => True := by
  unfold returningAgent
  split
  · exact refuseHello_hushed _ _ _ _
  split
  · refine Steps.modify_bind (same_hushed rfl) (Steps.bind (appendAudit_hushed _ _ _ _ _) fun _ s₁ _ _ => ?_)
    exact (hushed_of_keeps (send_keeps _ rfl)).mono fun _ _ _ => trivial
  split
  · split
    · exact refuseHello_hushed _ _ _ _
    · exact reincarnateAgent_hushed _ _ _ hcluster hfind
  split
  · split
    · exact refuseHello_hushed _ _ _ _
    · exact advancePolicy_hushed _ _ _ hcluster hfind
  · refine Steps.bind (hushed_of_keeps now_keeps) fun lastSeen s₁ _ h₁ => ?_
    rw [← h₁] at hfind
    rw [hcluster]
    refine Steps.bind (writeCluster_hushed hfind rfl rfl rfl) fun _ s₂ _ _ => ?_
    exact welcomeAgent_hushed _ _ _ _ _ _

lemma onHello_hushed (connection : ℕ) {request : HelloMessage} (hcluster : request.cluster = voice.cluster) :
    Steps (Hushed voice) (onHello connection request) s fun _ _ => True := by
  refine Steps.get_bind ?_
  dsimp only
  split
  · exact refuseHello_hushed _ _ _ _
  split
  · exact welcomeObserver_hushed _ _ _ _
  split
  · exact refuseHello_hushed _ _ _ _
  split
  · exact refuseHello_hushed _ _ _ _
  split
  · exact refuseHello_hushed _ _ _ _
  split
  · exact registerAgent_hushed _ _ _ hcluster
  · rename_i cluster hfind
    rw [hcluster] at hfind
    exact returningAgent_hushed _ _ _ hcluster hfind

lemma sendError_hushed (connection : ℕ) (request : Uuid) (outcome : Outcome) (detail : Bytes) :
    Steps (Hushed voice) (sendError connection request outcome detail) s fun _ _ => True :=
  (hushed_of_keeps (send_keeps _ rfl)).mono fun _ _ _ => trivial

lemma withSession_hushed {connection : ℕ} {token : SessionToken} {body : PeerSession → Op Unit}
    (h : ∀ session, Steps (Hushed voice) (body session) s fun _ _ => True) :
    Steps (Hushed voice) (withSession connection token body) s fun _ _ => True := by
  refine Steps.get_bind ?_
  dsimp only
  split
  · exact Steps.modify_bind (same_hushed rfl) (sendError_hushed _ _ _ _)
  · exact h _

lemma setSession_hushed (connection : ℕ) (f : PeerSession → PeerSession) :
    Steps (Hushed voice) (setSession connection f) s fun _ s' => s'.registry = s.registry :=
  Steps.modify (same_hushed rfl) rfl

lemma refuseReport_hushed (connection : ℕ) (ack : ReportAckMessage) (detail : String) :
    Steps (Hushed voice) (refuseReport connection ack detail) s fun _ _ => True :=
  Steps.modify_bind (same_hushed rfl) ((hushed_of_keeps (send_keeps _ rfl)).mono fun _ _ _ => trivial)

lemma reportConflict_hushed {cluster incoming : ClusterRecord} (connection : ℕ) (ack : ReportAckMessage)
    (hcluster : incoming.id = voice.cluster) (hid : cluster.id = voice.cluster)
    (hfind : s.registry.clusters[voice.cluster]? = some cluster) :
    Steps (Hushed voice) (reportConflict connection ack cluster incoming) s fun _ _ => True := by
  unfold reportConflict
  rw [hcluster, hid]
  refine Steps.bind (writeCluster_hushed hfind hid.symm rfl rfl) fun _ s₁ _ _ => ?_
  refine Steps.bind (setSession_hushed _ _) fun _ s₂ _ _ => Steps.bind (fenceCluster_hushed _ _ _ _) fun _ s₃ _ _ => ?_
  refine Steps.bind (hushed_of_keeps (logCluster_keeps _)) fun _ s₄ _ _ => ?_
  refine Steps.bind (appendAudit_hushed _ _ _ _ _) fun _ s₅ _ _ => Steps.get_bind ?_
  exact (hushed_of_keeps (send_keeps _ rfl)).mono fun _ _ _ => trivial

lemma acceptReport_hushed {cluster incoming : ClusterRecord} (connection : ℕ) (ack : ReportAckMessage)
    (token : SessionToken) (hcluster : incoming.id = voice.cluster)
    (hoffers : ∀ endpoint ∈ incoming.endpoints, voice.offers endpoint.id) (hrefreshes : voice.refreshes) :
    Steps (Hushed voice) (acceptReport connection ack token cluster incoming) s fun _ _ => True := by
  unfold acceptReport
  rw [hcluster]
  refine Steps.bind (hushed_of_keeps now_keeps) fun observedAt s₁ _ _ => ?_
  refine Steps.attempt_bind (putCluster_hushed hcluster hoffers) (fun _ s₂ _ _ => ?_)
    fun status s₂ _ => sendError_hushed _ _ _ _
  refine Steps.bind (setSession_hushed _ _) fun _ s₃ _ _ => ?_
  refine Steps.bind (hushed_of_keeps (logCluster_keeps _)) fun _ s₄ _ _ => ?_
  refine Steps.bind (Steps.onlyIf (fun _ => fenceCluster_hushed _ _ _ _) fun _ => trivial) fun _ s₅ _ _ => ?_
  refine Steps.bind (recompute_hushed hrefreshes) fun _ s₆ _ _ => Steps.get_bind ?_
  refine Steps.bind (appendAudit_hushed _ _ _ _ _) fun _ s₇ _ _ => ?_
  exact (hushed_of_keeps (send_keeps _ rfl)).mono fun _ _ _ => trivial

lemma onReportCluster_hushed (hformed : WellFormed s.registry) (connection : ℕ) {message : ReportClusterMessage}
    (hcluster : message.cluster.id = voice.cluster)
    (hoffers : ∀ endpoint ∈ message.cluster.endpoints, voice.offers endpoint.id) (hrefreshes : voice.refreshes) :
    Steps (Hushed voice) (onReportCluster connection message) s fun _ _ => True := by
  refine withSession_hushed fun session => Steps.get_bind ?_
  dsimp only
  split
  · exact sendError_hushed _ _ _ _
  split
  · exact sendError_hushed _ _ _ _
  rename_i howner
  split
  · exact sendError_hushed _ _ _ _
  rename_i cluster hfind
  rw [← not_not.mp howner, hcluster] at hfind
  split
  · exact refuseReport_hushed _ _ _
  split
  · exact refuseReport_hushed _ _ _
  split
  · exact reportConflict_hushed _ _ hcluster (find_cluster hformed hfind).1 hfind
  split
  · exact refuseReport_hushed _ _ _
  · exact acceptReport_hushed _ _ _ hcluster hoffers hrefreshes

end Handlers

/-- The cluster that a handshake or a report is of. -/
def speaker : Event → Option ClusterId
  | .message _ (.hello request) => some request.cluster
  | .message _ (.reportCluster message) => some message.cluster.id
  | _ => none

/-- The endpoints that a report declares. -/
def declared : Event → List EndpointRecord
  | .message _ (.reportCluster message) => message.cluster.endpoints
  | _ => []

def isReport : Event → Bool
  | .message _ (.reportCluster _) => true
  | _ => false

/-- What the event says in the name of the cluster. -/
def voiceOf (cluster : ClusterId) (event : Event) : Voice where
  cluster := cluster
  offers id := ∃ endpoint ∈ declared event, endpoint.id = id
  refreshes := isReport event = true

lemma step_apart {s : Coordinator} (hformed : WellFormed s.registry) {event : Event} {cluster : ClusterId}
    (hspeaker : speaker event = some cluster) :
    WellFormed (step s event).registry ∧ Apart (voiceOf cluster event) s.registry (step s event).registry := by
  cases event with
  | tick => cases hspeaker
  | disconnect connection reason => cases hspeaker
  | message connection frame =>
    cases frame with
    | hello request =>
      obtain rfl := Option.some.inj hspeaker
      have hsame : request.cluster = (voiceOf request.cluster (.message connection (.hello request))).cluster := rfl
      exact (onHello_hushed connection hsame).related hformed
    | reportCluster message =>
      obtain rfl := Option.some.inj hspeaker
      have hreport : Steps (Hushed (voiceOf message.cluster.id (.message connection (.reportCluster message))))
          (onReportCluster connection message) s fun _ _ => True :=
        onReportCluster_hushed hformed connection rfl (fun endpoint hmem => ⟨endpoint, hmem, rfl⟩) rfl
      exact hreport.related hformed
    | _ => cases hspeaker

/-! What the others see. -/

section Sight

variable {voice : Voice} {registry next : Registry} (hformed : WellFormed registry) (hformed' : WellFormed next)
  (hapart : Apart voice registry next)
include hapart

lemma Apart.bare_back {id : ClusterId} (hid : id ≠ voice.cluster) {cluster : ClusterRecord}
    (hfind : next.clusters[id]? = some cluster) :
    ∃ old, registry.clusters[id]? = some old ∧ bare old = bare cluster := by
  have hmap := hapart.clusters id hid
  rw [hfind, Option.map_some] at hmap
  exact Option.map_eq_some_iff.mp hmap.symm

include hformed hformed'

/-- An endpoint that is found elsewhere, and that the speaker cannot claim before that, is still found there. -/
lemma Apart.resolve_same {id : EndpointId} {found : EndpointRecord × ClusterRecord}
    (hfound : resolve registry id = some found) (hother : found.2.id ≠ voice.cluster)
    (hoffers : voice.offers id → compare found.2.id voice.cluster = .lt) :
    (resolve next id).map (Prod.map unreserved bare) = (resolve registry id).map (Prod.map unreserved bare) := by
  obtain ⟨hfind, hhit, hfirst⟩ := (resolve_eq_some hformed).mp hfound
  have hmap := hapart.clusters found.2.id hother
  rw [hfind, Option.map_some] at hmap
  obtain ⟨cluster, hcluster, hbare⟩ := Option.map_eq_some_iff.mp hmap
  have hendpoints : cluster.endpoints.map unreserved = found.2.endpoints.map unreserved := by
    have hboth : (bare cluster).endpoints = (bare found.2).endpoints := by rw [hbare]
    exact hboth
  have hsearch (endpoints : List EndpointRecord) :
      (endpoints.find? fun e => e.id == id).map unreserved = (endpoints.map unreserved).find? fun e => e.id == id := by
    rw [List.find?_map]
    rfl
  rw [findInEndpoints_eq_find (ordered_of_find hformed hfind)] at hhit
  have hhit' : (findInEndpoints cluster.endpoints id).map unreserved = some (unreserved found.1) := by
    rw [findInEndpoints_eq_find (ordered_of_find hformed' hcluster), hsearch, hendpoints, ← hsearch, hhit,
      Option.map_some]
  obtain ⟨endpoint, hendpoint, hsame⟩ := Option.map_eq_some_iff.mp hhit'
  have hkey : cluster.id = found.2.id := (find_cluster hformed' hcluster).1
  have hresolve : resolve next id = some (endpoint, cluster) := by
    refine (resolve_eq_some hformed').mpr ⟨by rw [hkey, hcluster], hendpoint, fun key other hfind' hlt hdeclares => ?_⟩
    rw [hkey] at hlt
    by_cases hspeaker : key = voice.cluster
    · subst hspeaker
      rcases hapart.declares other id hfind' hdeclares with ⟨old, hold, hdeclares'⟩ | hclaimed
      · exact hfirst _ old hold hlt hdeclares'
      · have hgt := Std.OrientedCmp.gt_of_lt (hoffers hclaimed)
        rw [hlt] at hgt
        cases hgt
    · obtain ⟨old, hold, hbare'⟩ := hapart.bare_back hspeaker hfind'
      exact hfirst key old hold hlt (bare_declares hbare'.symm hdeclares)
  rw [hresolve, hfound]
  simp only [Option.map_some, Prod.map, hsame, hbare]

omit hformed hformed'

/-- Contracts of two endpoints that do not name the speaker are tried as before. -/
lemma Apart.candidates_same {query : DecisionQuery}
    (hnames : ∀ (id : ContractId) contract, registry.contracts[id]? = some contract →
      contract.joins query.source query.target = true → names voice.cluster contract = false) :
    candidates next query = candidates registry query := by
  have hvalues : (values next.contracts).filter (fun contract => contract.joins query.source query.target) =
      (values registry.contracts).filter fun contract => contract.joins query.source query.target := by
    refine values_filter_eq fun id contract hjoins => ?_
    rcases hapart.contracts id with hsame | ⟨k, k', hk, hk', hparties, hnamed⟩
    · rw [hsame]
    · have hjoins' : k'.joins query.source query.target = k.joins query.source query.target := by
        rw [ContractRecord.joins, ContractRecord.joins, hparties]
      have hapart' : k.joins query.source query.target ≠ true := fun h => by simp [hnames id k hk h] at hnamed
      rw [hk, hk', Option.some.injEq, Option.some.injEq]
      constructor
      · rintro rfl
        exact absurd (hjoins'.symm.trans hjoins) hapart'
      · rintro rfl
        exact absurd hjoins hapart'
  rw [candidates, candidates, hvalues]

include hformed

/-- A contract that does not name the speaker stands as it did. -/
lemma Apart.standing {id : ContractId} {contract : ContractRecord} (hfind : registry.contracts[id]? = some contract)
    (hnames : names voice.cluster contract = false) : SameStanding registry next contract := by
  have hid : contract.id = id := (find_contract hformed hfind).1
  have hparty (side : Side) : (contract.parties.get side).cluster ≠ voice.cluster := by
    intro h
    rw [names, ContractRecord.sideOf, ModelRecords.sideOf] at hnames
    cases side with
    | first => simp [show contract.parties.first.cluster = voice.cluster from h] at hnames
    | second =>
      simp only [show contract.parties.second.cluster = voice.cluster from h, if_pos] at hnames
      split at hnames <;> cases hnames
  refine ⟨fun side => hapart.clusters _ (hparty side), ?_⟩
  have hvalues : (values next.grants).filter (fun grant => grant.contract == contract.id) =
      (values registry.grants).filter fun grant => grant.contract == contract.id := by
    refine values_filter_eq fun key grant hof => ?_
    rcases hapart.grants key with hsame | ⟨g, g', k, hg, hg', hcontract, hk, hnamed⟩
    · rw [hsame]
    · have hother : g.contract ≠ contract.id := by
        intro h
        rw [h, hid, hfind, Option.some.injEq] at hk
        rw [← hk, hnames] at hnamed
        cases hnamed
      rw [hg, hg', Option.some.injEq, Option.some.injEq]
      constructor
      · rintro rfl
        exact absurd (hcontract.symm.trans (beq_iff_eq.mp hof)) hother
      · rintro rfl
        exact absurd (beq_iff_eq.mp hof) hother
  rw [selectGrant, selectGrant, hvalues]

end Sight

/-- The endpoint is found in another cluster, and the event does not declare it for a cluster that would be
looked at before that one. -/
def LeavesFound (registry : Registry) (cluster : ClusterId) (event : Event) (id : EndpointId) : Prop :=
  ∀ found, resolve registry id = some found → found.2.id ≠ cluster ∧
    ((∃ endpoint ∈ declared event, endpoint.id = id) → compare found.2.id cluster = .lt)

/-- The cluster that speaks has no part in the traffic of the query. -/
structure Uninvolved (registry : Registry) (cluster : ClusterId) (event : Event) (query : DecisionQuery) : Prop where
  source : LeavesFound registry cluster event query.source
  target : LeavesFound registry cluster event query.target
  contracts : ∀ (id : ContractId) contract, registry.contracts[id]? = some contract →
    contract.joins query.source query.target = true → names cluster contract = false
  paths : isReport event = true → evaluatePaths registry.recomputePathStates query.source query.target =
    evaluatePaths registry query.source query.target

lemma sight_of_apart {registry next : Registry} (hformed : WellFormed registry) (hformed' : WellFormed next)
    {cluster : ClusterId} {event : Event} (hapart : Apart (voiceOf cluster event) registry next)
    {query : DecisionQuery} (huninvolved : Uninvolved registry cluster event query)
    {source target : EndpointRecord × ClusterRecord} (hsource : resolve registry query.source = some source)
    (htarget : resolve registry query.target = some target) : SameSight registry next query where
  source := by
    obtain ⟨hother, hdeclared⟩ := huninvolved.source source hsource
    exact hapart.resolve_same hformed hformed' hsource hother hdeclared
  target := by
    obtain ⟨hother, hdeclared⟩ := huninvolved.target target htarget
    exact hapart.resolve_same hformed hformed' htarget hother hdeclared
  policies := hapart.policies
  paths := by
    rcases hapart.paths with hsame | ⟨hreport, hpaths⟩
    · rw [evaluatePaths, evaluatePaths, hsame]
    · rw [← huninvolved.paths hreport, evaluatePaths, evaluatePaths, hpaths]
  contracts := hapart.candidates_same huninvolved.contracts
  standing contract hcontract := by
    obtain ⟨hregistered, hjoins⟩ := mem_candidates.mp hcontract
    obtain ⟨key, hkey⟩ := mem_values.mp hregistered
    exact hapart.standing hformed hkey (huninvolved.contracts key contract hkey hjoins)

def ownReport : Event :=
  .message 3 (.reportCluster {
    session := tokenOf (run sampleProcess strangerJoins) 3
    cluster := {
      id := stranger, domain := strangerDomain, incarnation := ⟨5⟩, generation := ⟨1⟩, state := .active
      endpoints := [{ sampleEndpoint .first with
        id := sampleName .endpoint "own" (by decide), cluster := stranger }] } })

/-- What the two reports come to, evaluated at once. -/
lemma joined_facts :
    ((decided strangerJoins).authorized = true ∧
      ∀ contract ∈ values (run sampleProcess strangerJoins).registry.contracts, names stranger contract = false) ∧
    (∀ report ∈ [ownReport, strangerReport],
      (run sampleProcess (strangerJoins ++ [report])).registry.clusters[stranger]?.any
        (fun cluster => cluster.state == .active) = true) ∧
    ((∀ id ∈ [sampleQuery.source, sampleQuery.target],
        ∀ found ∈ (resolve (run sampleProcess strangerJoins).registry id).toList,
          found.2.id ≠ stranger ∧ ∀ endpoint ∈ declared ownReport, endpoint.id ≠ id) ∧
      values (run sampleProcess strangerJoins).registry.recomputePathStates.paths =
        values (run sampleProcess strangerJoins).registry.paths) ∧
    (EngineDecide.decide (step (run sampleProcess strangerJoins) strangerReport).registry sampleQuery
      (view (run sampleProcess strangerJoins) ⟨0⟩)).authorities ≠ (decided strangerJoins).authorities := by
  simp only [decided, run_append, run_cons, run_nil, ownReport, strangerReport, strangerJoins_run]
  decide +kernel

end InterClusterFabric.RuntimeInterference
