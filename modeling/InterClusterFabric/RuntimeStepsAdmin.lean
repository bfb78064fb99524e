import InterClusterFabric.RuntimeStepsHandlers

/-! The administrative actions as edits, and with them every step and every run of the coordinator. -/
namespace InterClusterFabric.RuntimeStepsAdmin
open CoreStatus CoreIds CoreTime CoreHash ModelRecords ModelRegistry ModelRegistryLaws EngineDecision
open RuntimeFencing StoreMutation StoreDurable StoreReplay WireMessages RuntimeCoordinator RuntimeHandlers
open RuntimeAdmin RuntimeRun RuntimeEdits RuntimeSteps RuntimeStepsHandlers
open LibraryChecked LibraryOrdMap LibraryProgram Relation

section Admin

variable {scene : Scene} {s : Coordinator} {α : Type}

/-- A checked change of the registry and the mutation that logs it. -/
lemma logged_does {f : Registry → Result Registry} {mutation : Mutation} {rest : Op α}
    (h : ∀ next, f s.registry = .ok next → Edit scene s.registry next ∧ Coherent next mutation)
    (hrest : ∀ s', Does scene rest s' fun _ _ => True) :
    Does scene (do onRegistry (Program.update f); appendMutation mutation; rest) s fun _ _ => True :=
  Steps.bind (update_does h) fun _ _ _ hlogs => keeps_bind (appendMutation_keeps hlogs) fun _ s' _ => hrest s'

/-! Topology and policies. -/

lemma putLink_edit (hrewires : scene.rewires) {registry next : Registry} {record : LinkRecord}
    (hok : registry.putLink record = .ok next) : Edit scene registry next := by
  obtain ⟨hsound, hroom, rfl⟩ := putLink_eq_ok.mp hok
  exact .topology rfl rfl rfl rfl rfl (fun h => store_wellFormed h hsound hroom) (.inl hrewires)

lemma putPath_edit (hrewires : scene.rewires) {registry next : Registry} {record : PathRecord}
    (hok : registry.putPath record = .ok next) : Edit scene registry next := by
  obtain ⟨hsound, hroom, rfl⟩ := putPath_eq_ok.mp hok
  exact .topology rfl rfl rfl rfl rfl (fun h => store_wellFormed h hsound hroom) (.inl hrewires)

lemma putPolicy_edit {registry next : Registry} {rule : PolicyRule} (hok : registry.putPolicy rule = .ok next) :
    Edit scene registry next := by
  obtain ⟨hsound, hroom, rfl⟩ := putPolicy_eq_ok.mp hok
  exact .topology rfl rfl rfl rfl rfl (fun h => store_wellFormed h hsound hroom) (.inr ⟨rfl, rfl⟩)

lemma eraseLink_edit (hrewires : scene.rewires) {registry next : Registry} {id : EdgeId}
    (hok : registry.eraseLink id = .ok next) : Edit scene registry next := by
  obtain ⟨-, hok⟩ := rejectIf_bind_eq_ok.mp hok
  cases hok
  exact .topology rfl rfl rfl rfl rfl (fun h => remove_wellFormed h (.link id)) (.inl hrewires)

lemma erasePath_edit (hrewires : scene.rewires) {registry next : Registry} {id : PathId}
    (hok : registry.erasePath id = .ok next) : Edit scene registry next := by
  obtain ⟨-, hok⟩ := rejectIf_bind_eq_ok.mp hok
  cases hok
  exact .topology rfl rfl rfl rfl rfl (fun h => remove_wellFormed h (.path id)) (.inl hrewires)

lemma erasePolicy_edit {registry next : Registry} {id : Bytes} (hok : registry.erasePolicy id = .ok next) :
    Edit scene registry next := by
  obtain ⟨-, hok⟩ := rejectIf_bind_eq_ok.mp hok
  cases hok
  exact .topology rfl rfl rfl rfl rfl (fun h => remove_wellFormed h (.policy id)) (.inr ⟨rfl, rfl⟩)

/-- A record that was just put is logged as it is. -/
lemma putLink_coherent {registry next : Registry} {record : LinkRecord}
    (hok : registry.putLink record = .ok next) : Coherent next (.linkPut record) := by
  obtain ⟨-, -, rfl⟩ := putLink_eq_ok.mp hok
  exact ⟨record.id, Std.ExtTreeMap.getElem?_insert_self⟩

lemma putPolicy_coherent {registry next : Registry} {rule : PolicyRule}
    (hok : registry.putPolicy rule = .ok next) : Coherent next (.policyPut rule) := by
  obtain ⟨-, -, rfl⟩ := putPolicy_eq_ok.mp hok
  exact ⟨rule.id, Std.ExtTreeMap.getElem?_insert_self⟩

lemma putContract_coherent {registry next : Registry} {contract : ContractRecord}
    (hok : registry.putContract contract = .ok next) : Coherent next (.contractPut contract) := by
  obtain ⟨-, -, rfl⟩ := putContract_eq_ok.mp hok
  exact ⟨contract.id, Std.ExtTreeMap.getElem?_insert_self⟩

lemma upsertLink_does (hrewires : scene.rewires) (request : AdminMessage) :
    Does scene (upsertLink request) s fun _ _ => True := by
  unfold upsertLink
  split
  · exact Steps.throw
  refine Steps.get_bind (keeps_bind now_keeps fun observedAt s₁ _ => ?_)
  split
  · exact Steps.throw
  refine logged_does (fun next hok => ⟨putLink_edit hrewires hok, putLink_coherent hok⟩) fun s₂ => ?_
  refine Steps.bind (recomputePaths_does hrewires) fun _ s₃ _ _ => ?_
  exact Steps.bind (appendAudit_does _ _ _ _ _) fun _ _ _ _ => Steps.pure trivial

lemma setLink_edit (hrewires : scene.rewires) {registry : Registry} {id : EdgeId} {link next : LinkRecord}
    (hfind : registry.links[id]? = some link) (hid : next.id = link.id) (ha : next.a = link.a)
    (hb : next.b = link.b) (hcapacity : next.capacity = link.capacity) (hreserved : next.reserved = link.reserved) :
    Edit scene registry (setLink registry id next) := by
  refine .topology rfl rfl rfl rfl rfl (fun h => ?_) (.inl hrewires)
  obtain ⟨hkey, hsound⟩ := find_link h hfind
  have hstore : setLink registry id next = store registry (.link next) := by
    rw [setLink, store, hid, hkey]
  rw [hstore]
  refine overwrite_wellFormed h (r := .link link) ?_ ?_
  · simp only [Record.key, find, hid, hkey, hfind, Option.map_some]
  · rw [Record.Sound, hid, ha, hb, hcapacity, hreserved]
    exact hsound

lemma setLinkState_does (hrewires : scene.rewires) (request : AdminMessage) :
    Does scene (setLinkState request) s fun _ _ => True := by
  refine Steps.get_bind ?_
  split
  · exact Steps.throw
  rename_i link hfind
  refine keeps_bind now_keeps fun observedAt s₁ h₁ => ?_
  rw [← h₁.registry] at hfind
  generalize hnext : ({ link with
    state := request.linkState, provenance := { link.provenance with observedAt } } : LinkRecord) = next
  have hedit : Edit scene s₁.registry (setLink s₁.registry request.edge next) := by
    subst hnext
    exact setLink_edit hrewires hfind rfl rfl rfl rfl rfl
  refine Steps.bind (P := fun _ s' => s'.registry.links[request.edge]? = some next)
    (Steps.modify (within_edit hedit) Std.ExtTreeMap.getElem?_insert_self) fun _ s₂ _ h₂ => ?_
  refine keeps_bind (appendMutation_keeps ⟨_, h₂⟩) fun _ s₃ _ => ?_
  refine Steps.bind (recomputePaths_does hrewires) fun _ s₄ _ _ => ?_
  refine Steps.get_bind (keeps_bind (logEach_keeps fun _ hpath => mem_values.mp hpath) fun _ _ _ => ?_)
  exact Steps.pure trivial

lemma upsertPath_does (hrewires : scene.rewires) (request : AdminMessage) :
    Does scene (upsertPath request) s fun _ _ => True := by
  unfold upsertPath
  split
  · exact Steps.throw
  refine Steps.get_bind (keeps_bind now_keeps fun observedAt s₁ _ => ?_)
  refine Steps.bind (put_does fun _ hok => putPath_edit hrewires hok) fun _ s₂ _ _ => ?_
  refine Steps.bind (recomputePaths_does hrewires) fun _ s₃ _ _ => Steps.get_bind ?_
  exact keeps_bind (logEach_keeps fun _ hpath => ⟨_, by simpa using hpath⟩) fun _ _ _ => Steps.pure trivial

lemma upsertPolicy_does (request : AdminMessage) : Does scene (upsertPolicy request) s fun _ _ => True := by
  unfold upsertPolicy
  split
  · exact Steps.throw
  refine Steps.get_bind (keeps_bind now_keeps fun observedAt s₁ _ => ?_)
  refine logged_does (fun next hok => ⟨putPolicy_edit hok, putPolicy_coherent hok⟩) fun s₃ => ?_
  refine Steps.bind (Steps.forEach (I := fun _ => True) trivial fun cluster _ s₄ _ _ => ?_) fun _ s₅ _ _ => ?_
  · exact Steps.onlyIf (fun _ => fenceCluster_does _ _ _ _ _) fun _ => trivial
  · exact Steps.bind (appendAudit_does _ _ _ _ _) fun _ _ _ _ => Steps.pure trivial

/-! A removed record is gone when its removal is logged. -/

lemma eraseCluster_coherent {registry next : Registry} {record : ClusterRecord}
    (hok : registry.eraseCluster record.id = .ok next) : Coherent next (.clusterErase record) := by
  obtain ⟨-, hok⟩ := rejectIf_bind_eq_ok.mp hok
  cases hok
  exact Std.ExtTreeMap.getElem?_erase_self

lemma eraseLink_coherent {registry next : Registry} {record : LinkRecord}
    (hok : registry.eraseLink record.id = .ok next) : Coherent next (.linkErase record) := by
  obtain ⟨-, hok⟩ := rejectIf_bind_eq_ok.mp hok
  cases hok
  exact Std.ExtTreeMap.getElem?_erase_self

lemma erasePath_coherent {registry next : Registry} {record : PathRecord}
    (hok : registry.erasePath record.id = .ok next) : Coherent next (.pathErase record) := by
  obtain ⟨-, hok⟩ := rejectIf_bind_eq_ok.mp hok
  cases hok
  exact Std.ExtTreeMap.getElem?_erase_self

lemma erasePolicy_coherent {registry next : Registry} {record : PolicyRule}
    (hok : registry.erasePolicy record.id = .ok next) : Coherent next (.policyErase record) := by
  obtain ⟨-, hok⟩ := rejectIf_bind_eq_ok.mp hok
  cases hok
  exact Std.ExtTreeMap.getElem?_erase_self

/-! Clusters. -/

lemma applyConsentChange_does (request : AdminMessage) (withdraw : Bool)
    (hrestores : withdraw = false → scene.restores request.clusterId) :
    Does scene (applyConsentChange request withdraw) s fun _ _ => True := by
  refine Steps.get_bind ?_
  split
  · exact Steps.throw
  rename_i cluster hfind
  have hwithdrawn : withdraw = cluster.consentWithdrawn ∨ withdraw = true ∨ scene.restores request.clusterId := by
    cases withdraw with
    | false => exact .inr (.inr (hrestores rfl))
    | true => exact .inr (.inl rfl)
  refine Steps.bind (writeCluster_does hfind
    ⟨rfl, rfl, rfl, .inl rfl, hwithdrawn, .inl rfl, .of_same rfl rfl rfl, .inl ⟨rfl, rfl, rfl, rfl, rfl⟩⟩) fun _ s₁ _ _ => ?_
  refine Steps.bind (Steps.onlyIf (fun _ => fenceCluster_does _ _ _ _ _) fun _ => trivial) fun _ s₂ _ _ => ?_
  refine keeps_bind (logCluster_keeps _) fun _ s₃ _ => ?_
  exact Steps.bind (appendAudit_does _ _ _ _ _) fun _ _ _ _ => Steps.pure trivial

lemma applyConflictResolution_does (request : AdminMessage) (hclears : scene.clears request.clusterId)
    (hrenews : ∀ cluster next, cluster.generationConflict ≠ false → next.generation = request.generation →
      next.policyGeneration = cluster.policyGeneration → scene.renews request.clusterId cluster next) :
    Does scene (applyConflictResolution request) s fun _ _ => True := by
  refine Steps.get_bind ?_
  split
  · exact Steps.throw
  rename_i cluster hfind
  split
  · exact Steps.throw
  rename_i hconflict
  split
  · exact Steps.throw
  rename_i hlater
  have hgreater : cluster.generation < request.generation := by
    rw [Counter.le_iff, not_le] at hlater
    exact Counter.lt_iff.mpr hlater
  have hnewer : Newer cluster { cluster with
      generationConflict := false, conflictingGeneration := none, generation := request.generation } :=
    ⟨Counter.le_iff.mpr (Counter.lt_iff.mp hgreater).le, Counter.le_iff.mpr le_rfl, fun _ => hgreater⟩
  refine Steps.bind (writeCluster_does hfind
    ⟨rfl, rfl, rfl, .inr (.inr hclears), .inl rfl, .inl rfl, hnewer, .inr (hrenews _ _ hconflict rfl rfl)⟩) fun _ s₁ _ _ =>
    Steps.bind (fenceCluster_does _ _ _ _ _) fun _ s₂ _ _ => ?_
  refine keeps_bind (logCluster_keeps _) fun _ s₃ _ => ?_
  exact Steps.bind (appendAudit_does _ _ _ _ _) fun _ _ _ _ => Steps.pure trivial

lemma upsertCluster_does (request : AdminMessage)
    (hreplaces : ∀ record cluster, request.cluster = some cluster → record.id = cluster.id →
      record.endpoints = cluster.endpoints →
      record.domain = (if cluster.domain.isEmpty then s.config.domain else cluster.domain) →
      record.generation = cluster.generation → record.policyGeneration = cluster.policyGeneration →
      scene.replaces record) :
    Does scene (upsertCluster request) s fun _ _ => True := by
  unfold upsertCluster
  split
  · exact Steps.throw
  rename_i record hrecord
  refine Steps.get_bind (keeps_bind now_keeps fun observedAt s₁ _ => ?_)
  refine Steps.bind (put_does fun _ hok => .replace _ (.inr ?_) hok)
    fun _ s₂ _ _ => keeps_bind (logCluster_keeps _) fun _ s₃ _ => ?_
  · exact hreplaces _ record hrecord rfl rfl rfl rfl rfl
  exact Steps.bind (appendAudit_does _ _ _ _ _) fun _ _ _ _ => Steps.pure trivial

lemma setClusterState_does (request : AdminMessage)
    (hsets : scene.sets request.clusterId request.clusterState) :
    Does scene (setClusterState request) s fun _ _ => True := by
  refine Steps.get_bind ?_
  split
  · exact Steps.throw
  rename_i cluster hfind
  refine Steps.bind (writeCluster_does hfind
    ⟨rfl, rfl, rfl, .inl rfl, .inl rfl, .inr hsets, .of_same rfl rfl rfl, .inl ⟨rfl, rfl, rfl, rfl, rfl⟩⟩) fun _ s₁ _ _ => ?_
  refine Steps.bind (Steps.onlyIf (fun _ => fenceCluster_does _ _ _ _ _) fun _ => trivial) fun _ s₂ _ _ => ?_
  exact keeps_bind (logCluster_keeps _) fun _ s₃ _ => Steps.pure trivial

/-! Contracts and grants. -/

lemma proposeTo_keeps (contract : ContractRecord) (connected : Bool) (party : PartyRef) :
    Steps Kept (proposeTo contract connected party) s fun _ _ => True := by
  refine Steps.get_bind ?_
  dsimp only
  split
  · exact Steps.pure trivial
  split
  · exact Steps.throw
  · exact random_keeps.bind fun _ _ _ _ => (send_keeps _ rfl).bind fun _ _ _ _ => Steps.pure trivial

lemma proposeContractToAgents_keeps (contract : ContractRecord) :
    Steps Kept (proposeContractToAgents contract) s fun _ _ => True := by
  refine Steps.bind (Steps.foldEach (I := fun _ _ => True) trivial fun _ _ _ _ _ _ => proposeTo_keeps _ _ _)
    fun connected s₁ _ _ => ?_
  split
  · exact Steps.pure trivial
  · exact Steps.throw

lemma applyContractProposal_does (request : AdminMessage) (hbase : scene.base = s.registry)
    (hproposes : ∀ contract source target, s.registry.clusters[request.clusterId]? = some source →
      s.registry.clusters[request.clusterB]? = some target →
      contract.parties = ⟨⟨source.id, request.endpoint, source.domain⟩, ⟨target.id, request.endpointB, target.domain⟩⟩ →
      contract.id = ⟨nextUuid s⟩ → scene.proposes contract) :
    Does scene (applyContractProposal request) s fun _ _ => True := by
  refine Steps.get_bind ?_
  split
  · exact Steps.throw
  split
  · rename_i source target hsource htarget
    have hdraw : Does scene random s fun id s' => id = nextUuid s ∧ Kept s s' :=
      ⟨(Kept.does random_keeps).related, fun id hid => ⟨(Except.ok.inj hid).symm, random_keeps.related⟩⟩
    refine Steps.bind hdraw fun id s₁ _ h => keeps_bind now_keeps fun createdAt s₂ h₂ => ?_
    obtain ⟨rfl, h₁⟩ := h
    refine Steps.bind (P := fun _ s' => s' = s₂) ⟨Std.Refl.refl _, fun _ _ => rfl⟩ fun _ s₃ _ h₃ => ?_
    have hclusters : s₃.registry.clusters = scene.base.clusters := by
      rw [h₃, h₂.registry, h₁.registry, hbase]
    refine logged_does (fun next hok => ⟨.propose _ (hproposes _ source target hsource htarget rfl rfl) hclusters hok,
      putContract_coherent hok⟩) fun s₄ => ?_
    refine Steps.bind (appendAudit_does _ _ _ _ _) fun _ s₅ _ _ => ?_
    exact keeps_bind (proposeContractToAgents_keeps _) fun _ _ _ => Steps.pure trivial
  · exact Steps.throw

lemma applyGrantIssue_does (request : AdminMessage) (hissues : scene.issues ⟨nextUuid s⟩) :
    Does scene (applyGrantIssue request) s fun _ _ => True := by
  refine Steps.get_bind ?_
  split
  · exact Steps.throw
  split
  · exact Steps.throw
  have hdraw : Does scene random s fun id _ => id = nextUuid s :=
    ⟨(Kept.does random_keeps).related, fun id hid => (Except.ok.inj hid).symm⟩
  refine Steps.bind hdraw fun id s₁ _ hid => keeps_bind random_keeps fun attempt s₂ _ => ?_
  subst hid
  dsimp only
  generalize hcapacity : (if request.capacity.value = 0 then _ else request.capacity) = capacity
  split
  · exact Steps.throw
  refine keeps_bind now_keeps fun issuedAt s₃ _ => ?_
  split
  · refine Steps.bind (put_does fun _ hok => .issue _ hissues rfl rfl hok) fun _ s₄ _ _ => ?_
    refine Steps.bind (prepareGrant_does rfl (fun _ => hissues) fun h => absurd h (by decide)) fun _ s₅ _ _ => ?_
    exact Steps.pure trivial
  · exact Steps.throw

/-- Of two writes under one key the second stays. -/
lemma writeGrant_twice {β : Type} (id : GrantId) (grant next : GrantRecord) (rest : Op β) (s : Coordinator) :
    (do writeGrant id grant; writeGrant id next; rest) s = (do writeGrant id next; rest : Op β) s := by
  have htwice : setGrant (setGrant s.registry id grant) id next = setGrant s.registry id next := by
    unfold setGrant
    congr 1
    refine Std.ExtTreeMap.ext_getElem? fun key => ?_
    simp only [getElem?_insert_eq]
    split <;> rfl
  show rest { s with registry := setGrant (setGrant s.registry id grant) id next } = _
  rw [htwice]
  rfl

lemma applyGrantRevalidation_does (hformed : WellFormed s.registry) (request : AdminMessage)
    (hrevalidates : scene.revalidates request.grant)
    (hstrands : ∀ grant, s.registry.grants[request.grant]? = some grant → grant.state ≠ .fenced →
      s.registry.contracts[grant.contract]? = none → scene.strands request.grant) :
    Does scene (applyGrantRevalidation request) s fun _ _ => True := by
  refine Steps.get_bind ?_
  split
  · exact Steps.throw
  rename_i grant hfind
  have hid := (find_grant hformed hfind).1
  split
  · exact Steps.throw
  rename_i hfenced
  refine keeps_bind random_keeps fun attempt s₁ h₁ => keeps_bind now_keeps fun issuedAt s₂ h₂ => ?_
  have hfind₂ : s₂.registry.grants[request.grant]? = some grant := by rw [h₂.registry, h₁.registry, hfind]
  have hscene : scene.revalidates grant.id := by rwa [hid]
  dsimp only
  cases hcontract : s.registry.contracts[grant.contract]? with
  | none =>
    have hstrand : scene.strands grant.id := by
      rw [hid]
      exact hstrands grant hfind hfenced hcontract
    refine Steps.bind (writeGrant_does hfind₂ (.strand _ hscene hstrand hfenced rfl rfl rfl rfl)) fun _ s₃ _ _ => ?_
    rw [show s.registry.contracts[(reattempted s attempt issuedAt grant).contract]? = none from hcontract]
    exact Steps.throw
  | some contract =>
    rw [show s.registry.contracts[(reattempted s attempt issuedAt grant).contract]? = some contract from hcontract]
    have hsteps : Does scene (do
        writeGrant request.grant (revalidating contract (reattempted s attempt issuedAt grant))
        prepareGrant true (revalidating contract (reattempted s attempt issuedAt grant))
        return { outcome := .ok, contract := grant.contract, grant := grant.id
                 detail := ascii "grant revalidation started with a fresh attempt identifier" } :
          Op AdminResultMessage) s₂ fun _ _ => True := by
      refine Steps.bind (writeGrant_does hfind₂ (.revalidate _ hscene hfenced rfl rfl rfl rfl rfl)) fun _ s₃ _ h₃ => ?_
      have hfind₃ : s₃.registry.grants[grant.id]? =
          some (revalidating contract (reattempted s attempt issuedAt grant)) := by
        rw [h₃, hid]
        exact Std.ExtTreeMap.getElem?_insert_self
      refine Steps.bind (prepareGrant_does rfl (fun h => absurd h (by decide)) fun _ => ⟨hscene, hfind₃, ?_⟩)
        fun _ s₄ _ _ => Steps.pure trivial
      simp [revalidating]
    constructor
    · rw [writeGrant_twice]
      exact hsteps.related
    · intro result hresult
      trivial

lemma applyGrantFence_does (request : AdminMessage) :
    Does scene (applyGrantFence request) s fun _ _ => True := by
  refine Steps.get_bind ?_
  split
  · exact Steps.throw
  · exact Steps.bind (fencePlanApply_does _ _) fun _ _ _ _ => Steps.pure trivial

/-- The scene of an event lets a performed action do what it is about. -/
lemma handleAdmin_does (hformed : WellFormed s.registry) {event : Event} {request : AdminMessage}
    (hadmin : Administers s event request) :
    Does (sceneOf s event) (handleAdmin request) s fun _ _ => True := by
  have hrewires {action : AdminAction} (haction : request.action = action) (h : rewires action = true := by rfl) :
      (sceneOf s event).rewires := .inl ⟨request, hadmin, by rw [haction, h]⟩
  unfold handleAdmin
  cases haction : request.action with
  | unspecified => exact Steps.pure trivial
  | upsertCluster =>
    exact upsertCluster_does request fun record cluster hcluster hid hendpoints hdomain _ _ =>
      .inr ⟨request, cluster, hadmin, haction, hcluster, hid, hendpoints, hdomain⟩
  | deleteCluster =>
    exact logged_does (fun _ hok => ⟨.eraseCluster _ ⟨request, hadmin, haction, rfl⟩ hok, eraseCluster_coherent hok⟩) fun _ => Steps.pure trivial
  | setClusterState => exact setClusterState_does request ⟨request, hadmin, haction, rfl, rfl⟩
  | upsertLink => exact upsertLink_does (hrewires haction) request
  | setLinkState => exact setLinkState_does (hrewires haction) request
  | deleteLink =>
    exact logged_does (fun _ hok => ⟨eraseLink_edit (hrewires haction) hok, eraseLink_coherent hok⟩) fun _ => Steps.pure trivial
  | upsertPath => exact upsertPath_does (hrewires haction) request
  | deletePath =>
    exact logged_does (fun _ hok => ⟨erasePath_edit (hrewires haction) hok, erasePath_coherent hok⟩) fun _ => Steps.pure trivial
  | upsertPolicy => exact upsertPolicy_does request
  | deletePolicy => exact logged_does (fun _ hok => ⟨erasePolicy_edit hok, erasePolicy_coherent hok⟩) fun _ => Steps.pure trivial
  | withdrawConsent => exact applyConsentChange_does request true fun h => by cases h
  | restoreConsent =>
    exact applyConsentChange_does request false fun _ => ⟨request, hadmin, haction, rfl⟩
  | resolveConflict =>
    refine applyConflictResolution_does request (.inr ⟨request, hadmin, haction, rfl⟩) fun cluster next hconflict _ _ => ?_
    exact .inr (.inr ⟨request, hadmin, haction, rfl, hconflict⟩)
  | authorizeContract =>
    exact applyContractProposal_does request rfl fun contract source target hsource htarget hparties hid =>
      ⟨request, source, target, hadmin, haction, hsource, htarget, hparties, hid⟩
  | issueGrant => exact applyGrantIssue_does request ⟨⟨request, hadmin, haction⟩, rfl⟩
  | revalidateGrant =>
    exact applyGrantRevalidation_does hformed request ⟨request, hadmin, haction, rfl⟩
      fun grant hfind hfenced hcontract => ⟨request, grant, hadmin, haction, rfl, hfind, hfenced, hcontract⟩
  | fenceGrant => exact applyGrantFence_does request
  | reloadStore => exact Steps.throw

lemma onAdmin_does (hformed : WellFormed s.registry) (connection : ℕ) (request : AdminMessage) :
    Does (sceneOf s (.message connection (.admin request))) (onAdmin connection request) s fun _ _ => True := by
  refine Steps.get_bind ?_
  split
  · exact replay_error_does _ _ _ _
  rename_i hmay
  have hadmin : Administers s (.message connection (.admin request)) request :=
    ⟨connection, rfl, by simpa using hmay⟩
  refine Steps.attempt_bind (handleAdmin_does hformed hadmin) (fun _ s₁ _ _ => ?_) fun status s₁ _ => ?_
  · exact Steps.get_bind (does_of_keeps (send_keeps _ rfl))
  · exact Steps.get_bind (does_of_keeps (send_keeps _ rfl))

lemma onQuery_keeps (connection : ℕ) (query : QueryMessage) :
    Steps Kept (onQuery connection query) s fun _ _ => True :=
  Steps.get_bind (now_keeps.bind fun _ _ _ _ => now_keeps.bind fun _ _ _ _ => send_keeps _ rfl)

end Admin

/-! Steps and runs. -/

lemma handleMessage_does {s : Coordinator} (hformed : WellFormed s.registry) (connection : ℕ) (frame : Inbound) :
    Does (sceneOf s (.message connection frame)) (handleMessage connection frame) s fun _ _ => True := by
  cases frame with
  | malformed request status => exact countFrame_does.bind fun _ _ _ _ => sendError_does _ _ _ _
  | unsupported kind => exact countFrame_does.bind fun _ _ _ _ => sendError_does _ _ _ _
  | hello message =>
    refine onHello_does _ _ (fun cluster hcluster => .inl ⟨connection, message, cluster, rfl, hcluster, rfl⟩)
      (fun lastSeen observedAt => ⟨connection, message, lastSeen, observedAt, rfl, rfl⟩)
      fun cluster next hfind hrenewal => .inl ⟨connection, message, rfl, rfl, hfind, hrenewal⟩
  | reportCluster message =>
    refine onReportCluster_does _ _ (fun session cluster token observedAt haccepted => ?_) (.inr ⟨_, _, rfl⟩)
      fun cluster next hfind hcontradicts _ _ => .inr (.inl ⟨connection, message, rfl, rfl, hfind, hcontradicts⟩)
    exact .inl ⟨connection, message, session, cluster, token, observedAt, rfl, haccepted, rfl⟩
  | contractConsent message => exact onContractConsent_does _ _ ⟨connection, message, rfl, rfl⟩
  | grantPrepared message =>
    exact onGrantPrepared_does hformed _ _ fun side haccepted => ⟨connection, message, rfl, haccepted, rfl, rfl⟩
  | grantCommitted message =>
    refine onGrantCommitted_does ?_ hformed rfl _ _ (fun _ _ hconfirms => hconfirms) fun grant hcompletes => ?_
    · exact ⟨connection, .inl ⟨message, rfl⟩⟩
    · exact ⟨connection, message, grant, rfl, hcompletes, rfl⟩
  | grantAborted message => exact onGrantAborted_does _ _
  | fenceAck message => exact onFenceAck_does _ _
  | withdraw message => exact onWithdraw_does _ _
  | statusReport message =>
    refine onStatusReport_does ?_ hformed _ _ fun _ _ hconfirms => hconfirms
    exact ⟨connection, .inr ⟨message, rfl⟩⟩
  | query message => exact does_of_keeps (onQuery_keeps _ _)
  | admin message => exact onAdmin_does hformed _ _
  | ping sequence => exact does_of_keeps (send_keeps _ rfl)
  | pong => exact Steps.modify within_count trivial
  | error => exact Steps.modify within_count trivial

/-- A step is a sequence of edits of its scene. -/
lemma step_within {s : Coordinator} (hformed : WellFormed s.registry) (event : Event) :
    Within (sceneOf s event) s (step s event) := by
  cases event with
  | message connection frame => exact (handleMessage_does hformed connection frame).related
  | disconnect connection reason => exact (handleDisconnect_does connection reason).related
  | tick => exact (tick_does hformed rfl).related

lemma step_wellFormed {s : Coordinator} (hformed : WellFormed s.registry) (event : Event) :
    WellFormed (step s event).registry :=
  (step_within hformed event).formed hformed

lemma run_wellFormed {s : Coordinator} (hformed : WellFormed s.registry) (events : List Event) :
    WellFormed (run s events).registry :=
  run_induction (P := fun s => WellFormed s.registry) hformed fun _ event _ _ h => step_wellFormed h event

/-- What survives every edit of the scene of a step survives the step. -/
lemma step_keeps {P : Registry → Prop} {s : Coordinator} {event : Event} (hformed : WellFormed s.registry)
    (hP : P s.registry)
    (hedit : ∀ registry next, WellFormed registry → P registry → Edit (sceneOf s event) registry next → P next) :
    P (step s event).registry := by
  have hall (next : Registry) (hedits : Edits (sceneOf s event) s.registry next) : WellFormed next ∧ P next := by
    induction hedits with
    | refl => exact ⟨hformed, hP⟩
    | tail _ hedge ih => exact ⟨edit_wellFormed ih.1 hedge, hedit _ _ ih.1 ih.2 hedge⟩
  exact (hall _ (step_within hformed event).edits).2

/-- What survives every change of the scene of a step survives the step. -/
lemma step_acts {P : Coordinator → Prop} {s : Coordinator} {event : Event} (hformed : WellFormed s.registry) (hP : P s)
    (hact : ∀ t t', WellFormed t.registry → P t → Act (sceneOf s event) t t' → P t') : P (step s event) := by
  have hall (t : Coordinator) (hacts : ReflTransGen (Act (sceneOf s event)) s t) : WellFormed t.registry ∧ P t := by
    induction hacts with
    | refl => exact ⟨hformed, hP⟩
    | tail _ hlast ih => exact ⟨edits_wellFormed ih.1 (act_edits hlast), hact _ _ ih.1 ih.2 hlast⟩
  exact (hall _ (step_within hformed event).acts).2

/-- After an administrative action only its result is sent. -/
lemma step_admin_kept {s : Coordinator} {event : Event} {request : AdminMessage} (h : Administers s event request) :
    Kept (handleAdmin request s).2 (step s event) := by
  obtain ⟨connection, rfl, hmay⟩ := h
  have hrun : onAdmin connection request s = (do
      let digest := (← MonadState.get).registry.digest
      send connection (.adminResult (adminResult request digest (handleAdmin request s).1)) : Op Unit)
        (handleAdmin request s).2 := by
    unfold onAdmin
    rw [Program.get_bind_run, if_neg (by simp [hmay])]
    rfl
  have hsteps : Steps Kept (do
      let digest := (← MonadState.get).registry.digest
      send connection (.adminResult (adminResult request digest (handleAdmin request s).1)) : Op Unit)
        (handleAdmin request s).2 fun _ _ => True := Steps.get_bind (send_keeps _ rfl)
  change Kept _ (onAdmin connection request s).2
  rw [hrun]
  exact hsteps.related

lemma run_settled {s : Coordinator} (hformed : WellFormed s.registry) (events : List Event) :
    Settled s (run s events) := by
  have h : WellFormed (run s events).registry ∧ Settled s (run s events) := by
    refine run_induction (P := fun s' => WellFormed s'.registry ∧ Settled s s') ⟨hformed, .refl s⟩
      fun before event after _ ih => ?_
    exact ⟨step_wellFormed ih.1 event, ih.2.trans (step_within ih.1 event).toSettled⟩
  exact h.2

end InterClusterFabric.RuntimeStepsAdmin
