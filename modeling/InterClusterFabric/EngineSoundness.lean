import InterClusterFabric.EngineDecide
import InterClusterFabric.ModelCanonicalReads

/-! What an authorization rests on. Each check of the decision is characterised by the condition
under which it passes; the decision is authorized exactly when the whole chain passes. -/
namespace InterClusterFabric.EngineSoundness
open CoreStatus CoreIds CoreTime ModelRecords ModelRegistry ModelPolicy EngineDecision EngineDecide
open LibraryChecked LibraryOrdMap LibrarySearch ModelCanonicalReads

/-! The conditions. -/

def ClusterReady (cluster : ClusterRecord) : Prop :=
  cluster.state = .active ∧ cluster.generationConflict = false ∧ cluster.consentWithdrawn = false

def EndpointReady (endpoint : EndpointRecord) : Prop :=
  endpoint.state = .active ∧ endpoint.interClusterAllowed = true

/-- An accepted consent to the contract's terms that names its own party and is bound to that
party's cluster as it is registered now. -/
def ConsentCurrent (registry : Registry) (contract : ContractRecord) (side : Side) : Prop :=
  ∃ consent cluster, contract.consents.get side = some consent ∧
    registry.clusters[(contract.parties.get side).cluster]? = some cluster ∧
    consent.decision = .accepted ∧ consent.termsDigest = contract.termsDigest ∧
    consent.cluster = (contract.parties.get side).cluster ∧
    consent.endpoint = (contract.parties.get side).endpoint ∧
    consent.incarnation = cluster.incarnation ∧ consent.generation = cluster.generation ∧
    consent.policyGeneration = cluster.policyGeneration

def ContractOpen (contract : ContractRecord) : Prop :=
  contract.state ≠ .refused ∧ contract.state ≠ .withdrawn ∧ contract.state ≠ .fenced ∧
    contract.state ≠ .expired

def BoundNow (registry : Registry) (contract : ContractRecord) (grant : GrantRecord) (side : Side) :
    Prop :=
  ∃ cluster, registry.clusters[(contract.parties.get side).cluster]? = some cluster ∧
    grant.incarnations.get side = cluster.incarnation ∧
    grant.generations.get side = cluster.generation ∧
    grant.policies.get side = cluster.policyGeneration

/-- A grant that may carry traffic now. -/
structure GrantUsable (registry : Registry) (contract : ContractRecord) (query : DecisionQuery)
    (view : EngineView) (grant : GrantRecord) : Prop where
  state : grant.state = .committed ∨ grant.state = .active
  acknowledged : ∀ side, grant.acknowledged.get side = true
  term : grant.coordinatorTerm = view.term
  coordinator : grant.coordinator = view.incarnation
  terms : grant.termsDigest = contract.termsDigest
  bound : ∀ side, BoundNow registry contract grant side
  valid : ¬grant.validUntil < view.now
  capacity : ¬grant.capacity < query.requestedCapacity

/-! When each check passes. -/

lemma checkCluster_eq_ok {cluster : ClusterRecord} {u : Unit} :
    checkCluster cluster = .ok u ↔ ClusterReady cluster := by
  unfold checkCluster ClusterReady
  cases cluster.state <;> simp [throw_ne_ok, bind_eq_ok, rejectIf_eq_ok]

lemma checkEndpoint_eq_ok {endpoint : EndpointRecord} {isSource : Bool} {u : Unit} :
    checkEndpoint endpoint isSource = .ok u ↔ EndpointReady endpoint := by
  unfold checkEndpoint EndpointReady
  cases endpoint.state <;> simp [throw_ne_ok, rejectIf_eq_ok]

lemma checkConsent_eq_ok {registry : Registry} {contract : ContractRecord} {side : Side} {u : Unit} :
    checkConsent registry contract side = .ok u ↔ ConsentCurrent registry contract side := by
  simp only [checkConsent, ConsentCurrent, rejectIf_eq_ok, bind_eq_ok, exists_const, orReject_eq_ok,
    not_not, not_or, ne_eq]
  constructor
  · rintro ⟨consent, hconsent, h1, h2, cluster, hcluster, ⟨h3, h4⟩, h5, h6, h7⟩
    exact ⟨consent, cluster, hconsent, hcluster, h1, h2, h3, h4, h5, h6, h7⟩
  · rintro ⟨consent, cluster, hconsent, hcluster, h1, h2, h3, h4, h5, h6, h7⟩
    exact ⟨consent, hconsent, h1, h2, cluster, hcluster, ⟨h3, h4⟩, h5, h6, h7⟩

lemma bothConsented_of_current {registry : Registry} {contract : ContractRecord}
    (h : ∀ side, ConsentCurrent registry contract side) : contract.bothConsented = true := by
  have accepted_of_current (side : Side) :
      ContractRecord.accepted (contract.consents.get side) = true := by
    obtain ⟨consent, _, hconsent, _, hdecision, _⟩ := h side
    simp [hconsent, ContractRecord.accepted, hdecision]
  have hfirst := accepted_of_current .first
  have hsecond := accepted_of_current .second
  simp only [PerSide.get] at hfirst hsecond
  simp [ContractRecord.bothConsented, hfirst, hsecond]

lemma forall_side {P : Side → Prop} : (∀ side, P side) ↔ P .first ∧ P .second :=
  ⟨fun h => ⟨h .first, h .second⟩, fun h side => by cases side; exacts [h.1, h.2]⟩

lemma checkConsents_eq_ok {registry : Registry} {contract : ContractRecord} {u : Unit} :
    checkConsents registry contract = .ok u ↔
      ContractOpen contract ∧ ∀ side, ConsentCurrent registry contract side := by
  simp only [checkConsents, rejectIf_eq_ok, bind_eq_ok, exists_const, checkConsent_eq_ok, ContractOpen]
  constructor
  · rintro ⟨h1, h2, h3, h4, _, hfirst, hsecond⟩
    exact ⟨⟨h1, h2, h3, h4⟩, forall_side.mpr ⟨hfirst, hsecond⟩⟩
  · rintro ⟨⟨h1, h2, h3, h4⟩, hsides⟩
    refine ⟨h1, h2, h3, h4, ?_, hsides .first, hsides .second⟩
    simp [bothConsented_of_current hsides]

lemma checkBinding_eq_ok {registry : Registry} {contract : ContractRecord} {grant : GrantRecord}
    {side : Side} {u : Unit} :
    checkBinding registry contract grant side = .ok u ↔ BoundNow registry contract grant side := by
  simp only [checkBinding, BoundNow, rejectIf_eq_ok, bind_eq_ok, exists_const, orReject_eq_ok, not_not,
    ne_eq]

lemma checkGrantState_eq_ok {grant : GrantRecord} {u : Unit} :
    checkGrantState grant = .ok u ↔ grant.state = .committed ∨ grant.state = .active := by
  unfold checkGrantState
  cases grant.state <;> simp [throw_ne_ok, pure, Except.pure]

lemma bothAcknowledged_iff {grant : GrantRecord} :
    grant.bothAcknowledged = true ↔ ∀ side, grant.acknowledged.get side = true := by
  simp [GrantRecord.bothAcknowledged, forall_side, PerSide.get]

lemma checkSelectedGrant_eq_ok {registry : Registry} {contract : ContractRecord} {query : DecisionQuery}
    {view : EngineView} {grant : GrantRecord} {u : Unit} :
    checkSelectedGrant registry contract query view grant = .ok u ↔
      GrantUsable registry contract query view grant := by
  simp only [checkSelectedGrant, rejectIf_eq_ok, bind_eq_ok, exists_const, checkBinding_eq_ok,
    checkGrantState_eq_ok, Bool.not_eq_false, bothAcknowledged_iff, not_or, ne_eq, not_not]
  constructor
  · rintro ⟨hstate, hack, hterm, hdigest, hfirst, hsecond, hvalid, hcapacity⟩
    exact ⟨hstate, hack, hterm.1, hterm.2, hdigest, forall_side.mpr ⟨hfirst, hsecond⟩, hvalid,
      hcapacity⟩
  · intro h
    exact ⟨h.state, h.acknowledged, ⟨h.term, h.coordinator⟩, h.terms, h.bound .first, h.bound .second,
      h.valid, h.capacity⟩

lemma checkPolicy_eq_ok {policy : PolicyEvaluation} {u : Unit} :
    checkPolicy policy = .ok u ↔ policy.decision = .allowed := by
  unfold checkPolicy
  cases policy.decision <;> simp [throw_ne_ok, pure, Except.pure]

lemma gate_eq_ok {α : Type} {decision : Decision} {x : Except Refusal α} {a : α} :
    gate decision x = .ok a ↔ x = .ok a := by
  cases x <;> simp [gate]

/-! Paths. -/

/-- A registered path between the two endpoints that crosses no unsupported link. -/
def JoiningPath (registry : Registry) (source target : EndpointId) (path : PathRecord) : Prop :=
  path ∈ values registry.paths ∧ path.joins source target = true ∧ path.containsUnsupportedEdge = false

lemma record_sawUp (tally : PathTally) (path : PathRecord) :
    (tally.record path).sawUp = tally.sawUp ∧ (tally.record path).sawDegraded = tally.sawDegraded := by
  unfold PathTally.record
  split <;> exact ⟨rfl, rfl⟩

lemma foldl_add_sawUp (paths : List PathRecord) (tally : PathTally) :
    (paths.foldl PathTally.add tally).sawUp = true ↔
      tally.sawUp = true ∨ ∃ path ∈ paths, path.containsUnsupportedEdge = false ∧ path.state = .up := by
  induction paths generalizing tally with
  | nil => simp
  | cons path paths ih =>
    rw [List.foldl_cons, ih]
    have hadd : (tally.add path).sawUp = true ↔
        tally.sawUp = true ∨ (path.containsUnsupportedEdge = false ∧ path.state = .up) := by
      unfold PathTally.add
      cases hedge : path.containsUnsupportedEdge <;> cases hstate : path.state <;>
        simp [record_sawUp]
    rw [hadd, or_assoc]
    simp

lemma foldl_add_sawDegraded (paths : List PathRecord) (tally : PathTally) :
    (paths.foldl PathTally.add tally).sawDegraded = true ↔
      tally.sawDegraded = true ∨
        ∃ path ∈ paths, path.containsUnsupportedEdge = false ∧ path.state = .degraded := by
  induction paths generalizing tally with
  | nil => simp
  | cons path paths ih =>
    rw [List.foldl_cons, ih]
    have hadd : (tally.add path).sawDegraded = true ↔
        tally.sawDegraded = true ∨ (path.containsUnsupportedEdge = false ∧ path.state = .degraded) := by
      unfold PathTally.add
      cases hedge : path.containsUnsupportedEdge <;> cases hstate : path.state <;>
        simp [record_sawUp]
    rw [hadd, or_assoc]
    simp

/-- The walk succeeds on an up path, else on a degraded one, and says which it was. -/
lemma evaluatePaths_eq_ok {registry : Registry} {source target : EndpointId} {paths : PathEvaluation}
    (h : evaluatePaths registry source target = .ok paths) :
    (paths.degraded = false ∧ ∃ path, JoiningPath registry source target path ∧ path.state = .up) ∨
      (paths.degraded = true ∧ (∀ path, JoiningPath registry source target path → path.state ≠ .up) ∧
        ∃ path, JoiningPath registry source target path ∧ path.state = .degraded) := by
  have hup := foldl_add_sawUp ((values registry.paths).filter fun path => path.joins source target) {}
  have hdegraded :=
    foldl_add_sawDegraded ((values registry.paths).filter fun path => path.joins source target) {}
  simp only [List.mem_filter, Bool.false_eq_true, false_or] at hup hdegraded
  unfold evaluatePaths at h
  simp only at h
  split at h
  · rename_i hsaw
    obtain ⟨path, ⟨hmem, hjoins⟩, hedge, hstate⟩ := hup.mp hsaw
    cases h
    exact .inl ⟨rfl, path, ⟨hmem, hjoins, hedge⟩, hstate⟩
  · rename_i hsaw
    split at h
    · rename_i hsaw'
      obtain ⟨path, ⟨hmem, hjoins⟩, hedge, hstate⟩ := hdegraded.mp hsaw'
      cases h
      refine .inr ⟨rfl, fun p hp hstate' => hsaw ?_, path, ⟨hmem, hjoins, hedge⟩, hstate⟩
      exact hup.mpr ⟨p, ⟨hp.1, hp.2.1⟩, hp.2.2, hstate'⟩
    · split at h
      · cases h
      · split at h <;> cases h

/-! Endpoints. -/

/-- The endpoint is declared by a registered cluster, which declares no other one of that name. -/
structure Declared (registry : Registry) (id : EndpointId) (endpoint : EndpointRecord)
    (cluster : ClusterRecord) : Prop where
  registered : cluster ∈ values registry.clusters
  declared : endpoint ∈ cluster.endpoints
  identity : endpoint.id = id
  unique : ∀ other ∈ cluster.endpoints, other.id = id → other = endpoint

lemma findInEndpoints_eq_some {endpoints : List EndpointRecord} {id : EndpointId}
    {endpoint : EndpointRecord} (h : findInEndpoints endpoints id = some endpoint) :
    endpoint ∈ endpoints ∧ endpoint.id = id := by
  obtain ⟨hget, hid⟩ := Option.filter_eq_some_iff.mp h
  exact ⟨List.mem_of_getElem? hget, by simpa using hid⟩

lemma ordered_nodup {endpoints : List EndpointRecord} (h : EndpointsOrdered endpoints) :
    (endpoints.map EndpointRecord.id).Nodup := by
  refine List.pairwise_map.mpr (h.imp fun {a b} hab heq => ?_)
  rw [heq, Std.ReflOrd.compare_self] at hab
  cases hab

/-- Every endpoint list of the registry is ordered by identity without duplicates. -/
def EndpointListsOrdered (registry : Registry) : Prop :=
  ∀ cluster ∈ values registry.clusters, EndpointsOrdered cluster.endpoints

lemma declared_of_resolve {registry : Registry} (hordered : EndpointListsOrdered registry)
    {id : EndpointId} {found : EndpointRecord × ClusterRecord} (h : resolve registry id = some found) :
    Declared registry id found.1 found.2 := by
  obtain ⟨cluster, hcluster, hfind⟩ := List.exists_of_findSome?_eq_some h
  obtain ⟨endpoint, hendpoint, rfl⟩ := Option.map_eq_some_iff.mp hfind
  obtain ⟨hmem, hid⟩ := findInEndpoints_eq_some hendpoint
  refine ⟨hcluster, hmem, hid, fun other hother hother' => ?_⟩
  exact List.inj_on_of_nodup_map (ordered_nodup (hordered cluster hcluster)) hother hmem
    (hother'.trans hid.symm)

/-! The whole chain. -/

lemma clear_eq_ok {registry : Registry} {query : DecisionQuery} {view : EngineView} {cleared : Cleared} :
    clear registry query view = .ok cleared ↔
      resolve registry query.source = some cleared.source ∧
      resolve registry query.target = some cleared.target ∧ query.source ≠ query.target ∧
      ClusterReady cleared.source.2 ∧ ClusterReady cleared.target.2 ∧
      EndpointReady cleared.source.1 ∧ EndpointReady cleared.target.1 ∧
      (query.expectSourceGeneration = true → query.sourceGeneration = cleared.source.2.generation) ∧
      (query.expectTargetGeneration = true → query.targetGeneration = cleared.target.2.generation) ∧
      cleared.policy =
        evaluatePolicy registry cleared.source.2 cleared.target.2 query.source query.target ∧
      cleared.policy.decision = .allowed ∧
      evaluatePaths registry query.source query.target = .ok cleared.paths ∧
      cleared.decision = ({ initialDecision registry view with
        authorities := ⟨cleared.source.2.domain, cleared.target.2.domain⟩ }).addReason .policyAllowed := by
  simp only [clear, bind_eq_ok, orReject_eq_ok, rejectIf_eq_ok, gate_eq_ok, checkCluster_eq_ok,
    checkEndpoint_eq_ok, checkPolicy_eq_ok, exists_const, not_and, ne_eq, not_not]
  constructor
  · rintro ⟨source, hsource, target, htarget, hne, h1, h2, h3, h4, h5, h6, h7, paths, hpaths, h⟩
    cases h
    refine ⟨hsource, htarget, hne, h1, h2, h3, h4, h5, h6, rfl, h7, ?_, rfl⟩
    cases heval : evaluatePaths registry query.source query.target with
    | error status => simp [heval, Except.mapError] at hpaths
    | ok found =>
      rw [heval] at hpaths
      exact congrArg Except.ok (Except.ok.inj hpaths)
  · obtain ⟨decision, source, target, policy, paths⟩ := cleared
    dsimp only
    rintro ⟨hsource, htarget, hne, h1, h2, h3, h4, h5, h6, rfl, h7, hpaths, rfl⟩
    refine ⟨source, hsource, target, htarget, hne, h1, h2, h3, h4, h5, h6, h7, paths, ?_, rfl⟩
    rw [hpaths]
    rfl

lemma tryCandidate_eq_ok {registry : Registry} {query : DecisionQuery} {view : EngineView}
    {decision trial : Decision} {candidate : ContractRecord} :
    tryCandidate registry query view decision candidate = .ok trial ↔
      (ContractOpen candidate ∧ ∀ side, ConsentCurrent registry candidate side) ∧
      ∃ grant, selectGrant registry candidate.id = some grant ∧
        GrantUsable registry candidate query view grant ∧
        trial = { ({ decision with
            contract := candidate.id, termsDigest := candidate.termsDigest }).addReason .authoritySatisfied with
          grant := grant.id, capacity := grant.capacity, termsDigest := grant.termsDigest } := by
  simp only [tryCandidate, bind_eq_ok, gate_eq_ok, checkConsents_eq_ok, orReject_eq_ok,
    checkSelectedGrant_eq_ok, exists_const]
  constructor
  · rintro ⟨hconsents, grant, hgrant, husable, h⟩
    exact ⟨hconsents, grant, hgrant, husable, (Except.ok.inj h).symm⟩
  · rintro ⟨hconsents, grant, hgrant, husable, rfl⟩
    exact ⟨hconsents, grant, hgrant, husable, rfl⟩

/-- The loop ends with a trial exactly when some candidate has one. -/
lemma tryCandidates_eq_ok {registry : Registry} {query : DecisionQuery} {view : EngineView}
    {decision trial : Decision} {list : List ContractRecord} {best : Option Decision}
    (h : tryCandidates registry query view decision list best = .ok trial) :
    ∃ candidate ∈ list, tryCandidate registry query view decision candidate = .ok trial := by
  induction list generalizing best with
  | nil => cases best <;> cases h
  | cons candidate rest ih =>
    rw [tryCandidates] at h
    split at h
    · rename_i found hfound
      cases h
      exact ⟨candidate, by simp, hfound⟩
    · obtain ⟨c, hc, htry⟩ := ih h
      exact ⟨c, by simp [hc], htry⟩

lemma tryCandidates_isOk {registry : Registry} {query : DecisionQuery} {view : EngineView}
    {decision trial : Decision} {list : List ContractRecord} {candidate : ContractRecord}
    (hmem : candidate ∈ list) (htry : tryCandidate registry query view decision candidate = .ok trial)
    (best : Option Decision) :
    ∃ result, tryCandidates registry query view decision list best = .ok result := by
  induction list generalizing best with
  | nil => cases hmem
  | cons head rest ih =>
    rw [tryCandidates]
    split
    · exact ⟨_, rfl⟩
    · rename_i failure hfailure
      rcases List.mem_cons.mp hmem with rfl | hmem
      · rw [htry] at hfailure
        cases hfailure
      · exact ih hmem _

lemma mem_candidates {registry : Registry} {query : DecisionQuery} {contract : ContractRecord} :
    contract ∈ candidates registry query ↔
      contract ∈ values registry.contracts ∧ contract.joins query.source query.target = true := by
  simp [candidates, List.mem_insertionSort, List.mem_filter]

/-! A refused decision is never an authorization. -/

def Refusal.Negative (r : Refusal) : Prop := r.status.outcome.isAuthorized = false

def Denied (decision : Decision) : Prop := decision.outcome.isAuthorized = false

lemma refuse_denied {r : Refusal} (h : Refusal.Negative r) (decision : Decision) :
    Denied (decision.refuse r) := h

lemma refusal_negative {reasons : List ReasonCode} {outcome : Outcome} {message : String}
    (h : outcome.isAuthorized = false) : Refusal.Negative (refusal reasons outcome message) := h

lemma gate_denied {α : Type} {x : Except Refusal α} (h : ErrorsIn Refusal.Negative x)
    (decision : Decision) : ErrorsIn Denied (gate decision x) := by
  intro d hd
  cases x with
  | ok a => cases hd
  | error r =>
    cases hd
    exact h r rfl

lemma checkCluster_negative (cluster : ClusterRecord) : ErrorsIn Refusal.Negative (checkCluster cluster) := by
  unfold checkCluster
  cases cluster.state with
  | active => exact .bind (.reject rfl) fun _ => .reject rfl
  | _ => exact .throw rfl

lemma checkEndpoint_negative (endpoint : EndpointRecord) (isSource : Bool) :
    ErrorsIn Refusal.Negative (checkEndpoint endpoint isSource) := by
  unfold checkEndpoint
  cases endpoint.state with
  | active => exact .reject rfl
  | _ => exact .throw rfl

lemma checkConsent_negative (registry : Registry) (contract : ContractRecord) (side : Side) :
    ErrorsIn Refusal.Negative (checkConsent registry contract side) := by
  unfold checkConsent
  refine .bind (.lookup rfl) fun _ => .bind (.reject rfl) fun _ =>
    .bind (.reject rfl) fun _ => .bind (.lookup rfl) fun _ => ?_
  exact .bind (.reject rfl) fun _ => .bind (.reject rfl) fun _ =>
    .bind (.reject rfl) fun _ => .reject rfl

lemma checkConsents_negative (registry : Registry) (contract : ContractRecord) :
    ErrorsIn Refusal.Negative (checkConsents registry contract) := by
  unfold checkConsents
  refine .bind (.reject rfl) fun _ => .bind (.reject rfl) fun _ =>
    .bind (.reject rfl) fun _ => .bind (.reject rfl) fun _ =>
    .bind (.reject rfl) fun _ => ?_
  exact ErrorsIn.bind (checkConsent_negative registry contract .first) fun _ =>
    checkConsent_negative registry contract .second

lemma checkBinding_negative (registry : Registry) (contract : ContractRecord) (grant : GrantRecord)
    (side : Side) : ErrorsIn Refusal.Negative (checkBinding registry contract grant side) :=
  .bind (.lookup rfl) fun _ => .bind (.reject rfl) fun _ =>
    .bind (.reject rfl) fun _ => .reject rfl

lemma checkGrantState_negative (grant : GrantRecord) :
    ErrorsIn Refusal.Negative (checkGrantState grant) := by
  unfold checkGrantState
  cases grant.state with
  | committed => exact .pure ()
  | active => exact .pure ()
  | _ => exact .throw rfl

lemma checkSelectedGrant_negative (registry : Registry) (contract : ContractRecord)
    (query : DecisionQuery) (view : EngineView) (grant : GrantRecord) :
    ErrorsIn Refusal.Negative (checkSelectedGrant registry contract query view grant) := by
  unfold checkSelectedGrant
  refine ErrorsIn.bind (checkGrantState_negative grant) fun _ => .bind (.reject rfl) fun _ =>
    .bind (.reject rfl) fun _ => .bind (.reject rfl) fun _ => ?_
  exact .bind (checkBinding_negative registry contract grant .first) fun _ =>
    .bind (checkBinding_negative registry contract grant .second) fun _ =>
    .bind (.reject rfl) fun _ => .reject rfl

lemma checkPolicy_negative (policy : PolicyEvaluation) :
    ErrorsIn Refusal.Negative (checkPolicy policy) := by
  unfold checkPolicy
  cases policy.decision with
  | allowed => exact .pure ()
  | _ => exact .throw rfl

lemma evaluatePaths_negative (registry : Registry) (source target : EndpointId) :
    ErrorsIn Refusal.Negative ((evaluatePaths registry source target).mapError pathRefusal) := by
  intro r hr
  unfold evaluatePaths at hr
  simp only at hr
  split at hr
  · cases hr
  · split at hr
    · cases hr
    · split at hr
      · cases hr
        rfl
      · split at hr <;> (cases hr; rfl)

lemma clear_denied (registry : Registry) (query : DecisionQuery) (view : EngineView) :
    ErrorsIn Denied (clear registry query view) := by
  unfold clear
  refine .bind (.lookup rfl) fun source => .bind (.lookup rfl) fun target =>
    .bind (.reject rfl) fun _ => ?_
  refine .bind (gate_denied (checkCluster_negative _) _) fun _ =>
    .bind (gate_denied (checkCluster_negative _) _) fun _ =>
    .bind (gate_denied (checkEndpoint_negative _ _) _) fun _ =>
    .bind (gate_denied (checkEndpoint_negative _ _) _) fun _ => ?_
  refine .bind (.reject rfl) fun _ => .bind (.reject rfl) fun _ =>
    .bind (gate_denied (checkPolicy_negative _) _) fun _ => ?_
  exact .bind (gate_denied (evaluatePaths_negative _ _ _) _) fun _ => .pure _

lemma tryCandidate_denied (registry : Registry) (query : DecisionQuery) (view : EngineView)
    (decision : Decision) (candidate : ContractRecord) :
    ErrorsIn Denied (tryCandidate registry query view decision candidate) := by
  unfold tryCandidate
  refine .bind (gate_denied (checkConsents_negative _ _) _) fun _ => .bind (.lookup rfl) fun _ => ?_
  exact .bind (gate_denied (checkSelectedGrant_negative _ _ _ _ _) _) fun _ => .pure _

lemma tryCandidates_denied (registry : Registry) (query : DecisionQuery) (view : EngineView)
    (decision : Decision) (list : List ContractRecord) (best : Option Decision)
    (hbest : ∀ d ∈ best, Denied d) :
    ErrorsIn Denied (tryCandidates registry query view decision list best) := by
  induction list generalizing best with
  | nil =>
    cases best with
    | none => exact .throw rfl
    | some d => exact ErrorsIn.throw (hbest d rfl)
  | cons candidate rest ih =>
    rw [tryCandidates]
    split
    · exact .pure _
    · rename_i failure hfailure
      refine ih _ fun d hd => ?_
      cases best with
      | none =>
        cases hd
        exact tryCandidate_denied _ _ _ _ _ _ hfailure
      | some first => exact hbest d hd

lemma conclude_denied (query : DecisionQuery) (cleared : Cleared) (trial : Decision) :
    ErrorsIn Denied (conclude query cleared trial) := by
  unfold conclude
  simp only
  split
  · split
    · exact .throw rfl
    · exact .pure _
  · exact .pure _

lemma decideChecked_denied (registry : Registry) (query : DecisionQuery) (view : EngineView) :
    ErrorsIn Denied (decideChecked registry query view) := by
  unfold decideChecked
  refine .bind (clear_denied _ _ _) fun _ => .bind (.reject rfl) fun _ => ?_
  exact .bind (tryCandidates_denied _ _ _ _ _ _ (by simp)) fun _ => conclude_denied _ _ _

/-- A decision authorizes only as the result of the whole chain. -/
lemma decideChecked_of_authorized {registry : Registry} {query : DecisionQuery} {view : EngineView}
    (h : (EngineDecide.decide registry query view).authorized = true) :
    decideChecked registry query view = .ok (EngineDecide.decide registry query view) := by
  unfold EngineDecide.decide at h ⊢
  cases hd : decideChecked registry query view with
  | ok d => rfl
  | error d =>
    rw [hd] at h
    have := decideChecked_denied registry query view d hd
    exact absurd (this.symm.trans h) (by simp)

/-! Soundness. -/

lemma foldl_laterGrant_mem {grants : List GrantRecord} {start : Option GrantRecord} {grant : GrantRecord}
    (h : grants.foldl laterGrant start = some grant) : start = some grant ∨ grant ∈ grants := by
  induction grants generalizing start with
  | nil => exact .inl h
  | cons g grants ih =>
    rcases ih h with hstart | hmem
    · cases start with
      | none =>
        cases hstart
        exact .inr (by simp)
      | some current =>
        simp only [laterGrant] at hstart
        split at hstart
        · cases hstart
          exact .inr (by simp)
        · exact .inl hstart
    · exact .inr (by simp [hmem])

lemma selectGrant_mem {registry : Registry} {contract : ContractId} {grant : GrantRecord}
    (h : selectGrant registry contract = some grant) :
    grant ∈ values registry.grants ∧ grant.contract = contract := by
  rcases foldl_laterGrant_mem h with hnone | hmem
  · cases hnone
  · simpa using List.mem_filter.mp hmem

/-- The path condition behind each of the two authorizing outcomes. -/
def PathGround (registry : Registry) (query : DecisionQuery) (policy : PolicyEvaluation)
    (source target : EndpointRecord) : Outcome → Prop
  | .ok => ∃ path, JoiningPath registry query.source query.target path ∧ path.state = .up
  | .degradedAuthorized =>
    (∀ path, JoiningPath registry query.source query.target path → path.state ≠ .up) ∧
      (∃ path, JoiningPath registry query.source query.target path ∧ path.state = .degraded) ∧
      query.allowDegraded = true ∧ policy.allowDegraded = true ∧ source.permitsDegraded = true ∧
      target.permitsDegraded = true
  | _ => False

/-- Everything an authorization of the query rests on. -/
structure Grounded (registry : Registry) (query : DecisionQuery) (view : EngineView)
    (decision : Decision) (source target : EndpointRecord × ClusterRecord) (contract : ContractRecord)
    (grant : GrantRecord) : Prop where
  distinct : query.source ≠ query.target
  sourceDeclared : Declared registry query.source source.1 source.2
  targetDeclared : Declared registry query.target target.1 target.2
  endpointsReady : EndpointReady source.1 ∧ EndpointReady target.1
  clustersReady : ClusterReady source.2 ∧ ClusterReady target.2
  sourceExpected : query.expectSourceGeneration = true → query.sourceGeneration = source.2.generation
  targetExpected : query.expectTargetGeneration = true → query.targetGeneration = target.2.generation
  allowed : (evaluatePolicy registry source.2 target.2 query.source query.target).decision = .allowed
  path : PathGround registry query
    (evaluatePolicy registry source.2 target.2 query.source query.target) source.1 target.1 decision.outcome
  contractRegistered : contract ∈ values registry.contracts ∧ contract.id = decision.contract
  contractJoins : contract.joins query.source query.target = true
  contractOpen : ContractOpen contract
  consents : ∀ side, ConsentCurrent registry contract side
  grantRegistered : grant ∈ values registry.grants ∧ grant.id = decision.grant
  grantContract : grant.contract = contract.id
  usable : GrantUsable registry contract query view grant

@[simp] lemma addReason_contract (decision : Decision) (code : ReasonCode) :
    (decision.addReason code).contract = decision.contract := by
  unfold Decision.addReason
  split <;> rfl

@[simp] lemma addReason_grant (decision : Decision) (code : ReasonCode) :
    (decision.addReason code).grant = decision.grant := by
  unfold Decision.addReason
  split <;> rfl

/-- The verdict keeps the contract and the grant of the trial and answers for the path. -/
lemma conclude_eq_ok {registry : Registry} {query : DecisionQuery} {cleared : Cleared}
    {trial decision : Decision} (h : conclude query cleared trial = .ok decision)
    (hpaths : evaluatePaths registry query.source query.target = .ok cleared.paths) :
    decision.contract = trial.contract ∧ decision.grant = trial.grant ∧
      PathGround registry query cleared.policy cleared.source.1 cleared.target.1 decision.outcome := by
  have hpath := evaluatePaths_eq_ok hpaths
  unfold conclude at h
  simp only at h
  split at h
  · rename_i hdegraded
    simp only [hdegraded, Bool.true_eq_false, false_and, true_and, false_or] at hpath
    split at h
    · cases h
    · rename_i hpermitted
      simp only [degradedPermitted, Bool.not_eq_false, Bool.and_eq_true] at hpermitted
      cases h
      refine ⟨by simp [Decision.finish], by simp [Decision.finish], hpath.1, hpath.2, ?_⟩
      exact ⟨hpermitted.1.1.1, hpermitted.1.1.2, hpermitted.1.2, hpermitted.2⟩
  · rename_i hdegraded
    simp only [hdegraded, Bool.false_eq_true, false_and, true_and, or_false] at hpath
    cases h
    exact ⟨rfl, rfl, hpath⟩

lemma grounded_of_authorized {registry : Registry} (hordered : EndpointListsOrdered registry)
    {query : DecisionQuery} {view : EngineView}
    (h : (EngineDecide.decide registry query view).authorized = true) :
    ∃ source target contract grant,
      Grounded registry query view (EngineDecide.decide registry query view) source target contract
        grant := by
  have hchecked := decideChecked_of_authorized h
  simp only [decideChecked, bind_eq_ok, rejectIf_eq_ok, exists_const] at hchecked
  obtain ⟨cleared, hclear, _, trial, htrial, hconclude⟩ := hchecked
  obtain ⟨hsource, htarget, hne, hsc, htc, hse, hte, hsg, htg, hpolicy, hallowed, hpaths, _⟩ :=
    clear_eq_ok.mp hclear
  obtain ⟨contract, hcontract, htry⟩ := tryCandidates_eq_ok htrial
  obtain ⟨⟨hopen, hconsents⟩, grant, hselect, husable, rfl⟩ := tryCandidate_eq_ok.mp htry
  obtain ⟨hregistered, hjoins⟩ := mem_candidates.mp hcontract
  obtain ⟨hgrant, hgrantContract⟩ := selectGrant_mem hselect
  obtain ⟨hcontractId, hgrantId, hpath⟩ := conclude_eq_ok hconclude hpaths
  rw [hpolicy] at hallowed hpath
  refine ⟨cleared.source, cleared.target, contract, grant, ?_⟩
  exact
    { distinct := hne
      sourceDeclared := declared_of_resolve hordered hsource
      targetDeclared := declared_of_resolve hordered htarget
      endpointsReady := ⟨hse, hte⟩
      clustersReady := ⟨hsc, htc⟩
      sourceExpected := hsg
      targetExpected := htg
      allowed := hallowed
      path := hpath
      contractRegistered := ⟨hregistered, by simp [hcontractId]⟩
      contractJoins := hjoins
      contractOpen := hopen
      consents := hconsents
      grantRegistered := ⟨hgrant, by simp [hgrantId]⟩
      grantContract := hgrantContract
      usable := husable }

def sampleName (tag : NameTag) (text : String) (h : nameAccepted tag (ascii text) = true) : Name tag :=
  .ofAccepted (ascii text) h

def sampleParty (side : Side) : PartyRef :=
  match side with
  | .first => ⟨sampleName .cluster "alpha" (by decide), sampleName .endpoint "alpha-ep" (by decide),
      sampleName .authorityDomain "domain-a" (by decide)⟩
  | .second => ⟨sampleName .cluster "beta" (by decide), sampleName .endpoint "beta-ep" (by decide),
      sampleName .authorityDomain "domain-b" (by decide)⟩

def sampleEndpoint (side : Side) : EndpointRecord where
  id := (sampleParty side).endpoint
  cluster := (sampleParty side).cluster
  scope := sampleName .scope "/svc" (by decide)
  capacity := ⟨10⟩
  state := .active
  interClusterAllowed := true

def sampleCluster (side : Side) : ClusterRecord where
  id := (sampleParty side).cluster
  domain := (sampleParty side).domain
  incarnation := ⟨1⟩
  generation := ⟨1⟩
  state := .active
  endpoints := [sampleEndpoint side]

def sampleConsent (side : Side) : ConsentRecord :=
  { cluster := (sampleParty side).cluster, endpoint := (sampleParty side).endpoint, incarnation := ⟨1⟩,
    generation := ⟨1⟩, termsDigest := 7, decision := .accepted }

def sampleContract : ContractRecord :=
  { id := ⟨5⟩, parties := ⟨sampleParty .first, sampleParty .second⟩, capacity := ⟨4⟩, termsDigest := 7,
    state := .consented, consents := ⟨some (sampleConsent .first), some (sampleConsent .second)⟩ }

def sampleGrant : GrantRecord :=
  { id := ⟨9⟩, contract := ⟨5⟩, termsDigest := 7, coordinatorTerm := ⟨1⟩, coordinator := ⟨3⟩,
    attempt := ⟨2⟩, incarnations := ⟨⟨1⟩, ⟨1⟩⟩, generations := ⟨⟨1⟩, ⟨1⟩⟩, capacity := ⟨4⟩,
    issuedAt := ⟨10⟩, validUntil := ⟨100⟩, state := .committed, acknowledged := ⟨true, true⟩ }

def samplePolicy (side : Side) : PolicyRule :=
  { id := (sampleParty side).domain.value, owner := (sampleParty side).domain, allow := true }

lemma e1_accepted : nameAccepted .edge (ascii "e1") = true := by decide

def samplePath : PathRecord :=
  { id := sampleName .path "p1" (by decide), a := (sampleParty .first).endpoint,
    b := (sampleParty .second).endpoint, hops := [sampleName .edge "e1" e1_accepted], state := .up }

def sampleRegistry : Registry :=
  { clusters := ((∅ : OrdMap ClusterId ClusterRecord).insert (sampleParty .first).cluster
      (sampleCluster .first)).insert (sampleParty .second).cluster (sampleCluster .second)
    paths := (∅ : OrdMap PathId PathRecord).insert samplePath.id samplePath
    policies := ((∅ : OrdMap Bytes PolicyRule).insert (samplePolicy .first).id
      (samplePolicy .first)).insert (samplePolicy .second).id (samplePolicy .second)
    contracts := (∅ : OrdMap ContractId ContractRecord).insert sampleContract.id sampleContract
    grants := (∅ : OrdMap GrantId GrantRecord).insert sampleGrant.id sampleGrant }

def sampleQuery : DecisionQuery :=
  { source := (sampleParty .first).endpoint, target := (sampleParty .second).endpoint,
    requestedCapacity := ⟨2⟩ }

def sampleView : EngineView := { term := ⟨1⟩, incarnation := ⟨3⟩, now := ⟨50⟩ }

lemma sample_values : values sampleRegistry.clusters = [sampleCluster .first, sampleCluster .second] := by
  decide +kernel

lemma sample_ordered : EndpointListsOrdered sampleRegistry := by
  intro cluster hcluster
  rw [sample_values] at hcluster
  simp only [List.mem_cons, List.not_mem_nil, or_false] at hcluster
  rcases hcluster with rfl | rfl <;> simp [EndpointsOrdered, sampleCluster]

end InterClusterFabric.EngineSoundness
