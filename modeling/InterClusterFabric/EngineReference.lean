import InterClusterFabric.EngineSoundness

/-! The independent reference predicate of the differential tests, and how far the decision follows
it. The reference asks for some usable grant; the decision asks for the most recently issued one. -/
namespace InterClusterFabric.EngineReference
open CoreStatus CoreIds CoreTime ModelRecords ModelRegistry ModelPolicy EngineDecision EngineDecide
open LibraryChecked LibraryOrdMap LibrarySearch ModelCanonicalReads EngineSoundness

structure ReferenceVerdict where
  authorized : Bool := false
  degraded : Bool := false
  firstFailure : Bytes := []
  contract : ContractId := ⟨0⟩
  grant : GrantId := ⟨0⟩

def allEndpoints (registry : Registry) : List EndpointId :=
  (values registry.clusters).flatMap fun cluster => cluster.endpoints.map EndpointRecord.id

def clusterOf (registry : Registry) (endpoint : EndpointId) : Option ClusterRecord :=
  (values registry.clusters).find? fun cluster => cluster.endpoints.any fun e => e.id == endpoint

/-- The endpoints of the query among those of a cluster. -/
def ofQuery (query : DecisionQuery) (cluster : ClusterRecord) : List EndpointRecord :=
  cluster.endpoints.filter fun e => e.id == query.source || e.id == query.target

def referenceCluster (cluster : ClusterRecord) : Except Bytes Unit := do
  rejectIf (cluster.state ≠ .active) (ascii "cluster not active")
  rejectIf (cluster.generationConflict = true) (ascii "generation conflict")
  rejectIf (cluster.consentWithdrawn = true) (ascii "consent withdrawn")

def referenceEndpoints (query : DecisionQuery) (cluster : ClusterRecord) : Except Bytes Unit :=
  rejectIf (∃ e ∈ ofQuery query cluster, e.state ≠ .active ∨ e.interClusterAllowed = false)
    (ascii "endpoint not usable")

def supportedPaths (registry : Registry) (query : DecisionQuery) : List PathRecord :=
  (values registry.paths).filter fun path =>
    path.joins query.source query.target && !path.containsUnsupportedEdge

def degradedOnly (registry : Registry) (query : DecisionQuery) : Bool :=
  !(supportedPaths registry query).any fun path => path.state == .up

/-- Some registered path is not down. -/
def live (registry : Registry) (query : DecisionQuery) : Bool :=
  (supportedPaths registry query).any fun path => path.state == .up || path.state == .degraded

/-- The checks before the contracts. -/
def referencePrelude (registry : Registry) (query : DecisionQuery) : Except Bytes Unit := do
  rejectIf (query.source = query.target) (ascii "identical endpoints")
  rejectIf (query.source ∉ allEndpoints registry ∨ query.target ∉ allEndpoints registry)
    (ascii "endpoint not registered")
  let source ← orReject (clusterOf registry query.source) (ascii "cluster not registered")
  let target ← orReject (clusterOf registry query.target) (ascii "cluster not registered")
  referenceCluster source
  referenceCluster target
  referenceEndpoints query source
  referenceEndpoints query target
  rejectIf (query.expectSourceGeneration = true ∧ query.sourceGeneration ≠ source.generation)
    (ascii "stale source generation")
  rejectIf (query.expectTargetGeneration = true ∧ query.targetGeneration ≠ target.generation)
    (ascii "stale target generation")
  let policy := evaluatePolicy registry source target query.source query.target
  rejectIf (policy.decision ≠ .allowed) (ascii "policy does not allow the pair")
  rejectIf (live registry query = false)
    (if supportedPaths registry query = [] then ascii "only unsupported paths" else ascii "no live path")
  rejectIf (degradedOnly registry query = true ∧ (query.allowDegraded = false ∨ policy.allowDegraded = false))
    (ascii "degraded not permitted")
  rejectIf (degradedOnly registry query = true ∧
      ∃ cluster ∈ [source, target], ∃ e ∈ ofQuery query cluster, e.permitsDegraded = false)
    (ascii "degraded not permitted by endpoint")

/-- One consent against the cluster that owns the party's endpoint. -/
def consentBound (registry : Registry) (contract : ContractRecord) (side : Side) (consent : ConsentRecord) :
    Bool :=
  match clusterOf registry (contract.parties.get side).endpoint with
  | none => false
  | some cluster =>
    consent.incarnation == cluster.incarnation && consent.generation == cluster.generation &&
      consent.policyGeneration == cluster.policyGeneration && consent.cluster == cluster.id

def referenceContract (registry : Registry) (contract : ContractRecord) : Except Bytes Unit := do
  rejectIf (contract.state ≠ .consented) (ascii "contract not consented")
  let first ← orReject contract.consents.first (ascii "missing consent")
  let second ← orReject contract.consents.second (ascii "missing consent")
  rejectIf (first.termsDigest ≠ second.termsDigest ∨ first.termsDigest ≠ contract.termsDigest)
    (ascii "consent digest mismatch")
  rejectIf (first.decision ≠ .accepted ∨ second.decision ≠ .accepted) (ascii "consent refused")
  rejectIf (consentBound registry contract .first first = false ∨
      consentBound registry contract .second second = false)
    (ascii "consent bound to a superseded identity")

def grantBound (registry : Registry) (contract : ContractRecord) (grant : GrantRecord) (side : Side) : Bool :=
  match clusterOf registry (contract.parties.get side).endpoint with
  | none => false
  | some cluster =>
    grant.incarnations.get side == cluster.incarnation && grant.generations.get side == cluster.generation &&
      grant.policies.get side == cluster.policyGeneration

def referenceGrant (registry : Registry) (query : DecisionQuery) (view : EngineView)
    (contract : ContractRecord) (grant : GrantRecord) : Bool :=
  grant.contract == contract.id && (grant.state == .committed || grant.state == .active) &&
    grant.acknowledged.first && grant.acknowledged.second && grant.termsDigest == contract.termsDigest &&
    grant.coordinatorTerm == view.term && grant.coordinator == view.incarnation &&
    grantBound registry contract grant .first && grantBound registry contract grant .second &&
    !(grant.validUntil < view.now : Bool) && !(grant.capacity < query.requestedCapacity : Bool)

/-- The loop over the contracts of the pair; it ends at the first usable grant. -/
def referenceContracts (registry : Registry) (query : DecisionQuery) (view : EngineView) :
    List ContractRecord → Bool → ReferenceVerdict → ReferenceVerdict
  | [], found, verdict => if found then verdict else { verdict with firstFailure := ascii "no contract" }
  | contract :: rest, found, verdict =>
    match referenceContract registry contract with
    | .error why => referenceContracts registry query view rest found { verdict with firstFailure := why }
    | .ok _ =>
      match (values registry.grants).find? (referenceGrant registry query view contract) with
      | some grant =>
        { verdict with
          authorized := true, degraded := degradedOnly registry query, contract := contract.id
          grant := grant.id }
      | none =>
        referenceContracts registry query view rest true
          { verdict with contract := contract.id, firstFailure := ascii "no usable grant" }

def referenceAuthorize (registry : Registry) (query : DecisionQuery) (view : EngineView) : ReferenceVerdict :=
  match referencePrelude registry query with
  | .error why => { firstFailure := why }
  | .ok _ =>
    referenceContracts registry query view
      ((values registry.contracts).filter fun contract => contract.joins query.source query.target) false {}

/-! Lookup: on ordered lists the binary search finds what a linear one finds. -/

lemma compare_lt_of_before {a b : EndpointRecord} {id : EndpointId} (hab : compare a.id b.id = .lt)
    (hb : compare b.id id = .lt) : compare a.id id = .lt :=
  Std.TransCmp.lt_trans hab hb

lemma findInEndpoints_eq_find {endpoints : List EndpointRecord} (h : EndpointsOrdered endpoints)
    (id : EndpointId) : findInEndpoints endpoints id = endpoints.find? fun e => e.id == id := by
  have hsplit : SplitsAt (fun record => compare record.id id == .lt) endpoints
      (endpoints.countP fun record => compare record.id id == .lt) :=
    splitsAt_of_pairwise (h.imp fun {a b} hab hb => by
      simpa using compare_lt_of_before hab (by simpa using hb))
  rw [findInEndpoints, lowerBound_eq hsplit]
  induction endpoints with
  | nil => rfl
  | cons e rest ih =>
    obtain ⟨hhead, htail⟩ := List.pairwise_cons.mp h
    cases hcmp : compare e.id id with
    | lt =>
      have hne : (e.id == id) = false := by
        rw [beq_eq_false_iff_ne]
        rintro heq
        rw [heq, Std.ReflOrd.compare_self] at hcmp
        cases hcmp
      have hsplit' : SplitsAt (fun record => compare record.id id == .lt) rest
          (rest.countP fun record => compare record.id id == .lt) :=
        splitsAt_of_pairwise (htail.imp fun {a b} hab hb => by
          simpa using compare_lt_of_before hab (by simpa using hb))
      simp [hcmp, hne, ih htail hsplit']
    | eq =>
      have heq : e.id = id := Std.LawfulEqOrd.eq_of_compare hcmp
      have hzero : rest.countP (fun record => compare record.id id == .lt) = 0 := by
        refine List.countP_eq_zero.mpr fun r hr hlt => ?_
        have := compare_lt_of_before (hhead r hr) (by simpa using hlt)
        rw [hcmp] at this
        cases this
      simp [hzero, heq]
    | gt =>
      -- everything from here on is past the identity: both searches fail
      have hgt : ∀ r ∈ e :: rest, compare r.id id = .gt := by
        intro r hr
        rcases List.mem_cons.mp hr with rfl | hr
        · exact hcmp
        · exact Std.TransCmp.gt_trans (Std.OrientedCmp.gt_of_lt (hhead r hr)) hcmp
      have hzero : (e :: rest).countP (fun record => compare record.id id == .lt) = 0 := by
        refine List.countP_eq_zero.mpr fun r hr hlt => ?_
        simp [hgt r hr] at hlt
      have hne : ∀ r ∈ e :: rest, (r.id == id) = false := by
        intro r hr
        rw [beq_eq_false_iff_ne]
        rintro heq
        have := hgt r hr
        rw [heq, Std.ReflOrd.compare_self] at this
        cases this
      have hfind : (e :: rest).find? (fun r => r.id == id) = none :=
        List.find?_eq_none.mpr fun r hr => by simp [hne r hr]
      rw [hzero, hfind]
      simpa using hne e (by simp)

/-- The first cluster that declares an endpoint, and the record it declares for it. -/
lemma findSome_of_find {clusters : List ClusterRecord}
    (hordered : ∀ cluster ∈ clusters, EndpointsOrdered cluster.endpoints) {id : EndpointId}
    {cluster : ClusterRecord}
    (h : clusters.find? (fun c => c.endpoints.any fun e => e.id == id) = some cluster) :
    ∃ endpoint ∈ cluster.endpoints, endpoint.id = id ∧
      clusters.findSome? (fun c => (findInEndpoints c.endpoints id).map fun e => (e, c)) =
        some (endpoint, cluster) := by
  induction clusters with
  | nil => cases h
  | cons c rest ih =>
    rw [List.find?_cons] at h
    rw [List.findSome?_cons, findInEndpoints_eq_find (hordered c (by simp)) id]
    cases hany : c.endpoints.any (fun e => e.id == id) with
    | false =>
      rw [hany] at h
      have hnone : c.endpoints.find? (fun e => e.id == id) = none := by
        simpa using hany
      simp only [hnone, Option.map_none]
      exact ih (fun d hd => hordered d (by simp [hd])) h
    | true =>
      rw [hany] at h
      cases h
      obtain ⟨e, he, hid⟩ := List.any_eq_true.mp hany
      have hsome : (cluster.endpoints.find? (fun e => e.id == id)).isSome = true :=
        List.find?_isSome.mpr ⟨e, he, hid⟩
      obtain ⟨found, hfound⟩ := Option.isSome_iff_exists.mp hsome
      refine ⟨found, List.mem_of_find?_eq_some hfound, ?_, by simp [hfound]⟩
      simpa using List.find?_some hfound

lemma resolve_of_clusterOf {registry : Registry} (hordered : EndpointListsOrdered registry)
    {id : EndpointId} {cluster : ClusterRecord} (h : clusterOf registry id = some cluster) :
    ∃ endpoint ∈ cluster.endpoints, endpoint.id = id ∧ resolve registry id = some (endpoint, cluster) :=
  findSome_of_find hordered h

/-! The claim of completeness and the condition it holds under. -/

/-- Every check before the contract loop passes, and a degraded path may be used if there is no
other. -/
def Precleared (registry : Registry) (query : DecisionQuery) (view : EngineView) : Prop :=
  ∃ cleared, clear registry query view = .ok cleared ∧
    (cleared.paths.degraded = true →
      degradedPermitted query cleared.policy cleared.source.1 cleared.target.1 = true)

/-- A contract of the pair that passes the consent checks. -/
structure Consenting (registry : Registry) (query : DecisionQuery) (contract : ContractRecord) : Prop where
  registered : contract ∈ values registry.contracts
  joins : contract.joins query.source query.target = true
  passes : checkConsents registry contract = .ok ()

/-- Some consenting contract has some usable grant. -/
def UsableGrantExists (registry : Registry) (query : DecisionQuery) (view : EngineView) : Prop :=
  ∃ contract, Consenting registry query contract ∧
    ∃ grant ∈ values registry.grants, grant.contract = contract.id ∧
      GrantUsable registry contract query view grant

/-- Some consenting contract has a usable grant that is also its most recently issued one. -/
def LatestGrantUsable (registry : Registry) (query : DecisionQuery) (view : EngineView) : Prop :=
  ∃ contract, Consenting registry query contract ∧
    ∃ grant, selectGrant registry contract.id = some grant ∧ GrantUsable registry contract query view grant

/-- The registries the reference is compared on: endpoint identities are unique, a party names the
cluster that owns its endpoint, and a consent names its own party. -/
structure ReferenceDomain (registry : Registry) : Prop where
  ordered : EndpointListsOrdered registry
  unique : ∀ c ∈ values registry.clusters, ∀ c' ∈ values registry.clusters,
    ∀ e ∈ c.endpoints, ∀ e' ∈ c'.endpoints, e.id = e'.id → c = c'
  owned : ∀ contract ∈ values registry.contracts, ∀ side, ∃ cluster,
    registry.clusters[(contract.parties.get side).cluster]? = some cluster ∧
      cluster.id = (contract.parties.get side).cluster ∧
      ∃ e ∈ cluster.endpoints, e.id = (contract.parties.get side).endpoint
  consentsOwn : ∀ contract ∈ values registry.contracts, ∀ side, ∀ consent ∈ contract.consents.get side,
    consent.cluster = (contract.parties.get side).cluster ∧
      consent.endpoint = (contract.parties.get side).endpoint

/-- No grant or contract masks a usable one, and the decision follows the reference. -/
def Unmasked (registry : Registry) (query : DecisionQuery) (view : EngineView) : Prop :=
  (Precleared registry query view → UsableGrantExists registry query view →
      (EngineDecide.decide registry query view).authorized = true) ∧
    (ReferenceDomain registry → (referenceAuthorize registry query view).authorized = true →
      (EngineDecide.decide registry query view).authorized = true)

/-- With the first checks passed, the decision authorizes exactly on a latest usable grant. -/
lemma authorized_iff_latest {registry : Registry} {query : DecisionQuery} {view : EngineView}
    (h : Precleared registry query view) :
    (EngineDecide.decide registry query view).authorized = true ↔ LatestGrantUsable registry query view := by
  obtain ⟨cleared, hclear, hdegraded⟩ := h
  constructor
  · intro hauth
    have hchecked := decideChecked_of_authorized hauth
    simp only [decideChecked, bind_eq_ok, rejectIf_eq_ok, exists_const] at hchecked
    obtain ⟨cleared', _, _, trial, htrial, _⟩ := hchecked
    obtain ⟨contract, hcontract, htry⟩ := tryCandidates_eq_ok htrial
    obtain ⟨hconsents, grant, hselect, husable, _⟩ := tryCandidate_eq_ok.mp htry
    obtain ⟨hregistered, hjoins⟩ := mem_candidates.mp hcontract
    exact ⟨contract, ⟨hregistered, hjoins, checkConsents_eq_ok.mpr hconsents⟩, grant, hselect, husable⟩
  · rintro ⟨contract, hconsenting, grant, hselect, husable⟩
    have hmem : contract ∈ candidates registry query :=
      mem_candidates.mpr ⟨hconsenting.registered, hconsenting.joins⟩
    obtain ⟨first, htry⟩ : ∃ trial,
        tryCandidate registry query view cleared.decision contract = .ok trial :=
      ⟨_, tryCandidate_eq_ok.mpr
        ⟨checkConsents_eq_ok.mp hconsenting.passes, grant, hselect, husable, rfl⟩⟩
    obtain ⟨trial, htrial⟩ := tryCandidates_isOk hmem htry none
    have hconclude : ∃ d, conclude query cleared trial = .ok d ∧ d.authorized = true := by
      unfold conclude
      cases hd : cleared.paths.degraded with
      | false => exact ⟨_, rfl, rfl⟩
      | true =>
        simp only [if_true, hdegraded hd, Bool.true_eq_false, if_false]
        exact ⟨_, rfl, rfl⟩
    obtain ⟨d, hd, hauth⟩ := hconclude
    have hchecked : decideChecked registry query view = .ok d := by
      simp only [decideChecked, bind_eq_ok, rejectIf_eq_ok, exists_const]
      exact ⟨cleared, hclear, List.ne_nil_of_mem hmem, trial, htrial, hd⟩
    rw [EngineDecide.decide, hchecked]
    exact hauth

/-! What the reference rests on. -/

lemma referenceCluster_eq_ok {cluster : ClusterRecord} {u : Unit} :
    referenceCluster cluster = .ok u ↔ ClusterReady cluster := by
  simp only [referenceCluster, ClusterReady, bind_eq_ok, rejectIf_eq_ok, exists_const, ne_eq, not_not,
    Bool.not_eq_true]

lemma referenceEndpoints_ready {query : DecisionQuery} {cluster : ClusterRecord} {u : Unit}
    (h : referenceEndpoints query cluster = .ok u) {endpoint : EndpointRecord}
    (hmem : endpoint ∈ ofQuery query cluster) : EndpointReady endpoint := by
  have hall := rejectIf_eq_ok.mp h
  constructor
  · by_contra hstate
    exact hall ⟨endpoint, hmem, .inl hstate⟩
  · by_contra hallowed
    exact hall ⟨endpoint, hmem, .inr (by simpa using hallowed)⟩

/-- The decision's walk over the paths succeeds on the reference's live pairs. -/
lemma evaluatePaths_of_live {registry : Registry} {query : DecisionQuery}
    (h : live registry query = true) :
    ∃ paths, evaluatePaths registry query.source query.target = .ok paths ∧
      paths.degraded = degradedOnly registry query := by
  have hup := foldl_add_sawUp
    ((values registry.paths).filter fun path => path.joins query.source query.target) {}
  have hdown := foldl_add_sawDegraded
    ((values registry.paths).filter fun path => path.joins query.source query.target) {}
  simp only [List.mem_filter, Bool.false_eq_true, false_or] at hup hdown
  simp only [live, supportedPaths, List.any_eq_true, List.mem_filter, Bool.and_eq_true,
    Bool.not_eq_true', Bool.or_eq_true, beq_iff_eq] at h
  obtain ⟨path, ⟨hmem, hjoins, hedge⟩, hstate⟩ := h
  unfold evaluatePaths
  simp only
  split
  · rename_i hsaw
    obtain ⟨p, ⟨hp, hpjoins⟩, hpedge, hpstate⟩ := hup.mp hsaw
    refine ⟨_, rfl, ?_⟩
    have : (supportedPaths registry query).any (fun path => path.state == .up) = true :=
      List.any_eq_true.mpr ⟨p, by simp [supportedPaths, hp, hpjoins, hpedge], by simp [hpstate]⟩
    simp [degradedOnly, this]
  · rename_i hsaw
    have hdegraded : path.state = .degraded := by
      rcases hstate with hstate | hstate
      · exact absurd (hup.mpr ⟨path, ⟨hmem, hjoins⟩, hedge, hstate⟩) hsaw
      · exact hstate
    rw [if_pos (hdown.mpr ⟨path, ⟨hmem, hjoins⟩, hedge, hdegraded⟩)]
    refine ⟨_, rfl, ?_⟩
    have : (supportedPaths registry query).any (fun path => path.state == .up) = false := by
      rw [List.any_eq_false]
      intro p hp hpstate
      simp only [supportedPaths, List.mem_filter, Bool.and_eq_true, Bool.not_eq_true'] at hp
      exact hsaw (hup.mpr ⟨p, ⟨hp.1, hp.2.1⟩, hp.2.2, by simpa using hpstate⟩)
    simp [degradedOnly, this]

lemma precleared_of_prelude {registry : Registry} (hordered : EndpointListsOrdered registry)
    {query : DecisionQuery} {view : EngineView} {u : Unit}
    (h : referencePrelude registry query = .ok u) : Precleared registry query view := by
  simp only [referencePrelude, bind_eq_ok, rejectIf_eq_ok, orReject_eq_ok, exists_const,
    referenceCluster_eq_ok] at h
  obtain ⟨hne, _, source, hsource, target, htarget, hsc, htc, _, hse, _, hte, hsg, htg, hpolicy,
    hlive, hcaller, hendpoints⟩ := h
  obtain ⟨s, hs, hsid, hsresolve⟩ := resolve_of_clusterOf hordered hsource
  obtain ⟨t, ht, htid, htresolve⟩ := resolve_of_clusterOf hordered htarget
  have hsof : s ∈ ofQuery query source := by simp [ofQuery, hs, hsid]
  have htof : t ∈ ofQuery query target := by simp [ofQuery, ht, htid]
  obtain ⟨paths, hpaths, hdegraded⟩ := evaluatePaths_of_live (by simpa using hlive)
  let decision := ({ initialDecision registry view with
    authorities := ⟨source.domain, target.domain⟩ }).addReason .policyAllowed
  refine ⟨⟨decision, (s, source), (t, target),
    evaluatePolicy registry source target query.source query.target, paths⟩, clear_eq_ok.mpr ?_, ?_⟩
  · refine ⟨hsresolve, htresolve, hne, hsc, htc, referenceEndpoints_ready hse hsof,
      referenceEndpoints_ready hte htof, ?_, ?_, rfl, by simpa using hpolicy, hpaths, rfl⟩
    · intro hexpect
      by_contra hgen
      exact hsg ⟨hexpect, hgen⟩
    · intro hexpect
      by_contra hgen
      exact htg ⟨hexpect, hgen⟩
  · intro honly
    replace honly : degradedOnly registry query = true := hdegraded.symm.trans honly
    have permits {e : EndpointRecord} {cluster : ClusterRecord} (hcluster : cluster ∈ [source, target])
        (he : e ∈ ofQuery query cluster) : e.permitsDegraded = true := by
      by_contra hfalse
      exact hendpoints ⟨honly, cluster, hcluster, e, he, by simpa using hfalse⟩
    have hboth : query.allowDegraded = true ∧
        (evaluatePolicy registry source target query.source query.target).allowDegraded = true := by
      constructor
      · by_contra hfalse
        exact hcaller ⟨honly, .inl (by simpa using hfalse)⟩
      · by_contra hfalse
        exact hcaller ⟨honly, .inr (by simpa using hfalse)⟩
    simp [degradedPermitted, hboth.1, hboth.2, permits (by simp) hsof, permits (by simp) htof]

/-- On the domain of the comparison the reference finds the cluster the contract names. -/
lemma clusterOf_party {registry : Registry} (hdomain : ReferenceDomain registry)
    {contract : ContractRecord} (hcontract : contract ∈ values registry.contracts) {side : Side}
    {cluster : ClusterRecord}
    (h : clusterOf registry (contract.parties.get side).endpoint = some cluster) :
    registry.clusters[(contract.parties.get side).cluster]? = some cluster := by
  obtain ⟨owner, howner, _, e, he, hid⟩ := hdomain.owned contract hcontract side
  have hmem : cluster ∈ values registry.clusters := List.mem_of_find?_eq_some h
  have hany : cluster.endpoints.any (fun e => e.id == (contract.parties.get side).endpoint) = true :=
    List.find?_some (p := fun c : ClusterRecord => c.endpoints.any fun e => e.id == _) h
  obtain ⟨e', he', hid'⟩ := List.any_eq_true.mp hany
  have hsame : owner = cluster := by
    refine hdomain.unique owner (mem_values.mpr ⟨_, howner⟩) cluster hmem e he e' he' ?_
    rw [hid]
    exact (beq_iff_eq.mp hid').symm
  rw [howner, hsame]

lemma consentBound_eq {registry : Registry} (hdomain : ReferenceDomain registry)
    {contract : ContractRecord} (hcontract : contract ∈ values registry.contracts) {side : Side}
    {consent : ConsentRecord} (hconsent : contract.consents.get side = some consent)
    (hdecision : consent.decision = .accepted) (hterms : consent.termsDigest = contract.termsDigest)
    (h : consentBound registry contract side consent = true) :
    ConsentCurrent registry contract side := by
  unfold consentBound at h
  split at h
  · cases h
  · rename_i cluster hcluster
    simp only [Bool.and_eq_true, beq_iff_eq] at h
    obtain ⟨⟨⟨hinc, hgen⟩, hpol⟩, _⟩ := h
    obtain ⟨howncluster, hownendpoint⟩ := hdomain.consentsOwn contract hcontract side consent hconsent
    exact ⟨consent, cluster, hconsent, clusterOf_party hdomain hcontract hcluster, hdecision, hterms,
      howncluster, hownendpoint, hinc, hgen, hpol⟩

lemma consenting_of_reference {registry : Registry} (hdomain : ReferenceDomain registry)
    {query : DecisionQuery} {contract : ContractRecord} (hcontract : contract ∈ values registry.contracts)
    (hjoins : contract.joins query.source query.target = true) {u : Unit}
    (h : referenceContract registry contract = .ok u) : Consenting registry query contract := by
  simp only [referenceContract, bind_eq_ok, rejectIf_eq_ok, orReject_eq_ok, exists_const, not_or, ne_eq,
    not_not, Bool.not_eq_false] at h
  obtain ⟨hstate, first, hfirst, second, hsecond, ⟨hsame, hterms⟩, ⟨hfd, hsd⟩, hfb, hsb⟩ := h
  refine ⟨hcontract, hjoins, checkConsents_eq_ok.mpr ⟨?_, forall_side.mpr ⟨?_, ?_⟩⟩⟩
  · simp [ContractOpen, hstate]
  · exact consentBound_eq hdomain hcontract hfirst hfd hterms hfb
  · exact consentBound_eq hdomain hcontract hsecond hsd (hsame.symm.trans hterms) hsb

lemma grantBound_boundNow {registry : Registry} (hdomain : ReferenceDomain registry)
    {contract : ContractRecord} (hcontract : contract ∈ values registry.contracts) {grant : GrantRecord}
    {side : Side} (h : grantBound registry contract grant side = true) :
    BoundNow registry contract grant side := by
  unfold grantBound at h
  split at h
  · cases h
  · rename_i cluster hcluster
    simp only [Bool.and_eq_true, beq_iff_eq] at h
    exact ⟨cluster, clusterOf_party hdomain hcontract hcluster, h.1.1, h.1.2, h.2⟩

lemma grantUsable_of_reference {registry : Registry} (hdomain : ReferenceDomain registry)
    {query : DecisionQuery} {view : EngineView} {contract : ContractRecord}
    (hcontract : contract ∈ values registry.contracts) {grant : GrantRecord}
    (h : referenceGrant registry query view contract grant = true) :
    grant.contract = contract.id ∧ GrantUsable registry contract query view grant := by
  simp only [referenceGrant, Bool.and_eq_true, Bool.or_eq_true, beq_iff_eq, Bool.not_eq_true',
    decide_eq_false_iff_not] at h
  obtain ⟨⟨⟨⟨⟨⟨⟨⟨⟨⟨hid, hstate⟩, hack₁⟩, hack₂⟩, hterms⟩, hterm⟩, hcoordinator⟩, hfirst⟩, hsecond⟩, hvalid⟩,
    hcapacity⟩ := h
  exact ⟨hid,
    { state := hstate
      acknowledged := forall_side.mpr ⟨hack₁, hack₂⟩
      term := hterm
      coordinator := hcoordinator
      terms := hterms
      bound := forall_side.mpr
        ⟨grantBound_boundNow hdomain hcontract hfirst, grantBound_boundNow hdomain hcontract hsecond⟩
      valid := hvalid
      capacity := hcapacity }⟩

/-- The reference authorizes through one of the contracts it walks over. -/
lemma referenceContracts_authorized {registry : Registry} {query : DecisionQuery} {view : EngineView}
    {contracts : List ContractRecord} {found : Bool} {verdict : ReferenceVerdict}
    (hverdict : verdict.authorized = false)
    (h : (referenceContracts registry query view contracts found verdict).authorized = true) :
    ∃ contract ∈ contracts, referenceContract registry contract = .ok () ∧
      ∃ grant ∈ values registry.grants, referenceGrant registry query view contract grant = true := by
  induction contracts generalizing found verdict with
  | nil =>
    rw [referenceContracts] at h
    split at h <;> simp [hverdict] at h
  | cons contract rest ih =>
    rw [referenceContracts] at h
    split at h
    · obtain ⟨c, hc, hrest⟩ := ih (by simpa using hverdict) h
      exact ⟨c, by simp [hc], hrest⟩
    · rename_i hcontract
      split at h
      · rename_i grant hgrant
        exact ⟨contract, by simp, hcontract, grant, List.mem_of_find?_eq_some hgrant,
          List.find?_some hgrant⟩
      · obtain ⟨c, hc, hrest⟩ := ih (by simpa using hverdict) h
        exact ⟨c, by simp [hc], hrest⟩

/-- Where the reference authorizes, the decision's own conditions on the registry are met. -/
lemma usable_of_reference {registry : Registry} (hdomain : ReferenceDomain registry)
    {query : DecisionQuery} {view : EngineView}
    (h : (referenceAuthorize registry query view).authorized = true) :
    Precleared registry query view ∧ UsableGrantExists registry query view := by
  unfold referenceAuthorize at h
  split at h
  · cases h
  · rename_i hprelude
    obtain ⟨contract, hmem, hcontract, grant, hgrant, husable⟩ := referenceContracts_authorized rfl h
    obtain ⟨hregistered, hjoins⟩ := List.mem_filter.mp hmem
    have ⟨hid, hgrantUsable⟩ := grantUsable_of_reference hdomain hregistered husable
    exact ⟨precleared_of_prelude hdomain.ordered hprelude, contract,
      consenting_of_reference hdomain hregistered hjoins hcontract, grant, hgrant, hid, hgrantUsable⟩

/-- A usable grant is found unless a later issued grant of every such contract hides it. -/
theorem unmasked_iff (registry : Registry) (query : DecisionQuery) (view : EngineView) :
    Unmasked registry query view ↔
      (Precleared registry query view → UsableGrantExists registry query view →
        LatestGrantUsable registry query view) := by
  constructor
  · intro h hcleared husable
    exact (authorized_iff_latest hcleared).mp (h.1 hcleared husable)
  · intro h
    have hdecide (hcleared : Precleared registry query view)
        (husable : UsableGrantExists registry query view) :
        (EngineDecide.decide registry query view).authorized = true :=
      (authorized_iff_latest hcleared).mpr (h hcleared husable)
    refine ⟨hdecide, fun hdomain href => ?_⟩
    obtain ⟨hcleared, husable⟩ := usable_of_reference hdomain href
    exact hdecide hcleared husable

/-- A second grant of the same contract, issued later and not yet prepared. -/
def maskingGrant : GrantRecord :=
  { sampleGrant with id := ⟨10⟩, issuedAt := ⟨20⟩, state := .preparing, acknowledged := ⟨false, false⟩ }

def maskedRegistry : Registry :=
  { sampleRegistry with grants := sampleRegistry.grants.insert maskingGrant.id maskingGrant }

/-- The newer unfinished grant hides the committed one from the decision. -/
theorem masked_not_unmasked : ¬Unmasked maskedRegistry sampleQuery sampleView := by
  intro h
  have hrefused : (EngineDecide.decide maskedRegistry sampleQuery sampleView).authorized = false := by
    decide +kernel
  have hcleared : Precleared maskedRegistry sampleQuery sampleView := by
    refine precleared_of_prelude (u := ()) ?_ (by decide +kernel)
    exact sample_ordered
  have husable : UsableGrantExists maskedRegistry sampleQuery sampleView := by
    refine ⟨sampleContract, ⟨?_, by decide +kernel, rfl⟩, sampleGrant, ?_, rfl, ?_⟩
    · exact mem_values.mpr ⟨sampleContract.id, by decide +kernel⟩
    · exact mem_values.mpr ⟨sampleGrant.id, by decide +kernel⟩
    · exact (checkSelectedGrant_eq_ok (u := ())).mp rfl
  exact absurd (h.1 hcleared husable) (by simp [hrefused])

end InterClusterFabric.EngineReference
