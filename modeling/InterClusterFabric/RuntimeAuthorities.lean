import InterClusterFabric.EngineAuthorities
import InterClusterFabric.RuntimeRecovery

/-! The authorities behind the decisions of a running coordinator, and the endpoints that reports,
registrations and proposals must leave to other clusters for these to be the parties of the contract. -/
namespace InterClusterFabric.RuntimeAuthorities
open CoreStatus CoreIds CoreTime ModelRecords ModelRegistry ModelRegistryLaws EngineDecision EngineSoundness
open EngineAuthorities WireMessages RuntimeCoordinator RuntimeHandlers RuntimeAdmin RuntimeRun RuntimeEdits
open RuntimeSteps RuntimeStepsHandlers RuntimeStepsAdmin RuntimeStart RuntimeRecovery LibraryOrdMap
open StoreDurable hiding loadState

/-- Whoever declares an endpoint that a contract names is the party the contract names for it. -/
def Separate (registry : Registry) : Prop :=
  ∀ (id : ContractId) contract side (key : ClusterId) cluster, registry.contracts[id]? = some contract →
    registry.clusters[key]? = some cluster → Declares cluster (contract.parties.get side).endpoint →
    key = (contract.parties.get side).cluster ∧ cluster.domain = (contract.parties.get side).domain

/-- Every contract that names one of the endpoints names it for this cluster, under this domain. -/
def Unclaimed (registry : Registry) (key : ClusterId) (domain : AuthorityDomainId) (endpoints : List EndpointRecord) :
    Prop :=
  ∀ (id : ContractId) contract side, registry.contracts[id]? = some contract →
    (∃ endpoint ∈ endpoints, endpoint.id = (contract.parties.get side).endpoint) →
    key = (contract.parties.get side).cluster ∧ domain = (contract.parties.get side).domain

/-- A report and a registration declare no endpoint that a contract names for another cluster or another
domain, and a proposal names no endpoint that another cluster declares. -/
def Exclusive (s : Coordinator) : Event → Prop
  | .message _ (.reportCluster message) =>
    ∀ cluster, s.registry.clusters[message.cluster.id]? = some cluster →
      Unclaimed s.registry message.cluster.id cluster.domain message.cluster.endpoints
  | .message _ (.admin request) =>
    (request.action = .upsertCluster → ∀ cluster, request.cluster = some cluster →
      Unclaimed s.registry cluster.id (if cluster.domain.isEmpty then s.config.domain else cluster.domain)
        cluster.endpoints) ∧
    (request.action = .authorizeContract → ∀ (key : ClusterId) cluster, s.registry.clusters[key]? = some cluster →
      (Declares cluster request.endpoint → key = request.clusterId) ∧
      (Declares cluster request.endpointB → key = request.clusterB))
  | _ => True

/-- The record a step registers declares only what no contract names for others. -/
lemma unclaimed_of_replaces {s : Coordinator} {event : Event} (hexclusive : Exclusive s event)
    {record : ClusterRecord} (h : (sceneOf s event).replaces record) :
    Unclaimed s.registry record.id record.domain record.endpoints := by
  rcases h with ⟨connection, message, session, cluster, token, observedAt, rfl, haccepted, rfl⟩ |
    ⟨request, cluster, ⟨connection, rfl, -⟩, haction, hcluster, hid, hendpoints, hdomain⟩
  · have hregistered := haccepted.registered
    rw [← haccepted.owner] at hregistered
    exact hexclusive cluster hregistered
  · rw [hid, hendpoints, hdomain]
    exact hexclusive.1 haction cluster hcluster

/-- The parties of a proposed contract are alone in declaring their endpoints. -/
lemma separate_of_proposes {s : Coordinator} (hformed : WellFormed s.registry) {event : Event}
    (hexclusive : Exclusive s event) {contract : ContractRecord} (h : (sceneOf s event).proposes contract)
    (side : Side) {key : ClusterId} {cluster : ClusterRecord} (hcluster : s.registry.clusters[key]? = some cluster)
    (hdeclares : Declares cluster (contract.parties.get side).endpoint) :
    key = (contract.parties.get side).cluster ∧ cluster.domain = (contract.parties.get side).domain := by
  obtain ⟨request, source, target, ⟨connection, rfl, -⟩, haction, hsource, htarget, hparties, -⟩ := h
  obtain ⟨hfirst, hsecond⟩ := hexclusive.2 haction key cluster hcluster
  rw [hparties] at hdeclares ⊢
  cases side with
  | first =>
    have hkey : key = request.clusterId := hfirst hdeclares
    subst hkey
    rw [hsource, Option.some.injEq] at hcluster
    subst hcluster
    exact ⟨(find_cluster hformed hsource).1.symm, rfl⟩
  | second =>
    have hkey : key = request.clusterB := hsecond hdeclares
    subst hkey
    rw [htarget, Option.some.injEq] at hcluster
    subst hcluster
    exact ⟨(find_cluster hformed htarget).1.symm, rfl⟩

/-- What a step has made of the contracts so far: each has the parties of one the step began with, or of
the one it proposes. -/
def Descends (s : Coordinator) (event : Event) (registry : Registry) : Prop :=
  ∀ (id : ContractId) contract, registry.contracts[id]? = some contract →
    (∃ old, s.registry.contracts[id]? = some old ∧ contract.parties = old.parties) ∨
      ∃ proposed, (sceneOf s event).proposes proposed ∧ contract.parties = proposed.parties

lemma edit_descends {s : Coordinator} {event : Event} {registry next : Registry} (h : Descends s event registry)
    (hedit : Edit (sceneOf s event) registry next) : Descends s event next := by
  intro id contract hcontract
  rcases edit_contracts hedit id with hsame | ⟨old, new, hold, hnew, hparties, -⟩ | ⟨new, hnew, -, hscene, -⟩
  · exact h id contract (by rw [← hsame, hcontract])
  · rw [hnew, Option.some.injEq] at hcontract
    subst hcontract
    rcases h id old hold with ⟨first, hfirst, hsame⟩ | ⟨proposed, hproposes, hsame⟩
    · exact .inl ⟨first, hfirst, hparties.trans hsame⟩
    · exact .inr ⟨proposed, hproposes, hparties.trans hsame⟩
  · rw [hnew, Option.some.injEq] at hcontract
    subst hcontract
    exact .inr ⟨new, hscene, rfl⟩

lemma declares_of_ids {cluster next : ClusterRecord} {id : EndpointId} (h : Declares next id)
    (hids : next.endpoints.map EndpointRecord.id = cluster.endpoints.map EndpointRecord.id) : Declares cluster id := by
  obtain ⟨endpoint, hmem, rfl⟩ := h
  have hname : endpoint.id ∈ cluster.endpoints.map EndpointRecord.id := by
    rw [← hids]
    exact List.mem_map_of_mem hmem
  obtain ⟨old, hold, hid⟩ := List.mem_map.mp hname
  exact ⟨old, hold, hid⟩

/-- No step both proposes a contract and registers a record. -/
lemma not_replaces_of_proposes {s : Coordinator} {event : Event} {contract : ContractRecord} {record : ClusterRecord}
    (h : (sceneOf s event).proposes contract) : ¬(sceneOf s event).replaces record := by
  obtain ⟨request, _, _, ⟨connection, rfl, -⟩, haction, -⟩ := h
  rintro (⟨_, _, _, _, _, _, hevent, -⟩ | ⟨request', _, ⟨connection', hevent, -⟩, haction', -⟩)
  · cases hevent
  · cases hevent
    rw [haction] at haction'
    cases haction'

lemma declares_of_sorted {record : ClusterRecord} {id : EndpointId} (h : Declares (sorted record) id) :
    ∃ endpoint ∈ record.endpoints, endpoint.id = id := by
  obtain ⟨endpoint, hmem, hid⟩ := h
  exact ⟨endpoint, by simpa [sorted, ModelCanonical.sortEndpoints] using hmem, hid⟩

/-- A cluster that declares the endpoint of a contract after an edit is its party, if the contract was
there before the edit. -/
lemma edit_declarer {s : Coordinator} {event : Event} (hexclusive : Exclusive s event) {registry next : Registry}
    (hdescends : Descends s event registry) (hseparate : Separate registry)
    (hedit : Edit (sceneOf s event) registry next) {id : ContractId} {contract : ContractRecord}
    (hcontract : registry.contracts[id]? = some contract) {side : Side} {key : ClusterId} {cluster : ClusterRecord}
    (hcluster : next.clusters[key]? = some cluster) (hdeclares : Declares cluster (contract.parties.get side).endpoint) :
    key = (contract.parties.get side).cluster ∧ cluster.domain = (contract.parties.get side).domain := by
  rcases edit_clusters hedit key with
    hsame | ⟨old, new, hold, hnew, hflags⟩ | ⟨-, hempty⟩ | ⟨record, hnew, hid, hreplaces⟩ | ⟨hgone, -⟩
  · exact hseparate id contract side key cluster hcontract (by rw [← hsame, hcluster]) hdeclares
  · rw [hnew, Option.some.injEq] at hcluster
    subst hcluster
    rw [hflags.domain]
    exact hseparate id contract side key old hcontract hold (declares_of_ids hdeclares hflags.declares)
  · obtain ⟨endpoint, hmem, -⟩ := hdeclares
    rw [(hempty cluster hcluster).1] at hmem
    cases hmem
  · rw [hnew, Option.some.injEq] at hcluster
    subst hcluster
    -- the record was held against the contracts the step began with
    rcases hdescends id contract hcontract with ⟨old, hold, hparties⟩ | ⟨proposed, hproposes, -⟩
    · have hunclaimed := unclaimed_of_replaces hexclusive hreplaces id old side hold
      rw [← hparties, hid] at hunclaimed
      exact hunclaimed (declares_of_sorted hdeclares)
    · exact absurd hreplaces (not_replaces_of_proposes hproposes)
  · rw [hgone] at hcluster
    cases hcluster

lemma edit_separate {s : Coordinator} (hformed : WellFormed s.registry) {event : Event} (hexclusive : Exclusive s event)
    {registry next : Registry} (hdescends : Descends s event registry) (hseparate : Separate registry)
    (hedit : Edit (sceneOf s event) registry next) : Separate next := by
  intro id contract side key cluster hcontract hcluster hdeclares
  rcases edit_contracts hedit id with hsame | ⟨old, new, hold, hnew, hparties, -⟩ | ⟨new, hnew, -, hproposes, hclusters⟩
  · exact edit_declarer hexclusive hdescends hseparate hedit (by rw [← hsame, hcontract]) hcluster hdeclares
  · rw [hnew, Option.some.injEq] at hcontract
    subst hcontract
    rw [hparties] at hdeclares ⊢
    exact edit_declarer hexclusive hdescends hseparate hedit hold hcluster hdeclares
  · rw [hnew, Option.some.injEq] at hcontract
    subst hcontract
    rw [hclusters] at hcluster
    exact separate_of_proposes hformed hexclusive hproposes side hcluster hdeclares

lemma step_separate {s : Coordinator} (hformed : WellFormed s.registry) {event : Event} (hexclusive : Exclusive s event)
    (hseparate : Separate s.registry) : Separate (step s event).registry := by
  have hboth : Descends s event (step s event).registry ∧ Separate (step s event).registry := by
    refine step_keeps (P := fun registry => Descends s event registry ∧ Separate registry) hformed
      ⟨fun _ contract hcontract => .inl ⟨contract, hcontract, rfl⟩, hseparate⟩ fun registry next _ ih hedit => ?_
    exact ⟨edit_descends ih.1 hedit, edit_separate hformed hexclusive ih.1 ih.2 hedit⟩
  exact hboth.2

lemma run_separate {s : Coordinator} (hformed : WellFormed s.registry) {events : List Event}
    (hseparate : Separate s.registry) (hexclusive : EachStep Exclusive s events) :
    Separate (run s events).registry := by
  refine run_induction (P := fun s' => Separate s'.registry) hseparate fun before event after hsplit ih => ?_
  exact step_separate (run_wellFormed hformed before) (hexclusive before event after hsplit) ih

/-- Where only parties declare what contracts name, every endpoint that is found is found at its party. -/
lemma owned_of_separate {registry : Registry} (hformed : WellFormed registry) (hseparate : Separate registry)
    {id : ContractId} {contract : ContractRecord} (hcontract : registry.contracts[id]? = some contract) {side : Side}
    {found : EndpointRecord × ClusterRecord}
    (hfound : resolve registry (contract.parties.get side).endpoint = some found) :
    Owned registry (contract.parties.get side) := by
  rw [← foundAt_iff_owned hformed]
  obtain ⟨hfind, -⟩ := (resolve_eq_some hformed).mp hfound
  obtain ⟨hkey, hdomain⟩ := hseparate id contract side found.2.id found.2 hcontract hfind
    (declares_of_resolve hformed hfound)
  exact ⟨rfl, found, hfound, hkey, hdomain⟩

/-- In every reachable state an authorized query was decided between the parties of the contract that
authorizes it exactly if each party owns its endpoint; and along every run from a separate registry
whose steps leave to other clusters what contracts name for them, it always was. -/
theorem authorities_are_parties (launch : Launch) (files : Files) (s : Coordinator) (hstarted : Started launch files s)
    (events : List Event) (query : DecisionQuery) (view : EngineView)
    (hauthorized : (EngineDecide.decide (run s events).registry query view).authorized = true) :
    ∃ contract, (run s events).registry.contracts[(EngineDecide.decide (run s events).registry query view).contract]? =
        some contract ∧ contract.joins query.source query.target = true ∧
      (DecidedByParties (run s events).registry query (EngineDecide.decide (run s events).registry query view)
        contract ↔ ∀ side, Owned (run s events).registry (contract.parties.get side)) ∧
      (Separate s.registry → EachStep Exclusive s events →
        DecidedByParties (run s events).registry query (EngineDecide.decide (run s events).registry query view)
          contract) := by
  have hformed := started_wellFormed hstarted events
  obtain ⟨source, target, contract, hsource, htarget, hne, hauthorities, hcontract, hjoins⟩ :=
    authorities_of_authorized hformed hauthorized
  have hiff := decidedByParties_iff hformed hsource htarget hne hauthorities hjoins
  refine ⟨contract, hcontract, hjoins, hiff, fun hseparate hexclusive => hiff.mpr ?_⟩
  have hseparate' := run_separate (started_wellFormed hstarted []) hseparate hexclusive
  obtain ⟨side, hfirst, hsecond⟩ := side_of_joins hjoins
  refine (forall_other side).mpr ⟨?_, ?_⟩
  · exact owned_of_separate hformed hseparate' hcontract (by rw [hfirst]; exact hsource)
  · exact owned_of_separate hformed hseparate' hcontract (by rw [hsecond]; exact htarget)

/-! The sample run, in which the two parties alone declare their endpoints. -/

def traffic : List Event := agree ++ [issueGrant] ++ commitBoth ++ allowTraffic

lemma separate_of_noContract {registry : Registry} (h : values registry.contracts = []) : Separate registry := by
  intro id contract side key cluster hcontract
  have hmem : contract ∈ values registry.contracts := mem_values.mpr ⟨id, hcontract⟩
  rw [h] at hmem
  cases hmem

/-- Before any contract is proposed, every registration is exclusive. -/
lemma exclusive_upsert {s : Coordinator} (h : values s.registry.contracts = []) (connection : ℕ)
    {request : AdminMessage} (haction : request.action = .upsertCluster) :
    Exclusive s (.message connection (.admin request)) := by
  refine ⟨fun _ cluster _ id contract side hcontract => ?_, fun hother => ?_⟩
  · have hmem : contract ∈ values s.registry.contracts := mem_values.mpr ⟨id, hcontract⟩
    rw [h] at hmem
    cases hmem
  · rw [haction] at hother
    cases hother

lemma exclusive_admin (s : Coordinator) (connection : ℕ) {request : AdminMessage}
    (hupsert : request.action ≠ .upsertCluster) (hpropose : request.action ≠ .authorizeContract) :
    Exclusive s (.message connection (.admin request)) :=
  ⟨fun h => absurd h hupsert, fun h => absurd h hpropose⟩

lemma exclusive_propose {s : Coordinator} (hformed : WellFormed s.registry)
    (h : ∀ cluster ∈ values s.registry.clusters, ∀ endpoint ∈ cluster.endpoints,
      (endpoint.id = (sampleParty .first).endpoint → cluster.id = (sampleParty .first).cluster) ∧
      (endpoint.id = (sampleParty .second).endpoint → cluster.id = (sampleParty .second).cluster)) :
    Exclusive s proposeContract := by
  refine ⟨fun hother => (by cases hother), fun _ key cluster hcluster => ?_⟩
  have hid : cluster.id = key := (find_cluster hformed hcluster).1
  have hall := h cluster (mem_values.mpr ⟨key, hcluster⟩)
  rw [← hid]
  constructor
  · rintro ⟨endpoint, hmem, hendpoint⟩
    exact (hall endpoint hmem).1 hendpoint
  · rintro ⟨endpoint, hmem, hendpoint⟩
    exact (hall endpoint hmem).2 hendpoint

lemma traffic_exclusive : EachStep Exclusive sampleProcess traffic := by
  have hfacts : values sampleProcess.registry.contracts = [] ∧
      values (run sampleProcess (connectAgents.take 1)).registry.contracts = [] ∧
      ∀ cluster ∈ values (run sampleProcess connectAgents).registry.clusters, ∀ endpoint ∈ cluster.endpoints,
        (endpoint.id = (sampleParty .first).endpoint → cluster.id = (sampleParty .first).cluster) ∧
        (endpoint.id = (sampleParty .second).endpoint → cluster.id = (sampleParty .second).cluster) := by
    decide +kernel
  obtain ⟨hnone, hnone', hclusters⟩ := hfacts
  have hpropose : Exclusive (run sampleProcess connectAgents) proposeContract :=
    exclusive_propose (started_wellFormed sampleProcess_started _) hclusters
  have hrest : EachStep Exclusive (run sampleProcess (connectAgents ++ [proposeContract]))
      ([answer .first .accepted, answer .second .accepted, issueGrant] ++ commitBoth ++ allowTraffic) := by
    refine eachStep_of_mem fun event hmem s => ?_
    simp only [commitBoth, allowTraffic, List.mem_append, List.mem_cons, List.not_mem_nil, or_false] at hmem
    rcases hmem with ((rfl | rfl | rfl) | (rfl | rfl | rfl | rfl)) | (rfl | rfl | rfl | rfl)
    all_goals first
      | exact trivial
      | exact exclusive_admin s _ (by simp) (by simp)
  exact eachStep_cons (exclusive_upsert hnone _ rfl) (eachStep_cons (exclusive_upsert hnone' _ rfl)
    (eachStep_cons trivial (eachStep_cons trivial (eachStep_cons hpropose hrest))))

/-- How the sample query is decided at the end of a sample run. -/
def decided (events : List Event) : Decision :=
  EngineDecide.decide (run sampleProcess events).registry sampleQuery (view (run sampleProcess events) ⟨0⟩)

lemma traffic_authorized : (decided traffic).authorized = true := by
  rw [decided, traffic]
  exact sample_decided.2

/-- The state at the end of the sample run. -/
def sampleAllowed : Coordinator := run sampleGranted allowTraffic

lemma traffic_run : run sampleProcess traffic = sampleAllowed := by
  rw [traffic, run_commit, sampleAllowed]

/-- The grant of the sample run authorizes, and between its two parties. -/
theorem authorities_are_parties_sample :
    ∃ contract, (run sampleProcess traffic).registry.contracts[(decided traffic).contract]? = some contract ∧
      DecidedByParties (run sampleProcess traffic).registry sampleQuery (decided traffic) contract := by
  obtain ⟨contract, hcontract, -, -, hparties⟩ := authorities_are_parties sampleLaunch {} sampleProcess
    sampleProcess_started traffic sampleQuery (view (run sampleProcess traffic) ⟨0⟩) traffic_authorized
  exact ⟨contract, hcontract, hparties (separate_of_noContract (by decide +kernel)) traffic_exclusive⟩

/-! A third cluster declares the endpoint of the first. -/

def stranger : ClusterId := sampleName .cluster "aaa" (by decide)

def strangerDomain : AuthorityDomainId := sampleName .authorityDomain "domain-c" (by decide)

def strangerHello : HelloMessage where
  cluster := stranger
  domain := strangerDomain
  incarnation := ⟨5⟩
  generation := ⟨1⟩
  capabilities := capabilityTwoSidedConsent

def strangerRule : Event :=
  .message operator (.admin { action := .upsertPolicy, policy := some {
    id := strangerDomain.value, owner := strangerDomain, allow := true } })

def strangerJoins : List Event := traffic ++ [strangerRule, .message 3 (.hello strangerHello)]

/-- The state in which the third cluster has joined. -/
def sampleJoined : Coordinator := run sampleAllowed [strangerRule, .message 3 (.hello strangerHello)]

lemma strangerJoins_run : run sampleProcess strangerJoins = sampleJoined := by
  rw [strangerJoins, run_append, traffic_run, sampleJoined]

def strangerReport : Event :=
  .message 3 (.reportCluster {
    session := tokenOf (run sampleProcess strangerJoins) 3
    cluster := {
      id := stranger, domain := strangerDomain, incarnation := ⟨5⟩, generation := ⟨1⟩, state := .active
      endpoints := [{ sampleEndpoint .first with cluster := stranger }] } })

def hijacked : List Event := strangerJoins ++ [strangerReport]

/-- The query is authorized under the domain of the third cluster, which is no party of the contract. -/
theorem authority_of_stranger :
    Started sampleLaunch {} sampleProcess ∧ (decided hijacked).authorized = true ∧
      ∀ contract, (run sampleProcess hijacked).registry.contracts[(decided hijacked).contract]? = some contract →
        ¬DecidedByParties (run sampleProcess hijacked).registry sampleQuery (decided hijacked) contract := by
  have hfacts : (decided hijacked).authorized = true ∧ (decided hijacked).authorities.first = strangerDomain ∧
      ∀ contract ∈ values (run sampleProcess hijacked).registry.contracts,
        contract.parties.first.domain ≠ strangerDomain ∧ contract.parties.second.domain ≠ strangerDomain := by
    rw [decided, hijacked, run_append, strangerReport, strangerJoins_run]
    decide +kernel
  obtain ⟨hauthorized, hfirst, hdomains⟩ := hfacts
  refine ⟨sampleProcess_started, hauthorized, fun contract hcontract => ?_⟩
  have hothers := hdomains contract (mem_values.mpr ⟨_, hcontract⟩)
  rintro ⟨side, -, -, hauthorities⟩
  rw [hauthorities] at hfirst
  cases side with
  | first => exact hothers.1 hfirst
  | second => exact hothers.2 hfirst

end InterClusterFabric.RuntimeAuthorities
