import InterClusterFabric.EngineAuthorities
import InterClusterFabric.RuntimeGenerations
import InterClusterFabric.RuntimeStart

/-! Endpoint lookup. However a registry comes about, the endpoints of each of its clusters are strictly ordered by
identity; so the two binary searches find what a scan of the clusters in key order finds. -/
namespace InterClusterFabric.RuntimeLookups
open CoreStatus CoreIds CoreBytes LibraryChecked LibraryOrdMap LibraryProgram LibraryReader ModelRecords
open ModelCanonicalReads ModelRegistry ModelRegistryLaws EngineReference EngineSoundness EngineAuthorities
open StoreMutation StoreReplay StoreWal StoreDurable StoreCompaction
open RuntimeAgentActs RuntimeGenerations RuntimeStart RuntimeStepsAdmin
open RuntimeAgent (Agent)
open RuntimeCoordinator (Coordinator)

/-- The endpoint in the first cluster, in key order, that declares it; every endpoint is looked at. -/
def scan (registry : Registry) (id : EndpointId) : Option (EndpointRecord × ClusterRecord) :=
  (values registry.clusters).findSome? fun cluster =>
    (cluster.endpoints.find? fun endpoint => endpoint.id == id).map fun endpoint => (endpoint, cluster)

/-! Searching. -/

lemma findSome_congr {α β : Type} {f g : α → Option β} {xs : List α} (h : ∀ x ∈ xs, f x = g x) :
    xs.findSome? f = xs.findSome? g := by
  induction xs with
  | nil => rfl
  | cons x xs ih =>
    rw [List.findSome?_cons, List.findSome?_cons, h x (by simp), ih fun y hy => h y (by simp [hy])]

section Search

variable {registry : Registry} (hordered : EndpointListsOrdered registry)
include hordered

lemma resolve_eq_scan (id : EndpointId) : resolve registry id = scan registry id :=
  findSome_congr fun cluster hcluster => by rw [findInEndpoints_eq_find (hordered cluster hcluster)]

lemma findEndpoint_eq_scan (id : EndpointId) : registry.findEndpoint id = (scan registry id).map Prod.fst := by
  rw [scan, List.map_findSome?]
  refine findSome_congr fun cluster hcluster => ?_
  rw [findInEndpoints_eq_find (hordered cluster hcluster), Function.comp_apply]
  cases cluster.endpoints.find? fun endpoint => endpoint.id == id with
  | none => rfl
  | some endpoint => rfl

end Search

/-! Reachable registries. -/

/-- A registry the program can hold. It starts out empty, decoded, or as a process finds it when it has started; from
there clusters are put, mutations are applied, and the coordinator and the agent take their steps on it. -/
inductive Reached : Registry → Prop
  | empty : Reached {}
  | decoded {bytes rest : Bytes} {registry : Registry} (hrun : decodeRegistry.run bytes = .ok (registry, rest)) :
      Reached registry
  | putCluster {registry next : Registry} (record : ClusterRecord) (h : Reached registry)
      (hok : registry.putCluster record = .ok next) : Reached next
  | applyMutation {registry next : Registry} (mutation : Mutation) (h : Reached registry)
      (hok : applyMutation registry mutation = .ok next) : Reached next
  | startCoordinator {launch : RuntimeRun.Launch} {files : Files} {s : Coordinator}
      (h : RuntimeRun.Started launch files s) : Reached s.registry
  | coordinator {s : Coordinator} (event : RuntimeRun.Event) (h : Reached s.registry) :
      Reached (RuntimeRun.step s event).registry
  | startAgent {launch : RuntimeAgentRun.Launch} {files : Files} {a : Agent}
      (h : RuntimeAgentRun.Started launch files a) : Reached a.registry
  | agent {a : Agent} (event : RuntimeAgentRun.Event) (h : Reached a.registry) :
      Reached (RuntimeAgentRun.step a event).registry

lemma applyMutation_wellFormed {registry next : Registry} {mutation : Mutation} (h : WellFormed registry)
    (hok : applyMutation registry mutation = .ok next) : WellFormed next := by
  obtain ⟨-, hproper, hfinds, rfl⟩ := applyMutation_eq_ok.mp hok
  generalize change mutation = c at hproper hfinds
  cases c with
  | put record => exact store_wellFormed h hproper hfinds.2
  | erase key => exact remove_wellFormed h key
  | extend record => exact appendAudit_wellFormed h (appendAudit_eq_ok.mpr ⟨hfinds.1, hfinds.2, rfl⟩)
  | nothing => exact h

/-- An agent resumes on the registry of its store, and settles by acts that keep registries well formed. -/
lemma agent_started_wellFormed {launch : RuntimeAgentRun.Launch} {files : Files} {a : Agent}
    (h : RuntimeAgentRun.Started launch files a) : WellFormed a.registry := by
  unfold RuntimeAgentRun.Started at h
  rw [start_eq] at h
  rcases opening_cases ⟨launch, []⟩ files with ⟨status, a', hopening, -, -⟩ | ⟨opened, hopens, hcases⟩
  · rw [Program.bind_error hopening] at h
    cases h
  · rcases hcases with ⟨previous, -, -, hopening⟩ | ⟨resumed, hresumes, startedAt, hopening⟩
    · rw [Program.bind_error hopening] at h
      cases h
    · have hresumed : WellFormed resumed.registry := by
        cases hresumes <;> exact (sane_of_openStore hopens).formed
      have hacts := (settled_calms (a := resumed) startedAt resumed).related
      rw [← hopening] at hacts
      have hlast := acts_wellFormed hresumed hacts
      have hregistry : a.registry = (opening launch (RuntimeAgentRun.launched launch files)).2.registry := by
        cases hrun : opening launch (RuntimeAgentRun.launched launch files) with
        | mk result a' =>
          cases result with
          | error status =>
            rw [Program.bind_error hrun] at h
            cases h
          | ok u =>
            rw [Program.bind_ok hrun] at h
            exact (congrArg (fun out => out.2.registry) h).symm
      rw [hregistry]
      exact hlast

lemma Reached.wellFormed {registry : Registry} (h : Reached registry) : WellFormed registry := by
  induction h with
  | empty => exact empty_wellFormed
  | decoded hrun => exact (registry_yields _ _ _ hrun).formed
  | putCluster record _ hok ih => exact putCluster_wellFormed ih hok
  | applyMutation mutation _ hok ih => exact applyMutation_wellFormed ih hok
  | startCoordinator h => exact started_wellFormed h []
  | coordinator event _ ih => exact step_wellFormed ih event
  | startAgent h => exact agent_started_wellFormed h
  | agent event _ ih => exact acts_wellFormed ih (step_acts _ event)

/-- In every reachable registry the endpoints of each cluster are strictly ordered, and both searches find, for every
identity, what the scan finds. -/
theorem lookup_exact {registry : Registry} (h : Reached registry) :
    (∀ cluster ∈ values registry.clusters, EndpointsOrdered cluster.endpoints) ∧
      ∀ id, resolve registry id = scan registry id ∧ registry.findEndpoint id = (scan registry id).map Prod.fst := by
  have hordered := listsOrdered_of_wellFormed h.wellFormed
  exact ⟨hordered, fun id => ⟨resolve_eq_scan hordered id, findEndpoint_eq_scan hordered id⟩⟩

lemma west_accepted : nameAccepted .cluster (ascii "west") = true := by decide

lemma ops_accepted : nameAccepted .authorityDomain (ascii "ops") = true := by decide

lemma a_accepted : nameAccepted .endpoint (ascii "a") = true := by decide

lemma b_accepted : nameAccepted .endpoint (ascii "b") = true := by decide

/-- A cluster that declares its two endpoints in the wrong order. -/
def westCluster : ClusterRecord where
  id := .ofAccepted (ascii "west") west_accepted
  domain := .ofAccepted (ascii "ops") ops_accepted
  endpoints := [
    { id := .ofAccepted (ascii "b") b_accepted, cluster := .ofAccepted (ascii "west") west_accepted, scope := .empty },
    { id := .ofAccepted (ascii "a") a_accepted, cluster := .ofAccepted (ascii "west") west_accepted, scope := .empty }]

/-- Registering it puts them in order, and looking up the one declared last is exact. -/
theorem west_lookup : ∃ registry, Registry.putCluster {} westCluster = .ok registry ∧
    (∀ cluster ∈ values registry.clusters, EndpointsOrdered cluster.endpoints) ∧
      resolve registry (.ofAccepted (ascii "a") a_accepted) = scan registry (.ofAccepted (ascii "a") a_accepted) := by
  have hput : (Registry.putCluster {} westCluster).isOk = true := by decide +kernel
  cases hrun : Registry.putCluster {} westCluster with
  | error status =>
    rw [hrun] at hput
    cases hput
  | ok registry =>
    obtain ⟨hordered, hlookup⟩ := lookup_exact (.putCluster westCluster .empty hrun)
    exact ⟨registry, rfl, hordered, (hlookup _).1⟩

end InterClusterFabric.RuntimeLookups
