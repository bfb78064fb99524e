import InterClusterFabric.EngineSoundness
import InterClusterFabric.ModelRegistryLaws
import InterClusterFabric.RuntimeAdmin
import InterClusterFabric.StoreReplay

/-! What the operations of the coordinator can do to its registry, said once: every operation is a
sequence of the edits below, and every law about reachable registries goes through them. -/
namespace InterClusterFabric.RuntimeEdits
open CoreStatus CoreIds CoreTime CoreHash ModelRecords ModelCanonicalReads ModelRegistry ModelRegistryLaws
open EngineDecision EngineSoundness
open RuntimeFencing RuntimeCoordinator RuntimeHandlers StoreReplay LibraryChecked LibraryOrdMap LibraryProgram
open Relation

/-- What an edit may refer to: the registry, the term and the incarnation its step began with, and
which grants and clusters the step is about. -/
structure Scene where
  base : Registry
  term : Term
  incarnation : IncarnationId
  issues : GrantId → Prop := fun _ => False
  revalidates : GrantId → Prop := fun _ => False
  strands : GrantId → Prop := fun _ => False
  completes : GrantId → Prop := fun _ => False
  acknowledges : GrantRecord → Side → Prop := fun _ _ => False
  prepares : GrantId → AttemptId → Side → Prop := fun _ _ _ => False
  proposes : ContractRecord → Prop := fun _ => False
  answers : ContractId → Prop := fun _ => False
  replaces : ClusterRecord → Prop := fun _ => False
  registers : ClusterRecord → Prop := fun _ => False
  renews : ClusterId → ClusterRecord → ClusterRecord → Prop := fun _ _ _ => False
  deletes : ClusterId → Prop := fun _ => False
  clears : ClusterId → Prop := fun _ => False
  restores : ClusterId → Prop := fun _ => False
  sets : ClusterId → ClusterState → Prop := fun _ _ => False
  rewires : Prop := True
  settles : Prop := False

/-- What a registered grant can turn into. -/
inductive Move (scene : Scene) (grant : GrantRecord) : GrantRecord → Prop
  | fence (trigger : FenceTrigger) (now : Timestamp)
      (hstate : ¬(grant.state = .fenced ∨ grant.state = .aborted ∨ grant.state = .withdrawn)) :
      Move scene grant (fencedGrant trigger now grant)
  | abort (reason : Bytes) (hstate : ¬(grant.state = .fenced ∨ grant.state = .withdrawn)) :
      Move scene grant { grant with state := .aborted, note := reason }
  | suspend (note : Bytes)
      (hstate : grant.state = .preparing ∨ grant.state = .prepared ∨ grant.usableState = true) :
      Move scene grant { grant with state := .indeterminate, note }
  | prepare (note : Bytes) (hstate : grant.state = .preparing ∨ grant.state = .prepared) :
      Move scene grant { grant with state := .prepared, note }
  | digest (side : Side) (value : Digest) :
      Move scene grant { grant with enforcementDigest := grant.enforcementDigest.set side value }
  | acknowledge (side : Side) (value : Digest) (hscene : scene.acknowledges grant side) :
      Move scene grant (acknowledge grant side value)
  | commit (now : Timestamp) (hacks : grant.bothAcknowledged = true)
      (hstate : scene.settles ∧ grant.state = .indeterminate ∨
        scene.completes grant.id ∧ scene.base.grants[grant.id]?.map GrantRecord.state = some grant.state) :
      Move scene grant (committedGrant now grant)
  | expire (hbase : ∃ g, scene.base.grants[grant.id]? = some g ∧ g.usableState = true) :
      Move scene grant { grant with state := .expired }
  | revalidate (next : GrantRecord) (hscene : scene.revalidates grant.id) (hlive : grant.state ≠ .fenced)
      (hid : next.id = grant.id) (hcontract : next.contract = grant.contract)
      (hcapacity : next.capacity = grant.capacity) (hstate : next.state = .preparing)
      (hacks : next.acknowledged = ⟨false, false⟩) : Move scene grant next
  | strand (next : GrantRecord) (hscene : scene.revalidates grant.id) (hstrands : scene.strands grant.id)
      (hlive : grant.state ≠ .fenced) (hid : next.id = grant.id) (hcontract : next.contract = grant.contract)
      (hcapacity : next.capacity = grant.capacity) (hstate : next.state = grant.state) : Move scene grant next

/-- A record that may follow another of the same cluster: no generation goes back, and a new incarnation
comes under a later generation. -/
structure Newer (cluster next : ClusterRecord) : Prop where
  generation : cluster.generation ≤ next.generation
  policyGeneration : cluster.policyGeneration ≤ next.policyGeneration
  incarnation : next.incarnation ≠ cluster.incarnation → cluster.generation < next.generation

/-- The identity that the record presents, the content it claims for it, and whether that is in conflict. -/
structure SameClaim (cluster next : ClusterRecord) : Prop where
  incarnation : next.incarnation = cluster.incarnation
  generation : next.generation = cluster.generation
  policyGeneration : next.policyGeneration = cluster.policyGeneration
  contentDigest : next.contentDigest = cluster.contentDigest
  generationConflict : next.generationConflict = cluster.generationConflict

/-- What a registered cluster can turn into while it keeps its endpoints. A conflict is dropped, a
consent restored, a state set and another claim made only where the scene says so. -/
structure Touch (scene : Scene) (key : ClusterId) (cluster next : ClusterRecord) : Prop where
  id : next.id = cluster.id
  domain : next.domain = cluster.domain
  endpoints : next.endpoints = cluster.endpoints
  conflict : next.generationConflict = cluster.generationConflict ∨ next.generationConflict = true ∨
    scene.clears key
  withdrawn : next.consentWithdrawn = cluster.consentWithdrawn ∨ next.consentWithdrawn = true ∨
    scene.restores key
  state : next.state = cluster.state ∨ scene.sets key next.state
  newer : Newer cluster next
  claim : SameClaim cluster next ∨ scene.renews key cluster next

/-- The reservation of some capacity at an endpoint of a registered cluster. -/
structure Reserves (registry : Registry) (cluster : ClusterRecord) (endpoint : EndpointRecord)
    (reservation : ReservationRecord) : Prop where
  registered : registry.clusters[cluster.id]? = some cluster
  declared : cluster.endpoints.find? (fun e => e.id = endpoint.id) = some endpoint
  named : reservation.cluster = cluster.id ∧ reservation.endpoint = endpoint.id
  unreleased : reservation.released = false
  fits : endpoint.reserved.value.toNat + reservation.amount.value.toNat ≤ endpoint.capacity.value.toNat

/-- The cluster with the amount added at one of its endpoints. -/
def charged (cluster : ClusterRecord) (endpoint : EndpointRecord) (amount : CapacityUnits) : ClusterRecord :=
  { cluster with
    endpoints := updateEndpoint endpoint.id
      (fun e => { e with reserved := ⟨endpoint.reserved.value + amount.value⟩ }) cluster.endpoints }

/-- One change of the registry. -/
inductive Edit (scene : Scene) (registry : Registry) : Registry → Prop
  | audit {next : Registry} (record : AuditRecord) (hok : registry.appendAudit record = .ok next) :
      Edit scene registry next
  | grant (id : GrantId) (grant next : GrantRecord) (hfind : registry.grants[id]? = some grant)
      (hmove : Move scene grant next) : Edit scene registry (setGrant registry id next)
  | issue {next : Registry} (grant : GrantRecord) (hscene : scene.issues grant.id)
      (hstate : grant.state = .preparing) (hacks : grant.acknowledged = ⟨false, false⟩) (hok : registry.putGrant grant = .ok next) :
      Edit scene registry next
  | contract (id : ContractId) (contract next : ContractRecord)
      (hfind : registry.contracts[id]? = some contract) (hid : next.id = contract.id)
      (hparties : next.parties = contract.parties) (hcapacity : next.capacity = contract.capacity)
      (hstate : ¬(contract.state = .withdrawn ∨ contract.state = .fenced) ∧
        (next.state = .withdrawn ∨ next.state = .fenced) ∨ scene.answers id) :
      Edit scene registry (setContract registry id next)
  | propose {next : Registry} (contract : ContractRecord) (hscene : scene.proposes contract)
      (hclusters : registry.clusters = scene.base.clusters) (hok : registry.putContract contract = .ok next) :
      Edit scene registry next
  | touch (id : ClusterId) (cluster next : ClusterRecord) (hfind : registry.clusters[id]? = some cluster)
      (htouch : Touch scene id cluster next) : Edit scene registry (setCluster registry id next)
  | replace {next : Registry} (cluster : ClusterRecord)
      (hscene : (cluster.endpoints = [] ∧ cluster.id ∉ registry.clusters ∧ scene.registers cluster) ∨
        scene.replaces cluster)
      (hok : registry.putCluster cluster = .ok next) : Edit scene registry next
  | eraseCluster {next : Registry} (id : ClusterId) (hscene : scene.deletes id)
      (hok : registry.eraseCluster id = .ok next) : Edit scene registry next
  | topology {next : Registry} (hclusters : next.clusters = registry.clusters)
      (hcontracts : next.contracts = registry.contracts) (hgrants : next.grants = registry.grants)
      (hreservations : next.reservations = registry.reservations) (haudit : next.audit = registry.audit)
      (hformed : WellFormed registry → WellFormed next)
      (hwires : scene.rewires ∨ next.links = registry.links ∧ next.paths = registry.paths) : Edit scene registry next
  | reserve {next : Registry} (hscene : scene.settles) (cluster : ClusterRecord) (endpoint : EndpointRecord)
      (reservation : ReservationRecord) (hreserves : Reserves registry cluster endpoint reservation)
      (hok : (setCluster registry cluster.id (charged cluster endpoint reservation.amount)).putReservation
        reservation = .ok next) : Edit scene registry next
  | leak (cluster : ClusterRecord) (endpoint : EndpointRecord) (reservation : ReservationRecord)
      (status : Status) (hreserves : Reserves registry cluster endpoint reservation)
      (hok : (setCluster registry cluster.id (charged cluster endpoint reservation.amount)).putReservation
        reservation = .error status) :
      Edit scene registry (setCluster registry cluster.id (charged cluster endpoint reservation.amount))
  | release (id : ReservationId) (reservation : ReservationRecord) (now : Timestamp) (outcome : FenceOutcome)
      (hfind : registry.reservations[id]? = some reservation) :
      Edit scene registry (releaseReservation registry reservation now outcome).2

abbrev Edits (scene : Scene) : Registry → Registry → Prop := ReflTransGen (Edit scene)

/-! The registry stays well-formed. -/

lemma room_of_find {registry : Registry} {key : Key} (h : (find registry key).isSome = true) :
    Room registry key := by
  have hmem := (find_isSome key).mp h
  cases key <;> exact .inl hmem

section WellFormed

variable {registry : Registry} (h : WellFormed registry)
include h

/-- A sound record over one that is there. -/
lemma overwrite_wellFormed {r next : Record} (hfind : find registry next.key = some r)
    (hsound : next.Sound) : WellFormed (store registry next) :=
  store_wellFormed h hsound (room_of_find (by rw [hfind]; rfl))

lemma setGrant_eq_store {id : GrantId} {grant next : GrantRecord} (hfind : registry.grants[id]? = some grant)
    (hid : next.id = grant.id) : setGrant registry id next = store registry (.grant next) := by
  rw [setGrant, store, hid, (find_grant h hfind).1]

lemma setGrant_wellFormed {id : GrantId} {grant next : GrantRecord} (hfind : registry.grants[id]? = some grant)
    (hid : next.id = grant.id) (hcontract : next.contract = grant.contract)
    (hcapacity : next.capacity = grant.capacity) : WellFormed (setGrant registry id next) := by
  obtain ⟨hkey, hsound⟩ := find_grant h hfind
  rw [setGrant_eq_store h hfind hid]
  refine overwrite_wellFormed h (r := .grant grant) ?_ ?_
  · simp only [Record.key, find, hid, hkey, hfind, Option.map_some]
  · rw [Record.Sound, hid, hcontract, hcapacity]
    exact hsound

lemma setContract_eq_store {id : ContractId} {contract next : ContractRecord}
    (hfind : registry.contracts[id]? = some contract) (hid : next.id = contract.id) :
    setContract registry id next = store registry (.contract next) := by
  rw [setContract, store, hid, (find_contract h hfind).1]

lemma setContract_wellFormed {id : ContractId} {contract next : ContractRecord}
    (hfind : registry.contracts[id]? = some contract) (hid : next.id = contract.id)
    (hparties : next.parties = contract.parties) (hcapacity : next.capacity = contract.capacity) :
    WellFormed (setContract registry id next) := by
  obtain ⟨hkey, hsound⟩ := find_contract h hfind
  rw [setContract_eq_store h hfind hid]
  refine overwrite_wellFormed h (r := .contract contract) ?_ ?_
  · simp only [Record.key, find, hid, hkey, hfind, Option.map_some]
  · rw [Record.Sound, hid, hparties, hcapacity]
    exact hsound

lemma setCluster_eq_store {id : ClusterId} {cluster next : ClusterRecord}
    (hfind : registry.clusters[id]? = some cluster) (hid : next.id = cluster.id) :
    setCluster registry id next = store registry (.cluster next) := by
  rw [setCluster, store, hid, (find_cluster h hfind).1]

lemma setCluster_wellFormed {id : ClusterId} {cluster next : ClusterRecord}
    (hfind : registry.clusters[id]? = some cluster) (hid : next.id = cluster.id)
    (hdomain : next.domain = cluster.domain) (hendpoints : EndpointsSound cluster.id next.endpoints) :
    WellFormed (setCluster registry id next) := by
  obtain ⟨hkey, hsound⟩ := find_cluster h hfind
  rw [setCluster_eq_store h hfind hid]
  refine overwrite_wellFormed h (r := .cluster cluster) ?_ ?_
  · simp only [Record.key, find, hid, hkey, hfind, Option.map_some]
  · rw [Record.Sound, hid, hdomain]
    exact ⟨hsound.1, hsound.2.1, hendpoints⟩

lemma setReservation_eq_store {id : ReservationId} {reservation next : ReservationRecord}
    (hfind : registry.reservations[id]? = some reservation) (hid : next.id = reservation.id) :
    setReservation registry id next = store registry (.reservation next) := by
  rw [setReservation, store, hid, (find_reservation h hfind).1]

lemma setReservation_wellFormed {id : ReservationId} {reservation next : ReservationRecord}
    (hfind : registry.reservations[id]? = some reservation) (hid : next.id = reservation.id) :
    WellFormed (setReservation registry id next) := by
  obtain ⟨hkey, hsound⟩ := find_reservation h hfind
  rw [setReservation_eq_store h hfind hid]
  refine overwrite_wellFormed h (r := .reservation reservation) ?_ ?_
  · simp only [Record.key, find, hid, hkey, hfind, Option.map_some]
  · rw [Record.Sound, hid]
    exact hsound

end WellFormed

/-! Endpoint lists. -/

section Endpoints

variable {id : EndpointId} {f : EndpointRecord → EndpointRecord}

lemma updateEndpoint_ids (hf : ∀ e, (f e).id = e.id) (endpoints : List EndpointRecord) :
    (updateEndpoint id f endpoints).map EndpointRecord.id = endpoints.map EndpointRecord.id := by
  induction endpoints with
  | nil => rfl
  | cons e rest ih =>
    rw [updateEndpoint]
    split
    · simp [hf]
    · simp [ih]

lemma mem_updateEndpoint {endpoints : List EndpointRecord} {e : EndpointRecord}
    (h : e ∈ updateEndpoint id f endpoints) :
    e ∈ endpoints ∨ ∃ e' ∈ endpoints, e'.id = id ∧ e = f e' := by
  induction endpoints with
  | nil => cases h
  | cons a rest ih =>
    rw [updateEndpoint] at h
    split at h
    · rename_i ha
      rcases List.mem_cons.mp h with rfl | hmem
      · exact .inr ⟨a, by simp, ha, rfl⟩
      · exact .inl (by simp [hmem])
    · rcases List.mem_cons.mp h with rfl | hmem
      · exact .inl (by simp)
      · rcases ih hmem with hold | ⟨e', hmem', hid, heq⟩
        · exact .inl (by simp [hold])
        · exact .inr ⟨e', by simp [hmem'], hid, heq⟩

lemma eq_of_same_id {endpoints : List EndpointRecord} (h : EndpointsOrdered endpoints) {a b : EndpointRecord}
    (ha : a ∈ endpoints) (hb : b ∈ endpoints) (hid : a.id = b.id) : a = b :=
  List.inj_on_of_nodup_map (ordered_nodup h) ha hb hid

lemma updateEndpoint_sound {owner : ClusterId} {endpoints : List EndpointRecord}
    (h : EndpointsSound owner endpoints) (hid : ∀ e, (f e).id = e.id) (howner : ∀ e, (f e).cluster = e.cluster)
    (hcovered : ∀ e ∈ endpoints, e.id = id → (f e).reserved ≤ (f e).capacity) :
    EndpointsSound owner (updateEndpoint id f endpoints) where
  bounded := by
    have hids : (updateEndpoint id f endpoints).map EndpointRecord.id = endpoints.map EndpointRecord.id :=
      updateEndpoint_ids hid endpoints
    have hlength := congrArg List.length hids
    rw [List.length_map, List.length_map] at hlength
    rw [hlength]
    exact h.bounded
  owned e he := by
    rcases mem_updateEndpoint he with hold | ⟨e', hmem, -, rfl⟩
    · exact h.owned e hold
    · rw [howner]
      exact h.owned e' hmem
  covered e he := by
    rcases mem_updateEndpoint he with hold | ⟨e', hmem, heq, rfl⟩
    · exact h.covered e hold
    · exact hcovered e' hmem heq
  ordered := by
    rw [EndpointsOrdered, ← List.pairwise_map (f := EndpointRecord.id)
      (R := fun a b => compare a b = .lt), updateEndpoint_ids hid, List.pairwise_map]
    exact h.ordered

end Endpoints

/-! Edits. -/

lemma Move.fields {scene : Scene} {grant next : GrantRecord} (h : Move scene grant next) :
    next.id = grant.id ∧ next.contract = grant.contract ∧ next.capacity = grant.capacity := by
  cases h with
  | revalidate _ _ _ hid hcontract hcapacity _ _ => exact ⟨hid, hcontract, hcapacity⟩
  | strand _ _ _ _ hid hcontract hcapacity _ => exact ⟨hid, hcontract, hcapacity⟩
  | _ => exact ⟨rfl, rfl, rfl⟩

lemma returnCapacity_covered {amount : CapacityUnits} {now : Timestamp} {e : EndpointRecord}
    (h : e.reserved ≤ e.capacity) :
    (returnCapacity amount now e).reserved ≤ (returnCapacity amount now e).capacity := by
  rw [Counter.le_iff] at h ⊢
  simp only [returnCapacity]
  split
  · rename_i hle
    rw [Counter.le_iff] at hle
    rw [UInt64.toNat_sub_of_le _ _ hle]
    omega
  · exact Nat.zero_le _

lemma returnToClusters_find (registry : Registry) (reservation : ReservationRecord) (now : Timestamp)
    (id : ClusterId) : (returnToClusters registry reservation now).clusters[id]? =
      registry.clusters[id]?.map fun cluster => { cluster with
        endpoints := updateEndpoint reservation.endpoint (returnCapacity reservation.amount now)
          cluster.endpoints } := by
  rw [returnToClusters, Std.ExtTreeMap.getElem?_map]

lemma returnToClusters_wellFormed {registry : Registry} (h : WellFormed registry)
    (reservation : ReservationRecord) (now : Timestamp) :
    WellFormed (returnToClusters registry reservation now) where
  sound key record hfind := by
    cases key with
    | cluster id =>
      simp only [find, returnToClusters_find, Option.map_map, Option.map_eq_some_iff, Function.comp] at hfind
      obtain ⟨cluster, hcluster, rfl⟩ := hfind
      obtain ⟨hkey, hid, hdomain, hendpoints⟩ := find_cluster h hcluster
      refine ⟨by rw [Record.key, hkey], hid, hdomain, updateEndpoint_sound hendpoints (fun _ => rfl) (fun _ => rfl)
        fun e he _ => returnCapacity_covered (hendpoints.covered e he)⟩
    | _ => exact h.sound _ record hfind
  bounded := by
    refine { h.bounded with clusters := ?_ }
    rw [returnToClusters, Std.ExtTreeMap.size_map]
    exact h.bounded.clusters
  contiguous := h.contiguous
  trail := h.trail

lemma releaseReservation_wellFormed {registry : Registry} (h : WellFormed registry)
    (reservation : ReservationRecord) (now : Timestamp) (outcome : FenceOutcome) :
    WellFormed (releaseReservation registry reservation now outcome).2 := by
  unfold releaseReservation
  split
  · exact h
  · refine returnToClusters_wellFormed ?_ reservation now
    split
    · rename_i hmem
      obtain ⟨old, hold⟩ := Option.isSome_iff_exists.mp (mem_iff_isSome.mp hmem)
      exact setReservation_wellFormed h hold (find_reservation h hold).1.symm
    · exact h

lemma charged_wellFormed {registry : Registry} (h : WellFormed registry) {cluster : ClusterRecord}
    {endpoint : EndpointRecord} {reservation : ReservationRecord}
    (hreserves : Reserves registry cluster endpoint reservation) :
    WellFormed (setCluster registry cluster.id (charged cluster endpoint reservation.amount)) := by
  obtain ⟨-, -, -, hsound⟩ := find_cluster h hreserves.registered
  refine setCluster_wellFormed h hreserves.registered rfl rfl ?_
  refine updateEndpoint_sound hsound (fun _ => rfl) (fun _ => rfl) fun e he heq => ?_
  have hmem := List.mem_of_find?_eq_some hreserves.declared
  obtain rfl := eq_of_same_id hsound.ordered he hmem heq
  have hfits := hreserves.fits
  have hcapacity := e.capacity.value.toNat_lt
  rw [Counter.le_iff, UInt64.toNat_add, Nat.mod_eq_of_lt (hfits.trans_lt hcapacity)]
  exact hfits

lemma edit_wellFormed {scene : Scene} {registry next : Registry} (h : WellFormed registry)
    (hedit : Edit scene registry next) : WellFormed next := by
  cases hedit with
  | audit record hok => exact appendAudit_wellFormed h hok
  | grant id grant next hfind hmove =>
    obtain ⟨hid, hcontract, hcapacity⟩ := hmove.fields
    exact setGrant_wellFormed h hfind hid hcontract hcapacity
  | issue grant _ _ _ hok =>
    obtain ⟨hsound, hroom, rfl⟩ := putGrant_eq_ok.mp hok
    exact store_wellFormed h hsound hroom
  | contract id contract next hfind hid hparties hcapacity _ =>
    exact setContract_wellFormed h hfind hid hparties hcapacity
  | propose contract _ _ hok =>
    obtain ⟨hsound, hroom, rfl⟩ := putContract_eq_ok.mp hok
    exact store_wellFormed h hsound hroom
  | touch id cluster next hfind htouch =>
    refine setCluster_wellFormed h hfind htouch.id htouch.domain ?_
    rw [htouch.endpoints]
    exact (find_cluster h hfind).2.2.2
  | replace cluster _ hok =>
    obtain ⟨hsound, hroom, rfl⟩ := putCluster_eq_ok.mp hok
    exact store_wellFormed h hsound hroom
  | eraseCluster id _ hok =>
    obtain ⟨-, hok⟩ := rejectIf_bind_eq_ok.mp hok
    cases hok
    exact remove_wellFormed h (.cluster id)
  | topology _ _ _ _ _ hformed _ => exact hformed h
  | reserve _ cluster endpoint reservation hreserves hok =>
    obtain ⟨hsound, hroom, rfl⟩ := putReservation_eq_ok.mp hok
    exact store_wellFormed (charged_wellFormed h hreserves) hsound hroom
  | leak cluster endpoint reservation _ hreserves _ => exact charged_wellFormed h hreserves
  | release id reservation now outcome _ => exact releaseReservation_wellFormed h reservation now outcome

lemma edits_wellFormed {scene : Scene} {registry next : Registry} (h : WellFormed registry)
    (hedits : Edits scene registry next) : WellFormed next := by
  induction hedits with
  | refl => exact h
  | tail _ hedit ih => exact edit_wellFormed ih hedit

/-! What an edit can do to one record. -/

/-- A grant stays, moves, or is issued. -/
lemma edit_grants {scene : Scene} {registry next : Registry} (hedit : Edit scene registry next) (id : GrantId) :
    next.grants[id]? = registry.grants[id]? ∨
    (∃ g g', registry.grants[id]? = some g ∧ next.grants[id]? = some g' ∧ Move scene g g') ∨
    (scene.issues id ∧ ∃ g', next.grants[id]? = some g' ∧ g'.state = .preparing ∧
      g'.acknowledged = ⟨false, false⟩) := by
  cases hedit with
  | audit record hok =>
    obtain ⟨-, -, rfl⟩ := appendAudit_eq_ok.mp hok
    exact .inl rfl
  | grant key grant next hfind hmove =>
    by_cases hkey : id = key
    · subst hkey
      exact .inr (.inl ⟨grant, next, hfind, Std.ExtTreeMap.getElem?_insert_self, hmove⟩)
    · exact .inl (by rw [setGrant, getElem?_insert_eq, if_neg hkey])
  | issue grant hscene hstate hacks hok =>
    obtain ⟨-, -, rfl⟩ := putGrant_eq_ok.mp hok
    by_cases hkey : id = grant.id
    · subst hkey
      exact .inr (.inr ⟨hscene, grant, Std.ExtTreeMap.getElem?_insert_self, hstate, hacks⟩)
    · exact .inl (by rw [store, getElem?_insert_eq, if_neg hkey])
  | contract _ _ _ _ _ _ _ _ => exact .inl rfl
  | propose contract _ _ hok =>
    obtain ⟨-, -, rfl⟩ := putContract_eq_ok.mp hok
    exact .inl rfl
  | touch _ _ _ _ _ => exact .inl rfl
  | replace cluster _ hok =>
    obtain ⟨-, -, rfl⟩ := putCluster_eq_ok.mp hok
    exact .inl rfl
  | eraseCluster _ _ hok =>
    obtain ⟨-, hok⟩ := rejectIf_bind_eq_ok.mp hok
    cases hok
    exact .inl rfl
  | topology _ _ hgrants _ _ _ _ => exact .inl (by rw [hgrants])
  | reserve _ _ _ _ _ hok =>
    obtain ⟨-, -, rfl⟩ := putReservation_eq_ok.mp hok
    exact .inl rfl
  | leak _ _ _ _ _ _ => exact .inl rfl
  | release _ reservation now outcome _ =>
    refine .inl ?_
    unfold releaseReservation
    split
    · rfl
    · dsimp only [returnToClusters]
      split <;> rfl

/-- What an edit of a registered cluster can do to its identity, to the names it declares, to what an operator
decides about it and to what its agent claims. -/
structure Flags (scene : Scene) (key : ClusterId) (cluster next : ClusterRecord) : Prop where
  domain : next.domain = cluster.domain
  declares : next.endpoints.map EndpointRecord.id = cluster.endpoints.map EndpointRecord.id
  conflict : next.generationConflict = cluster.generationConflict ∨ next.generationConflict = true ∨
    scene.clears key
  withdrawn : next.consentWithdrawn = cluster.consentWithdrawn ∨ next.consentWithdrawn = true ∨
    scene.restores key
  state : next.state = cluster.state ∨ scene.sets key next.state
  newer : Newer cluster next
  claim : SameClaim cluster next ∨ scene.renews key cluster next

/-- The identity of the record has not changed. -/
lemma Newer.of_same {cluster next : ClusterRecord} (hgeneration : next.generation = cluster.generation)
    (hpolicy : next.policyGeneration = cluster.policyGeneration)
    (hincarnation : next.incarnation = cluster.incarnation) : Newer cluster next where
  generation := by rw [Counter.le_iff, hgeneration]
  policyGeneration := by rw [Counter.le_iff, hpolicy]
  incarnation h := absurd hincarnation h

lemma Newer.trans {cluster next last : ClusterRecord} (h : Newer cluster next) (h' : Newer next last) :
    Newer cluster last := by
  have hgeneration := Counter.le_iff.mp h.generation
  have hgeneration' := Counter.le_iff.mp h'.generation
  have hpolicy := Counter.le_iff.mp h.policyGeneration
  have hpolicy' := Counter.le_iff.mp h'.policyGeneration
  refine ⟨Counter.le_iff.mpr (by omega), Counter.le_iff.mpr (by omega), fun hchanged => ?_⟩
  rw [Counter.lt_iff]
  by_cases hfirst : next.incarnation = cluster.incarnation
  · have hlater := Counter.lt_iff.mp (h'.incarnation (by rw [hfirst]; exact hchanged))
    omega
  · have hlater := Counter.lt_iff.mp (h.incarnation hfirst)
    omega

lemma Flags.update {scene : Scene} {key : ClusterId} {cluster : ClusterRecord} (id : EndpointId)
    {f : EndpointRecord → EndpointRecord} (hf : ∀ e, (f e).id = e.id) :
    Flags scene key cluster { cluster with endpoints := updateEndpoint id f cluster.endpoints } :=
  ⟨rfl, updateEndpoint_ids hf _, .inl rfl, .inl rfl, .inl rfl, .of_same rfl rfl rfl, .inl ⟨rfl, rfl, rfl, rfl, rfl⟩⟩

lemma charged_clusters {registry : Registry} (scene : Scene) {cluster : ClusterRecord} {endpoint : EndpointRecord}
    {reservation : ReservationRecord} (hreserves : Reserves registry cluster endpoint reservation) (id : ClusterId) :
    (setCluster registry cluster.id (charged cluster endpoint reservation.amount)).clusters[id]? =
        registry.clusters[id]? ∨
      ∃ c c', registry.clusters[id]? = some c ∧
        (setCluster registry cluster.id (charged cluster endpoint reservation.amount)).clusters[id]? = some c' ∧
        Flags scene id c c' := by
  by_cases hkey : id = cluster.id
  · subst hkey
    exact .inr ⟨cluster, _, hreserves.registered, Std.ExtTreeMap.getElem?_insert_self,
      .update endpoint.id fun _ => rfl⟩
  · exact .inl (by rw [setCluster, getElem?_insert_eq, if_neg hkey])

/-- A cluster stays, is edited, is registered without endpoints, is replaced, or is deleted. -/
lemma edit_clusters {scene : Scene} {registry next : Registry} (hedit : Edit scene registry next) (id : ClusterId) :
    next.clusters[id]? = registry.clusters[id]? ∨
    (∃ c c', registry.clusters[id]? = some c ∧ next.clusters[id]? = some c' ∧ Flags scene id c c') ∨
    (registry.clusters[id]? = none ∧ ∀ c, next.clusters[id]? = some c → c.endpoints = [] ∧
      ∃ record, c = sorted record ∧ record.id = id ∧ scene.registers record) ∨
    (∃ record, next.clusters[id]? = some (sorted record) ∧ record.id = id ∧ scene.replaces record) ∨
    (next.clusters[id]? = none ∧ scene.deletes id) := by
  cases hedit with
  | audit record hok =>
    obtain ⟨-, -, rfl⟩ := appendAudit_eq_ok.mp hok
    exact .inl rfl
  | grant _ _ _ _ _ => exact .inl rfl
  | issue grant _ _ _ hok =>
    obtain ⟨-, -, rfl⟩ := putGrant_eq_ok.mp hok
    exact .inl rfl
  | contract _ _ _ _ _ _ _ _ => exact .inl rfl
  | propose contract _ _ hok =>
    obtain ⟨-, -, rfl⟩ := putContract_eq_ok.mp hok
    exact .inl rfl
  | touch key cluster next hfind htouch =>
    by_cases hkey : id = key
    · subst hkey
      exact .inr (.inl ⟨cluster, next, hfind, Std.ExtTreeMap.getElem?_insert_self,
        htouch.domain, by rw [htouch.endpoints], htouch.conflict, htouch.withdrawn, htouch.state, htouch.newer,
        htouch.claim⟩)
    · exact .inl (by rw [setCluster, getElem?_insert_eq, if_neg hkey])
  | replace cluster hscene hok =>
    obtain ⟨-, -, rfl⟩ := putCluster_eq_ok.mp hok
    by_cases hkey : id = cluster.id
    · subst hkey
      rcases hscene with ⟨hempty, hnew, hregisters⟩ | hreplaces
      · refine .inr (.inr (.inl ⟨?_, fun c hc => ?_⟩))
        · rw [mem_iff_isSome] at hnew
          simpa using hnew
        · change (registry.clusters.insert cluster.id (sorted cluster))[cluster.id]? = some c at hc
          rw [Std.ExtTreeMap.getElem?_insert_self, Option.some.injEq] at hc
          subst hc
          exact ⟨by simp [sorted, hempty, ModelCanonical.sortEndpoints], cluster, rfl, rfl, hregisters⟩
      · exact .inr (.inr (.inr (.inl ⟨cluster, Std.ExtTreeMap.getElem?_insert_self, rfl, hreplaces⟩)))
    · refine .inl ?_
      show (registry.clusters.insert cluster.id _)[id]? = _
      rw [getElem?_insert_eq, if_neg hkey]
  | eraseCluster key hscene hok =>
    obtain ⟨-, hok⟩ := rejectIf_bind_eq_ok.mp hok
    cases hok
    by_cases hkey : id = key
    · subst hkey
      exact .inr (.inr (.inr (.inr ⟨by rw [getElem?_erase_eq, if_pos rfl], hscene⟩)))
    · exact .inl (by rw [getElem?_erase_eq, if_neg hkey])
  | topology hclusters _ _ _ _ _ _ => exact .inl (by rw [hclusters])
  | reserve _ cluster endpoint reservation hreserves hok =>
    obtain ⟨-, -, rfl⟩ := putReservation_eq_ok.mp hok
    rcases charged_clusters scene hreserves id with hsame | hchanged
    · exact .inl hsame
    · exact .inr (.inl hchanged)
  | leak cluster endpoint reservation _ hreserves _ =>
    rcases charged_clusters scene hreserves id with hsame | hchanged
    · exact .inl hsame
    · exact .inr (.inl hchanged)
  | release _ reservation now outcome _ =>
    unfold releaseReservation
    split
    · exact .inl rfl
    · have hfind : (returnToClusters (if reservation.id ∈ registry.reservations then
          setReservation registry reservation.id (released reservation now) else registry) reservation now).clusters[id]? =
          registry.clusters[id]?.map fun cluster => { cluster with
            endpoints := updateEndpoint reservation.endpoint (returnCapacity reservation.amount now)
              cluster.endpoints } := by
        rw [returnToClusters_find]
        split <;> rfl
      cases hcluster : registry.clusters[id]? with
      | none =>
        rw [hcluster, Option.map_none] at hfind
        exact .inr (.inr (.inl ⟨rfl, fun c hc => by rw [hfind] at hc; cases hc⟩))
      | some cluster =>
        rw [hcluster, Option.map_some] at hfind
        exact .inr (.inl ⟨cluster, _, rfl, hfind, .update reservation.endpoint fun _ => rfl⟩)

/-- A contract stays, is closed or answered under the same parties, or is proposed. -/
lemma edit_contracts {scene : Scene} {registry next : Registry} (hedit : Edit scene registry next) (id : ContractId) :
    next.contracts[id]? = registry.contracts[id]? ∨
    (∃ c c', registry.contracts[id]? = some c ∧ next.contracts[id]? = some c' ∧ c'.parties = c.parties ∧
      (¬(c.state = .withdrawn ∨ c.state = .fenced) ∧ (c'.state = .withdrawn ∨ c'.state = .fenced) ∨
        scene.answers id)) ∨
    (∃ c, next.contracts[id]? = some c ∧ c.id = id ∧ scene.proposes c ∧ next.clusters = scene.base.clusters) := by
  cases hedit with
  | audit record hok =>
    obtain ⟨-, -, rfl⟩ := appendAudit_eq_ok.mp hok
    exact .inl rfl
  | grant _ _ _ _ _ => exact .inl rfl
  | issue grant _ _ _ hok =>
    obtain ⟨-, -, rfl⟩ := putGrant_eq_ok.mp hok
    exact .inl rfl
  | contract key contract next hfind _ hparties _ hstate =>
    by_cases hkey : id = key
    · subst hkey
      exact .inr (.inl ⟨contract, next, hfind, Std.ExtTreeMap.getElem?_insert_self, hparties, hstate⟩)
    · exact .inl (by rw [setContract, getElem?_insert_eq, if_neg hkey])
  | propose contract hscene hclusters hok =>
    obtain ⟨-, -, rfl⟩ := putContract_eq_ok.mp hok
    by_cases hkey : id = contract.id
    · subst hkey
      exact .inr (.inr ⟨contract, Std.ExtTreeMap.getElem?_insert_self, rfl, hscene, hclusters⟩)
    · exact .inl (by rw [store, getElem?_insert_eq, if_neg hkey])
  | touch _ _ _ _ _ => exact .inl rfl
  | replace cluster _ hok =>
    obtain ⟨-, -, rfl⟩ := putCluster_eq_ok.mp hok
    exact .inl rfl
  | eraseCluster _ _ hok =>
    obtain ⟨-, hok⟩ := rejectIf_bind_eq_ok.mp hok
    cases hok
    exact .inl rfl
  | topology _ hcontracts _ _ _ _ _ => exact .inl (by rw [hcontracts])
  | reserve _ _ _ _ _ hok =>
    obtain ⟨-, -, rfl⟩ := putReservation_eq_ok.mp hok
    exact .inl rfl
  | leak _ _ _ _ _ _ => exact .inl rfl
  | release _ reservation now outcome _ =>
    refine .inl ?_
    unfold releaseReservation
    split
    · rfl
    · dsimp only [returnToClusters]
      split <;> rfl

/-- The reservation a release leaves under a key. -/
lemma releaseReservation_find {registry : Registry} (hformed : WellFormed registry) {id : ReservationId} {reservation : ReservationRecord}
    (hfind : registry.reservations[id]? = some reservation) (now : Timestamp) (outcome : FenceOutcome)
    (key : ReservationId) :
    (releaseReservation registry reservation now outcome).2.reservations[key]? = registry.reservations[key]? ∨
      ∃ r, registry.reservations[key]? = some r ∧
        (releaseReservation registry reservation now outcome).2.reservations[key]? = some (released r now) := by
  obtain ⟨rfl, -⟩ := find_reservation hformed hfind
  unfold releaseReservation
  split
  · exact .inl rfl
  · have hmem : reservation.id ∈ registry.reservations := by rw [mem_iff_isSome, hfind]; rfl
    simp only [hmem, if_true, returnToClusters, setReservation, getElem?_insert_eq]
    by_cases hkey : key = reservation.id
    · subst hkey
      exact .inr ⟨reservation, hfind, by simp⟩
    · exact .inl (by simp [hkey])

/-- A reservation stays or is released, unless the scene makes reservations. -/
lemma edit_reservations {scene : Scene} {registry next : Registry} (hformed : WellFormed registry)
    (hedit : Edit scene registry next) (id : ReservationId) :
    next.reservations[id]? = registry.reservations[id]? ∨
      (∃ r now, registry.reservations[id]? = some r ∧ next.reservations[id]? = some (released r now)) ∨
      scene.settles := by
  cases hedit with
  | audit record hok =>
    obtain ⟨-, -, rfl⟩ := appendAudit_eq_ok.mp hok
    exact .inl rfl
  | grant _ _ _ _ _ => exact .inl rfl
  | issue grant _ _ _ hok =>
    obtain ⟨-, -, rfl⟩ := putGrant_eq_ok.mp hok
    exact .inl rfl
  | contract _ _ _ _ _ _ _ _ => exact .inl rfl
  | propose contract _ _ hok =>
    obtain ⟨-, -, rfl⟩ := putContract_eq_ok.mp hok
    exact .inl rfl
  | touch _ _ _ _ _ => exact .inl rfl
  | replace cluster _ hok =>
    obtain ⟨-, -, rfl⟩ := putCluster_eq_ok.mp hok
    exact .inl rfl
  | eraseCluster _ _ hok =>
    obtain ⟨-, hok⟩ := rejectIf_bind_eq_ok.mp hok
    cases hok
    exact .inl rfl
  | topology _ _ _ hreservations _ _ _ => exact .inl (by rw [hreservations])
  | reserve hscene _ _ _ _ _ => exact .inr (.inr hscene)
  | leak _ _ _ _ _ _ => exact .inl rfl
  | release key reservation now outcome hfind =>
    rcases releaseReservation_find hformed hfind now outcome id with hsame | ⟨r, hr, hnext⟩
    · exact .inl hsame
    · exact .inr (.inl ⟨r, now, hr, hnext⟩)

instance (scene : Scene) : Std.Refl (Edits scene) := ⟨fun _ => .refl⟩
instance (scene : Scene) : IsTrans Registry (Edits scene) := ⟨fun _ _ _ => .trans⟩

end InterClusterFabric.RuntimeEdits
