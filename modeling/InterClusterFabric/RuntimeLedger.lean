import InterClusterFabric.RuntimeGrantRequests

/-! What a grant has set aside. The two sides of a grant are reserved one after the other, and what the first one was
charged is not given back when the second one fails. -/
namespace InterClusterFabric.RuntimeLedger
open CoreStatus CoreIds CoreTime ModelRecords ModelRegistry ModelRegistryLaws EngineSoundness RuntimeFencing
open RuntimeCoordinator RuntimeRun RuntimeSteps RuntimeStart RuntimeGrantRequests StoreMutation StoreDurable
open LibraryOrdMap LibraryProgram

/-- What the endpoint at some place of a cluster has reserved. -/
def reservedAt (registry : Registry) (cluster : ClusterId) (place : ℕ) : ℕ :=
  ((registry.clusters[cluster]?.bind fun record => record.endpoints[place]?).map fun endpoint =>
    endpoint.reserved.value.toNat).getD 0

/-- An unreleased reservation of the grant stands under the key. -/
def OpenFor (registry : Registry) (grant : GrantId) (key : ReservationId) : Prop :=
  ∃ reservation, registry.reservations[key]? = some reservation ∧ reservation.grant = grant ∧
    reservation.released = false

/-- The counters of all endpoints and the unreleased reservations of a grant, ordered by what is set aside. -/
def ledger (registry : Registry) (grant : GrantId) : (ClusterId → ℕ → ℕ) × Set ReservationId :=
  (reservedAt registry, { key | OpenFor registry grant key })

/-- No counter is larger than before, and no unreleased reservation of the grant is new. -/
structure NothingReserved (registry next : Registry) (grant : GrantId) : Prop where
  counters : ∀ cluster place, reservedAt next cluster place ≤ reservedAt registry cluster place
  reservations : ∀ key, OpenFor next grant key → OpenFor registry grant key

section Ledger

variable {registry next : Registry} {grant : GrantId}

lemma nothingReserved_iff : NothingReserved registry next grant ↔ ledger next grant ≤ ledger registry grant :=
  ⟨fun h => ⟨h.counters, h.reservations⟩, fun h => ⟨h.1, h.2⟩⟩

lemma ledger_congr (hclusters : next.clusters = registry.clusters)
    (hreservations : next.reservations = registry.reservations) : ledger next grant = ledger registry grant := by
  unfold ledger reservedAt OpenFor
  rw [hclusters, hreservations]

/-- A reservation of the grant is set aside under its key. -/
lemma ledger_store {reservation : ReservationRecord} (hgrant : reservation.grant = grant)
    (hopen : reservation.released = false) : ledger registry grant ≤ ledger (store registry (.reservation reservation)) grant := by
  refine ⟨le_rfl, fun key hkey => ?_⟩
  obtain ⟨old, hold, hof, hunreleased⟩ := hkey
  by_cases hsame : key = reservation.id
  · exact ⟨reservation, by rw [hsame]; exact Std.ExtTreeMap.getElem?_insert_self, hgrant, hopen⟩
  · refine ⟨old, ?_, hof, hunreleased⟩
    rw [← hold]
    simp [store, getElem?_insert_eq, hsame]

/-- It is no new one if it takes the place of another one of the grant. -/
lemma ledger_store_le {reservation : ReservationRecord} (hgrant : reservation.grant = grant)
    (hopen : reservation.released = false) :
    ledger (store registry (.reservation reservation)) grant ≤ ledger registry grant ↔
      OpenFor registry grant reservation.id := by
  constructor
  · intro h
    exact h.2 ⟨reservation, Std.ExtTreeMap.getElem?_insert_self, hgrant, hopen⟩
  · intro h
    refine ⟨le_rfl, fun key hkey => ?_⟩
    obtain ⟨found, hfound, hof, hunreleased⟩ := hkey
    by_cases hsame : key = reservation.id
    · rw [hsame]
      exact h
    · refine ⟨found, ?_, hof, hunreleased⟩
      rw [← hfound]
      simp [store, getElem?_insert_eq, hsame]

end Ledger

/-! One endpoint. -/

/-- An update of an endpoint changes the record at one place. -/
lemma updateEndpoint_place {id : EndpointId} {f : EndpointRecord → EndpointRecord} {endpoints : List EndpointRecord}
    {endpoint : EndpointRecord} (h : endpoints.find? (fun e => e.id = id) = some endpoint) :
    ∃ place : ℕ, endpoints[place]? = some endpoint ∧
      ∀ i : ℕ, (updateEndpoint id f endpoints)[i]? = if i = place then some (f endpoint) else endpoints[i]? := by
  induction endpoints with
  | nil => cases h
  | cons first rest ih =>
    by_cases hid : first.id = id
    · rw [List.find?_cons_of_pos (by simpa using hid), Option.some.injEq] at h
      subst h
      refine ⟨0, rfl, fun i => ?_⟩
      rw [updateEndpoint, if_pos hid]
      cases i <;> simp
    · rw [List.find?_cons_of_neg (by simpa using hid)] at h
      obtain ⟨place, hplace, hupdate⟩ := ih h
      refine ⟨place + 1, hplace, fun i => ?_⟩
      rw [updateEndpoint, if_neg hid]
      cases i with
      | zero => simp
      | succ i => simp [hupdate i]

/-- The endpoint of the party, if it can take the capacity of the grant. -/
def room (registry : Registry) (grant : GrantRecord) (party : PartyRef) : Option (ClusterRecord × EndpointRecord) :=
  match registry.clusters[party.cluster]? with
  | none => none
  | some cluster =>
    match cluster.endpoints.find? fun endpoint => endpoint.id = party.endpoint with
    | none => none
    | some endpoint =>
      if endpoint.capacity.value < grant.capacity.value ∨
          endpoint.capacity.value - grant.capacity.value < endpoint.reserved.value then none
      else some (cluster, endpoint)

/-- The cluster with the capacity of the grant counted at the endpoint of the party. -/
def countedCluster (grant : GrantRecord) (party : PartyRef) (cluster : ClusterRecord) (endpoint : EndpointRecord) :
    ClusterRecord :=
  { cluster with
    endpoints := updateEndpoint party.endpoint
      (fun e => { e with reserved := ⟨endpoint.reserved.value + grant.capacity.value⟩ }) cluster.endpoints }

section Room

variable {registry : Registry} {grant : GrantRecord} {party : PartyRef} {cluster : ClusterRecord}
  {endpoint : EndpointRecord}

lemma room_eq_some : room registry grant party = some (cluster, endpoint) ↔
    registry.clusters[party.cluster]? = some cluster ∧
      cluster.endpoints.find? (fun endpoint => endpoint.id = party.endpoint) = some endpoint ∧
      ¬(endpoint.capacity.value < grant.capacity.value ∨
        endpoint.capacity.value - grant.capacity.value < endpoint.reserved.value) := by
  unfold room
  split
  · simp_all
  rename_i c hc
  split
  · rename_i hnone
    simp only [hc, Option.some.injEq, reduceCtorEq, false_iff]
    rintro ⟨rfl, hsome, -⟩
    rw [hnone] at hsome
    cases hsome
  rename_i e he
  split
  · rename_i hfull
    simp only [hc, Option.some.injEq, reduceCtorEq, false_iff]
    rintro ⟨rfl, hsome, hroom⟩
    rw [he, Option.some.injEq] at hsome
    subst hsome
    exact hroom hfull
  · rename_i hfits
    simp only [hc, Option.some.injEq, Prod.mk.injEq]
    constructor
    · rintro ⟨rfl, rfl⟩
      exact ⟨rfl, he, hfits⟩
    · rintro ⟨rfl, hsome, -⟩
      rw [he, Option.some.injEq] at hsome
      exact ⟨rfl, hsome⟩

/-- The counter does not wrap around. -/
lemma counted_toNat (h : ¬(endpoint.capacity.value < grant.capacity.value ∨
      endpoint.capacity.value - grant.capacity.value < endpoint.reserved.value)) :
    (endpoint.reserved.value + grant.capacity.value).toNat =
      endpoint.reserved.value.toNat + grant.capacity.value.toNat := by
  obtain ⟨hfits, hrest⟩ := not_or.mp h
  rw [UInt64.not_lt, UInt64.le_iff_toNat_le] at hfits hrest
  rw [UInt64.toNat_sub_of_le _ _ (UInt64.le_iff_toNat_le.mpr hfits)] at hrest
  have hcapacity := endpoint.capacity.value.toNat_lt
  rw [UInt64.toNat_add, Nat.mod_eq_of_lt (by omega)]

/-- The counters once the grant is counted. -/
lemma reservedAt_counted (h : room registry grant party = some (cluster, endpoint)) :
    ∃ place, reservedAt registry party.cluster place = endpoint.reserved.value.toNat ∧
      ∀ c i, reservedAt (setCluster registry party.cluster (countedCluster grant party cluster endpoint)) c i =
        reservedAt registry c i + if c = party.cluster ∧ i = place then grant.capacity.value.toNat else 0 := by
  obtain ⟨hcluster, hendpoint, hfits⟩ := room_eq_some.mp h
  obtain ⟨place, hplace, hupdate⟩ := updateEndpoint_place
    (f := fun e => { e with reserved := ⟨endpoint.reserved.value + grant.capacity.value⟩ }) hendpoint
  have hbefore : reservedAt registry party.cluster place = endpoint.reserved.value.toNat := by
    simp [reservedAt, hcluster, hplace]
  refine ⟨place, hbefore, fun c i => ?_⟩
  by_cases hc : c = party.cluster
  · subst hc
    by_cases hi : i = place
    · subst hi
      rw [hbefore, if_pos ⟨rfl, rfl⟩, ← counted_toNat hfits]
      simp [reservedAt, setCluster, countedCluster, hupdate]
    · simp [reservedAt, setCluster, countedCluster, hupdate, hi, hcluster]
  · have hother : (setCluster registry party.cluster (countedCluster grant party cluster endpoint)).clusters[c]? =
        registry.clusters[c]? := by
      simp [setCluster, getElem?_insert_eq, hc]
    simp [reservedAt, hother, hc]

lemma ledger_counted (h : room registry grant party = some (cluster, endpoint)) (id : GrantId) :
    ledger registry id ≤ ledger (setCluster registry party.cluster (countedCluster grant party cluster endpoint)) id := by
  obtain ⟨place, -, hcounted⟩ := reservedAt_counted h
  refine ⟨fun c i => ?_, le_rfl⟩
  simp [ledger, hcounted]

/-- Nothing is counted for a grant of no capacity. -/
lemma ledger_counted_le (h : room registry grant party = some (cluster, endpoint)) (id : GrantId) :
    ledger (setCluster registry party.cluster (countedCluster grant party cluster endpoint)) id ≤ ledger registry id ↔
      grant.capacity.value = 0 := by
  obtain ⟨place, -, hcounted⟩ := reservedAt_counted h
  rw [← UInt64.toNat_inj, UInt64.toNat_zero]
  constructor
  · intro hle
    have hplace : reservedAt (setCluster registry party.cluster (countedCluster grant party cluster endpoint))
        party.cluster place ≤ reservedAt registry party.cluster place := hle.1 party.cluster place
    rw [hcounted, if_pos ⟨rfl, rfl⟩] at hplace
    omega
  · intro hzero
    refine ⟨fun c i => ?_, le_rfl⟩
    simp [ledger, hcounted, hzero]

end Room

/-! One side. -/

/-- The log takes the record and the disk writes it. -/
def Logs (s : Coordinator) (mutation : Mutation) : Prop :=
  s.store.wal.admits .mutation (encodeMutation mutation) = .ok () ∧ (s.moments s.index).append = none

def logged (s : Coordinator) (mutation : Mutation) : Coordinator := (appendMutation mutation s).2

/-- The table takes the reservation. -/
def Stores (s : Coordinator) (reservation : ReservationRecord) : Prop :=
  (Record.reservation reservation).Sound ∧ Room s.registry (.reservation reservation.id)

section Side

variable (grant : GrantRecord) (now : Timestamp) (party : PartyRef) (s : Coordinator) (cluster : ClusterRecord)
  (endpoint : EndpointRecord)

/-- The grant is counted at the endpoint, and an identity has been drawn for the reservation. -/
def counted : Coordinator :=
  { s with
    registry := setCluster s.registry party.cluster (countedCluster grant party cluster endpoint)
    index := s.index + 1 }

def reservationOf : ReservationRecord where
  id := ⟨stamp (s.moments s.index).entropy⟩
  grant := grant.id
  endpoint := endpoint.id
  cluster := cluster.id
  amount := grant.capacity
  createdAt := now
  provenance := derived now

/-- The reservation stands in the table. -/
def entered : Coordinator :=
  { counted grant party s cluster endpoint with
    registry := store (counted grant party s cluster endpoint).registry
      (.reservation (reservationOf grant now s cluster endpoint)) }

/-- Both records of the side are in the log. -/
def settled : Coordinator :=
  logged (logged (entered grant now party s cluster endpoint)
    (.reservationPut (reservationOf grant now s cluster endpoint)))
    (.clusterPut (countedCluster grant party cluster endpoint))

/-- Everything the side needs is there. -/
structure Through : Prop where
  room : room s.registry grant party = some (cluster, endpoint)
  stores : Stores (counted grant party s cluster endpoint) (reservationOf grant now s cluster endpoint)
  logsReservation : Logs (entered grant now party s cluster endpoint)
    (.reservationPut (reservationOf grant now s cluster endpoint))
  logsCluster : Logs (logged (entered grant now party s cluster endpoint)
    (.reservationPut (reservationOf grant now s cluster endpoint)))
    (.clusterPut (countedCluster grant party cluster endpoint))

end Side

section ReserveSide

variable {grant : GrantRecord} {now : Timestamp} {party : PartyRef} {s : Coordinator} {cluster : ClusterRecord}
  {endpoint : EndpointRecord}

lemma logged_registry (s : Coordinator) (mutation : Mutation) : (logged s mutation).registry = s.registry := by
  obtain ⟨store, files, failures, hframe⟩ := appendMutation_frame mutation s
  rw [logged, hframe]

lemma settled_registry : (settled grant now party s cluster endpoint).registry =
    (entered grant now party s cluster endpoint).registry := by
  rw [settled, logged_registry, logged_registry]

lemma append_run {mutation : Mutation} (h : Logs s mutation) : appendMutation mutation s = (.ok (), logged s mutation) :=
  Prod.ext (appendMutation_ok_iff.mpr h) rfl

lemma append_fails {mutation : Mutation} (h : ¬Logs s mutation) :
    ∃ status, appendMutation mutation s = (.error status, logged s mutation) := by
  cases hrun : appendMutation mutation s with
  | mk result s' =>
    cases result with
    | ok u => exact absurd (appendMutation_ok_iff.mp (by rw [hrun])) h
    | error status => exact ⟨status, by rw [logged, hrun]⟩

/-- A party without room is refused before anything is touched. -/
lemma reserveSide_refused (now : Timestamp) (h : room s.registry grant party = none) :
    ∃ status, reserveSide grant now party s = (.error status, s) := by
  unfold reserveSide
  rw [Program.get_bind_run]
  unfold room at h
  split at h
  · rename_i hnone
    rw [hnone]
    exact ⟨_, rfl⟩
  rename_i cluster hcluster
  rw [hcluster]
  dsimp only
  split at h
  · rename_i hnone
    rw [hnone]
    exact ⟨_, rfl⟩
  rename_i endpoint hendpoint
  rw [hendpoint]
  dsimp only
  split at h
  · rename_i hfull
    rw [if_pos hfull]
    exact ⟨_, rfl⟩
  · cases h

/-- With room, the counter is raised, and then the reservation is stored and logged. -/
lemma reserveSide_run (h : room s.registry grant party = some (cluster, endpoint)) :
    reserveSide grant now party s = (do
      onRegistry (Program.update fun registry =>
        registry.putReservation (reservationOf grant now s cluster endpoint))
      appendMutation (.reservationPut (reservationOf grant now s cluster endpoint))
      appendMutation (.clusterPut (countedCluster grant party cluster endpoint)) : Op Unit)
        (counted grant party s cluster endpoint) := by
  obtain ⟨hcluster, hendpoint, hfits⟩ := room_eq_some.mp h
  unfold reserveSide
  rw [Program.get_bind_run, hcluster]
  dsimp only
  rw [hendpoint]
  dsimp only
  rw [if_neg hfits]
  rfl

lemma reserveSide_unstored (h : room s.registry grant party = some (cluster, endpoint))
    (hstores : ¬Stores (counted grant party s cluster endpoint) (reservationOf grant now s cluster endpoint)) :
    ∃ status, reserveSide grant now party s = (.error status, counted grant party s cluster endpoint) := by
  cases hput : (counted grant party s cluster endpoint).registry.putReservation
      (reservationOf grant now s cluster endpoint) with
  | ok next =>
    obtain ⟨hsound, hroom, -⟩ := putReservation_eq_ok.mp hput
    exact absurd ⟨hsound, hroom⟩ hstores
  | error status =>
    have hrun : onRegistry (Program.update fun registry =>
        registry.putReservation (reservationOf grant now s cluster endpoint)) (counted grant party s cluster endpoint) =
          (.error status, counted grant party s cluster endpoint) := by
      simp only [onRegistry, Program.focus, Program.update, hput]
    rw [reserveSide_run h, Program.bind_error hrun]
    exact ⟨status, rfl⟩

/-- Once it is stored, the reservation stays whatever the log does. -/
lemma reserveSide_stored (h : room s.registry grant party = some (cluster, endpoint))
    (hstores : Stores (counted grant party s cluster endpoint) (reservationOf grant now s cluster endpoint)) :
    (Through grant now party s cluster endpoint ∧
      reserveSide grant now party s = (.ok (), settled grant now party s cluster endpoint)) ∨
    (¬Through grant now party s cluster endpoint ∧
      ∃ status s', reserveSide grant now party s = (.error status, s') ∧
        s'.registry = (entered grant now party s cluster endpoint).registry) := by
  have hput : onRegistry (Program.update fun registry =>
      registry.putReservation (reservationOf grant now s cluster endpoint)) (counted grant party s cluster endpoint) =
        (.ok (), entered grant now party s cluster endpoint) := by
    have hok := putReservation_eq_ok.mpr ⟨hstores.1, hstores.2, rfl⟩
    simp only [onRegistry, Program.focus, Program.update, hok]
    rfl
  rw [reserveSide_run h, Program.bind_ok hput]
  by_cases hreservation : Logs (entered grant now party s cluster endpoint)
      (.reservationPut (reservationOf grant now s cluster endpoint))
  · rw [Program.bind_ok (append_run hreservation)]
    by_cases hcluster : Logs (logged (entered grant now party s cluster endpoint)
        (.reservationPut (reservationOf grant now s cluster endpoint)))
        (.clusterPut (countedCluster grant party cluster endpoint))
    · exact .inl ⟨⟨h, hstores, hreservation, hcluster⟩, append_run hcluster⟩
    · obtain ⟨status, hrun⟩ := append_fails hcluster
      exact .inr ⟨fun hthrough => hcluster hthrough.logsCluster, status, _, hrun, settled_registry⟩
  · obtain ⟨status, hrun⟩ := append_fails hreservation
    rw [Program.bind_error hrun]
    exact .inr ⟨fun hthrough => hreservation hthrough.logsReservation, status, _, rfl, logged_registry _ _⟩

lemma entered_grants : (entered grant now party s cluster endpoint).registry.grants = s.registry.grants := rfl

lemma ledger_entered (h : room s.registry grant party = some (cluster, endpoint)) :
    ledger s.registry grant.id ≤ ledger (entered grant now party s cluster endpoint).registry grant.id :=
  (ledger_counted h grant.id).trans (ledger_store rfl rfl)

/-- Storing a side leaves the ledger alone only for a grant of no capacity, in the place of another reservation. -/
lemma ledger_entered_le (h : room s.registry grant party = some (cluster, endpoint)) :
    ledger (entered grant now party s cluster endpoint).registry grant.id ≤ ledger s.registry grant.id ↔
      grant.capacity.value = 0 ∧ OpenFor s.registry grant.id (reservationOf grant now s cluster endpoint).id := by
  have hcounted := ledger_counted h grant.id
  have hstored : ledger (counted grant party s cluster endpoint).registry grant.id ≤
      ledger (entered grant now party s cluster endpoint).registry grant.id := ledger_store rfl rfl
  have hreplaces : ledger (entered grant now party s cluster endpoint).registry grant.id ≤
      ledger (counted grant party s cluster endpoint).registry grant.id ↔
        OpenFor s.registry grant.id (reservationOf grant now s cluster endpoint).id := ledger_store_le rfl rfl
  constructor
  · intro hle
    exact ⟨(ledger_counted_le h grant.id).mp (hstored.trans hle), hreplaces.mp (hle.trans hcounted)⟩
  · rintro ⟨hzero, hopen⟩
    exact (hreplaces.mpr hopen).trans ((ledger_counted_le h grant.id).mpr hzero)

end ReserveSide

/-! The parties, one after the other. -/

/-- Every party takes the grant: there is room at its endpoint and in the table, and both records are logged. -/
def GoesThrough (grant : GrantRecord) (now : Timestamp) : List PartyRef → Coordinator → Prop
  | [], _ => True
  | party :: rest, s => ∃ cluster endpoint, Through grant now party s cluster endpoint ∧
    GoesThrough grant now rest (settled grant now party s cluster endpoint)

/-- The first party has no room, or what is done for it changes nothing: a grant of no capacity, whose reservation the
table refuses or which takes the place of another one of the grant. -/
def Harmless (grant : GrantRecord) (now : Timestamp) : List PartyRef → Coordinator → Prop
  | [], _ => True
  | party :: rest, s => ∀ cluster endpoint, room s.registry grant party = some (cluster, endpoint) →
    grant.capacity.value = 0 ∧
      (Stores (counted grant party s cluster endpoint) (reservationOf grant now s cluster endpoint) →
        OpenFor s.registry grant.id (reservationOf grant now s cluster endpoint).id ∧
          (Through grant now party s cluster endpoint →
            Harmless grant now rest (settled grant now party s cluster endpoint)))

/-- How the loop over the parties ends. -/
structure Fails (grant : GrantRecord) (now : Timestamp) (parties : List PartyRef) (s s' : Coordinator) : Prop where
  grants : s'.registry.grants = s.registry.grants
  grows : ledger s.registry grant.id ≤ ledger s'.registry grant.id
  harmless : ledger s'.registry grant.id ≤ ledger s.registry grant.id ↔ Harmless grant now parties s

section Parties

variable {grant : GrantRecord} {now : Timestamp} {party : PartyRef} {rest : List PartyRef} {s : Coordinator}
  {cluster : ClusterRecord} {endpoint : EndpointRecord}

lemma goesThrough_cons (h : room s.registry grant party = some (cluster, endpoint)) :
    GoesThrough grant now (party :: rest) s ↔ Through grant now party s cluster endpoint ∧
      GoesThrough grant now rest (settled grant now party s cluster endpoint) := by
  constructor
  · rintro ⟨c, e, hthrough, hrest⟩
    have hsame := hthrough.room
    rw [h, Option.some.injEq, Prod.mk.injEq] at hsame
    obtain ⟨rfl, rfl⟩ := hsame
    exact ⟨hthrough, hrest⟩
  · exact fun hgoes => ⟨cluster, endpoint, hgoes⟩

lemma harmless_cons (h : room s.registry grant party = some (cluster, endpoint)) :
    Harmless grant now (party :: rest) s ↔ grant.capacity.value = 0 ∧
      (Stores (counted grant party s cluster endpoint) (reservationOf grant now s cluster endpoint) →
        OpenFor s.registry grant.id (reservationOf grant now s cluster endpoint).id ∧
          (Through grant now party s cluster endpoint →
            Harmless grant now rest (settled grant now party s cluster endpoint))) := by
  constructor
  · exact fun hharmless => hharmless cluster endpoint h
  · intro hharmless c e hsame
    rw [h, Option.some.injEq, Prod.mk.injEq] at hsame
    obtain ⟨rfl, rfl⟩ := hsame
    exact hharmless

lemma fails_refused (now : Timestamp) (rest : List PartyRef) (h : room s.registry grant party = none) :
    ¬GoesThrough grant now (party :: rest) s ∧ Fails grant now (party :: rest) s s := by
  constructor
  · rintro ⟨cluster, endpoint, hthrough, -⟩
    rw [hthrough.room] at h
    cases h
  · refine ⟨rfl, le_rfl, iff_of_true le_rfl fun cluster endpoint hsome => ?_⟩
    rw [hsome] at h
    cases h

lemma fails_unstored (h : room s.registry grant party = some (cluster, endpoint))
    (hstores : ¬Stores (counted grant party s cluster endpoint) (reservationOf grant now s cluster endpoint)) :
    Fails grant now (party :: rest) s (counted grant party s cluster endpoint) := by
  refine ⟨rfl, ledger_counted h _, ?_⟩
  rw [harmless_cons h, and_iff_left fun hstored => absurd hstored hstores]
  exact ledger_counted_le h _

lemma fails_unlogged {s' : Coordinator} (h : room s.registry grant party = some (cluster, endpoint))
    (hstores : Stores (counted grant party s cluster endpoint) (reservationOf grant now s cluster endpoint))
    (hthrough : ¬Through grant now party s cluster endpoint)
    (hregistry : s'.registry = (entered grant now party s cluster endpoint).registry) :
    Fails grant now (party :: rest) s s' := by
  refine ⟨by rw [hregistry, entered_grants], by rw [hregistry]; exact ledger_entered h, ?_⟩
  rw [hregistry, ledger_entered_le h, harmless_cons h]
  exact and_congr_right fun _ => ⟨fun hopen _ => ⟨hopen, fun hdone => absurd hdone hthrough⟩, fun hopen => (hopen hstores).1⟩

/-- A party that was charged stays charged when a later one fails. -/
lemma fails_later {s' : Coordinator} (hthrough : Through grant now party s cluster endpoint)
    (hlater : Fails grant now rest (settled grant now party s cluster endpoint) s') :
    Fails grant now (party :: rest) s s' := by
  have hentered : ledger s.registry grant.id ≤ ledger (entered grant now party s cluster endpoint).registry grant.id :=
    ledger_entered hthrough.room
  have hgrows := hlater.grows
  have hiff := hlater.harmless
  rw [settled_registry] at hgrows hiff
  refine ⟨by rw [hlater.grants, settled_registry, entered_grants], hentered.trans hgrows, ?_⟩
  rw [harmless_cons hthrough.room]
  constructor
  · intro hle
    obtain ⟨hzero, hopen⟩ := (ledger_entered_le hthrough.room).mp (hgrows.trans hle)
    exact ⟨hzero, fun _ => ⟨hopen, fun _ => hiff.mp (hle.trans hentered)⟩⟩
  · rintro ⟨hzero, hrest⟩
    obtain ⟨hopen, hrest⟩ := hrest hthrough.stores
    exact (hiff.mpr (hrest hthrough)).trans ((ledger_entered_le hthrough.room).mpr ⟨hzero, hopen⟩)

/-- The loop goes through exactly if every party takes the grant. -/
lemma reserveParties_run (grant : GrantRecord) (now : Timestamp) (parties : List PartyRef) (s : Coordinator) :
    (GoesThrough grant now parties s ∧ ∃ s', Program.forEach parties (reserveSide grant now) s = (.ok (), s')) ∨
    (¬GoesThrough grant now parties s ∧ ∃ status s',
      Program.forEach parties (reserveSide grant now) s = (.error status, s') ∧ Fails grant now parties s s') := by
  induction parties generalizing s with
  | nil => exact .inl ⟨trivial, s, rfl⟩
  | cons party rest ih =>
    cases hroom : room s.registry grant party with
    | none =>
      obtain ⟨status, hrun⟩ := reserveSide_refused now hroom
      obtain ⟨hstops, hfails⟩ := fails_refused now rest hroom
      exact .inr ⟨hstops, status, s, Program.bind_error hrun, hfails⟩
    | some found =>
      obtain ⟨cluster, endpoint⟩ := found
      by_cases hstores : Stores (counted grant party s cluster endpoint) (reservationOf grant now s cluster endpoint)
      · rcases reserveSide_stored hroom hstores with ⟨hthrough, hrun⟩ | ⟨hthrough, status, s', hrun, hregistry⟩
        · have hloop : Program.forEach (party :: rest) (reserveSide grant now) s =
              Program.forEach rest (reserveSide grant now) (settled grant now party s cluster endpoint) :=
            Program.bind_ok hrun
          rw [hloop]
          rcases ih (settled grant now party s cluster endpoint) with ⟨hrest, hdone⟩ | ⟨hrest, status, s', hlast, hlater⟩
          · exact .inl ⟨(goesThrough_cons hroom).mpr ⟨hthrough, hrest⟩, hdone⟩
          · refine .inr ⟨fun h => hrest ?_, status, s', hlast, fails_later hthrough hlater⟩
            exact ((goesThrough_cons hroom).mp h).2
        · refine .inr ⟨fun h => hthrough ?_, status, s', Program.bind_error hrun,
            fails_unlogged hroom hstores hthrough hregistry⟩
          exact ((goesThrough_cons hroom).mp h).1
      · obtain ⟨status, hrun⟩ := reserveSide_unstored hroom hstores
        refine .inr ⟨fun h => hstores ?_, status, _, Program.bind_error hrun, fails_unstored hroom hstores⟩
        exact ((goesThrough_cons hroom).mp h).1.stores

end Parties

/-! The grant. -/

/-- The grant is committed. -/
def CommittedIn (s : Coordinator) (id : GrantId) : Prop :=
  s.registry.grants[id]?.map GrantRecord.state = some .committed

/-- The counters, the reservations and the states of the grants stay. -/
structure Level (s s' : Coordinator) : Prop where
  clusters : s'.registry.clusters = s.registry.clusters
  reservations : s'.registry.reservations = s.registry.reservations
  grants : s'.registry.grants = s.registry.grants

instance : Std.Refl Level := ⟨fun _ => ⟨rfl, rfl, rfl⟩⟩

instance : IsTrans Coordinator Level := ⟨fun _ _ _ h h' =>
  ⟨h'.clusters.trans h.clusters, h'.reservations.trans h.reservations, h'.grants.trans h.grants⟩⟩

/-- The counters and the reservations stay, and the grant is not committed. -/
structure Abandons (id : GrantId) (s s' : Coordinator) : Prop where
  clusters : s'.registry.clusters = s.registry.clusters
  reservations : s'.registry.reservations = s.registry.reservations
  grant : CommittedIn s' id → CommittedIn s id

instance (id : GrantId) : Std.Refl (Abandons id) := ⟨fun _ => ⟨rfl, rfl, fun h => h⟩⟩

instance (id : GrantId) : IsTrans Coordinator (Abandons id) := ⟨fun _ _ _ h h' =>
  ⟨h'.clusters.trans h.clusters, h'.reservations.trans h.reservations, fun hlast => h.grant (h'.grant hlast)⟩⟩

section Grant

variable {id : GrantId} {s : Coordinator}

lemma Level.abandons {s' : Coordinator} (h : Level s s') : Abandons id s s' :=
  ⟨h.clusters, h.reservations, by rw [CommittedIn, CommittedIn, h.grants]; exact fun hin => hin⟩

lemma appendMutation_level (mutation : Mutation) : Steps Level (appendMutation mutation) s fun _ _ => True := by
  obtain ⟨store, files, failures, hframe⟩ := appendMutation_frame mutation s
  refine ⟨?_, fun _ _ => trivial⟩
  rw [hframe]
  exact ⟨rfl, rfl, rfl⟩

lemma appendAudit_level (actor action : String) (subject : Bytes) (outcome : Outcome) (detail : Bytes) :
    Steps Level (RuntimeCoordinator.appendAudit actor action subject outcome detail) s fun _ _ => True := by
  obtain ⟨audit, haudit⟩ := (appendAudit_records (s := s) actor action subject outcome detail).related.trail
  exact ⟨⟨by rw [haudit], by rw [haudit], by rw [haudit]⟩, fun _ _ => trivial⟩

lemma dropPending_level (id : GrantId) : Steps Level (dropPending id) s fun _ _ => True :=
  Steps.modify ⟨rfl, rfl, rfl⟩ trivial

lemma abandons_of_level {α : Type} {p : Op α} (h : Steps Level p s fun _ _ => True) :
    Steps (Abandons id) p s fun _ _ => True :=
  (h.weaken fun _ hlevel => hlevel.abandons).mono fun _ _ _ => trivial

/-- An abort gives nothing back. -/
lemma writeGrant_abandons {grant : GrantRecord} (hstate : grant.state ≠ .committed) :
    Steps (Abandons id) (writeGrant id grant) s fun _ _ => True := by
  refine Steps.modify ⟨rfl, rfl, fun hcommitted => ?_⟩ trivial
  simp [CommittedIn, setGrant, hstate] at hcommitted

lemma abortGrant_abandons (reason : Bytes) : Steps (Abandons id) (abortGrant id reason) s fun _ _ => True := by
  refine Steps.get_bind ?_
  split
  · exact abandons_of_level (dropPending_level id)
  split
  · exact abandons_of_level (dropPending_level id)
  refine (writeGrant_abandons GrantState.noConfusion).bind fun _ _ _ _ => ?_
  refine (abandons_of_level (appendMutation_level _)).attempt.bind fun persisted _ _ _ => ?_
  refine (abandons_of_level (dropPending_level id)).bind fun _ _ _ _ => ?_
  refine Steps.bind (Steps.ofResult (Q := fun _ _ => True) fun _ _ => trivial) fun _ _ _ _ => ?_
  exact abandons_of_level (appendAudit_level _ _ _ _ _)

/-- The grant is up for reservation: not in use yet, acknowledged by both sides. -/
structure Due (s : Coordinator) (id : GrantId) (grant : GrantRecord) : Prop where
  registered : s.registry.grants[id]? = some grant
  unused : ¬(grant.state = .committed ∨ grant.state = .active)
  acknowledged : grant.bothAcknowledged = true

variable {grant : GrantRecord} {now : Timestamp}

lemma finaliseGrant_due (h : Due s id grant) : finaliseGrant id now s = (do
    match ← (reserveCapacity grant now).attempt with
    | .error status =>
      abortGrant id status.message
      throw status
    | .ok () =>
      let committed := committedGrant now grant
      writeGrant id committed
      appendMutation (.grantPut committed)
      modify fun s => { s with commits := s.commits + 1 }
      dropPending id
      RuntimeCoordinator.appendAudit "coordinator" "commit-grant" id.toText .ok
        (ascii "both cluster agents acknowledged the same attempt") : Op Unit) s := by
  have hacks : ¬grant.bothAcknowledged = false := by simp [h.acknowledged]
  unfold finaliseGrant
  rw [Program.get_bind_run, h.registered]
  dsimp only
  exact congrFun ((if_neg h.unused).trans (if_neg hacks)) s

/-- A grant that cannot be reserved is aborted, with everything that was reserved for it. -/
lemma finaliseGrant_fails {status : Status} {s₁ : Coordinator} (h : Due s id grant)
    (hrun : reserveCapacity grant now s = (.error status, s₁)) (hgrants : s₁.registry.grants = s.registry.grants) :
    ¬CommittedIn (finaliseGrant id now s).2 id ∧
      ∀ owner, ledger (finaliseGrant id now s).2.registry owner = ledger s₁.registry owner := by
  have hattempt : (reserveCapacity grant now).attempt s = (.ok (.error status), s₁) := by
    simp only [Program.attempt, hrun]
  have habandons : Abandons id s₁ (finaliseGrant id now s).2 := by
    rw [finaliseGrant_due h, Program.bind_ok hattempt]
    exact ((abortGrant_abandons _).bind (Q := fun _ _ => True) fun _ _ _ _ => Steps.throw).related
  refine ⟨fun hcommitted => h.unused ?_, fun owner => ledger_congr habandons.clusters habandons.reservations⟩
  have hbefore := habandons.grant hcommitted
  rw [CommittedIn, hgrants, h.registered, Option.map_some, Option.some.injEq] at hbefore
  exact .inl hbefore

/-- A grant that has been reserved is committed, whatever the log does. -/
lemma finaliseGrant_commits {s₁ : Coordinator} (h : Due s id grant)
    (hrun : reserveCapacity grant now s = (.ok (), s₁)) : CommittedIn (finaliseGrant id now s).2 id := by
  have hattempt : (reserveCapacity grant now).attempt s = (.ok (.ok ()), s₁) := by
    simp only [Program.attempt, hrun]
  have hwrite : writeGrant id (committedGrant now grant) s₁ =
      (.ok (), { s₁ with registry := setGrant s₁.registry id (committedGrant now grant) }) := rfl
  rw [finaliseGrant_due h, Program.bind_ok hattempt]
  dsimp only
  rw [Program.bind_ok hwrite]
  have hlevel : Steps Level (do
      appendMutation (.grantPut (committedGrant now grant))
      modify fun s => { s with commits := s.commits + 1 }
      dropPending id
      RuntimeCoordinator.appendAudit "coordinator" "commit-grant" id.toText .ok
        (ascii "both cluster agents acknowledged the same attempt") : Op Unit)
      { s₁ with registry := setGrant s₁.registry id (committedGrant now grant) } fun _ _ => True := by
    refine (appendMutation_level _).bind fun _ _ _ _ => Steps.modify_bind ⟨rfl, rfl, rfl⟩ ?_
    exact (dropPending_level id).bind fun _ _ _ _ => appendAudit_level _ _ _ _ _
  rw [CommittedIn, hlevel.related.grants]
  simp [setGrant, committedGrant]

end Grant

/-- If the grant does not come out committed, nothing has been set aside for it. -/
def LeavesNothing (s : Coordinator) (id : GrantId) (now : Timestamp) : Prop :=
  ¬CommittedIn (finaliseGrant id now s).2 id → ∀ grant, s.registry.grants[id]? = some grant →
    NothingReserved s.registry (finaliseGrant id now s).2.registry grant.id

/-- Both parties take the grant, or the first one is not touched. -/
def AllOrNothing (s : Coordinator) (id : GrantId) (now : Timestamp) : Prop :=
  ∀ grant contract, Due s id grant → s.registry.contracts[grant.contract]? = some contract →
    GoesThrough grant now [contract.parties.first, contract.parties.second] s ∨
      Harmless grant now [contract.parties.first, contract.parties.second] s

section Grant

variable {id : GrantId} {s : Coordinator} {grant : GrantRecord} {now : Timestamp}

/-- A grant that is not up for reservation is left as it is. -/
lemma finaliseGrant_undue (hfind : s.registry.grants[id]? = some grant) (h : ¬Due s id grant) :
    (finaliseGrant id now s).2 = s := by
  unfold finaliseGrant
  rw [Program.get_bind_run, hfind]
  dsimp only
  split
  · rfl
  rename_i hunused
  split
  · rfl
  rename_i hacks
  exact absurd ⟨hfind, hunused, by simpa using hacks⟩ h

/-- What is left of a reservation that fails. -/
lemma leavesNothing_of_fails {status : Status} {s₁ : Coordinator} (h : Due s id grant)
    (hrun : reserveCapacity grant now s = (.error status, s₁)) (hgrants : s₁.registry.grants = s.registry.grants) :
    LeavesNothing s id now ↔ ledger s₁.registry grant.id ≤ ledger s.registry grant.id := by
  obtain ⟨huncommitted, hledger⟩ := finaliseGrant_fails h hrun hgrants
  rw [← hledger, ← nothingReserved_iff]
  constructor
  · exact fun hleaves => hleaves huncommitted grant h.registered
  · intro hnothing _ g hg
    rw [h.registered, Option.some.injEq] at hg
    rw [← hg]
    exact hnothing

lemma allOrNothing_of_due {contract : ContractRecord} (h : Due s id grant)
    (hcontract : s.registry.contracts[grant.contract]? = some contract) :
    AllOrNothing s id now ↔ GoesThrough grant now [contract.parties.first, contract.parties.second] s ∨
      Harmless grant now [contract.parties.first, contract.parties.second] s := by
  constructor
  · exact fun hall => hall grant contract h hcontract
  · intro hall g k hdue hk
    have hg := hdue.registered
    rw [h.registered, Option.some.injEq] at hg
    subst hg
    rw [hcontract, Option.some.injEq] at hk
    rw [← hk]
    exact hall

end Grant

def acknowledgedGrant : GrantRecord := { sampleGrant with state := .prepared }

def shortCluster : ClusterRecord :=
  { sampleCluster .second with endpoints := [{ sampleEndpoint .second with capacity := ⟨1⟩ }] }

def sampleShort : Coordinator :=
  { sampleProcess with
    registry := { sampleRegistry with
      clusters := sampleRegistry.clusters.insert shortCluster.id shortCluster
      grants := sampleRegistry.grants.insert acknowledgedGrant.id acknowledgedGrant } }

end InterClusterFabric.RuntimeLedger
