import InterClusterFabric.ModelCanonicalReads
import InterClusterFabric.ModelRegistry

/-! The registry as one keyed table of records. A checked insertion is an update at the record's own
key; the table of a well-formed registry is rebuilt by inserting its records one after another,
which is what decoding does. -/
namespace InterClusterFabric.ModelRegistryLaws
open CoreStatus CoreIds CoreTime CoreHash CoreBytes ModelRecords ModelCanonical ModelCanonicalReads
open ModelRegistry LibraryChecked LibraryOrdMap LibraryReader

inductive Key
  | cluster (id : ClusterId)
  | link (id : EdgeId)
  | path (id : PathId)
  | policy (id : Bytes)
  | contract (id : ContractId)
  | grant (id : GrantId)
  | reservation (id : ReservationId)
deriving DecidableEq

inductive Record
  | cluster (record : ClusterRecord)
  | link (record : LinkRecord)
  | path (record : PathRecord)
  | policy (record : PolicyRule)
  | contract (record : ContractRecord)
  | grant (record : GrantRecord)
  | reservation (record : ReservationRecord)
deriving DecidableEq

/-- The parts of an endpoint list that `putCluster` checks, on the list it stores. -/
structure EndpointsSound (owner : ClusterId) (endpoints : List EndpointRecord) : Prop where
  bounded : endpoints.length ≤ Limits.maxEndpointsPerCluster
  owned : ∀ e ∈ endpoints, e.cluster = owner
  covered : ∀ e ∈ endpoints, e.reserved ≤ e.capacity
  ordered : EndpointsOrdered endpoints

namespace Record

def key : Record → Key
  | cluster r => .cluster r.id
  | link r => .link r.id
  | path r => .path r.id
  | policy r => .policy r.id
  | contract r => .contract r.id
  | grant r => .grant r.id
  | reservation r => .reservation r.id

/-- A record as its container holds it: it passes the checks of its own insertion. -/
def Sound : Record → Prop
  | cluster r => r.id.value ≠ [] ∧ r.domain.value ≠ [] ∧ EndpointsSound r.id r.endpoints
  | link r => r.id.value ≠ [] ∧ r.a.value ≠ [] ∧ r.b.value ≠ [] ∧ r.a ≠ r.b ∧ r.reserved ≤ r.capacity
  | path r =>
    r.id.value ≠ [] ∧ r.a.value ≠ [] ∧ r.b.value ≠ [] ∧ r.hops ≠ [] ∧ r.hops.length ≤ Limits.maxPathHops
  | policy r => r.id ≠ [] ∧ r.id.length ≤ Limits.maxNameLength ∧ r.owner.value ≠ []
  | contract r =>
    r.id.isNil = false ∧ r.parties.first.cluster.value ≠ [] ∧ r.parties.second.cluster.value ≠ [] ∧
      r.parties.first.cluster ≠ r.parties.second.cluster ∧ r.capacity.value ≤ Limits.maxCapacity
  | grant r => r.id.isNil = false ∧ r.contract.isNil = false ∧ r.capacity.value ≤ Limits.maxCapacity
  | reservation r => r.id.isNil = false

/-- The record is within the bounds of its own decoder. -/
def Storable : Record → Prop
  | cluster r => ClusterStorable r
  | link r => LinkStorable r
  | path r => PathStorable r
  | policy r => PolicyStorable r
  | contract r => ContractStorable r
  | grant r => GrantStorable r
  | reservation r => ReservationStorable r

/-- No text of the record is as long as the range of its length prefix. -/
def Sized : Record → Prop
  | contract r => ContractSized r
  | grant r => ModelCanonicalReads.Sized r.note
  | _ => True

end Record

/-- The record stored under a key. -/
def find (registry : Registry) : Key → Option Record
  | .cluster id => registry.clusters[id]?.map .cluster
  | .link id => registry.links[id]?.map .link
  | .path id => registry.paths[id]?.map .path
  | .policy id => registry.policies[id]?.map .policy
  | .contract id => registry.contracts[id]?.map .contract
  | .grant id => registry.grants[id]?.map .grant
  | .reservation id => registry.reservations[id]?.map .reservation

/-- The record put at its own key, whatever stood there. -/
def store (registry : Registry) : Record → Registry
  | .cluster r => { registry with clusters := registry.clusters.insert r.id r }
  | .link r => { registry with links := registry.links.insert r.id r }
  | .path r => { registry with paths := registry.paths.insert r.id r }
  | .policy r => { registry with policies := registry.policies.insert r.id r }
  | .contract r => { registry with contracts := registry.contracts.insert r.id r }
  | .grant r => { registry with grants := registry.grants.insert r.id r }
  | .reservation r => { registry with reservations := registry.reservations.insert r.id r }

/-- No container is past its bound. -/
structure Bounded (registry : Registry) : Prop where
  clusters : registry.clusters.size ≤ Limits.maxClusters
  links : registry.links.size ≤ Limits.maxEdges
  paths : registry.paths.size ≤ Limits.maxPaths
  policies : registry.policies.size ≤ Limits.maxPolicyRules
  contracts : registry.contracts.size ≤ Limits.maxContracts
  grants : registry.grants.size ≤ Limits.maxGrants
  reservations : registry.reservations.size ≤ Limits.maxReservations

/-- A record can be inserted without passing the bound of its container. -/
def Room (registry : Registry) : Key → Prop
  | .cluster id => id ∈ registry.clusters ∨ registry.clusters.size < Limits.maxClusters
  | .link id => id ∈ registry.links ∨ registry.links.size < Limits.maxEdges
  | .path id => id ∈ registry.paths ∨ registry.paths.size < Limits.maxPaths
  | .policy id => id ∈ registry.policies ∨ registry.policies.size < Limits.maxPolicyRules
  | .contract id => id ∈ registry.contracts ∨ registry.contracts.size < Limits.maxContracts
  | .grant id => id ∈ registry.grants ∨ registry.grants.size < Limits.maxGrants
  | .reservation id => id ∈ registry.reservations ∨ registry.reservations.size < Limits.maxReservations

/-! The table. -/

lemma find_store (registry : Registry) (record : Record) (key : Key) :
    find (store registry record) key = if key = record.key then some record else find registry key := by
  cases record <;> cases key <;>
    simp only [find, store, Record.key, getElem?_insert_eq, Key.cluster.injEq, Key.link.injEq, Key.path.injEq,
      Key.policy.injEq, Key.contract.injEq, Key.grant.injEq, Key.reservation.injEq, reduceCtorEq, if_false] <;>
    split <;> rfl

@[simp] lemma store_audit (registry : Registry) (record : Record) :
    (store registry record).audit = registry.audit := by
  cases record <;> rfl

lemma mem_iff_isSome {κ β : Type} [Ord κ] [Std.TransOrd κ] {m : OrdMap κ β} {k : κ} :
    k ∈ m ↔ m[k]?.isSome = true :=
  Std.ExtTreeMap.mem_iff_isSome_getElem?

/-- Registries with the same table and trail are equal. -/
lemma ext_find {r r' : Registry} (hfind : ∀ key, find r key = find r' key) (haudit : r.audit = r'.audit) :
    r = r' := by
  have lower {α : Type} {f : α → Record} (hf : Function.Injective f) {a b : Option α}
      (h : a.map f = b.map f) : a = b := Option.map_injective hf h
  obtain ⟨c, l, p, q, k, g, v, a⟩ := r
  obtain ⟨c', l', p', q', k', g', v', a'⟩ := r'
  have hc : c = c' := Std.ExtTreeMap.ext_getElem? fun id =>
    lower (fun _ _ => Record.cluster.inj) (hfind (.cluster id))
  have hl : l = l' := Std.ExtTreeMap.ext_getElem? fun id =>
    lower (fun _ _ => Record.link.inj) (hfind (.link id))
  have hp : p = p' := Std.ExtTreeMap.ext_getElem? fun id =>
    lower (fun _ _ => Record.path.inj) (hfind (.path id))
  have hq : q = q' := Std.ExtTreeMap.ext_getElem? fun id =>
    lower (fun _ _ => Record.policy.inj) (hfind (.policy id))
  have hk : k = k' := Std.ExtTreeMap.ext_getElem? fun id =>
    lower (fun _ _ => Record.contract.inj) (hfind (.contract id))
  have hg : g = g' := Std.ExtTreeMap.ext_getElem? fun id =>
    lower (fun _ _ => Record.grant.inj) (hfind (.grant id))
  have hv : v = v' := Std.ExtTreeMap.ext_getElem? fun id =>
    lower (fun _ _ => Record.reservation.inj) (hfind (.reservation id))
  subst hc hl hp hq hk hg hv haudit
  rfl

/-! Checked insertion. -/

lemma name_isEmpty_iff {tag : NameTag} {name : Name tag} : name.isEmpty = true ↔ name.value = [] :=
  List.isEmpty_iff

lemma insertBounded_eq_ok {κ β : Type} [Ord κ] [Std.TransOrd κ] {m m' : OrdMap κ β} {key : κ} {record : β}
    {bound : ℕ} {what : String} :
    insertBounded m key record bound what = .ok m' ↔
      (key ∈ m ∨ m.size < bound) ∧ m' = m.insert key record := by
  unfold insertBounded
  split
  · rename_i h
    simp only [reduceCtorEq, false_iff, not_and]
    rintro (hmem | hsize)
    · exact absurd hmem h.1
    · omega
  · rename_i h
    simp only [Except.ok.injEq]
    constructor
    · rintro rfl
      refine ⟨?_, rfl⟩
      by_contra hno
      obtain ⟨hmem, hsize⟩ := not_or.mp hno
      exact h ⟨hmem, not_lt.mp hsize⟩
    · rintro ⟨_, rfl⟩
      rfl

lemma checkEndpoints_eq_ok {owner : ClusterId} {endpoints : List EndpointRecord} {u : Unit} :
    checkEndpoints owner endpoints = .ok u ↔
      (∀ e ∈ endpoints, e.cluster = owner) ∧ ∀ e ∈ endpoints, e.reserved ≤ e.capacity := by
  induction endpoints with
  | nil => simp [checkEndpoints]
  | cons e rest ih =>
    simp only [checkEndpoints, bind_eq_ok, rejectIf_eq_ok, exists_const, ih, ne_eq, not_not,
      List.forall_mem_cons]
    have hle : ¬e.capacity < e.reserved ↔ e.reserved ≤ e.capacity := by
      rw [Counter.lt_iff, Counter.le_iff, not_lt]
    rw [hle]
    tauto

/-- What `putCluster` stores. -/
def sorted (record : ClusterRecord) : ClusterRecord :=
  { record with endpoints := sortEndpoints record.endpoints }

lemma sorted_of_sound {record : ClusterRecord} (h : (Record.cluster record).Sound) : sorted record = record := by
  rw [sorted, sortEndpoints_of_ordered h.2.2.ordered]

lemma putCluster_eq_ok {registry r' : Registry} {record : ClusterRecord} :
    registry.putCluster record = .ok r' ↔
      (Record.cluster (sorted record)).Sound ∧ Room registry (.cluster record.id) ∧
        r' = store registry (.cluster (sorted record)) := by
  simp only [Registry.putCluster, bind_eq_ok, rejectIf_eq_ok, exists_const, checkEndpoints_eq_ok,
    insertBounded_eq_ok, pure, Except.pure, Except.ok.injEq, name_isEmpty_iff, Bool.not_eq_true, not_lt]
  constructor
  · rintro ⟨hid, hdomain, hlength, hchecks, hdup, clusters, ⟨hroom, rfl⟩, rfl⟩
    refine ⟨⟨hid, hdomain, ⟨?_, hchecks.1, hchecks.2, ?_⟩⟩, hroom, rfl⟩
    · rwa [sorted, sortEndpoints_length]
    · exact ordered_of_sorted (sortEndpoints_pairwise _) hdup
  · rintro ⟨⟨hid, hdomain, hsound⟩, hroom, rfl⟩
    refine ⟨hid, hdomain, ?_, ⟨hsound.owned, hsound.covered⟩,
      hasAdjacentDuplicate_of_ordered hsound.ordered, _, ⟨hroom, rfl⟩, rfl⟩
    have := hsound.bounded
    rwa [sorted, sortEndpoints_length] at this

lemma putLink_eq_ok {registry r' : Registry} {record : LinkRecord} :
    registry.putLink record = .ok r' ↔
      (Record.link record).Sound ∧ Room registry (.link record.id) ∧ r' = store registry (.link record) := by
  simp only [Registry.putLink, bind_eq_ok, rejectIf_eq_ok, exists_const, insertBounded_eq_ok, pure,
    Except.pure, Except.ok.injEq, name_isEmpty_iff, not_or, Counter.lt_iff, not_lt, Record.Sound, Counter.le_iff]
  constructor
  · rintro ⟨⟨h1, h2, h3⟩, h4, h5, links, ⟨hroom, rfl⟩, rfl⟩
    exact ⟨⟨h1, h2, h3, h4, h5⟩, hroom, rfl⟩
  · rintro ⟨⟨h1, h2, h3, h4, h5⟩, hroom, rfl⟩
    exact ⟨⟨h1, h2, h3⟩, h4, h5, _, ⟨hroom, rfl⟩, rfl⟩

lemma putPath_eq_ok {registry r' : Registry} {record : PathRecord} :
    registry.putPath record = .ok r' ↔
      (Record.path record).Sound ∧ Room registry (.path record.id) ∧ r' = store registry (.path record) := by
  simp only [Registry.putPath, bind_eq_ok, rejectIf_eq_ok, exists_const, insertBounded_eq_ok, pure,
    Except.pure, Except.ok.injEq, name_isEmpty_iff, not_or, not_lt, Record.Sound]
  constructor
  · rintro ⟨⟨h1, h2, h3⟩, h4, h5, paths, ⟨hroom, rfl⟩, rfl⟩
    exact ⟨⟨h1, h2, h3, h4, h5⟩, hroom, rfl⟩
  · rintro ⟨⟨h1, h2, h3, h4, h5⟩, hroom, rfl⟩
    exact ⟨⟨h1, h2, h3⟩, h4, h5, _, ⟨hroom, rfl⟩, rfl⟩

lemma putPolicy_eq_ok {registry r' : Registry} {record : PolicyRule} :
    registry.putPolicy record = .ok r' ↔
      (Record.policy record).Sound ∧ Room registry (.policy record.id) ∧
        r' = store registry (.policy record) := by
  simp only [Registry.putPolicy, bind_eq_ok, rejectIf_eq_ok, exists_const, insertBounded_eq_ok, pure,
    Except.pure, Except.ok.injEq, name_isEmpty_iff, not_or, not_lt, Record.Sound]
  constructor
  · rintro ⟨⟨h1, h2⟩, h3, policies, ⟨hroom, rfl⟩, rfl⟩
    exact ⟨⟨h1, h2, h3⟩, hroom, rfl⟩
  · rintro ⟨⟨h1, h2, h3⟩, hroom, rfl⟩
    exact ⟨⟨h1, h2⟩, h3, _, ⟨hroom, rfl⟩, rfl⟩

lemma putContract_eq_ok {registry r' : Registry} {record : ContractRecord} :
    registry.putContract record = .ok r' ↔
      (Record.contract record).Sound ∧ Room registry (.contract record.id) ∧
        r' = store registry (.contract record) := by
  simp only [Registry.putContract, bind_eq_ok, rejectIf_eq_ok, exists_const, insertBounded_eq_ok, pure,
    Except.pure, Except.ok.injEq, name_isEmpty_iff, not_or, UInt64.not_lt, Bool.not_eq_true, Record.Sound]
  constructor
  · rintro ⟨h1, ⟨h2, h3⟩, h4, h5, contracts, ⟨hroom, rfl⟩, rfl⟩
    exact ⟨⟨h1, h2, h3, h4, h5⟩, hroom, rfl⟩
  · rintro ⟨⟨h1, h2, h3, h4, h5⟩, hroom, rfl⟩
    exact ⟨h1, ⟨h2, h3⟩, h4, h5, _, ⟨hroom, rfl⟩, rfl⟩

lemma putGrant_eq_ok {registry r' : Registry} {record : GrantRecord} :
    registry.putGrant record = .ok r' ↔
      (Record.grant record).Sound ∧ Room registry (.grant record.id) ∧ r' = store registry (.grant record) := by
  simp only [Registry.putGrant, bind_eq_ok, rejectIf_eq_ok, exists_const, insertBounded_eq_ok, pure,
    Except.pure, Except.ok.injEq, UInt64.not_lt, Bool.not_eq_true, Record.Sound]
  constructor
  · rintro ⟨h1, h2, h3, grants, ⟨hroom, rfl⟩, rfl⟩
    exact ⟨⟨h1, h2, h3⟩, hroom, rfl⟩
  · rintro ⟨⟨h1, h2, h3⟩, hroom, rfl⟩
    exact ⟨h1, h2, h3, _, ⟨hroom, rfl⟩, rfl⟩

lemma putReservation_eq_ok {registry r' : Registry} {record : ReservationRecord} :
    registry.putReservation record = .ok r' ↔
      (Record.reservation record).Sound ∧ Room registry (.reservation record.id) ∧
        r' = store registry (.reservation record) := by
  simp only [Registry.putReservation, bind_eq_ok, rejectIf_eq_ok, exists_const, insertBounded_eq_ok, pure,
    Except.pure, Except.ok.injEq, Bool.not_eq_true, Record.Sound]
  constructor
  · rintro ⟨h1, reservations, ⟨hroom, rfl⟩, rfl⟩
    exact ⟨h1, hroom, rfl⟩
  · rintro ⟨h1, hroom, rfl⟩
    exact ⟨h1, _, ⟨hroom, rfl⟩, rfl⟩

/-! Well-formed registries. -/

/-- The sequence numbers of the trail are consecutive. -/
def Contiguous : List AuditRecord → Prop
  | [] => True
  | [_] => True
  | a :: b :: rest => b.sequence = Registry.nextSequence a ∧ Contiguous (b :: rest)

/-- What every registry built by checked insertion satisfies. -/
structure WellFormed (registry : Registry) : Prop where
  sound : ∀ key record, find registry key = some record → record.key = key ∧ record.Sound
  bounded : Bounded registry
  contiguous : Contiguous registry.audit
  trail : registry.audit.length ≤ Limits.maxAuditRecords

/-- Every record is within the bounds of its decoder. -/
structure RegistryStorable (registry : Registry) : Prop where
  records : ∀ key record, find registry key = some record → record.Storable
  audit : ∀ record ∈ registry.audit, AuditStorable record

structure RegistrySized (registry : Registry) : Prop where
  records : ∀ key record, find registry key = some record → record.Sized
  audit : ∀ record ∈ registry.audit, AuditSized record

lemma store_bounded {registry : Registry} {record : Record} (h : Bounded registry)
    (hroom : Room registry record.key) : Bounded (store registry record) := by
  have grow {κ β : Type} [Ord κ] [Std.TransOrd κ] {m : OrdMap κ β} {k : κ} {v : β} {bound : ℕ}
      (hm : m.size ≤ bound) (hk : k ∈ m ∨ m.size < bound) : (m.insert k v).size ≤ bound := by
    rw [Std.ExtTreeMap.size_insert]
    split
    · exact hm
    · rename_i hno
      have := hk.resolve_left hno
      omega
  cases record with
  | cluster r => exact { h with clusters := grow h.clusters hroom }
  | link r => exact { h with links := grow h.links hroom }
  | path r => exact { h with paths := grow h.paths hroom }
  | policy r => exact { h with policies := grow h.policies hroom }
  | contract r => exact { h with contracts := grow h.contracts hroom }
  | grant r => exact { h with grants := grow h.grants hroom }
  | reservation r => exact { h with reservations := grow h.reservations hroom }

lemma store_wellFormed {registry : Registry} {record : Record} (h : WellFormed registry)
    (hsound : record.Sound) (hroom : Room registry record.key) : WellFormed (store registry record) where
  sound key r hfind := by
    rw [find_store] at hfind
    split at hfind
    · rename_i hkey
      cases hfind
      exact ⟨hkey.symm, hsound⟩
    · exact h.sound key r hfind
  bounded := store_bounded h.bounded hroom
  contiguous := by rw [store_audit]; exact h.contiguous
  trail := by rw [store_audit]; exact h.trail

lemma putCluster_wellFormed {registry stored : Registry} {record : ClusterRecord} (h : WellFormed registry)
    (hok : registry.putCluster record = .ok stored) : WellFormed stored := by
  obtain ⟨hsound, hroom, rfl⟩ := putCluster_eq_ok.mp hok
  exact store_wellFormed h hsound hroom

lemma empty_wellFormed : WellFormed {} where
  sound key r h := by cases key <;> simp [find] at h
  bounded := by constructor <;> exact Nat.zero_le _
  contiguous := trivial
  trail := Nat.zero_le _

lemma contiguous_append {trail : List AuditRecord} {record : AuditRecord} :
    Contiguous (trail ++ [record]) ↔
      Contiguous trail ∧ ∀ last ∈ trail.getLast?, record.sequence = Registry.nextSequence last := by
  induction trail with
  | nil => simp [Contiguous]
  | cons a rest ih =>
    cases rest with
    | nil => simp [Contiguous]
    | cons b rest =>
      simp only [List.cons_append] at ih ⊢
      simp only [Contiguous, ih, List.getLast?_cons_cons, and_assoc]

lemma contiguous_of_append {front rest : List AuditRecord} (h : Contiguous (front ++ rest)) :
    Contiguous front := by
  induction front with
  | nil => trivial
  | cons a front ih =>
    cases front with
    | nil => trivial
    | cons b front => exact ⟨h.1, ih h.2⟩

lemma appendAudit_eq_ok {registry r' : Registry} {record : AuditRecord} :
    registry.appendAudit record = .ok r' ↔
      registry.audit.length < Limits.maxAuditRecords ∧
      (∀ last ∈ registry.audit.getLast?, record.sequence = Registry.nextSequence last) ∧
      r' = { registry with audit := registry.audit ++ [record] } := by
  simp only [Registry.appendAudit, bind_eq_ok, rejectIf_eq_ok, exists_const, pure, Except.pure,
    Except.ok.injEq, not_le, not_exists, not_and, ne_eq, not_not, eq_comm (a := r')]

lemma appendAudit_wellFormed {registry r' : Registry} {record : AuditRecord} (h : WellFormed registry)
    (hok : registry.appendAudit record = .ok r') : WellFormed r' := by
  obtain ⟨hlength, hnext, rfl⟩ := appendAudit_eq_ok.mp hok
  exact
    { sound := h.sound
      bounded := ⟨h.bounded.clusters, h.bounded.links, h.bounded.paths, h.bounded.policies,
        h.bounded.contracts, h.bounded.grants, h.bounded.reservations⟩
      contiguous := contiguous_append.mpr ⟨h.contiguous, hnext⟩
      trail := by simpa using hlength }

/-! Decoding a registry. -/

section Sections

variable {κ β : Type} [Ord κ] [Std.TransOrd κ] [Std.LawfulEqOrd κ] [DecidableEq κ]

/-- One container of the registry: how it is read and replaced, and its checked insertion. -/
structure Section (κ β : Type) [Ord κ] [Std.TransOrd κ] where
  get : Registry → OrdMap κ β
  set : Registry → OrdMap κ β → Registry
  key : β → κ
  put : Registry → β → Result Registry
  bound : ℕ
  good : β → Prop
  get_set : ∀ r m, get (set r m) = m
  set_set : ∀ r m m', set (set r m) m' = set r m'
  put_eq : ∀ r v, good v → (get r).size < bound → put r v = .ok (set r ((get r).insert (key v) v))

omit [Std.LawfulEqOrd κ] [DecidableEq κ] in
lemma putAll_section (s : Section κ β) {l : List β} (hgood : ∀ v ∈ l, s.good v) (r : Registry)
    (m : OrdMap κ β) (hsize : m.size + l.length ≤ s.bound) :
    putAll s.put (s.set r m) l = .ok (s.set r (insertAll s.key m l)) := by
  induction l generalizing m with
  | nil => rfl
  | cons v rest ih =>
    simp only [List.length_cons] at hsize
    have hput : s.put (s.set r m) v = .ok (s.set r (m.insert (s.key v) v)) := by
      rw [s.put_eq _ _ (hgood v (by simp)) (by rw [s.get_set]; omega), s.get_set, s.set_set]
    rw [putAll_cons_ok hput, ih (fun w hw => hgood w (by simp [hw]))]
    · rfl
    · have := size_insert_le_succ m (s.key v) v
      omega

/-- A section written by `encodeAll` is read back into an empty container. -/
lemma section_reads (s : Section κ β) {item : ByteReader β} {encode : β → Bytes} {ok : β → Prop}
    {m : OrdMap κ β} {r : Registry} (hitem : ∀ v, s.good v → Reads item (encode v) (ok v) v)
    (hgood : ∀ v ∈ values m, s.good v) (hkeyed : ∀ k v, m[k]? = some v → s.key v = k)
    (hsize : m.size ≤ s.bound) (hbound : s.bound < 2 ^ 32) (hempty : s.set r ∅ = r) :
    Reads (decodeSection item s.put s.bound r) (encodeAll encode m) (∀ v ∈ values m, ok v) (s.set r m) := by
  have hput : putAll s.put r (values m) = .ok (s.set r m) := by
    have := putAll_section s hgood r ∅ (by rw [values_length]; simpa using hsize)
    rwa [hempty, insertAll_values s.key hkeyed] at this
  have hfold := readFold_reads (values m) r (s.set r m) (fun v hv => hitem v (hgood v hv)) hput
  rw [values_length] at hfold
  exact ((count_reads s.bound (lt_of_le_of_lt hsize hbound)).bind hfold).congr (and_iff_right hsize)

end Sections

def clusterSection : Section ClusterId ClusterRecord where
  get r := r.clusters
  set r m := { r with clusters := m }
  key := ClusterRecord.id
  put := Registry.putCluster
  bound := Limits.maxClusters
  good v := (Record.cluster v).Sound
  get_set _ _ := rfl
  set_set _ _ _ := rfl
  put_eq r v hgood hsize := by
    refine putCluster_eq_ok.mpr ⟨?_, .inr hsize, ?_⟩
    · rwa [sorted_of_sound hgood]
    · rw [sorted_of_sound hgood]
      rfl

def linkSection : Section EdgeId LinkRecord where
  get r := r.links
  set r m := { r with links := m }
  key := LinkRecord.id
  put := Registry.putLink
  bound := Limits.maxEdges
  good v := (Record.link v).Sound
  get_set _ _ := rfl
  set_set _ _ _ := rfl
  put_eq _ _ hgood hsize := putLink_eq_ok.mpr ⟨hgood, .inr hsize, rfl⟩

def pathSection : Section PathId PathRecord where
  get r := r.paths
  set r m := { r with paths := m }
  key := PathRecord.id
  put := Registry.putPath
  bound := Limits.maxPaths
  good v := (Record.path v).Sound
  get_set _ _ := rfl
  set_set _ _ _ := rfl
  put_eq _ _ hgood hsize := putPath_eq_ok.mpr ⟨hgood, .inr hsize, rfl⟩

def policySection : Section Bytes PolicyRule where
  get r := r.policies
  set r m := { r with policies := m }
  key := PolicyRule.id
  put := Registry.putPolicy
  bound := Limits.maxPolicyRules
  good v := (Record.policy v).Sound
  get_set _ _ := rfl
  set_set _ _ _ := rfl
  put_eq _ _ hgood hsize := putPolicy_eq_ok.mpr ⟨hgood, .inr hsize, rfl⟩

def contractSection : Section ContractId ContractRecord where
  get r := r.contracts
  set r m := { r with contracts := m }
  key := ContractRecord.id
  put := Registry.putContract
  bound := Limits.maxContracts
  good v := (Record.contract v).Sound ∧ (Record.contract v).Sized
  get_set _ _ := rfl
  set_set _ _ _ := rfl
  put_eq _ _ hgood hsize := putContract_eq_ok.mpr ⟨hgood.1, .inr hsize, rfl⟩

def grantSection : Section GrantId GrantRecord where
  get r := r.grants
  set r m := { r with grants := m }
  key := GrantRecord.id
  put := Registry.putGrant
  bound := Limits.maxGrants
  good v := (Record.grant v).Sound ∧ (Record.grant v).Sized
  get_set _ _ := rfl
  set_set _ _ _ := rfl
  put_eq _ _ hgood hsize := putGrant_eq_ok.mpr ⟨hgood.1, .inr hsize, rfl⟩

def reservationSection : Section ReservationId ReservationRecord where
  get r := r.reservations
  set r m := { r with reservations := m }
  key := ReservationRecord.id
  put := Registry.putReservation
  bound := Limits.maxReservations
  good v := (Record.reservation v).Sound
  get_set _ _ := rfl
  set_set _ _ _ := rfl
  put_eq _ _ hgood hsize := putReservation_eq_ok.mpr ⟨hgood, .inr hsize, rfl⟩

/-- The trail is read back record by record, each one continuing the last. -/
lemma putAll_appendAudit {registry : Registry} {trail : List AuditRecord}
    (hcontiguous : Contiguous (registry.audit ++ trail))
    (hlength : (registry.audit ++ trail).length ≤ Limits.maxAuditRecords) :
    putAll Registry.appendAudit registry trail =
      .ok { registry with audit := registry.audit ++ trail } := by
  induction trail generalizing registry with
  | nil => simp
  | cons record rest ih =>
    have hsplit : registry.audit ++ record :: rest = (registry.audit ++ [record]) ++ rest := by simp
    rw [hsplit] at hcontiguous hlength
    have hprefix : Contiguous (registry.audit ++ [record]) := contiguous_of_append hcontiguous
    have hput : registry.appendAudit record =
        .ok { registry with audit := registry.audit ++ [record] } := by
      refine appendAudit_eq_ok.mpr ⟨?_, (contiguous_append.mp hprefix).2, rfl⟩
      simp only [List.length_append, List.length_cons, List.length_nil] at hlength
      omega
    rw [putAll_cons_ok hput, ih hcontiguous hlength, hsplit]

/-- A property of the records of a registry, container by container. -/
lemma forall_records {registry : Registry} {P : Record → Prop} :
    (∀ key record, find registry key = some record → P record) ↔
      (∀ v ∈ values registry.clusters, P (.cluster v)) ∧ (∀ v ∈ values registry.links, P (.link v)) ∧
      (∀ v ∈ values registry.paths, P (.path v)) ∧ (∀ v ∈ values registry.policies, P (.policy v)) ∧
      (∀ v ∈ values registry.contracts, P (.contract v)) ∧ (∀ v ∈ values registry.grants, P (.grant v)) ∧
      ∀ v ∈ values registry.reservations, P (.reservation v) := by
  simp only [mem_values]
  constructor
  · intro h
    refine ⟨?_, ?_, ?_, ?_, ?_, ?_, ?_⟩
    · rintro v ⟨id, hv⟩
      exact h (.cluster id) _ (by simp [find, hv])
    · rintro v ⟨id, hv⟩
      exact h (.link id) _ (by simp [find, hv])
    · rintro v ⟨id, hv⟩
      exact h (.path id) _ (by simp [find, hv])
    · rintro v ⟨id, hv⟩
      exact h (.policy id) _ (by simp [find, hv])
    · rintro v ⟨id, hv⟩
      exact h (.contract id) _ (by simp [find, hv])
    · rintro v ⟨id, hv⟩
      exact h (.grant id) _ (by simp [find, hv])
    · rintro v ⟨id, hv⟩
      exact h (.reservation id) _ (by simp [find, hv])
  · rintro ⟨hc, hl, hp, hq, hk, hg, hv⟩ key record hfind
    cases key <;>
      · simp only [find, Option.map_eq_some_iff] at hfind
        obtain ⟨v, hlookup, rfl⟩ := hfind
        first
          | exact hc _ ⟨_, hlookup⟩
          | exact hl _ ⟨_, hlookup⟩
          | exact hp _ ⟨_, hlookup⟩
          | exact hq _ ⟨_, hlookup⟩
          | exact hk _ ⟨_, hlookup⟩
          | exact hg _ ⟨_, hlookup⟩
          | exact hv _ ⟨_, hlookup⟩

section RoundTrip

variable {registry : Registry} (hformed : WellFormed registry) (hsized : RegistrySized registry)
include hformed

lemma find_cluster {id : ClusterId} {v : ClusterRecord} (h : registry.clusters[id]? = some v) :
    v.id = id ∧ (Record.cluster v).Sound := by
  obtain ⟨hkey, hsound⟩ := hformed.sound (.cluster id) (.cluster v) (by simp [find, h])
  exact ⟨Key.cluster.inj hkey, hsound⟩

lemma find_link {id : EdgeId} {v : LinkRecord} (h : registry.links[id]? = some v) :
    v.id = id ∧ (Record.link v).Sound := by
  obtain ⟨hkey, hsound⟩ := hformed.sound (.link id) (.link v) (by simp [find, h])
  exact ⟨Key.link.inj hkey, hsound⟩

lemma find_path {id : PathId} {v : PathRecord} (h : registry.paths[id]? = some v) :
    v.id = id ∧ (Record.path v).Sound := by
  obtain ⟨hkey, hsound⟩ := hformed.sound (.path id) (.path v) (by simp [find, h])
  exact ⟨Key.path.inj hkey, hsound⟩

lemma find_policy {id : Bytes} {v : PolicyRule} (h : registry.policies[id]? = some v) :
    v.id = id ∧ (Record.policy v).Sound := by
  obtain ⟨hkey, hsound⟩ := hformed.sound (.policy id) (.policy v) (by simp [find, h])
  exact ⟨Key.policy.inj hkey, hsound⟩

lemma find_contract {id : ContractId} {v : ContractRecord} (h : registry.contracts[id]? = some v) :
    v.id = id ∧ (Record.contract v).Sound := by
  obtain ⟨hkey, hsound⟩ := hformed.sound (.contract id) (.contract v) (by simp [find, h])
  exact ⟨Key.contract.inj hkey, hsound⟩

lemma find_grant {id : GrantId} {v : GrantRecord} (h : registry.grants[id]? = some v) :
    v.id = id ∧ (Record.grant v).Sound := by
  obtain ⟨hkey, hsound⟩ := hformed.sound (.grant id) (.grant v) (by simp [find, h])
  exact ⟨Key.grant.inj hkey, hsound⟩

lemma find_reservation {id : ReservationId} {v : ReservationRecord}
    (h : registry.reservations[id]? = some v) : v.id = id ∧ (Record.reservation v).Sound := by
  obtain ⟨hkey, hsound⟩ := hformed.sound (.reservation id) (.reservation v) (by simp [find, h])
  exact ⟨Key.reservation.inj hkey, hsound⟩

include hsized

/-- The sections of an encoding are read back, each into the registry read so far. -/
lemma sections_read :
    Reads decodeSections (encodeRegistry registry true) (RegistryStorable registry) registry := by
  obtain ⟨clusters, links, paths, policies, contracts, grants, reservations, audit⟩ := registry
  have hbounded := hformed.bounded
  have hsizes := (forall_records (P := Record.Sized)).mp hsized.records
  have hsounds := (forall_records (P := Record.Sound)).mp fun key r h => (hformed.sound key r h).2
  have hclusters := section_reads clusterSection (m := clusters) (r := {})
    (fun v hv => cluster_reads hv.2.2.ordered (lt_of_le_of_lt hv.2.2.bounded (by decide)))
    hsounds.1 (fun k v h => (find_cluster hformed h).1) hbounded.clusters (by decide) rfl
  have hlinks := section_reads linkSection (m := links) (r := { clusters }) (fun v _ => link_reads v)
    hsounds.2.1 (fun k v h => (find_link hformed h).1) hbounded.links (by decide) rfl
  have hpaths := section_reads pathSection (m := paths) (r := { clusters, links })
    (fun v hv => path_reads (lt_of_le_of_lt hv.2.2.2.2 (by decide)))
    hsounds.2.2.1 (fun k v h => (find_path hformed h).1) hbounded.paths (by decide) rfl
  have hpolicies := section_reads policySection (m := policies) (r := { clusters, links, paths })
    (fun v hv => policy_reads (lt_of_le_of_lt hv.2.1 (by decide)))
    hsounds.2.2.2.1 (fun k v h => (find_policy hformed h).1) hbounded.policies (by decide) rfl
  have hcontracts := section_reads contractSection (m := contracts)
    (r := { clusters, links, paths, policies }) (fun v hv => contract_reads hv.2)
    (fun v hv => ⟨hsounds.2.2.2.2.1 v hv, hsizes.2.2.2.2.1 v hv⟩)
    (fun k v h => (find_contract hformed h).1) hbounded.contracts (by decide) rfl
  have hgrants := section_reads grantSection (m := grants)
    (r := { clusters, links, paths, policies, contracts }) (fun v hv => grant_reads hv.2)
    (fun v hv => ⟨hsounds.2.2.2.2.2.1 v hv, hsizes.2.2.2.2.2.1 v hv⟩)
    (fun k v h => (find_grant hformed h).1) hbounded.grants (by decide) rfl
  have hreservations := section_reads reservationSection (m := reservations)
    (r := { clusters, links, paths, policies, contracts, grants }) (fun v _ => reservation_reads v)
    hsounds.2.2.2.2.2.2 (fun k v h => (find_reservation hformed h).1) hbounded.reservations (by decide) rfl
  have htrail : putAll Registry.appendAudit
      { clusters, links, paths, policies, contracts, grants, reservations } audit =
      .ok { clusters, links, paths, policies, contracts, grants, reservations, audit } :=
    putAll_appendAudit (by simpa using hformed.contiguous) (by simpa using hformed.trail)
  have hfold := readFold_reads audit _ _ (fun r hr => audit_reads (hsized.audit r hr)) htrail
  have haudit := (count_reads Limits.maxAuditRecords (lt_of_le_of_lt hformed.trail (by decide))).bind
    (f := fun n => readFold decodeAudit Registry.appendAudit n
      { clusters, links, paths, policies, contracts, grants, reservations }) hfold
  refine Reads.cast ((u16_reads (n := modelEncodingVersion) (by decide)).bind <| (Reads.check _ _).bind <| (boolean_reads true).bind <|
    hclusters.bind <| hlinks.bind <| hpaths.bind <| hpolicies.bind <| hcontracts.bind <| hgrants.bind <|
    hreservations.bind haudit) ?_ ?_
  · simp only [encodeRegistry, List.flatten_cons, List.flatten_nil, List.append_nil, List.nil_append, if_true]
  · have htrail : audit.length ≤ Limits.maxAuditRecords := hformed.trail
    simp only [true_and, ne_eq, not_true_eq_false, not_false_eq_true, htrail]
    constructor
    · rintro ⟨hc, hl, hp, hq, hk, hg, hv, ha⟩
      exact ⟨forall_records.mpr ⟨hc, hl, hp, hq, hk, hg, hv⟩, ha⟩
    · rintro ⟨hrecords, ha⟩
      obtain ⟨hc, hl, hp, hq, hk, hg, hv⟩ := forall_records.mp hrecords
      exact ⟨hc, hl, hp, hq, hk, hg, hv, ha⟩

end RoundTrip

/-! The texts of an encoding that fits in memory. -/

lemma length_le_flatten {part : Bytes} {parts : List Bytes} (h : part ∈ parts) :
    part.length ≤ parts.flatten.length :=
  (List.sublist_flatten_of_mem h).length_le

lemma length_le_putBlob (text : Bytes) : text.length ≤ (putBlob text).length := by
  simp [putBlob]

lemma consent_reason_length {consent : Option ConsentRecord} {c : ConsentRecord} (h : c ∈ consent) :
    c.reason.length ≤ (encodeOptionalConsent consent).length := by
  cases consent with
  | none => cases h
  | some consent =>
    cases h
    have hblob : (putBlob c.reason).length ≤ (encodeConsent c).length := length_le_flatten (by simp)
    have := length_le_putBlob c.reason
    simp only [encodeOptionalConsent, List.length_append]
    omega

lemma contractSized_of_length {r : ContractRecord} (h : (encodeContract r).length < 2 ^ 32) :
    ContractSized r := by
  have hfirst : (encodeOptionalConsent r.consents.first).length ≤ (encodeContract r).length :=
    length_le_flatten (by simp)
  have hsecond : (encodeOptionalConsent r.consents.second).length ≤ (encodeContract r).length :=
    length_le_flatten (by simp)
  constructor
  · intro c hc
    exact lt_of_le_of_lt ((consent_reason_length hc).trans hfirst) h
  · intro c hc
    exact lt_of_le_of_lt ((consent_reason_length hc).trans hsecond) h

lemma grantSized_of_length {r : GrantRecord} (h : (encodeGrant r).length < 2 ^ 32) : Sized r.note := by
  have hblob : (putBlob r.note).length ≤ (encodeGrant r).length := length_le_flatten (by simp)
  exact lt_of_le_of_lt ((length_le_putBlob r.note).trans hblob) h

lemma auditSized_of_length {r : AuditRecord} (h : (encodeAudit r).length < 2 ^ 32) : AuditSized r := by
  have hblob {text : Bytes} (hmem : putBlob text ∈ [putU64 r.sequence.value, putI64 r.recordedAt.unixNanos,
      putBlob r.actor, putBlob r.action, putBlob r.subject, putU16 r.outcome.ctorIdx, putBlob r.detail]) :
      Sized text :=
    lt_of_le_of_lt ((length_le_putBlob text).trans (length_le_flatten hmem)) h
  exact ⟨hblob (by simp), hblob (by simp), hblob (by simp), hblob (by simp)⟩

lemma length_le_encodeAll {κ β : Type} [Ord κ] [Std.TransOrd κ] {encode : β → Bytes} {m : OrdMap κ β} {v : β}
    (h : v ∈ values m) : (encode v).length ≤ (encodeAll encode m).length := by
  have : (encode v).length ≤ ((values m).flatMap encode).length :=
    length_le_flatten (List.mem_map_of_mem h)
  simp only [encodeAll, List.length_append]
  omega

/-- A registry whose encoding is bounded has no text beyond a length prefix. -/
lemma sized_of_length {registry : Registry} (h : (encodeRegistry registry true).length < 2 ^ 32) :
    RegistrySized registry := by
  have hcontracts : (encodeAll encodeContract registry.contracts).length ≤
      (encodeRegistry registry true).length := length_le_flatten (by simp)
  have hgrants : (encodeAll encodeGrant registry.grants).length ≤
      (encodeRegistry registry true).length := length_le_flatten (by simp)
  have haudit : (registry.audit.flatMap encodeAudit).length ≤ (encodeRegistry registry true).length := by
    have : (putCount registry.audit.length ++ registry.audit.flatMap encodeAudit).length ≤
        (encodeRegistry registry true).length := length_le_flatten (by simp)
    rw [List.length_append] at this
    omega
  constructor
  · refine forall_records.mpr ⟨?_, ?_, ?_, ?_, ?_, ?_, ?_⟩
    · exact fun _ _ => trivial
    · exact fun _ _ => trivial
    · exact fun _ _ => trivial
    · exact fun _ _ => trivial
    · exact fun v hv => contractSized_of_length
        (lt_of_le_of_lt ((length_le_encodeAll hv).trans hcontracts) h)
    · exact fun v hv => grantSized_of_length
        (lt_of_le_of_lt ((length_le_encodeAll hv).trans hgrants) h)
    · exact fun _ _ => trivial
  · intro r hr
    have : (encodeAudit r).length ≤ (registry.audit.flatMap encodeAudit).length :=
      length_le_flatten (List.mem_map_of_mem hr)
    exact auditSized_of_length (lt_of_le_of_lt (this.trans haudit) h)

/-- Decoding gives a storable registry back, and fails on any other. -/
lemma decodeRegistry_encode {registry : Registry} (hformed : WellFormed registry)
    (h : (encodeRegistry registry true).length < 2 ^ 32) :
    (RegistryStorable registry → decodeRegistry.run (encodeRegistry registry true) = .ok (registry, [])) ∧
      (¬RegistryStorable registry → ∃ e, decodeRegistry.run (encodeRegistry registry true) = .error e) := by
  have hread := sections_read hformed (sized_of_length h)
  have hrun : decodeRegistry.run (encodeRegistry registry true) =
      decodeSections.run (encodeRegistry registry true) >>= fun x =>
        (do expectEnd; return x.1 : ByteReader Registry).run x.2 := rfl
  rw [hrun]
  constructor
  · intro hok
    rw [hread.run_eq hok]
    rfl
  · intro hno
    obtain ⟨e, he⟩ := hread.reject hno []
    rw [List.append_nil] at he
    exact ⟨e, by rw [he]; rfl⟩

end InterClusterFabric.ModelRegistryLaws
