import InterClusterFabric.ModelCanonicalAccepts
import InterClusterFabric.ModelRegistryLaws
import InterClusterFabric.StoreMutation

/-! Replay of mutations over the table of a registry. A mutation either puts a record at its own
key, erases a key, or extends the trail; whether it is accepted depends on the registry only
through the keys that are present. -/
namespace InterClusterFabric.StoreReplay
open CoreStatus CoreIds CoreBytes ModelRecords ModelCanonical ModelCanonicalReads ModelCanonicalAccepts
open ModelRegistry ModelRegistryLaws StoreMutation LibraryChecked LibraryOrdMap LibraryReader

/-- The registry without what stands under a key. -/
def remove (registry : Registry) : Key → Registry
  | .cluster id => { registry with clusters := registry.clusters.erase id }
  | .link id => { registry with links := registry.links.erase id }
  | .path id => { registry with paths := registry.paths.erase id }
  | .policy id => { registry with policies := registry.policies.erase id }
  | .contract id => { registry with contracts := registry.contracts.erase id }
  | .grant id => { registry with grants := registry.grants.erase id }
  | .reservation id => { registry with reservations := registry.reservations.erase id }

/-- What a mutation does to the table and the trail. -/
inductive Change
  | put (record : Record)
  | erase (key : Key)
  | extend (record : AuditRecord)
  | nothing

/-- A key that has to be present before the record is replayed. -/
def Record.needs : Record → Option Key
  | .grant r => some (.contract r.contract)
  | .reservation r => some (.grant r.grant)
  | _ => none

def change : Mutation → Change
  | .clusterPut r => .put (.cluster (sorted r))
  | .clusterErase r => .erase (.cluster r.id)
  | .linkPut r => .put (.link r)
  | .linkErase r => .erase (.link r.id)
  | .pathPut r => .put (.path r)
  | .pathErase r => .erase (.path r.id)
  | .policyPut r => .put (.policy r)
  | .policyErase r => .erase (.policy r.id)
  | .contractPut r => .put (.contract r)
  | .contractErase r => .erase (.contract r.id)
  | .grantPut r => .put (.grant r)
  | .grantErase r => .erase (.grant r.id)
  | .reservationPut r => .put (.reservation r)
  | .auditAppend r => .extend r
  | .metaSet _ _ => .nothing
  | .invalid => .nothing

/-- A key that some record of its container could carry. -/
def Key.Named : Key → Prop
  | .cluster id => id.value ≠ []
  | .link id => id.value ≠ []
  | .path id => id.value ≠ []
  | .policy id => id ≠ []
  | .contract id => id.isNil = false
  | .grant id => id.isNil = false
  | .reservation id => id.isNil = false

namespace Change

def effect (registry : Registry) : Change → Registry
  | put record => store registry record
  | erase key => remove registry key
  | extend record => { registry with audit := registry.audit ++ [record] }
  | nothing => registry

/-- What a change checks on its own. -/
def Proper : Change → Prop
  | put record => record.Sound
  | erase key => Key.Named key
  | extend _ => True
  | nothing => True

/-- The record of a change is within the bounds of its decoder. -/
def Storable : Change → Prop
  | put record => record.Storable
  | extend record => AuditStorable record
  | _ => True

/-- What a change needs of the registry it is applied to. -/
def Finds (registry : Registry) : Change → Prop
  | put record => (∀ key ∈ Record.needs record, (find registry key).isSome = true) ∧ Room registry record.key
  | erase key => (find registry key).isSome = true
  | extend record =>
    registry.audit.length < Limits.maxAuditRecords ∧
      ∀ last ∈ registry.audit.getLast?, record.sequence = Registry.nextSequence last
  | nothing => True

end Change

/-! The table under a change. -/

lemma find_remove (registry : Registry) (erased key : Key) :
    find (remove registry erased) key = if key = erased then none else find registry key := by
  cases erased <;> cases key <;>
    simp only [find, remove, getElem?_erase_eq, Key.cluster.injEq, Key.link.injEq, Key.path.injEq,
      Key.policy.injEq, Key.contract.injEq, Key.grant.injEq, Key.reservation.injEq, reduceCtorEq, if_false] <;>
    split <;> rfl

@[simp] lemma remove_audit (registry : Registry) (key : Key) : (remove registry key).audit = registry.audit := by
  cases key <;> rfl

lemma find_isSome {registry : Registry} :
    ∀ key, (find registry key).isSome = true ↔ match key with
      | .cluster id => id ∈ registry.clusters
      | .link id => id ∈ registry.links
      | .path id => id ∈ registry.paths
      | .policy id => id ∈ registry.policies
      | .contract id => id ∈ registry.contracts
      | .grant id => id ∈ registry.grants
      | .reservation id => id ∈ registry.reservations := by
  intro key
  cases key <;> simp only [find, Option.isSome_map, ← mem_iff_isSome]

lemma remove_bounded {registry : Registry} (h : Bounded registry) (key : Key) :
    Bounded (remove registry key) := by
  have shrink {κ β : Type} [Ord κ] [Std.TransOrd κ] {m : OrdMap κ β} {k : κ} {bound : ℕ}
      (hm : m.size ≤ bound) : (m.erase k).size ≤ bound := Std.ExtTreeMap.size_erase_le.trans hm
  cases key with
  | cluster id => exact { h with clusters := shrink h.clusters }
  | link id => exact { h with links := shrink h.links }
  | path id => exact { h with paths := shrink h.paths }
  | policy id => exact { h with policies := shrink h.policies }
  | contract id => exact { h with contracts := shrink h.contracts }
  | grant id => exact { h with grants := shrink h.grants }
  | reservation id => exact { h with reservations := shrink h.reservations }

lemma remove_wellFormed {registry : Registry} (h : WellFormed registry) (key : Key) :
    WellFormed (remove registry key) where
  sound k r hfind := by
    rw [find_remove] at hfind
    split at hfind
    · cases hfind
    · exact h.sound k r hfind
  bounded := remove_bounded h.bounded key
  contiguous := by rw [remove_audit]; exact h.contiguous
  trail := by rw [remove_audit]; exact h.trail

/-! Applying a mutation is applying its change. -/

lemma room_iff_not_full {κ β : Type} [Ord κ] [Std.TransOrd κ] {m : OrdMap κ β} {k : κ} {bound : ℕ} :
    ¬(k ∉ m ∧ bound ≤ m.size) ↔ k ∈ m ∨ m.size < bound := by
  rw [not_and_or, not_not, not_le]

/-- A mutation is applied exactly when it is proper and finds what it needs. -/
lemma applyMutation_eq_ok {registry r' : Registry} {m : Mutation} :
    applyMutation registry m = .ok r' ↔
      m ≠ .invalid ∧ (change m).Proper ∧ (change m).Finds registry ∧ r' = (change m).effect registry := by
  cases m with
  | invalid => simp [applyMutation, validateMutation, bind, Except.bind]
  | metaSet term incarnation =>
    simp [applyMutation, validateMutation, performMutation, change, Change.Proper, Change.Finds,
      Change.effect, pure, Except.pure, bind, Except.bind, eq_comm]
  | auditAppend r =>
    simp only [applyMutation, validateMutation, performMutation, pure_bind, appendAudit_eq_ok, change,
      Change.Proper, Change.Finds, Change.effect, ne_eq, reduceCtorEq, not_false_eq_true, true_and, and_assoc]
  | clusterPut r =>
    simp only [applyMutation, validateMutation, performMutation, bind_assoc,
      bind_eq_ok, rejectIf_eq_ok, exists_const, room_iff_not_full, putCluster_eq_ok, name_isEmpty_iff, not_lt]
    constructor
    · rintro ⟨-, -, -, hsound, hroom, rfl⟩
      exact ⟨by simp, hsound, ⟨by simp [Record.needs], hroom⟩, rfl⟩
    · rintro ⟨-, hsound, ⟨-, hroom⟩, rfl⟩
      have hsound' : (Record.cluster (sorted r)).Sound := hsound
      have hbounded := hsound'.2.2.bounded
      rw [sorted, sortEndpoints_length] at hbounded
      exact ⟨hsound'.1, hroom, hbounded, hsound, hroom, rfl⟩
  | linkPut r =>
    simp only [applyMutation, validateMutation, performMutation, bind_assoc,
      bind_eq_ok, rejectIf_eq_ok, exists_const, putLink_eq_ok, name_isEmpty_iff, not_or, Counter.lt_iff, not_lt]
    constructor
    · rintro ⟨-, -, hsound, hroom, rfl⟩
      exact ⟨by simp, hsound, ⟨by simp [Record.needs], hroom⟩, rfl⟩
    · rintro ⟨-, hsound, ⟨-, hroom⟩, rfl⟩
      have hsound' : (Record.link r).Sound := hsound
      obtain ⟨hid, ha, hb, -, hreserved⟩ := hsound'
      exact ⟨⟨hid, ha, hb⟩, Counter.le_iff.mp hreserved, hsound, hroom, rfl⟩
  | pathPut r =>
    simp only [applyMutation, validateMutation, performMutation, bind_assoc,
      bind_eq_ok, rejectIf_eq_ok, exists_const, putPath_eq_ok, name_isEmpty_iff, not_or, not_lt]
    constructor
    · rintro ⟨-, -, hsound, hroom, rfl⟩
      exact ⟨by simp, hsound, ⟨by simp [Record.needs], hroom⟩, rfl⟩
    · rintro ⟨-, hsound, ⟨-, hroom⟩, rfl⟩
      have hsound' : (Record.path r).Sound := hsound
      obtain ⟨hid, -, -, hhops, hbound⟩ := hsound'
      exact ⟨⟨hid, hhops⟩, hbound, hsound, hroom, rfl⟩
  | policyPut r =>
    simp only [applyMutation, validateMutation, performMutation, rejectIf_bind_eq_ok, putPolicy_eq_ok]
    constructor
    · rintro ⟨-, hsound, hroom, rfl⟩
      exact ⟨by simp, hsound, ⟨by simp [Record.needs], hroom⟩, rfl⟩
    · rintro ⟨-, hsound, ⟨-, hroom⟩, rfl⟩
      exact ⟨hsound.1, hsound, hroom, rfl⟩
  | contractPut r =>
    simp only [applyMutation, validateMutation, performMutation, rejectIf_bind_eq_ok, putContract_eq_ok,
      Bool.not_eq_true]
    constructor
    · rintro ⟨-, hsound, hroom, rfl⟩
      exact ⟨by simp, hsound, ⟨by simp [Record.needs], hroom⟩, rfl⟩
    · rintro ⟨-, hsound, ⟨-, hroom⟩, rfl⟩
      exact ⟨hsound.1, hsound, hroom, rfl⟩
  | grantPut r =>
    simp only [applyMutation, validateMutation, performMutation, bind_assoc, rejectIf_bind_eq_ok,
      putGrant_eq_ok, Bool.not_eq_true, not_not]
    constructor
    · rintro ⟨-, hcontract, hsound, hroom, rfl⟩
      refine ⟨by simp, hsound, ⟨fun key hkey => ?_, hroom⟩, rfl⟩
      cases hkey
      exact (find_isSome _).mpr hcontract
    · rintro ⟨-, hsound, ⟨hneeds, hroom⟩, rfl⟩
      exact ⟨hsound.1, (find_isSome _).mp (hneeds (.contract r.contract) rfl), hsound, hroom, rfl⟩
  | reservationPut r =>
    simp only [applyMutation, validateMutation, performMutation, bind_assoc, rejectIf_bind_eq_ok,
      putReservation_eq_ok, Bool.not_eq_true, not_not]
    constructor
    · rintro ⟨-, hgrant, hsound, hroom, rfl⟩
      refine ⟨by simp, hsound, ⟨fun key hkey => ?_, hroom⟩, rfl⟩
      cases hkey
      exact (find_isSome _).mpr hgrant
    · rintro ⟨-, hsound, ⟨hneeds, hroom⟩, rfl⟩
      exact ⟨hsound, (find_isSome _).mp (hneeds (.grant r.grant) rfl), hsound, hroom, rfl⟩
  | clusterErase r =>
    simp only [applyMutation, validateMutation, performMutation, Registry.eraseCluster, rejectIf_bind_eq_ok,
      name_isEmpty_iff, change, Change.Proper, Change.Finds, Change.effect, find_isSome, pure, Except.pure]
    simp [remove, Key.Named, eq_comm]
  | linkErase r =>
    simp only [applyMutation, validateMutation, performMutation, Registry.eraseLink, rejectIf_bind_eq_ok,
      name_isEmpty_iff, change, Change.Proper, Change.Finds, Change.effect, find_isSome, pure, Except.pure]
    simp [remove, Key.Named, eq_comm]
  | pathErase r =>
    simp only [applyMutation, validateMutation, performMutation, Registry.erasePath, rejectIf_bind_eq_ok,
      name_isEmpty_iff, change, Change.Proper, Change.Finds, Change.effect, find_isSome, pure, Except.pure]
    simp [remove, Key.Named, eq_comm]
  | policyErase r =>
    simp only [applyMutation, validateMutation, performMutation, Registry.erasePolicy, rejectIf_bind_eq_ok,
      change, Change.Proper, Change.Finds, Change.effect, find_isSome, pure, Except.pure]
    simp [remove, Key.Named, eq_comm]
  | contractErase r =>
    simp only [applyMutation, validateMutation, performMutation, Registry.eraseContract, rejectIf_bind_eq_ok,
      change, Change.Proper, Change.Finds, Change.effect, find_isSome, pure, Except.pure]
    simp [remove, Key.Named, eq_comm (a := r')]
  | grantErase r =>
    simp only [applyMutation, validateMutation, performMutation, Registry.eraseGrant, rejectIf_bind_eq_ok,
      change, Change.Proper, Change.Finds, Change.effect, find_isSome, pure, Except.pure]
    simp [remove, Key.Named, eq_comm (a := r')]

/-! What replay keeps. -/

/-- A registry whose records could all be written and read again. -/
structure Sane (registry : Registry) : Prop where
  formed : WellFormed registry
  storable : RegistryStorable registry

lemma empty_sane : Sane {} where
  formed := empty_wellFormed
  storable := ⟨fun key r h => by cases key <;> simp [find] at h, by simp⟩

lemma store_sane {registry : Registry} {record : Record} (h : Sane registry) (hsound : record.Sound)
    (hroom : Room registry record.key) (hstorable : record.Storable) : Sane (store registry record) where
  formed := store_wellFormed h.formed hsound hroom
  storable :=
    { records := fun key r hfind => by
        rw [find_store] at hfind
        split at hfind
        · cases hfind
          exact hstorable
        · exact h.storable.records key r hfind
      audit := by
        rw [store_audit]
        exact h.storable.audit }

lemma remove_sane {registry : Registry} (h : Sane registry) (key : Key) : Sane (remove registry key) where
  formed := remove_wellFormed h.formed key
  storable :=
    { records := fun k r hfind => by
        rw [find_remove] at hfind
        split at hfind
        · cases hfind
        · exact h.storable.records k r hfind
      audit := by
        rw [remove_audit]
        exact h.storable.audit }

lemma appendAudit_sane {registry r' : Registry} {record : AuditRecord} (h : Sane registry)
    (hstorable : AuditStorable record) (hok : registry.appendAudit record = .ok r') : Sane r' where
  formed := appendAudit_wellFormed h.formed hok
  storable := by
    obtain ⟨-, -, rfl⟩ := appendAudit_eq_ok.mp hok
    refine ⟨h.storable.records, fun r hr => ?_⟩
    rcases List.mem_append.mp hr with hr | hr
    · exact h.storable.audit r hr
    · rw [List.mem_singleton.mp hr]
      exact hstorable

/-- Sorting the endpoints of a cluster moves none of its bounds. -/
lemma sorted_storable {r : ClusterRecord} (h : ClusterStorable r) : ClusterStorable (sorted r) := by
  obtain ⟨h1, h2, h3, h4, h5, h6, h7⟩ := h
  refine ⟨h1, h2, h3, h4, ?_, ?_, h7⟩
  · rw [sorted, sortEndpoints_length]
    exact h5
  · intro e he
    exact h6 e (mem_sortEndpoints.mp he)

lemma effect_sane {registry : Registry} {c : Change} (h : Sane registry) (hproper : c.Proper)
    (hfinds : c.Finds registry) (hstorable : c.Storable) : Sane (c.effect registry) := by
  cases c with
  | put record => exact store_sane h hproper hfinds.2 hstorable
  | erase key => exact remove_sane h key
  | extend record => exact appendAudit_sane h hstorable (appendAudit_eq_ok.mpr ⟨hfinds.1, hfinds.2, rfl⟩)
  | nothing => exact h

lemma change_storable {m : Mutation} (h : m.Loggable) : (change m).Storable := by
  cases m with
  | clusterPut r => exact sorted_storable h.1
  | linkPut | pathPut | policyPut | contractPut | grantPut | reservationPut | auditAppend => exact h
  | _ => trivial

/-- Replaying a loggable mutation keeps the registry sane. -/
lemma applyMutation_sane {registry r' : Registry} {m : Mutation} (h : Sane registry) (hlog : m.Loggable)
    (hok : applyMutation registry m = .ok r') : Sane r' := by
  obtain ⟨-, hproper, hfinds, rfl⟩ := applyMutation_eq_ok.mp hok
  exact effect_sane h hproper hfinds (change_storable hlog)

/-- What the decoder accepts is loggable. -/
lemma mutation_yields : Yields decodeMutation Mutation.Loggable := by
  have cluster_ok {r : ClusterRecord} (h : ClusterStorable r ∧ EndpointsOrdered r.endpoints) :
      ClusterStorable r ∧ hasAdjacentDuplicate (sortEndpoints r.endpoints) = false := by
    refine ⟨h.1, ?_⟩
    rw [sortEndpoints_of_ordered h.2]
    exact hasAdjacentDuplicate_of_ordered h.2
  refine Yields.skip fun raw => Yields.skip fun _ => ?_
  cases MutationKind.ofNat raw with
  | invalid =>
    intro bytes m rest hrun
    cases hrun
  | clusterPut => exact cluster_yields.map fun r h => cluster_ok h
  | clusterErase => exact cluster_yields.map fun r h => cluster_ok h
  | linkPut => exact link_yields.map fun r h => h
  | linkErase => exact link_yields.map fun r h => h
  | pathPut => exact path_yields.map fun r h => h
  | pathErase => exact path_yields.map fun r h => h
  | policyPut => exact policy_yields.map fun r h => h
  | policyErase => exact policy_yields.map fun r h => h
  | contractPut => exact contract_yields.map fun r h => h
  | contractErase => exact contract_yields.map fun r h => h
  | grantPut => exact grant_yields.map fun r h => h
  | grantErase => exact grant_yields.map fun r h => h
  | reservationPut => exact reservation_yields.map fun r h => h
  | auditAppend => exact audit_yields.map fun r h => h
  | metaSet =>
    exact Yields.skip fun term => Yields.bind Yields.check fun _ h => Yields.skip fun _ =>
      Yields.pure (UInt64.not_lt.mp h)

/-- A section of an encoding keeps the registry sane. -/
lemma section_yields {β : Type} {item : ByteReader β} {put : Registry → β → Result Registry} {P : β → Prop}
    (hitem : Yields item P) (hput : ∀ r v r', Sane r → P v → put r v = .ok r' → Sane r') (bound : ℕ)
    {registry : Registry} (h : Sane registry) : Yields (decodeSection item put bound registry) Sane :=
  Yields.skip fun _ => Yields.readFold (I := fun _ => Sane) (k := 0) hitem (fun _ r v r' => hput r v r') h

/-- A registry that was decoded is sane. -/
lemma registry_yields : Yields decodeRegistry Sane := by
  refine Yields.bind (P := Sane) ?_ fun registry h => Yields.skip fun _ => Yields.pure h
  refine Yields.skip fun _ => Yields.skip fun _ => Yields.skip fun includeAudit =>
    Yields.bind (section_yields cluster_yields (fun r v r' h hv hok => ?_) _ empty_sane) fun _ h =>
    Yields.bind (section_yields link_yields (fun r v r' h hv hok => ?_) _ h) fun _ h =>
    Yields.bind (section_yields path_yields (fun r v r' h hv hok => ?_) _ h) fun _ h =>
    Yields.bind (section_yields policy_yields (fun r v r' h hv hok => ?_) _ h) fun _ h =>
    Yields.bind (section_yields contract_yields (fun r v r' h hv hok => ?_) _ h) fun _ h =>
    Yields.bind (section_yields grant_yields (fun r v r' h hv hok => ?_) _ h) fun _ h =>
    Yields.bind (section_yields reservation_yields (fun r v r' h hv hok => ?_) _ h) fun _ h => ?_
  · obtain ⟨hsound, hroom, rfl⟩ := putCluster_eq_ok.mp hok
    exact store_sane h hsound hroom (sorted_storable hv.1)
  · obtain ⟨hsound, hroom, rfl⟩ := putLink_eq_ok.mp hok
    exact store_sane h hsound hroom hv
  · obtain ⟨hsound, hroom, rfl⟩ := putPath_eq_ok.mp hok
    exact store_sane h hsound hroom hv
  · obtain ⟨hsound, hroom, rfl⟩ := putPolicy_eq_ok.mp hok
    exact store_sane h hsound hroom hv
  · obtain ⟨hsound, hroom, rfl⟩ := putContract_eq_ok.mp hok
    exact store_sane h hsound hroom hv
  · obtain ⟨hsound, hroom, rfl⟩ := putGrant_eq_ok.mp hok
    exact store_sane h hsound hroom hv
  · obtain ⟨hsound, hroom, rfl⟩ := putReservation_eq_ok.mp hok
    exact store_sane h hsound hroom hv
  · cases includeAudit with
    | false => exact Yields.pure h
    | true => exact section_yields audit_yields (fun r v r' h hv hok => appendAudit_sane h hv hok) _ h

/-! Replaying a list of mutations. -/

/-- The changes one after another, whatever they find. -/
def effects (registry : Registry) (changes : List Change) : Registry :=
  changes.foldl Change.effect registry

/-- Each change finds what it needs after those before it. -/
def Replayable : Registry → List Change → Prop
  | _, [] => True
  | registry, c :: rest => c.Finds registry ∧ Replayable (c.effect registry) rest

/-- The trail is not extended. -/
def Quiet (changes : List Change) : Prop := ∀ record, Change.extend record ∉ changes

lemma replay_eq_ok {registry r' : Registry} {ms : List Mutation} :
    putAll applyMutation registry ms = .ok r' ↔
      (∀ m ∈ ms, m ≠ .invalid ∧ (change m).Proper) ∧ Replayable registry (ms.map change) ∧
        r' = effects registry (ms.map change) := by
  induction ms generalizing registry with
  | nil => simp [Replayable, effects, eq_comm]
  | cons m rest ih =>
    simp only [putAll, bind_eq_ok, applyMutation_eq_ok, ih, List.map_cons, Replayable, List.forall_mem_cons]
    constructor
    · rintro ⟨next, ⟨hvalid, hproper, hfinds, rfl⟩, hrest, hreplay, rfl⟩
      exact ⟨⟨⟨hvalid, hproper⟩, hrest⟩, ⟨hfinds, hreplay⟩, rfl⟩
    · rintro ⟨⟨⟨hvalid, hproper⟩, hrest⟩, ⟨hfinds, hreplay⟩, rfl⟩
      exact ⟨_, ⟨hvalid, hproper, hfinds, rfl⟩, hrest, hreplay, rfl⟩

lemma find_effect (c : Change) :
    ∃ written : Key → Option (Option Record),
      ∀ registry key, find (c.effect registry) key = (written key).getD (find registry key) := by
  cases c with
  | put record =>
    refine ⟨fun key => if key = record.key then some (some record) else none, fun registry key => ?_⟩
    rw [Change.effect, find_store]
    by_cases h : key = record.key <;> simp [h]
  | erase erased =>
    refine ⟨fun key => if key = erased then some none else none, fun registry key => ?_⟩
    rw [Change.effect, find_remove]
    by_cases h : key = erased <;> simp [h]
  | extend record => exact ⟨fun _ => none, fun _ _ => rfl⟩
  | nothing => exact ⟨fun _ => none, fun _ _ => rfl⟩

/-- A list of changes overwrites a fixed part of the table, whatever the table was. -/
lemma find_effects (changes : List Change) :
    ∃ written : Key → Option (Option Record),
      ∀ registry key, find (effects registry changes) key = (written key).getD (find registry key) := by
  induction changes with
  | nil => exact ⟨fun _ => none, fun _ _ => rfl⟩
  | cons c rest ih =>
    obtain ⟨first, hfirst⟩ := find_effect c
    obtain ⟨later, hlater⟩ := ih
    refine ⟨fun key => (later key).or (first key), fun registry key => ?_⟩
    have hstep : effects registry (c :: rest) = effects (c.effect registry) rest := rfl
    rw [hstep, hlater, hfirst]
    cases h : later key <;> simp [h]

lemma effects_audit (registry : Registry) (changes : List Change) :
    (effects registry changes).audit = registry.audit ++ changes.filterMap fun
      | .extend record => some record
      | _ => none := by
  induction changes generalizing registry with
  | nil => simp [effects]
  | cons c rest ih =>
    have hstep : effects registry (c :: rest) = effects (c.effect registry) rest := rfl
    rw [hstep, ih]
    cases c <;> simp [Change.effect]

/-- Changes that were applied once change nothing but the trail when they are applied again. -/
lemma effects_again (registry : Registry) (changes : List Change) :
    effects (effects registry changes) changes = effects registry changes ↔ Quiet changes := by
  constructor
  · intro h record hmem
    have haudit := congrArg Registry.audit h
    rw [effects_audit (effects registry changes), List.append_right_eq_self, List.filterMap_eq_nil_iff] at haudit
    exact absurd (haudit _ hmem) (by simp)
  · intro hquiet
    obtain ⟨written, hwritten⟩ := find_effects changes
    refine ext_find (fun key => ?_) ?_
    · rw [hwritten, hwritten]
      cases written key <;> rfl
    · rw [effects_audit (effects registry changes), List.append_right_eq_self, List.filterMap_eq_nil_iff]
      intro c hc
      cases c with
      | extend record => exact absurd hc (hquiet record)
      | _ => rfl

/-- Replaying again what has been replayed: it succeeds and changes nothing exactly when the trail
is left alone and every change still finds what it needs. -/
lemma replay_again {registry r' : Registry} {ms : List Mutation}
    (h : putAll applyMutation registry ms = .ok r') :
    putAll applyMutation r' ms = .ok r' ↔ Quiet (ms.map change) ∧ Replayable r' (ms.map change) := by
  obtain ⟨hproper, -, rfl⟩ := replay_eq_ok.mp h
  rw [replay_eq_ok, eq_comm, effects_again]
  constructor
  · rintro ⟨-, hreplay, hquiet⟩
    exact ⟨hquiet, hreplay⟩
  · rintro ⟨hquiet, hreplay⟩
    exact ⟨hproper, hreplay, hquiet⟩

/-- Replaying loggable mutations keeps the registry sane. -/
lemma replay_sane {registry r' : Registry} {ms : List Mutation} (h : Sane registry)
    (hlog : ∀ m ∈ ms, m.Loggable) (hok : putAll applyMutation registry ms = .ok r') : Sane r' := by
  induction ms generalizing registry with
  | nil =>
    cases hok
    exact h
  | cons m rest ih =>
    obtain ⟨next, hnext, hrest⟩ := bind_eq_ok.mp hok
    exact ih (applyMutation_sane h (hlog m (by simp)) hnext) (fun m' hm' => hlog m' (by simp [hm'])) hrest

end InterClusterFabric.StoreReplay
