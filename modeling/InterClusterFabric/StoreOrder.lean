import InterClusterFabric.LibraryProgram
import InterClusterFabric.StoreReplay

/-! Mutations applied to the registry in place, and lists of puts in another order. Every operation checks all it
checks before it writes anything, so a refused one leaves the registry as it was. -/
namespace InterClusterFabric.StoreOrder
open CoreStatus CoreIds CoreTime CoreHash CoreBytes ModelRecords ModelCanonical ModelRegistry ModelRegistryLaws
open StoreMutation StoreReplay LibraryChecked LibraryOrdMap LibraryReader LibraryProgram LibraryProgram.Program Std

/-- An operation on the registry that may end early, with the registry as it is then. -/
abbrev Edit := Program Registry Status Unit

section Containers

variable {κ β : Type} [Ord κ] [TransOrd κ]

/-- `insert_bounded` on the container. -/
def insertBounded (key : κ) (record : β) (bound : ℕ) (what : String) : Program (OrdMap κ β) Status Unit := do
  let map ← get
  ofResult (rejectIf (key ∉ map ∧ bound ≤ map.size)
    (Status.make .capacityExceeded (ascii "too many " ++ ascii what ++ ascii " records")))
  modify fun map => map.insert key record

/-- The lookup and the erasure of the erase operations. -/
def eraseFrom (key : κ) (what : String) : Program (OrdMap κ β) Status Unit := do
  let map ← get
  ofResult (rejectIf (key ∉ map) (Status.notFound what))
  modify fun map => map.erase key

end Containers

namespace InPlace

def onClusters : Program (OrdMap ClusterId ClusterRecord) Status Unit → Edit :=
  focus Registry.clusters fun registry clusters => { registry with clusters }

def onLinks : Program (OrdMap EdgeId LinkRecord) Status Unit → Edit :=
  focus Registry.links fun registry links => { registry with links }

def onPaths : Program (OrdMap PathId PathRecord) Status Unit → Edit :=
  focus Registry.paths fun registry paths => { registry with paths }

def onPolicies : Program (OrdMap Bytes PolicyRule) Status Unit → Edit :=
  focus Registry.policies fun registry policies => { registry with policies }

def onContracts : Program (OrdMap ContractId ContractRecord) Status Unit → Edit :=
  focus Registry.contracts fun registry contracts => { registry with contracts }

def onGrants : Program (OrdMap GrantId GrantRecord) Status Unit → Edit :=
  focus Registry.grants fun registry grants => { registry with grants }

def onReservations : Program (OrdMap ReservationId ReservationRecord) Status Unit → Edit :=
  focus Registry.reservations fun registry reservations => { registry with reservations }

def putCluster (record : ClusterRecord) : Edit := do
  ofResult (rejectIf (record.id.isEmpty = true) (Status.invalid "cluster record requires an identity"))
  ofResult (rejectIf (record.domain.isEmpty = true)
    (Status.invalid "cluster record requires an authority domain"))
  ofResult (rejectIf (Limits.maxEndpointsPerCluster < record.endpoints.length)
    (Status.make .capacityExceeded (ascii "cluster declares too many endpoints")))
  let sorted := sortEndpoints record.endpoints
  ofResult (checkEndpoints record.id sorted)
  ofResult (rejectIf (hasAdjacentDuplicate sorted = true)
    (Status.make .alreadyExists (ascii "cluster declares a duplicate endpoint identity")))
  onClusters (insertBounded record.id { record with endpoints := sorted } Limits.maxClusters "cluster")

def eraseCluster (id : ClusterId) : Edit := onClusters (eraseFrom id "cluster is not registered")

def putLink (record : LinkRecord) : Edit := do
  ofResult (rejectIf (record.id.isEmpty = true ∨ record.a.isEmpty = true ∨ record.b.isEmpty = true)
    (Status.invalid "link record requires an identity and two endpoints"))
  ofResult (rejectIf (record.a = record.b) (Status.invalid "a link must join two distinct endpoints"))
  ofResult (rejectIf (record.capacity < record.reserved)
    (Status.make .capacityExceeded (ascii "link reservations exceed declared capacity")))
  onLinks (insertBounded record.id record Limits.maxEdges "link")

def eraseLink (id : EdgeId) : Edit := onLinks (eraseFrom id "link is not registered")

def putPath (record : PathRecord) : Edit := do
  ofResult (rejectIf (record.id.isEmpty = true ∨ record.a.isEmpty = true ∨ record.b.isEmpty = true)
    (Status.invalid "path record requires an identity and two endpoints"))
  ofResult (rejectIf (record.hops = []) (Status.invalid "path record requires at least one hop"))
  ofResult (rejectIf (Limits.maxPathHops < record.hops.length)
    (Status.make .capacityExceeded (ascii "path declares too many hops")))
  onPaths (insertBounded record.id record Limits.maxPaths "path")

def erasePath (id : PathId) : Edit := onPaths (eraseFrom id "path is not registered")

def putPolicy (rule : PolicyRule) : Edit := do
  ofResult (rejectIf (rule.id = [] ∨ Limits.maxNameLength < rule.id.length)
    (Status.invalid "policy rule requires a bounded identity"))
  ofResult (rejectIf (rule.owner.isEmpty = true)
    (Status.invalid "policy rule requires an owning authority domain"))
  onPolicies (insertBounded rule.id rule Limits.maxPolicyRules "policy")

def erasePolicy (id : Bytes) : Edit := onPolicies (eraseFrom id "policy rule is not registered")

def putContract (record : ContractRecord) : Edit := do
  ofResult (rejectIf (record.id.isNil = true) (Status.invalid "contract requires an identity"))
  ofResult (rejectIf (record.parties.first.cluster.isEmpty = true ∨ record.parties.second.cluster.isEmpty = true)
    (Status.invalid "contract requires two cluster identities"))
  ofResult (rejectIf (record.parties.first.cluster = record.parties.second.cluster)
    (Status.invalid "contract must join two distinct clusters"))
  ofResult (rejectIf (Limits.maxCapacity < record.capacity.value)
    (Status.make .overflow (ascii "contract capacity exceeds the maximum")))
  onContracts (insertBounded record.id record Limits.maxContracts "contract")

def eraseContract (id : ContractId) : Edit := onContracts (eraseFrom id "contract is not registered")

def putGrant (record : GrantRecord) : Edit := do
  ofResult (rejectIf (record.id.isNil = true) (Status.invalid "grant requires an identity"))
  ofResult (rejectIf (record.contract.isNil = true) (Status.invalid "grant requires a contract"))
  ofResult (rejectIf (Limits.maxCapacity < record.capacity.value)
    (Status.make .overflow (ascii "grant capacity exceeds the maximum")))
  onGrants (insertBounded record.id record Limits.maxGrants "grant")

def eraseGrant (id : GrantId) : Edit := onGrants (eraseFrom id "grant is not registered")

def putReservation (record : ReservationRecord) : Edit := do
  ofResult (rejectIf (record.id.isNil = true) (Status.invalid "reservation requires an identity"))
  onReservations (insertBounded record.id record Limits.maxReservations "reservation")

def appendAudit (record : AuditRecord) : Edit := do
  let registry ← get
  ofResult (rejectIf (Limits.maxAuditRecords ≤ registry.audit.length)
    (Status.make .capacityExceeded (ascii "audit trail is at its configured bound")))
  ofResult (rejectIf (∃ last ∈ registry.audit.getLast?, record.sequence ≠ Registry.nextSequence last)
    (Status.invalid "audit sequence is not contiguous"))
  modify fun registry => { registry with audit := registry.audit ++ [record] }

def performMutation : Mutation → Edit
  | .invalid => ofResult (.error unknownKind)
  | .clusterPut cluster => putCluster cluster
  | .clusterErase cluster => eraseCluster cluster.id
  | .linkPut link => putLink link
  | .linkErase link => eraseLink link.id
  | .pathPut path => putPath path
  | .pathErase path => erasePath path.id
  | .policyPut policy => putPolicy policy
  | .policyErase policy => erasePolicy policy.id
  | .contractPut contract => putContract contract
  | .contractErase contract => eraseContract contract.id
  | .grantPut grant => putGrant grant
  | .grantErase grant => eraseGrant grant.id
  | .reservationPut reservation => putReservation reservation
  | .auditAppend audit => appendAudit audit
  | .metaSet _ _ => pure ()

def applyMutation (mutation : Mutation) : Edit := do
  let registry ← get
  ofResult (validateMutation registry mutation)
  performMutation mutation

end InPlace

/-! Nothing is written before the last check. -/

section Containers

variable {κ β : Type} [Ord κ] [TransOrd κ]

lemma insertBounded_eq (key : κ) (record : β) (bound : ℕ) (what : String) :
    insertBounded key record bound what = update fun map => ModelRegistry.insertBounded map key record bound what := by
  simp only [insertBounded, modify_eq_update, ofResult_bind_update]
  refine (get_bind_update _).trans (congrArg update ?_)
  funext map
  rw [ModelRegistry.insertBounded, rejectIf]
  split <;> rfl

lemma eraseFrom_eq (key : κ) (what : String) : (eraseFrom key what : Program (OrdMap κ β) Status Unit) =
    update fun map => do
      rejectIf (key ∉ map) (Status.notFound what)
      return map.erase key := by
  simp only [eraseFrom, modify_eq_update, ofResult_bind_update]
  rfl

end Containers

namespace InPlace

lemma putCluster_eq (record : ClusterRecord) : putCluster record = update fun r => r.putCluster record := by
  simp only [putCluster, onClusters, insertBounded_eq, focus_update, implies_true, ofResult_bind_update]
  rfl

lemma putLink_eq (record : LinkRecord) : putLink record = update fun r => r.putLink record := by
  simp only [putLink, onLinks, insertBounded_eq, focus_update, implies_true, ofResult_bind_update]
  rfl

lemma putPath_eq (record : PathRecord) : putPath record = update fun r => r.putPath record := by
  simp only [putPath, onPaths, insertBounded_eq, focus_update, implies_true, ofResult_bind_update]
  rfl

lemma putPolicy_eq (rule : PolicyRule) : putPolicy rule = update fun r => r.putPolicy rule := by
  simp only [putPolicy, onPolicies, insertBounded_eq, focus_update, implies_true, ofResult_bind_update]
  rfl

lemma putContract_eq (record : ContractRecord) : putContract record = update fun r => r.putContract record := by
  simp only [putContract, onContracts, insertBounded_eq, focus_update, implies_true, ofResult_bind_update]
  rfl

lemma putGrant_eq (record : GrantRecord) : putGrant record = update fun r => r.putGrant record := by
  simp only [putGrant, onGrants, insertBounded_eq, focus_update, implies_true, ofResult_bind_update]
  rfl

lemma putReservation_eq (record : ReservationRecord) :
    putReservation record = update fun r => r.putReservation record := by
  simp only [putReservation, onReservations, insertBounded_eq, focus_update, implies_true, ofResult_bind_update]
  rfl

lemma appendAudit_eq (record : AuditRecord) : appendAudit record = update fun r => r.appendAudit record := by
  simp only [appendAudit, modify_eq_update, ofResult_bind_update]
  rfl

/-- The effect of a valid mutation in place is a change that may be refused. -/
lemma performMutation_eq (m : Mutation) : performMutation m = update fun r => StoreMutation.performMutation r m := by
  cases m with
  | invalid => rfl
  | clusterPut r => exact putCluster_eq r
  | linkPut r => exact putLink_eq r
  | pathPut r => exact putPath_eq r
  | policyPut r => exact putPolicy_eq r
  | contractPut r => exact putContract_eq r
  | grantPut r => exact putGrant_eq r
  | reservationPut r => exact putReservation_eq r
  | auditAppend r => exact appendAudit_eq r
  | metaSet term incarnation => rfl
  | clusterErase r =>
    simp only [performMutation, eraseCluster, onClusters, eraseFrom_eq, focus_update, implies_true]
    simp only [StoreMutation.performMutation, Registry.eraseCluster, bind_assoc, pure_bind]
  | linkErase r =>
    simp only [performMutation, eraseLink, onLinks, eraseFrom_eq, focus_update, implies_true]
    simp only [StoreMutation.performMutation, Registry.eraseLink, bind_assoc, pure_bind]
  | pathErase r =>
    simp only [performMutation, erasePath, onPaths, eraseFrom_eq, focus_update, implies_true]
    simp only [StoreMutation.performMutation, Registry.erasePath, bind_assoc, pure_bind]
  | policyErase r =>
    simp only [performMutation, erasePolicy, onPolicies, eraseFrom_eq, focus_update, implies_true]
    simp only [StoreMutation.performMutation, Registry.erasePolicy, bind_assoc, pure_bind]
  | contractErase r =>
    simp only [performMutation, eraseContract, onContracts, eraseFrom_eq, focus_update, implies_true]
    simp only [StoreMutation.performMutation, Registry.eraseContract, bind_assoc, pure_bind]
  | grantErase r =>
    simp only [performMutation, eraseGrant, onGrants, eraseFrom_eq, focus_update, implies_true]
    simp only [StoreMutation.performMutation, Registry.eraseGrant, bind_assoc, pure_bind]

lemma applyMutation_eq (m : Mutation) : applyMutation m = update fun r => StoreMutation.applyMutation r m := by
  simp only [applyMutation, performMutation_eq, ofResult_bind_update]
  rfl

end InPlace

/-! Puts in another order. -/

/-- The key that a put mutation writes. -/
def putKey : Mutation → Option Key
  | .clusterPut r => some (.cluster r.id)
  | .linkPut r => some (.link r.id)
  | .pathPut r => some (.path r.id)
  | .policyPut r => some (.policy r.id)
  | .contractPut r => some (.contract r.id)
  | .grantPut r => some (.grant r.id)
  | .reservationPut r => some (.reservation r.id)
  | _ => none

lemma change_of_putKey {m : Mutation} {key : Key} (h : putKey m = some key) :
    ∃ record, change m = .put record ∧ record.key = key := by
  cases m <;> first
    | exact ⟨_, rfl, Option.some.inj h⟩
    | cases h

/-- Puts at different keys may change places. -/
lemma store_comm {a b : Record} (hne : a.key ≠ b.key) (registry : Registry) :
    store (store registry a) b = store (store registry b) a := by
  refine ext_find (fun key => ?_) (by simp)
  simp only [find_store]
  by_cases ha : key = a.key
  · have hb : key ≠ b.key := ha ▸ hne
    simp [ha, hne]
  · simp [ha]

lemma effects_perm {ms ms' : List Mutation} (hperm : ms.Perm ms') (hputs : ∀ m ∈ ms, (putKey m).isSome = true)
    (hdistinct : ms.Pairwise fun m m' => putKey m ≠ putKey m') (registry : Registry) :
    effects registry (ms.map change) = effects registry (ms'.map change) := by
  simp only [effects, List.foldl_map]
  refine hperm.foldl_eq' (fun m hm m' hm' r => ?_) registry
  by_cases hsame : m = m'
  · rw [hsame]
  obtain ⟨key, hkey⟩ := Option.isSome_iff_exists.mp (hputs m hm)
  obtain ⟨key', hkey'⟩ := Option.isSome_iff_exists.mp (hputs m' hm')
  obtain ⟨record, hchange, hrecord⟩ := change_of_putKey hkey
  obtain ⟨record', hchange', hrecord'⟩ := change_of_putKey hkey'
  have hsymm : Std.Symm fun m m' : Mutation => putKey m ≠ putKey m' := ⟨fun _ _ => Ne.symm⟩
  have hne : putKey m ≠ putKey m' := hdistinct.forall hm hm' hsame
  rw [hchange, hchange']
  refine store_comm (fun heq => hne ?_) r
  rw [hkey, hkey', ← hrecord, ← hrecord', heq]

/-- A refused mutation leaves the registry as it was; and puts at different keys, applied without an error in two
orders, come to the same registry and the same digest. -/
theorem replay_order_insensitive :
    (∀ (registry after : Registry) (m : Mutation) (status : Status),
      InPlace.applyMutation m registry = (.error status, after) → after = registry) ∧
    ∀ (registry after after' : Registry) (ms ms' : List Mutation), ms.Perm ms' →
      (∀ m ∈ ms, (putKey m).isSome = true) → ms.Pairwise (fun m m' => putKey m ≠ putKey m') →
      forEach ms InPlace.applyMutation registry = (.ok (), after) →
      forEach ms' InPlace.applyMutation registry = (.ok (), after') → after = after' ∧ after.digest = after'.digest := by
  constructor
  · intro registry after m status h
    rw [InPlace.applyMutation_eq] at h
    exact update_error h
  · intro registry after after' ms ms' hperm hputs hdistinct h h'
    rw [forEach_update InPlace.applyMutation_eq, replay_eq_ok] at h h'
    obtain ⟨-, -, rfl⟩ := h
    obtain ⟨-, -, rfl⟩ := h'
    have heq := effects_perm hperm hputs hdistinct registry
    exact ⟨heq, congrArg Registry.digest heq⟩

/-- A policy rule of one domain. -/
def rule (id : Bytes) : PolicyRule := { id, owner := ⟨ascii "north", .inr (by decide)⟩ }

lemma rules_applied {a b : Bytes} (ha : (Record.policy (rule a)).Sound) (hb : (Record.policy (rule b)).Sound) :
    ∃ after, forEach [.policyPut (rule a), .policyPut (rule b)] InPlace.applyMutation {} = (.ok (), after) := by
  refine ⟨_, (forEach_update InPlace.applyMutation_eq).mpr (replay_eq_ok.mpr ⟨?_, ?_, rfl⟩)⟩
  · simp [change, Change.Proper, ha, hb]
  · refine ⟨⟨by simp [Record.needs], .inr ?_⟩, ⟨by simp [Record.needs], .inr ?_⟩, trivial⟩
    · show (∅ : OrdMap Bytes PolicyRule).size < Limits.maxPolicyRules
      decide
    · show ((∅ : OrdMap Bytes PolicyRule).insert (rule a).id (rule a)).size < Limits.maxPolicyRules
      rw [ExtTreeMap.size_insert]
      simp [Limits.maxPolicyRules]

/-- Two rules come to the same registry in both orders. -/
theorem two_rules_in_both_orders :
    ∃ after after', forEach [.policyPut (rule [1]), .policyPut (rule [2])] InPlace.applyMutation {} = (.ok (), after) ∧
      forEach [.policyPut (rule [2]), .policyPut (rule [1])] InPlace.applyMutation {} = (.ok (), after') ∧
      after = after' ∧ after.digest = after'.digest := by
  have hsound (n : UInt8) : (Record.policy (rule [n])).Sound := by
    refine ⟨by simp [rule], by simp [rule, Limits.maxNameLength], ?_⟩
    show ascii "north" ≠ []
    decide
  obtain ⟨after, h⟩ := rules_applied (hsound 1) (hsound 2)
  obtain ⟨after', h'⟩ := rules_applied (hsound 2) (hsound 1)
  exact ⟨after, after', h, h', replay_order_insensitive.2 {} after after' _ _ (.swap _ _ _) (by simp [putKey])
    (by simp [putKey, rule]) h h'⟩

end InterClusterFabric.StoreOrder
