import InterClusterFabric.LibraryOrdMap
import InterClusterFabric.LibrarySearch
import InterClusterFabric.ModelCanonical

/-! The authoritative registry: key-ordered containers with bounded, checked insertion. -/
namespace InterClusterFabric.ModelRegistry
open CoreStatus CoreIds CoreTime CoreHash CoreBytes ModelRecords ModelCanonical
open LibraryChecked LibraryOrdMap LibraryReader LibrarySearch Std

structure Registry where
  clusters : OrdMap ClusterId ClusterRecord := ∅
  links : OrdMap EdgeId LinkRecord := ∅
  paths : OrdMap PathId PathRecord := ∅
  policies : OrdMap Bytes PolicyRule := ∅
  contracts : OrdMap ContractId ContractRecord := ∅
  grants : OrdMap GrantId GrantRecord := ∅
  reservations : OrdMap ReservationId ReservationRecord := ∅
  audit : List AuditRecord := []
deriving Inhabited

/-- A new key is refused once the container is full; a known key is always replaced. -/
def insertBounded {κ β : Type} [Ord κ] [TransOrd κ] (m : OrdMap κ β) (key : κ) (record : β)
    (bound : ℕ) (what : String) : Result (OrdMap κ β) :=
  if key ∉ m ∧ bound ≤ m.size then
    .error (Status.make .capacityExceeded (ascii "too many " ++ ascii what ++ ascii " records"))
  else .ok (m.insert key record)

/-- The two checks of each declared endpoint, in the order of the list. -/
def checkEndpoints (owner : ClusterId) : List EndpointRecord → Result Unit
  | [] => .ok ()
  | endpoint :: rest => do
    rejectIf (endpoint.cluster ≠ owner)
      (Status.invalid "endpoint scope is bound to a different cluster identity")
    rejectIf (endpoint.capacity < endpoint.reserved)
      (Status.make .capacityExceeded (ascii "endpoint reservations exceed declared capacity"))
    checkEndpoints owner rest

namespace Registry

def putCluster (registry : Registry) (record : ClusterRecord) : Result Registry := do
  rejectIf (record.id.isEmpty = true) (Status.invalid "cluster record requires an identity")
  rejectIf (record.domain.isEmpty = true) (Status.invalid "cluster record requires an authority domain")
  rejectIf (Limits.maxEndpointsPerCluster < record.endpoints.length)
    (Status.make .capacityExceeded (ascii "cluster declares too many endpoints"))
  let sorted := sortEndpoints record.endpoints
  checkEndpoints record.id sorted
  rejectIf (hasAdjacentDuplicate sorted = true)
    (Status.make .alreadyExists (ascii "cluster declares a duplicate endpoint identity"))
  let clusters ← insertBounded registry.clusters record.id { record with endpoints := sorted }
    Limits.maxClusters "cluster"
  return { registry with clusters }

def eraseCluster (registry : Registry) (id : ClusterId) : Result Registry := do
  rejectIf (id ∉ registry.clusters) (Status.notFound "cluster is not registered")
  return { registry with clusters := registry.clusters.erase id }

def putLink (registry : Registry) (record : LinkRecord) : Result Registry := do
  rejectIf (record.id.isEmpty = true ∨ record.a.isEmpty = true ∨ record.b.isEmpty = true)
    (Status.invalid "link record requires an identity and two endpoints")
  rejectIf (record.a = record.b) (Status.invalid "a link must join two distinct endpoints")
  rejectIf (record.capacity < record.reserved)
    (Status.make .capacityExceeded (ascii "link reservations exceed declared capacity"))
  let links ← insertBounded registry.links record.id record Limits.maxEdges "link"
  return { registry with links }

def eraseLink (registry : Registry) (id : EdgeId) : Result Registry := do
  rejectIf (id ∉ registry.links) (Status.notFound "link is not registered")
  return { registry with links := registry.links.erase id }

def putPath (registry : Registry) (record : PathRecord) : Result Registry := do
  rejectIf (record.id.isEmpty = true ∨ record.a.isEmpty = true ∨ record.b.isEmpty = true)
    (Status.invalid "path record requires an identity and two endpoints")
  rejectIf (record.hops = []) (Status.invalid "path record requires at least one hop")
  rejectIf (Limits.maxPathHops < record.hops.length)
    (Status.make .capacityExceeded (ascii "path declares too many hops"))
  let paths ← insertBounded registry.paths record.id record Limits.maxPaths "path"
  return { registry with paths }

def erasePath (registry : Registry) (id : PathId) : Result Registry := do
  rejectIf (id ∉ registry.paths) (Status.notFound "path is not registered")
  return { registry with paths := registry.paths.erase id }

def putPolicy (registry : Registry) (rule : PolicyRule) : Result Registry := do
  rejectIf (rule.id = [] ∨ Limits.maxNameLength < rule.id.length)
    (Status.invalid "policy rule requires a bounded identity")
  rejectIf (rule.owner.isEmpty = true)
    (Status.invalid "policy rule requires an owning authority domain")
  let policies ← insertBounded registry.policies rule.id rule Limits.maxPolicyRules "policy"
  return { registry with policies }

def erasePolicy (registry : Registry) (id : Bytes) : Result Registry := do
  rejectIf (id ∉ registry.policies) (Status.notFound "policy rule is not registered")
  return { registry with policies := registry.policies.erase id }

def putContract (registry : Registry) (record : ContractRecord) : Result Registry := do
  rejectIf (record.id.isNil = true) (Status.invalid "contract requires an identity")
  rejectIf (record.parties.first.cluster.isEmpty = true ∨ record.parties.second.cluster.isEmpty = true)
    (Status.invalid "contract requires two cluster identities")
  rejectIf (record.parties.first.cluster = record.parties.second.cluster)
    (Status.invalid "contract must join two distinct clusters")
  rejectIf (Limits.maxCapacity < record.capacity.value)
    (Status.make .overflow (ascii "contract capacity exceeds the maximum"))
  let contracts ← insertBounded registry.contracts record.id record Limits.maxContracts "contract"
  return { registry with contracts }

def eraseContract (registry : Registry) (id : ContractId) : Result Registry := do
  rejectIf (id ∉ registry.contracts) (Status.notFound "contract is not registered")
  return { registry with contracts := registry.contracts.erase id }

def putGrant (registry : Registry) (record : GrantRecord) : Result Registry := do
  rejectIf (record.id.isNil = true) (Status.invalid "grant requires an identity")
  rejectIf (record.contract.isNil = true) (Status.invalid "grant requires a contract")
  rejectIf (Limits.maxCapacity < record.capacity.value)
    (Status.make .overflow (ascii "grant capacity exceeds the maximum"))
  let grants ← insertBounded registry.grants record.id record Limits.maxGrants "grant"
  return { registry with grants }

def eraseGrant (registry : Registry) (id : GrantId) : Result Registry := do
  rejectIf (id ∉ registry.grants) (Status.notFound "grant is not registered")
  return { registry with grants := registry.grants.erase id }

def putReservation (registry : Registry) (record : ReservationRecord) : Result Registry := do
  rejectIf (record.id.isNil = true) (Status.invalid "reservation requires an identity")
  let reservations ←
    insertBounded registry.reservations record.id record Limits.maxReservations "reservation"
  return { registry with reservations }

/-- `audit_.back().sequence.next().value()`. The source throws at the last counter, which a trail
of its own making cannot reach; the counter stays there in the model. -/
def nextSequence (last : AuditRecord) : Sequence := last.sequence.increment

def appendAudit (registry : Registry) (record : AuditRecord) : Result Registry := do
  rejectIf (Limits.maxAuditRecords ≤ registry.audit.length)
    (Status.make .capacityExceeded (ascii "audit trail is at its configured bound"))
  rejectIf (∃ last ∈ registry.audit.getLast?, record.sequence ≠ nextSequence last)
    (Status.invalid "audit sequence is not contiguous")
  return { registry with audit := registry.audit ++ [record] }

end Registry

/-! Path states. -/

/-- What the walk along the hops of a path has seen so far. -/
structure PathScan where
  state : PathState := .up
  bottleneck : CapacityUnits := ⟨0⟩
  first : Bool := true
  unsupported : Bool := false

namespace PathScan

/-- The effect of the state of one supported link. -/
def meet (scan : PathScan) : LinkState → PathScan
  | .down => { scan with state := .down }
  | .unknown => if scan.state = .down then scan else { scan with state := .unknown }
  | .degraded =>
    if scan.state = .down ∨ scan.state = .unknown then scan else { scan with state := .degraded }
  | .unsupported => { scan with unsupported := true, state := .down }
  | .up => scan

def narrow (scan : PathScan) (capacity : CapacityUnits) : PathScan :=
  if scan.first = true ∨ capacity < scan.bottleneck then
    { scan with bottleneck := capacity, first := false }
  else scan

end PathScan

/-- The walk stops at a missing link, at an unsupported one and at the first one that is down. -/
def scanHops (links : OrdMap EdgeId LinkRecord) : List EdgeId → PathScan → PathScan
  | [], scan => scan
  | hop :: rest, scan =>
    match links[hop]? with
    | none => { scan with state := .unknown }
    | some link =>
      if linkKindSupported link.kind = false then { scan with unsupported := true, state := .down }
      else
        let scan := scan.meet link.state
        if scan.state = .down then scan else scanHops links rest (scan.narrow link.capacity)

def recomputePath (links : OrdMap EdgeId LinkRecord) (path : PathRecord) : PathRecord :=
  let scan := scanHops links path.hops {}
  { path with
    containsUnsupportedEdge := scan.unsupported
    bottleneck := if scan.first = true then ⟨0⟩ else scan.bottleneck
    state := scan.state }

def Registry.recomputePathStates (registry : Registry) : Registry :=
  { registry with paths := registry.paths.map fun _ path => recomputePath registry.links path }

/-! Endpoint lookup. -/

/-- The endpoint at the lower bound of the identity, if it carries that identity. -/
def findInEndpoints (endpoints : List EndpointRecord) (id : EndpointId) : Option EndpointRecord :=
  (endpoints[lowerBound (fun record => compare record.id id == .lt) endpoints]?).filter
    fun record => record.id == id

/-- The first cluster, in key order, that declares the endpoint. -/
def resolve (registry : Registry) (id : EndpointId) : Option (EndpointRecord × ClusterRecord) :=
  (values registry.clusters).findSome? fun cluster =>
    (findInEndpoints cluster.endpoints id).map fun endpoint => (endpoint, cluster)

/-- The same search, for the endpoint alone. -/
def Registry.findEndpoint (registry : Registry) (id : EndpointId) : Option EndpointRecord :=
  (values registry.clusters).findSome? fun cluster => findInEndpoints cluster.endpoints id

/-! The canonical encoding of a whole registry. -/

def modelEncodingVersion : ℕ := 1

def encodeAll {κ β : Type} [Ord κ] [TransOrd κ] (encode : β → Bytes) (m : OrdMap κ β) : Bytes :=
  putCount m.size ++ (values m).flatMap encode

def encodeRegistry (registry : Registry) (includeAudit : Bool) : Bytes := List.flatten [
  putU16 modelEncodingVersion,
  putBoolean includeAudit,
  encodeAll encodeCluster registry.clusters,
  encodeAll encodeLink registry.links,
  encodeAll encodePath registry.paths,
  encodeAll encodePolicy registry.policies,
  encodeAll encodeContract registry.contracts,
  encodeAll encodeGrant registry.grants,
  encodeAll encodeReservation registry.reservations,
  if includeAudit then putCount registry.audit.length ++ registry.audit.flatMap encodeAudit else []]

/-- The digest covers exactly the state that can authorize connectivity. -/
def Registry.digest (registry : Registry) : Digest := sha256 (encodeRegistry registry false)

/-- One section of the encoding: a bounded count, then as many records, each inserted as read. -/
def decodeSection {β : Type} (item : ByteReader β) (put : Registry → β → Result Registry)
    (bound : ℕ) (registry : Registry) : ByteReader Registry := do
  let n ← count bound
  readFold item put n registry

/-- The version, the flag and the eight sections. -/
def decodeSections : ByteReader Registry := do
  let version ← u16
  rejectIf (version ≠ modelEncodingVersion)
    (Status.make .incompatible (ascii "model encoding version is not supported"))
  let includeAudit ← boolean
  let registry ← decodeSection decodeCluster Registry.putCluster Limits.maxClusters {}
  let registry ← decodeSection decodeLink Registry.putLink Limits.maxEdges registry
  let registry ← decodeSection decodePath Registry.putPath Limits.maxPaths registry
  let registry ← decodeSection decodePolicy Registry.putPolicy Limits.maxPolicyRules registry
  let registry ← decodeSection decodeContract Registry.putContract Limits.maxContracts registry
  let registry ← decodeSection decodeGrant Registry.putGrant Limits.maxGrants registry
  let registry ← decodeSection decodeReservation Registry.putReservation Limits.maxReservations registry
  if includeAudit then decodeSection decodeAudit Registry.appendAudit Limits.maxAuditRecords registry
  else return registry

def decodeRegistry : ByteReader Registry := do
  let registry ← decodeSections
  expectEnd
  return registry

end InterClusterFabric.ModelRegistry
