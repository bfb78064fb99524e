import InterClusterFabric.EngineDecision

/-! The authorization decision for one directed endpoint pair at one instant. Every early return
of the source is a `throw` of the decision it returns. -/
namespace InterClusterFabric.EngineDecide
open CoreStatus CoreIds CoreTime CoreHash ModelRecords ModelRegistry ModelPolicy EngineDecision
open LibraryChecked LibraryOrdMap

def checkCluster (cluster : ClusterRecord) : Except Refusal Unit := do
  match cluster.state with
  | .unknown =>
    throw (refusal [.resourceUnknown, .clusterUnknown] .unknown "cluster state has not been established")
  | .suspended => throw (refusal [.clusterSuspended] .refused "cluster is administratively suspended")
  | .draining =>
    throw (refusal [.clusterDraining] .refused "cluster is draining and accepts no new connectivity")
  | .retired => throw (refusal [.clusterRetired] .fenced "cluster identity is retired")
  | .active =>
    rejectIf (cluster.generationConflict = true) (refusal [.clusterGenerationConflict] .conflicting
      "two updates claimed the same generation with different contents; the conflict is unresolved")
    rejectIf (cluster.consentWithdrawn = true) (refusal [.clusterConsentWithdrawn] .refused
      "cluster has withdrawn consent for cross-cluster connectivity")

def checkEndpoint (endpoint : EndpointRecord) (isSource : Bool) : Except Refusal Unit := do
  let suspended := if isSource then ReasonCode.sourceEndpointSuspended else .targetEndpointSuspended
  let refused := if isSource then ReasonCode.sourceEndpointRefused else .targetEndpointRefused
  match endpoint.state with
  | .unknown => throw (refusal [.resourceUnknown] .unknown "endpoint state has not been established")
  | .suspended => throw (refusal [suspended] .refused "endpoint scope is administratively suspended")
  | .draining => throw (refusal [suspended] .refused "endpoint scope is draining")
  | .retired => throw (refusal [.resourceUnknown] .fenced "endpoint scope is retired")
  | .active =>
    rejectIf (endpoint.interClusterAllowed = false)
      (refusal [refused] .refused "endpoint scope does not accept inter-cluster connectivity")

/-- One party's consent against the contract and the cluster as it is now. -/
def checkConsent (registry : Registry) (contract : ContractRecord) (side : Side) :
    Except Refusal Unit := do
  let party := contract.parties.get side
  -- the missing consent is the one `bothConsented` has already refused
  let consent ← orReject (contract.consents.get side)
    (refusal [.contractNotConsented] .refused "a party refused the contract")
  rejectIf (consent.decision ≠ .accepted)
    (refusal [.contractNotConsented] .refused "a party refused the contract")
  rejectIf (consent.termsDigest ≠ contract.termsDigest) (refusal [.consentMismatch] .conflicting
    "the recorded consents do not cover identical terms; one side consented to something else")
  let cluster ← orReject registry.clusters[party.cluster]?
    (refusal [.clusterUnknown] .unknown "a contracting cluster is no longer registered")
  rejectIf (consent.cluster ≠ party.cluster ∨ consent.endpoint ≠ party.endpoint)
    (refusal [.consentMismatch] .conflicting "a consent record names a different party than the contract")
  rejectIf (consent.incarnation ≠ cluster.incarnation)
    (refusal [.incarnationMismatch] .stale "a consent was issued by a superseded cluster incarnation")
  rejectIf (consent.generation ≠ cluster.generation)
    (refusal [.generationStale] .stale "a consent was issued at a superseded cluster generation")
  rejectIf (consent.policyGeneration ≠ cluster.policyGeneration)
    (refusal [.policyGenerationStale] .stale "a consent was issued under a superseded policy generation")

def checkConsents (registry : Registry) (contract : ContractRecord) : Except Refusal Unit := do
  rejectIf (contract.state = .refused)
    (refusal [.contractRefused] .refused "one authority domain refused the contract")
  rejectIf (contract.state = .withdrawn)
    (refusal [.contractWithdrawn] .fenced "a party withdrew consent for the contract")
  rejectIf (contract.state = .fenced)
    (refusal [.contractFenced] .fenced "the contract was fenced by a superseding change")
  rejectIf (contract.state = .expired)
    (refusal [.contractExpired] .expired "the contract validity window elapsed")
  rejectIf (contract.bothConsented = false) (refusal [.contractNotConsented] .incomplete
    "both authority domains have not consented to identical terms")
  checkConsent registry contract .first
  checkConsent registry contract .second

/-- The later of two grants: by issue time, then by identity. -/
def laterGrant (selected : Option GrantRecord) (grant : GrantRecord) : Option GrantRecord :=
  match selected with
  | none => some grant
  | some current =>
    if current.issuedAt < grant.issuedAt ∨
        (current.issuedAt = grant.issuedAt ∧ compare current.id grant.id = .lt) then some grant
    else some current

/-- The most recently issued grant of the contract, whatever its state. -/
def selectGrant (registry : Registry) (contract : ContractId) : Option GrantRecord :=
  ((values registry.grants).filter fun grant => grant.contract == contract).foldl laterGrant none

/-- The grant's binding to one of the two clusters as they are now. -/
def checkBinding (registry : Registry) (contract : ContractRecord) (grant : GrantRecord) (side : Side) :
    Except Refusal Unit := do
  let cluster ← orReject registry.clusters[(contract.parties.get side).cluster]?
    (refusal [.clusterUnknown] .unknown "a bound cluster is no longer registered")
  rejectIf (grant.incarnations.get side ≠ cluster.incarnation)
    (refusal [.incarnationMismatch] .fenced "the grant is bound to a superseded cluster incarnation")
  rejectIf (grant.generations.get side ≠ cluster.generation)
    (refusal [.generationStale] .stale "the grant is bound to a superseded cluster generation")
  rejectIf (grant.policies.get side ≠ cluster.policyGeneration)
    (refusal [.policyGenerationStale] .stale "the grant is bound to a superseded policy generation")

def checkGrantState (grant : GrantRecord) : Except Refusal Unit :=
  match grant.state with
  | .preparing | .prepared =>
    throw (refusal [.grantNotCommitted] .incomplete "the grant has not been committed by both parties")
  | .indeterminate => throw (refusal [.grantIndeterminate] .indeterminate
      "the grant commit acknowledgement is unresolved; the grant is not usable")
  | .aborted | .fenced | .withdrawn =>
    throw (refusal [.grantFenced] .fenced "the grant was fenced or aborted")
  | .expired => throw (refusal [.grantExpired] .expired "the grant validity window elapsed")
  | .committed | .active => pure ()

def checkSelectedGrant (registry : Registry) (contract : ContractRecord) (query : DecisionQuery)
    (view : EngineView) (grant : GrantRecord) : Except Refusal Unit := do
  checkGrantState grant
  rejectIf (grant.bothAcknowledged = false)
    (refusal [.grantNotAcknowledged] .incomplete "a party has not acknowledged the committed grant")
  rejectIf (grant.coordinatorTerm ≠ view.term ∨ grant.coordinator ≠ view.incarnation)
    (refusal [.grantTermMismatch] .fenced "the grant was issued under a superseded coordinator term")
  rejectIf (grant.termsDigest ≠ contract.termsDigest)
    (refusal [.consentMismatch] .conflicting "the grant does not cover the contract terms it names")
  checkBinding registry contract grant .first
  checkBinding registry contract grant .second
  rejectIf (grant.validUntil < view.now)
    (refusal [.grantExpired] .expired "the grant validity window elapsed")
  rejectIf (grant.capacity < query.requestedCapacity) (refusal [.grantCapacityExceeded] .capacityExceeded
    "the requested capacity exceeds the granted capacity")

/-- What the walk over the registered paths has seen. -/
structure PathTally where
  sawUp : Bool := false
  sawDegraded : Bool := false
  sawUnknown : Bool := false
  sawUnsupported : Bool := false
  paths : List PathId := []
  edges : List EdgeId := []

namespace PathTally

/-- The first few usable paths and the distinct edges they cross. -/
def record (tally : PathTally) (path : PathRecord) : PathTally :=
  if tally.paths.length < Limits.maxDecisionPaths then
    { tally with
      paths := tally.paths ++ [path.id]
      edges := path.hops.foldl (fun edges hop => if hop ∈ edges then edges else edges ++ [hop]) tally.edges }
  else tally

def add (tally : PathTally) (path : PathRecord) : PathTally :=
  if path.containsUnsupportedEdge then { tally with sawUnsupported := true }
  else
    match path.state with
    | .up => ({ tally with sawUp := true }).record path
    | .degraded => { tally with sawDegraded := true }
    | .unknown => { tally with sawUnknown := true }
    | .down => tally

end PathTally

structure PathEvaluation where
  degraded : Bool
  paths : List PathId
  edges : List EdgeId

def evaluatePaths (registry : Registry) (source target : EndpointId) : Except Status PathEvaluation :=
  let tally := ((values registry.paths).filter fun path => path.joins source target).foldl PathTally.add {}
  if tally.sawUp then .ok ⟨false, tally.paths, tally.edges⟩
  else if tally.sawDegraded then .ok ⟨true, tally.paths, tally.edges⟩
  else if tally.sawUnknown then .error (Status.make .unknown (ascii "path state has not been established"))
  else if tally.sawUnsupported then
    .error (Status.make .unsupported
      (ascii "every registered path uses a link kind this runtime does not drive"))
  else .error (Status.make .partitioned (ascii "every registered path is down"))

def pathRefusal (status : Status) : Refusal :=
  match status.outcome with
  | .partitioned => ⟨[.pathAbsent], status⟩
  | .unknown => ⟨[.linkUnknown], status⟩
  | .unsupported => ⟨[.pathUnsupported], status⟩
  | _ => ⟨[.pathDown], status⟩

def checkPolicy (policy : PolicyEvaluation) : Except Refusal Unit :=
  match policy.decision with
  | .refusedExplicitly => throw ⟨[.policyRefused], Status.make .refused
      (ascii "an authority domain explicitly refuses this pair: " ++ policy.detail)⟩
  | .missingAllowRule => throw ⟨[.policyMissingAllow], Status.make .unauthorized
      (ascii "no allow rule covers this pair from every authority domain: " ++ policy.detail)⟩
  | .staleGeneration => throw (refusal [.policyStaleGeneration] .stale
      "matching policy rules belong to a superseded policy generation")
  | .unsupported => throw ⟨[.resourceUnsupported], Status.make .unsupported policy.detail⟩
  | .allowed => pure ()

/-- A failed check ends the decision. -/
def gate {α : Type} (decision : Decision) : Except Refusal α → Except Decision α
  | .ok a => .ok a
  | .error r => .error (decision.refuse r)

/-- The trial of one contract: its consents, then its selected grant. -/
def tryCandidate (registry : Registry) (query : DecisionQuery) (view : EngineView) (decision : Decision)
    (candidate : ContractRecord) : Except Decision Decision := do
  let trial := { decision with contract := candidate.id, termsDigest := candidate.termsDigest }
  gate trial (checkConsents registry candidate)
  let trial := trial.addReason .authoritySatisfied
  let grant ← orReject (selectGrant registry candidate.id)
    (trial.refuse (refusal [.noGrant] .incomplete "no grant has been issued for this contract"))
  let trial := { trial with
    grant := grant.id, capacity := grant.capacity, termsDigest := grant.termsDigest }
  gate trial (checkSelectedGrant registry candidate query view grant)
  return trial

/-- Candidates are tried in order; when none succeeds the first failure is the answer. -/
def tryCandidates (registry : Registry) (query : DecisionQuery) (view : EngineView) (decision : Decision) :
    List ContractRecord → Option Decision → Except Decision Decision
  | [], some failure => .error failure
  | [], none => .error (decision.refuse (refusal [.evidenceIncomplete] .indeterminate
      "no contract could be evaluated for this endpoint pair"))
  | candidate :: rest, bestFailure =>
    match tryCandidate registry query view decision candidate with
    | .ok trial => .ok trial
    | .error failure => tryCandidates registry query view decision rest (bestFailure <|> some failure)

/-- Most recently updated first, then by identity. -/
def candidateLe (a b : ContractRecord) : Prop :=
  b.updatedAt < a.updatedAt ∨ (a.updatedAt = b.updatedAt ∧ compare a.id b.id ≠ .gt)

instance : DecidableRel candidateLe := fun a b =>
  inferInstanceAs (Decidable
    (b.updatedAt < a.updatedAt ∨ (a.updatedAt = b.updatedAt ∧ compare a.id b.id ≠ .gt)))

def candidates (registry : Registry) (query : DecisionQuery) : List ContractRecord :=
  ((values registry.contracts).filter fun contract => contract.joins query.source query.target).insertionSort
    candidateLe

/-- A degraded path is used only if the caller, the policy and both endpoints permit it. -/
def degradedPermitted (query : DecisionQuery) (policy : PolicyEvaluation)
    (source target : EndpointRecord) : Bool :=
  query.allowDegraded && policy.allowDegraded && source.permitsDegraded && target.permitsDegraded

/-- What the checks before the contracts leave behind. -/
structure Cleared where
  decision : Decision
  source : EndpointRecord × ClusterRecord
  target : EndpointRecord × ClusterRecord
  policy : PolicyEvaluation
  paths : PathEvaluation

def initialDecision (registry : Registry) (view : EngineView) : Decision :=
  { decidedAt := view.now, term := view.term, coordinator := view.incarnation,
    viewDigest := registry.digest }

/-- Every check before the contract loop, in order. -/
def clear (registry : Registry) (query : DecisionQuery) (view : EngineView) : Except Decision Cleared := do
  let decision := initialDecision registry view
  let source ← orReject (resolve registry query.source)
    (decision.refuse (refusal [.sourceEndpointNotRegistered] .notFound
      "source endpoint is not registered"))
  let target ← orReject (resolve registry query.target)
    (decision.refuse (refusal [.targetEndpointNotRegistered] .notFound
      "target endpoint is not registered"))
  rejectIf (query.source = query.target) (decision.refuse (refusal [.endpointsAreIdentical] .invalid
    "source and target endpoint are the same scope"))
  let decision := { decision with authorities := ⟨source.2.domain, target.2.domain⟩ }
  gate decision (checkCluster source.2)
  gate decision (checkCluster target.2)
  gate decision (checkEndpoint source.1 true)
  gate decision (checkEndpoint target.1 false)
  rejectIf (query.expectSourceGeneration = true ∧ query.sourceGeneration ≠ source.2.generation)
    (decision.refuse (refusal [.generationStale] .stale
      "the source cluster generation does not match the caller's expectation"))
  rejectIf (query.expectTargetGeneration = true ∧ query.targetGeneration ≠ target.2.generation)
    (decision.refuse (refusal [.generationStale] .stale
      "the target cluster generation does not match the caller's expectation"))
  let policy := evaluatePolicy registry source.2 target.2 query.source query.target
  gate decision (checkPolicy policy)
  let decision := decision.addReason .policyAllowed
  let paths ← gate decision ((evaluatePaths registry query.source query.target).mapError pathRefusal)
  return ⟨decision, source, target, policy, paths⟩

/-- The verdict once a contract has been found. -/
def conclude (query : DecisionQuery) (cleared : Cleared) (trial : Decision) : Except Decision Decision :=
  let decision := { trial with
    paths := cleared.paths.paths, edges := cleared.paths.edges, degraded := cleared.paths.degraded }
  if cleared.paths.degraded then
    if degradedPermitted query cleared.policy cleared.source.1 cleared.target.1 = false then
      throw (decision.refuse (refusal [.pathNotPermittedDegraded] .unauthorized
        "only a degraded path exists and degraded connectivity is not permitted for this pair"))
    else
      return (decision.addReason .pathDegraded).finish .degradedAuthorized (ascii
        "authorized, but only over a degraded path; the authorization is not a healthy-path grant")
  else return decision.finish .ok (ascii "connectivity is authorized by both authority domains")

def decideChecked (registry : Registry) (query : DecisionQuery) (view : EngineView) :
    Except Decision Decision := do
  let cleared ← clear registry query view
  let candidates := candidates registry query
  rejectIf (candidates = []) (cleared.decision.refuse (refusal [.noContract] .unauthorized
    "no connectivity contract covers this endpoint pair"))
  let trial ← tryCandidates registry query view cleared.decision candidates none
  conclude query cleared trial

def decide (registry : Registry) (query : DecisionQuery) (view : EngineView) : Decision :=
  match decideChecked registry query view with
  | .ok decision => decision
  | .error decision => decision

end InterClusterFabric.EngineDecide
