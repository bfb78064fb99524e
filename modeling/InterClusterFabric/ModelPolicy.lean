import InterClusterFabric.ModelRegistry

/-! Two-domain policy evaluation: deny by default, an explicit allow from each domain, and a refuse
from either wins. -/
namespace InterClusterFabric.ModelPolicy
open CoreStatus CoreIds ModelRecords ModelRegistry LibraryOrdMap

inductive PolicyDecision
  | allowed | refusedExplicitly | missingAllowRule | staleGeneration | unsupported
deriving DecidableEq, Repr, Inhabited

structure PolicyEvaluation where
  decision : PolicyDecision := .missingAllowRule
  ruleIds : List Bytes := []
  missingDomains : List AuthorityDomainId := []
  refusingDomains : List AuthorityDomainId := []
  allowDegraded : Bool := false
  maxCapacity : CapacityUnits := ⟨0⟩
  detail : Bytes := []
deriving Inhabited

/-- What the matching rules of one domain say together. -/
structure DomainRules where
  hasAllow : Bool := false
  hasRefuse : Bool := false
  allowDegraded : Bool := true
  maxCapacity : CapacityUnits := ⟨0⟩
  hasCapacityLimit : Bool := false
  stale : Bool := false
  allowIds : List Bytes := []
  refuseIds : List Bytes := []
deriving Inhabited

/-- An allow rule narrows the capacity when its own limit is set. -/
def DomainRules.limit (target : DomainRules) (cap : CapacityUnits) : DomainRules :=
  if cap.value ≠ 0 ∧ (target.hasCapacityLimit = false ∨ cap < target.maxCapacity) then
    { target with maxCapacity := cap, hasCapacityLimit := true }
  else target

def absorb (target : DomainRules) (rule : PolicyRule) (generationCurrent : Bool) : DomainRules :=
  if generationCurrent = false then { target with stale := true }
  else if rule.allow = false then
    { target with hasRefuse := true, refuseIds := target.refuseIds ++ [rule.id] }
  else
    DomainRules.limit
      { target with
        hasAllow := true
        allowIds := target.allowIds ++ [rule.id]
        allowDegraded := target.allowDegraded && rule.allowDegraded } rule.maxCapacity

/-- A rule speaks for the policy generation of the cluster its owner governs; a rule that names no
cluster is never stale. -/
def generationCurrent (rule : PolicyRule) (source target : ClusterRecord) : Bool :=
  !(rule.owner == source.domain && !rule.clusterA.isEmpty && rule.clusterA == source.id &&
      rule.generation != source.policyGeneration) &&
    !(rule.owner == target.domain && !rule.clusterB.isEmpty && rule.clusterB == target.id &&
      rule.generation != target.policyGeneration)

/-- The rules of the two domains that match the pair. -/
def applicable (source target : ClusterRecord) (endpointA endpointB : EndpointId) (rule : PolicyRule) :
    Bool :=
  (rule.owner == source.domain || rule.owner == target.domain) &&
    rule.matchesPair source.id target.id endpointA endpointB

def collectRules (registry : Registry) (source target : ClusterRecord) (endpointA endpointB : EndpointId) :
    OrdMap AuthorityDomainId DomainRules :=
  (values registry.policies).foldl
    (fun perDomain rule =>
      if applicable source target endpointA endpointB rule then
        perDomain.insert rule.owner
          (absorb (perDomain.getD rule.owner {}) rule (generationCurrent rule source target))
      else perDomain)
    (((∅ : OrdMap AuthorityDomainId DomainRules).insert source.domain {}).insert target.domain {})

/-- The running result over the domains, with whether any of them refuses or is only stale. -/
structure PolicyTally where
  result : PolicyEvaluation := { allowDegraded := true }
  anyRefuse : Bool := false
  anyStale : Bool := false

namespace PolicyTally

def addRefusals (tally : PolicyTally) (domain : AuthorityDomainId) (rules : DomainRules) : PolicyTally :=
  if rules.hasRefuse then
    { tally with
      anyRefuse := true
      result := { tally.result with
        refusingDomains := tally.result.refusingDomains ++ [domain]
        ruleIds := tally.result.ruleIds ++ rules.refuseIds } }
  else tally

def addAllows (tally : PolicyTally) (domain : AuthorityDomainId) (rules : DomainRules) : PolicyTally :=
  if rules.hasAllow = false then
    { tally with
      anyStale := tally.anyStale || rules.stale
      result := { tally.result with missingDomains := tally.result.missingDomains ++ [domain] } }
  else
    { tally with
      result := { tally.result with
        allowDegraded := tally.result.allowDegraded && rules.allowDegraded
        maxCapacity :=
          if rules.hasCapacityLimit = true ∧
              (tally.result.maxCapacity.value = 0 ∨ rules.maxCapacity < tally.result.maxCapacity) then
            rules.maxCapacity
          else tally.result.maxCapacity
        ruleIds := tally.result.ruleIds ++ rules.allowIds } }

def add (tally : PolicyTally) (entry : AuthorityDomainId × DomainRules) : PolicyTally :=
  (tally.addRefusals entry.1 entry.2).addAllows entry.1 entry.2

/-- The verdict and its detail. -/
def conclude (tally : PolicyTally) : PolicyDecision × Bytes :=
  if tally.anyRefuse then
    (.refusedExplicitly,
      ascii "an explicit refuse rule from at least one authority domain covers this pair")
  else if tally.result.missingDomains ≠ [] then
    if tally.anyStale then
      (.staleGeneration, ascii "only rules bound to a superseded policy generation match this pair")
    else (.missingAllowRule, ascii "no allow rule covers this pair from every authority domain")
  else (.allowed, ascii "both authority domains explicitly allow this pair")

end PolicyTally

def textLe (a b : Bytes) : Prop := compare a b ≠ .gt

instance : DecidableRel textLe := fun a b => inferInstanceAs (Decidable (compare a b ≠ .gt))

def evaluatePolicy (registry : Registry) (source target : ClusterRecord)
    (endpointA endpointB : EndpointId) : PolicyEvaluation :=
  let tally := (collectRules registry source target endpointA endpointB).toList.foldl PolicyTally.add {}
  { tally.result with
    decision := tally.conclude.1
    detail := tally.conclude.2
    ruleIds := (tally.result.ruleIds.insertionSort textLe).destutter (· ≠ ·) }

end InterClusterFabric.ModelPolicy
