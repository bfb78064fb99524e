import InterClusterFabric.ModelPaths
import InterClusterFabric.ModelPolicy

/-! The evaluation of policy against its declarative reading. One pass sums up the matching rules of each
domain, a second one combines the sums; both are folds, so each is described by what one rule, or one domain,
adds to it. -/
namespace InterClusterFabric.ModelPolicyLaws
open CoreStatus CoreIds ModelRecords ModelRegistry ModelPolicy ModelPaths LibraryLeast LibraryOrdMap

/-! The rules of one domain. -/

/-- The limit that the rules of a domain set. -/
def limitOf (rules : DomainRules) : Option CapacityUnits :=
  if rules.hasCapacityLimit = true then some rules.maxCapacity else none

/-- The limits set by some rules: a maximum of zero sets none. -/
def SetLimit (P : PolicyRule → Prop) (capacity : CapacityUnits) : Prop :=
  capacity.value ≠ 0 ∧ ∃ rule, P rule ∧ rule.maxCapacity = capacity

/-- What has been absorbed from the rules of one domain. -/
structure Sums (current : PolicyRule → Bool) (P : PolicyRule → Prop) (rules : DomainRules) : Prop where
  allow : rules.hasAllow = true ↔ ∃ rule, P rule ∧ current rule = true ∧ rule.allow = true
  refuse : rules.hasRefuse = true ↔ ∃ rule, P rule ∧ current rule = true ∧ rule.allow = false
  stale : rules.stale = true ↔ ∃ rule, P rule ∧ current rule = false
  degraded : rules.allowDegraded = true ↔
    ∀ rule, P rule → current rule = true → rule.allow = true → rule.allowDegraded = true
  capacity : Least units (SetLimit fun rule => P rule ∧ current rule = true ∧ rule.allow = true) (limitOf rules)
  unlimited : rules.hasCapacityLimit = false → rules.maxCapacity = ⟨0⟩

section Absorb

variable {current : PolicyRule → Bool} {P Q : PolicyRule → Prop} {rules : DomainRules}

lemma Sums.congr (h : Sums current P rules) (hPQ : ∀ rule, P rule ↔ Q rule) : Sums current Q rules := by
  have hsame : P = Q := funext fun rule => propext (hPQ rule)
  rwa [← hsame]

lemma Sums.empty (h : ∀ rule, ¬P rule) : Sums current P {} where
  allow := by simp [h]
  refuse := by simp [h]
  stale := by simp [h]
  degraded := by simp [h]
  capacity := .empty fun _ hc => by
    obtain ⟨-, rule, ⟨hP, -⟩, -⟩ := hc
    exact h rule hP
  unlimited _ := rfl

lemma limitOf_limit (rules : DomainRules) (cap : CapacityUnits) :
    limitOf (rules.limit cap) = if cap.value = 0 then limitOf rules else keepLeast units (limitOf rules) cap := by
  unfold DomainRules.limit limitOf
  by_cases hzero : cap.value = 0
  · simp [hzero]
  · by_cases hlimit : rules.hasCapacityLimit = true
    · by_cases hlt : cap < rules.maxCapacity
      · simp [hzero, hlimit, hlt, keepLeast, units, Counter.lt_iff.mp hlt]
      · simp [hzero, hlimit, hlt, keepLeast, units, mt Counter.lt_iff.mpr hlt]
    · simp [hzero, hlimit, keepLeast]

lemma limit_unlimited {rules : DomainRules} {cap : CapacityUnits}
    (h : rules.hasCapacityLimit = false → rules.maxCapacity = ⟨0⟩) :
    (rules.limit cap).hasCapacityLimit = false → (rules.limit cap).maxCapacity = ⟨0⟩ := by
  unfold DomainRules.limit
  split
  · intro hlimit
    cases hlimit
  · exact h

/-- A limit changes the capacity of the domain and nothing else. -/
lemma limit_frame (rules : DomainRules) (cap : CapacityUnits) :
    (rules.limit cap).hasAllow = rules.hasAllow ∧ (rules.limit cap).hasRefuse = rules.hasRefuse ∧
      (rules.limit cap).stale = rules.stale ∧ (rules.limit cap).allowDegraded = rules.allowDegraded := by
  unfold DomainRules.limit
  split <;> exact ⟨rfl, rfl, rfl, rfl⟩

/-- The limits after one more allow rule. -/
lemma least_limit {cell : Option CapacityUnits} (h : Least units (SetLimit P) cell) (rule : PolicyRule) :
    Least units (SetLimit fun r => P r ∨ r = rule)
      (if rule.maxCapacity.value = 0 then cell else keepLeast units cell rule.maxCapacity) := by
  split
  · rename_i hzero
    refine h.congr fun c => ⟨?_, ?_⟩
    · rintro ⟨hne, r, hP, hc⟩
      exact ⟨hne, r, .inl hP, hc⟩
    · rintro ⟨hne, r, hP | rfl, rfl⟩
      · exact ⟨hne, r, hP, rfl⟩
      · exact absurd hzero hne
  · rename_i hne
    refine (h.keep rule.maxCapacity).congr fun c => ⟨?_, ?_⟩
    · rintro (⟨hc, r, hP, rfl⟩ | rfl)
      · exact ⟨hc, r, .inl hP, rfl⟩
      · exact ⟨hne, rule, .inr rfl, rfl⟩
    · rintro ⟨hc, r, hP | rfl, rfl⟩
      · exact .inl ⟨hc, r, hP, rfl⟩
      · exact .inr rfl

/-- What one rule adds: a stale one its staleness, a refusal its refusal, and an allow all the rest. -/
lemma Sums.absorb (h : Sums current P rules) (rule : PolicyRule) :
    Sums current (fun r => P r ∨ r = rule) (ModelPolicy.absorb rules rule (current rule)) := by
  have hlimits (hcurrent : ¬(current rule = true ∧ rule.allow = true)) :
      Least units (SetLimit fun r => (P r ∨ r = rule) ∧ current r = true ∧ r.allow = true) (limitOf rules) := by
    have hsame : ∀ r, (P r ∧ current r = true ∧ r.allow = true) ↔
        (P r ∨ r = rule) ∧ current r = true ∧ r.allow = true := by
      intro r
      by_cases hr : r = rule
      · simp [hr, hcurrent]
      · simp [hr]
    simpa only [SetLimit, hsame] using h.capacity
  cases hcurrent : current rule with
  | false =>
    simp only [ModelPolicy.absorb, if_true]
    exact
      { allow := by simp [h.allow, or_and_right, exists_or, hcurrent]
        refuse := by simp [h.refuse, or_and_right, exists_or, hcurrent]
        stale := by simp [or_and_right, exists_or, hcurrent]
        degraded := by simp [h.degraded, or_imp, forall_and, hcurrent]
        capacity := hlimits (by simp [hcurrent])
        unlimited := h.unlimited }
  | true =>
    cases hallow : rule.allow with
    | false =>
      simp only [ModelPolicy.absorb, hallow, Bool.true_eq_false, if_false, if_true]
      exact
        { allow := by simp [h.allow, or_and_right, exists_or, hallow]
          refuse := by simp [or_and_right, exists_or, hcurrent, hallow]
          stale := by simp [h.stale, or_and_right, exists_or, hcurrent]
          degraded := by simp [h.degraded, or_imp, forall_and, hallow]
          capacity := hlimits (by simp [hallow])
          unlimited := h.unlimited }
    | true =>
      simp only [ModelPolicy.absorb, hallow, Bool.true_eq_false, if_false]
      obtain ⟨hframe, hrefuse, hstale, hdegraded⟩ := limit_frame
        { rules with
          hasAllow := true
          allowIds := rules.allowIds ++ [rule.id]
          allowDegraded := rules.allowDegraded && rule.allowDegraded } rule.maxCapacity
      refine ⟨?_, ?_, ?_, ?_, ?_, limit_unlimited h.unlimited⟩
      · rw [hframe]
        simp [or_and_right, exists_or, hcurrent, hallow]
      · rw [hrefuse]
        simp [h.refuse, or_and_right, exists_or, hallow]
      · rw [hstale]
        simp [h.stale, or_and_right, exists_or, hcurrent]
      · rw [hdegraded]
        simp [h.degraded, or_imp, forall_and, hcurrent, hallow]
      · rw [limitOf_limit]
        have hleast := least_limit h.capacity rule
        refine hleast.congr fun c => ?_
        have hsame : ∀ r, (P r ∧ current r = true ∧ r.allow = true) ∨ r = rule ↔
            (P r ∨ r = rule) ∧ current r = true ∧ r.allow = true := by
          intro r
          by_cases hr : r = rule
          · simp [hr, hcurrent, hallow]
          · simp [hr]
        simp only [SetLimit, hsame]

end Absorb

/-! The domains. -/

/-- The map of sums, for the rules seen so far. -/
structure Collected (source target : ClusterRecord) (P : PolicyRule → Prop)
    (perDomain : OrdMap AuthorityDomainId DomainRules) : Prop where
  domains : ∀ domain, domain ∈ perDomain ↔ domain = source.domain ∨ domain = target.domain
  sums : ∀ domain rules, perDomain[domain]? = some rules →
    Sums (generationCurrent · source target) (fun rule => P rule ∧ rule.owner = domain) rules

section Collect

variable {source target : ClusterRecord} {P : PolicyRule → Prop} {perDomain : OrdMap AuthorityDomainId DomainRules}

lemma Collected.congr {Q : PolicyRule → Prop} (h : Collected source target P perDomain)
    (hPQ : ∀ rule, P rule ↔ Q rule) : Collected source target Q perDomain := by
  have hsame : P = Q := funext fun rule => propext (hPQ rule)
  rwa [← hsame]

lemma collected_start (source target : ClusterRecord) : Collected source target (fun _ => False)
    (((∅ : OrdMap AuthorityDomainId DomainRules).insert source.domain {}).insert target.domain {}) where
  domains domain := by
    rw [Std.ExtTreeMap.mem_insert, Std.ExtTreeMap.mem_insert, compare_eq_iff, compare_eq_iff]
    simp [eq_comm, or_comm]
  sums domain rules hfind := by
    rw [getElem?_insert_eq, getElem?_insert_eq] at hfind
    have hrules : rules = {} := by
      split at hfind
      · exact (Option.some.inj hfind).symm
      · split at hfind
        · exact (Option.some.inj hfind).symm
        · simp at hfind
    rw [hrules]
    exact .empty fun _ h => h.1

/-- A rule of one of the two domains goes into the sum of its owner. -/
lemma Collected.absorb (h : Collected source target P perDomain) {rule : PolicyRule}
    (howner : rule.owner = source.domain ∨ rule.owner = target.domain) :
    Collected source target (fun r => P r ∨ r = rule) (perDomain.insert rule.owner
      (ModelPolicy.absorb (perDomain.getD rule.owner {}) rule (generationCurrent rule source target))) where
  domains domain := by
    rw [Std.ExtTreeMap.mem_insert, compare_eq_iff, h.domains]
    constructor
    · rintro (rfl | hmem)
      · exact howner
      · exact hmem
    · exact .inr
  sums domain rules hfind := by
    rw [getElem?_insert_eq] at hfind
    split at hfind
    · rename_i hsame
      rw [hsame, ← Option.some.inj hfind]
      obtain ⟨start, hstart⟩ : ∃ start, perDomain[rule.owner]? = some start :=
        Option.isSome_iff_exists.mp (Std.ExtTreeMap.isSome_getElem?_iff_mem.mpr ((h.domains _).mpr howner))
      have hget : perDomain.getD rule.owner {} = start := by
        rw [Std.ExtTreeMap.getD_eq_getD_getElem?, hstart]
        rfl
      rw [hget]
      refine ((h.sums _ _ hstart).absorb rule).congr fun r => ⟨?_, ?_⟩
      · rintro (⟨hP, howns⟩ | rfl)
        · exact ⟨.inl hP, howns⟩
        · exact ⟨.inr rfl, rfl⟩
      · rintro ⟨hP | rfl, howns⟩
        · exact .inl ⟨hP, howns⟩
        · exact .inr rfl
    · rename_i hother
      refine (h.sums _ _ hfind).congr fun r => ⟨fun hr => ⟨.inl hr.1, hr.2⟩, ?_⟩
      rintro ⟨hP | rfl, howns⟩
      · exact ⟨hP, howns⟩
      · exact absurd howns.symm hother

end Collect

/-- A rule that the evaluation for a pair takes into account: registered, of one of the two domains, and
matching. -/
structure Relevant (registry : Registry) (source target : ClusterRecord) (endpointA endpointB : EndpointId)
    (rule : PolicyRule) : Prop where
  registered : rule ∈ values registry.policies
  owned : rule.owner = source.domain ∨ rule.owner = target.domain
  matched : rule.matchesPair source.id target.id endpointA endpointB = true

lemma applicable_iff {source target : ClusterRecord} {endpointA endpointB : EndpointId} {rule : PolicyRule} :
    applicable source target endpointA endpointB rule = true ↔
      (rule.owner = source.domain ∨ rule.owner = target.domain) ∧
        rule.matchesPair source.id target.id endpointA endpointB = true := by
  simp [applicable]

/-- The first pass: the sums are those of the relevant rules. -/
lemma collectRules_collected (registry : Registry) (source target : ClusterRecord)
    (endpointA endpointB : EndpointId) :
    Collected source target (Relevant registry source target endpointA endpointB)
      (collectRules registry source target endpointA endpointB) := by
  have hfold : ∀ (rules : List PolicyRule) (P : PolicyRule → Prop)
      (perDomain : OrdMap AuthorityDomainId DomainRules), Collected source target P perDomain →
      Collected source target
        (fun r => P r ∨ r ∈ rules ∧ applicable source target endpointA endpointB r = true)
        (rules.foldl (fun perDomain rule =>
          if applicable source target endpointA endpointB rule then
            perDomain.insert rule.owner
              (ModelPolicy.absorb (perDomain.getD rule.owner {}) rule (generationCurrent rule source target))
          else perDomain) perDomain) := by
    intro rules
    induction rules with
    | nil => exact fun P perDomain h => h.congr fun r => by simp
    | cons rule rest ih =>
      intro P perDomain h
      rw [List.foldl_cons]
      by_cases happlies : applicable source target endpointA endpointB rule = true
      · rw [if_pos happlies]
        refine (ih _ _ (h.absorb (applicable_iff.mp happlies).1)).congr fun r => ?_
        by_cases hr : r = rule
        · simp [hr, happlies]
        · simp [hr]
      · rw [if_neg happlies]
        refine (ih _ _ h).congr fun r => ?_
        by_cases hr : r = rule
        · simp [hr, happlies]
        · simp [hr]
  refine (hfold _ _ _ (collected_start source target)).congr fun r => ?_
  rw [false_or, applicable_iff]
  exact ⟨fun ⟨hmem, howned, hmatched⟩ => ⟨hmem, howned, hmatched⟩,
    fun h => ⟨h.registered, h.owned, h.matched⟩⟩

/-! The second pass. -/

/-- The limit that the result carries: zero stands for none. -/
def ceilingOf (result : PolicyEvaluation) : Option CapacityUnits :=
  if result.maxCapacity.value = 0 then none else some result.maxCapacity

section Tally

variable {tally : PolicyTally}

lemma add_anyRefuse (tally : PolicyTally) (entry : AuthorityDomainId × DomainRules) :
    (tally.add entry).anyRefuse = (tally.anyRefuse || entry.2.hasRefuse) := by
  cases hrefuse : entry.2.hasRefuse <;> cases hallow : entry.2.hasAllow <;>
    simp [PolicyTally.add, PolicyTally.addRefusals, PolicyTally.addAllows, hrefuse, hallow]

lemma add_anyStale (tally : PolicyTally) (entry : AuthorityDomainId × DomainRules) :
    (tally.add entry).anyStale = (tally.anyStale || (!entry.2.hasAllow && entry.2.stale)) := by
  cases hrefuse : entry.2.hasRefuse <;> cases hallow : entry.2.hasAllow <;>
    simp [PolicyTally.add, PolicyTally.addRefusals, PolicyTally.addAllows, hrefuse, hallow]

lemma add_missingDomains (tally : PolicyTally) (entry : AuthorityDomainId × DomainRules) :
    (tally.add entry).result.missingDomains =
      tally.result.missingDomains ++ if entry.2.hasAllow = true then [] else [entry.1] := by
  cases hrefuse : entry.2.hasRefuse <;> cases hallow : entry.2.hasAllow <;>
    simp [PolicyTally.add, PolicyTally.addRefusals, PolicyTally.addAllows, hrefuse, hallow]

lemma add_allowDegraded (tally : PolicyTally) (entry : AuthorityDomainId × DomainRules) :
    (tally.add entry).result.allowDegraded =
      (tally.result.allowDegraded && (!entry.2.hasAllow || entry.2.allowDegraded)) := by
  cases hrefuse : entry.2.hasRefuse <;> cases hallow : entry.2.hasAllow <;>
    simp [PolicyTally.add, PolicyTally.addRefusals, PolicyTally.addAllows, hrefuse, hallow]

/-- A domain with an allow rule lowers the ceiling to its own limit. -/
lemma add_ceiling (tally : PolicyTally) (entry : AuthorityDomainId × DomainRules)
    (hset : ∀ capacity, limitOf entry.2 = some capacity → capacity.value ≠ 0) :
    ceilingOf (tally.add entry).result =
      if entry.2.hasAllow = true then mergeLeast units (ceilingOf tally.result) (limitOf entry.2)
      else ceilingOf tally.result := by
  have hrefusals : (tally.addRefusals entry.1 entry.2).result.maxCapacity = tally.result.maxCapacity := by
    unfold PolicyTally.addRefusals
    split <;> rfl
  unfold PolicyTally.add PolicyTally.addAllows
  cases hallow : entry.2.hasAllow with
  | false => simp [ceilingOf, hrefusals]
  | true =>
    simp only [Bool.true_eq_false, if_false, if_true, ceilingOf, hrefusals]
    cases hlimit : entry.2.hasCapacityLimit with
    | false => simp [limitOf, hlimit, mergeLeast]
    | true =>
      have hne := hset entry.2.maxCapacity (by simp [limitOf, hlimit])
      by_cases hzero : tally.result.maxCapacity.value = 0
      · simp [limitOf, hlimit, mergeLeast, keepLeast, hzero, hne]
      · by_cases hlt : entry.2.maxCapacity < tally.result.maxCapacity
        · simp [limitOf, hlimit, mergeLeast, keepLeast, hzero, hne, hlt, units, Counter.lt_iff.mp hlt]
        · simp [limitOf, hlimit, mergeLeast, keepLeast, hzero, hlt, units, mt Counter.lt_iff.mpr hlt]

/-- What the second pass has made of a list of domains. -/
structure Tallied (entries : List (AuthorityDomainId × DomainRules)) (tally : PolicyTally) : Prop where
  refuse : tally.anyRefuse = true ↔ ∃ entry ∈ entries, entry.2.hasRefuse = true
  missing : tally.result.missingDomains = [] ↔ ∀ entry ∈ entries, entry.2.hasAllow = true
  stale : tally.anyStale = true ↔ ∃ entry ∈ entries, entry.2.hasAllow = false ∧ entry.2.stale = true
  degraded : tally.result.allowDegraded = true ↔
    ∀ entry ∈ entries, entry.2.hasAllow = true → entry.2.allowDegraded = true

lemma tallied (entries : List (AuthorityDomainId × DomainRules)) :
    Tallied entries (entries.foldl PolicyTally.add {}) := by
  induction entries using List.reverseRecOn with
  | nil => exact ⟨by simp, by simp, by simp, by simp⟩
  | append_singleton entries entry ih =>
    rw [List.foldl_append, List.foldl_cons, List.foldl_nil]
    refine ⟨?_, ?_, ?_, ?_⟩
    · rw [add_anyRefuse, Bool.or_eq_true, ih.refuse]
      simp only [List.mem_append, List.mem_singleton, or_and_right, exists_or, exists_eq_left]
    · rw [add_missingDomains, List.append_eq_nil_iff, ih.missing]
      simp only [List.mem_append, List.mem_singleton, or_imp, forall_and, forall_eq]
      cases entry.2.hasAllow <;> simp
    · rw [add_anyStale, Bool.or_eq_true, ih.stale, Bool.and_eq_true, Bool.not_eq_true']
      simp only [List.mem_append, List.mem_singleton, or_and_right, exists_or, exists_eq_left]
    · rw [add_allowDegraded, Bool.and_eq_true, ih.degraded]
      simp only [List.mem_append, List.mem_singleton, or_imp, forall_and, forall_eq]
      cases entry.2.hasAllow <;> simp

/-- The ceiling is the least of the limits set by the domains that allow. -/
lemma tallied_ceiling (entries : List (AuthorityDomainId × DomainRules))
    (limits : AuthorityDomainId × DomainRules → CapacityUnits → Prop)
    (h : ∀ entry ∈ entries, Least units (limits entry) (limitOf entry.2) ∧
      (∀ capacity, limits entry capacity → entry.2.hasAllow = true ∧ capacity.value ≠ 0)) :
    Least units (fun capacity => ∃ entry ∈ entries, limits entry capacity)
      (ceilingOf (entries.foldl PolicyTally.add {}).result) := by
  induction entries using List.reverseRecOn with
  | nil => exact .empty fun c hc => by simp at hc
  | append_singleton entries entry ih =>
    rw [List.foldl_append, List.foldl_cons, List.foldl_nil]
    have hrest := ih fun e he => h e (by simp [he])
    obtain ⟨hleast, hset⟩ := h entry (by simp)
    rw [add_ceiling _ _ fun c hc => (hset c (hleast.present c hc).1).2]
    split
    · refine (hrest.merge hleast).congr fun c => ?_
      simp only [List.mem_append, List.mem_singleton, or_and_right, exists_or, exists_eq_left]
    · rename_i hdenied
      refine hrest.congr fun c => ⟨fun ⟨e, he, hc⟩ => ⟨e, by simp [he], hc⟩, fun ⟨e, he, hc⟩ => ?_⟩
      rcases List.mem_append.mp he with hold | hnew
      · exact ⟨e, hold, hc⟩
      · rw [List.mem_singleton.mp hnew] at hc
        exact absurd (hset c hc).1 hdenied

/-- How the verdict follows from the tally. -/
lemma conclude_decision (tally : PolicyTally) :
    (tally.conclude.1 = .refusedExplicitly ↔ tally.anyRefuse = true) ∧
    (tally.conclude.1 = .allowed ↔ ¬tally.anyRefuse = true ∧ tally.result.missingDomains = []) ∧
    (tally.conclude.1 = .staleGeneration ↔
      ¬tally.anyRefuse = true ∧ ¬tally.result.missingDomains = [] ∧ tally.anyStale = true) ∧
    (tally.conclude.1 = .missingAllowRule ↔
      ¬(tally.conclude.1 = .refusedExplicitly ∨ tally.conclude.1 = .allowed ∨ tally.conclude.1 = .staleGeneration)) := by
  unfold PolicyTally.conclude
  by_cases hrefuse : tally.anyRefuse = true <;> by_cases hmissing : tally.result.missingDomains = [] <;>
    by_cases hstale : tally.anyStale = true <;> simp [hrefuse, hmissing, hstale]

lemma ceilingOf_eq_some {result : PolicyEvaluation} {capacity : CapacityUnits}
    (h : ceilingOf result = some capacity) : result.maxCapacity = capacity := by
  unfold ceilingOf at h
  split at h
  · cases h
  · exact Option.some.inj h

end Tally

/-! The declarative reading. -/

/-- The rule carries another policy generation than the cluster its owner governs. -/
def Stale (source target : ClusterRecord) (rule : PolicyRule) : Prop :=
  rule.owner = source.domain ∧ rule.clusterA = source.id ∧ rule.generation ≠ source.policyGeneration ∨
    rule.owner = target.domain ∧ rule.clusterB = target.id ∧ rule.generation ≠ target.policyGeneration

section Reading

variable (registry : Registry) (source target : ClusterRecord) (endpointA endpointB : EndpointId)

/-- A relevant rule that is current and allows. -/
def AllowRule (rule : PolicyRule) : Prop :=
  Relevant registry source target endpointA endpointB rule ∧ ¬Stale source target rule ∧ rule.allow = true

/-- A relevant rule that is current and refuses. -/
def RefuseRule (rule : PolicyRule) : Prop :=
  Relevant registry source target endpointA endpointB rule ∧ ¬Stale source target rule ∧ rule.allow = false

/-- The domain owns a current allow. -/
def AllowedBy (domain : AuthorityDomainId) : Prop :=
  ∃ rule, AllowRule registry source target endpointA endpointB rule ∧ rule.owner = domain

/-- The domain owns no current allow, but a stale rule. -/
def StaleIn (domain : AuthorityDomainId) : Prop :=
  ¬AllowedBy registry source target endpointA endpointB domain ∧
    ∃ rule, Relevant registry source target endpointA endpointB rule ∧ Stale source target rule ∧ rule.owner = domain

/-- The result says what the relevant rules say: a refusal wins, else an allow of each domain is needed, and a
domain that has none is stale or silent. -/
structure Declared (result : PolicyEvaluation) : Prop where
  refused : result.decision = .refusedExplicitly ↔
    ∃ rule, RefuseRule registry source target endpointA endpointB rule
  allowed : result.decision = .allowed ↔ (¬∃ rule, RefuseRule registry source target endpointA endpointB rule) ∧
    AllowedBy registry source target endpointA endpointB source.domain ∧
    AllowedBy registry source target endpointA endpointB target.domain
  stale : result.decision = .staleGeneration ↔
    (¬∃ rule, RefuseRule registry source target endpointA endpointB rule) ∧
    (StaleIn registry source target endpointA endpointB source.domain ∨
      StaleIn registry source target endpointA endpointB target.domain)
  missing : result.decision = .missingAllowRule ↔
    ¬(result.decision = .refusedExplicitly ∨ result.decision = .allowed ∨ result.decision = .staleGeneration)
  degraded : result.decision = .allowed → (result.allowDegraded = true ↔
    ∀ rule, AllowRule registry source target endpointA endpointB rule → rule.allowDegraded = true)
  least : result.decision = .allowed → ∀ rule, AllowRule registry source target endpointA endpointB rule →
    rule.maxCapacity ≠ ⟨0⟩ → result.maxCapacity ≠ ⟨0⟩ ∧ result.maxCapacity ≤ rule.maxCapacity
  attained : result.decision = .allowed → result.maxCapacity ≠ ⟨0⟩ →
    ∃ rule, AllowRule registry source target endpointA endpointB rule ∧ rule.maxCapacity = result.maxCapacity

end Reading

section Agreement

variable {registry : Registry} {source target : ClusterRecord} {endpointA endpointB : EndpointId}

lemma generationCurrent_iff (hsource : source.id.isEmpty = false) (htarget : target.id.isEmpty = false)
    (rule : PolicyRule) : generationCurrent rule source target = true ↔ ¬Stale source target rule := by
  have hbound {domain owner : AuthorityDomainId} {a b : ClusterId} {g g' : PolicyGeneration} (h : b.isEmpty = false) :
      (owner == domain && !a.isEmpty && a == b && g != g') = true ↔ owner = domain ∧ a = b ∧ g ≠ g' := by
    simp only [Bool.and_eq_true, Bool.not_eq_true', beq_iff_eq, bne_iff_ne]
    constructor
    · rintro ⟨⟨⟨howner, -⟩, hcluster⟩, hgeneration⟩
      exact ⟨howner, hcluster, hgeneration⟩
    · rintro ⟨howner, hcluster, hgeneration⟩
      exact ⟨⟨⟨howner, by rw [hcluster]; exact h⟩, hcluster⟩, hgeneration⟩
  rw [generationCurrent, Bool.and_eq_true, Bool.not_eq_true', Bool.not_eq_true', ← Bool.not_eq_true,
    ← Bool.not_eq_true, hbound hsource, hbound htarget, ← not_or]
  rfl

/-- What holds of some domain's sum holds of what it sums up. -/
lemma Collected.exists_entry {P : PolicyRule → Prop} {perDomain : OrdMap AuthorityDomainId DomainRules}
    (h : Collected source target P perDomain) (test : DomainRules → Prop) (reading : AuthorityDomainId → Prop)
    (htest : ∀ domain rules,
      Sums (generationCurrent · source target) (fun rule => P rule ∧ rule.owner = domain) rules →
        (test rules ↔ reading domain)) :
    (∃ entry ∈ perDomain.toList, test entry.2) ↔ reading source.domain ∨ reading target.domain := by
  have hentry (domain : AuthorityDomainId) (hdomain : domain = source.domain ∨ domain = target.domain)
      (hreading : reading domain) : ∃ entry ∈ perDomain.toList, test entry.2 := by
    obtain ⟨rules, hrules⟩ : ∃ rules, perDomain[domain]? = some rules :=
      Option.isSome_iff_exists.mp (Std.ExtTreeMap.isSome_getElem?_iff_mem.mpr ((h.domains _).mpr hdomain))
    exact ⟨(domain, rules), Std.ExtTreeMap.mem_toList_iff_getElem?_eq_some.mpr hrules,
      (htest _ _ (h.sums _ _ hrules)).mpr hreading⟩
  constructor
  · rintro ⟨⟨domain, rules⟩, hmem, hholds⟩
    have hrules := Std.ExtTreeMap.mem_toList_iff_getElem?_eq_some.mp hmem
    have hreading := (htest _ _ (h.sums _ _ hrules)).mp hholds
    have hdomain := (h.domains domain).mp (Std.ExtTreeMap.isSome_getElem?_iff_mem.mp (by rw [hrules]; rfl))
    rcases hdomain with rfl | rfl
    · exact .inl hreading
    · exact .inr hreading
  · rintro (hsource | htarget)
    · exact hentry _ (.inl rfl) hsource
    · exact hentry _ (.inr rfl) htarget

/-- The tally of the second pass. -/
def tallyOf (registry : Registry) (source target : ClusterRecord) (endpointA endpointB : EndpointId) : PolicyTally :=
  (collectRules registry source target endpointA endpointB).toList.foldl PolicyTally.add {}

/-- A rule that counts belongs to one of the two domains, so asking both asks all. -/
lemma exists_rule_iff (endpointA endpointB : EndpointId) (test : PolicyRule → Prop)
    (htest : ∀ rule, test rule → Relevant registry source target endpointA endpointB rule) :
    ((∃ rule, test rule ∧ rule.owner = source.domain) ∨ ∃ rule, test rule ∧ rule.owner = target.domain) ↔
      ∃ rule, test rule := by
  constructor
  · rintro (⟨rule, h, -⟩ | ⟨rule, h, -⟩) <;> exact ⟨rule, h⟩
  · rintro ⟨rule, h⟩
    exact (htest rule h).owned.imp (fun howner => ⟨rule, h, howner⟩) fun howner => ⟨rule, h, howner⟩

section Named

variable (registry endpointA endpointB) (hsource : source.id.isEmpty = false) (htarget : target.id.isEmpty = false)
include hsource htarget

lemma anyRefuse_iff : (tallyOf registry source target endpointA endpointB).anyRefuse = true ↔
    ∃ rule, RefuseRule registry source target endpointA endpointB rule := by
  have hcollected := collectRules_collected registry source target endpointA endpointB
  have hentries := hcollected.exists_entry (fun rules => rules.hasRefuse = true)
    (fun domain => ∃ rule, RefuseRule registry source target endpointA endpointB rule ∧ rule.owner = domain)
    fun domain rules hsums => by
      rw [hsums.refuse]
      refine exists_congr fun rule => ?_
      rw [generationCurrent_iff hsource htarget]
      unfold RefuseRule
      tauto
  rw [tallyOf, (tallied _).refuse, hentries]
  exact exists_rule_iff endpointA endpointB _ fun _ h => h.1

lemma missingDomains_iff : (tallyOf registry source target endpointA endpointB).result.missingDomains = [] ↔
    AllowedBy registry source target endpointA endpointB source.domain ∧
      AllowedBy registry source target endpointA endpointB target.domain := by
  have hcollected := collectRules_collected registry source target endpointA endpointB
  have hentries := hcollected.exists_entry (fun rules => rules.hasAllow = false)
    (fun domain => ¬AllowedBy registry source target endpointA endpointB domain)
    fun domain rules hsums => by
      rw [← Bool.not_eq_true, hsums.allow, not_iff_not]
      refine exists_congr fun rule => ?_
      rw [generationCurrent_iff hsource htarget]
      unfold AllowRule
      tauto
  rw [tallyOf, (tallied _).missing, ← not_iff_not, not_and_or, ← hentries]
  push Not
  simp only [Bool.not_eq_true]

lemma anyStale_iff : (tallyOf registry source target endpointA endpointB).anyStale = true ↔
    StaleIn registry source target endpointA endpointB source.domain ∨
      StaleIn registry source target endpointA endpointB target.domain := by
  have hcollected := collectRules_collected registry source target endpointA endpointB
  have hentries := hcollected.exists_entry (fun rules => rules.hasAllow = false ∧ rules.stale = true)
    (StaleIn registry source target endpointA endpointB)
    fun domain rules hsums => by
      have hcurrent := generationCurrent_iff hsource htarget
      rw [← Bool.not_eq_true, hsums.allow, hsums.stale]
      refine and_congr (not_congr (exists_congr fun rule => ?_)) (exists_congr fun rule => ?_)
      · rw [hcurrent]
        unfold AllowRule
        tauto
      · rw [← Bool.not_eq_true, hcurrent, not_not]
        tauto
  rw [tallyOf, (tallied _).stale, hentries]

lemma allowDegraded_iff : (tallyOf registry source target endpointA endpointB).result.allowDegraded = true ↔
    ∀ rule, AllowRule registry source target endpointA endpointB rule → rule.allowDegraded = true := by
  have hcollected := collectRules_collected registry source target endpointA endpointB
  have hentries := hcollected.exists_entry
    (fun rules => rules.hasAllow = true ∧ rules.allowDegraded = false)
    (fun domain => ∃ rule,
      (AllowRule registry source target endpointA endpointB rule ∧ rule.allowDegraded = false) ∧ rule.owner = domain)
    fun domain rules hsums => by
      have hcurrent := generationCurrent_iff hsource htarget
      rw [← Bool.not_eq_true, hsums.allow, hsums.degraded]
      push Not
      simp only [hcurrent, Bool.not_eq_true, AllowRule]
      constructor
      · rintro ⟨-, rule, ⟨hrelevant, howner⟩, hfresh, hallow, hdegraded⟩
        exact ⟨rule, ⟨⟨hrelevant, hfresh, hallow⟩, hdegraded⟩, howner⟩
      · rintro ⟨rule, ⟨⟨hrelevant, hfresh, hallow⟩, hdegraded⟩, howner⟩
        exact ⟨⟨rule, ⟨hrelevant, howner⟩, hfresh, hallow⟩, rule, ⟨hrelevant, howner⟩, hfresh, hallow, hdegraded⟩
  have hrules := exists_rule_iff endpointA endpointB
    (fun rule => AllowRule registry source target endpointA endpointB rule ∧ rule.allowDegraded = false)
    fun _ h => h.1.1
  rw [tallyOf, (tallied _).degraded, ← not_iff_not]
  push Not
  simp only [Bool.not_eq_true]
  rw [← hrules, ← hentries]

/-- The ceiling of the tally is the least limit of the rules that allow. -/
lemma ceiling_least : Least units (SetLimit (AllowRule registry source target endpointA endpointB))
    (ceilingOf (tallyOf registry source target endpointA endpointB).result) := by
  have hcollected := collectRules_collected registry source target endpointA endpointB
  have hcurrent := generationCurrent_iff hsource htarget
  have hsums (entry : AuthorityDomainId × DomainRules)
      (hentry : entry ∈ (collectRules registry source target endpointA endpointB).toList) :=
    hcollected.sums entry.1 entry.2 (Std.ExtTreeMap.mem_toList_iff_getElem?_eq_some.mp hentry)
  have hleast := tallied_ceiling
    (collectRules registry source target endpointA endpointB).toList
    (fun entry => SetLimit fun rule =>
      (Relevant registry source target endpointA endpointB rule ∧ rule.owner = entry.1) ∧
        generationCurrent rule source target = true ∧ rule.allow = true)
    fun entry hentry => by
      refine ⟨(hsums entry hentry).capacity, fun capacity hset => ?_⟩
      obtain ⟨hne, rule, hrule, -⟩ := hset
      exact ⟨(hsums entry hentry).allow.mpr ⟨rule, hrule⟩, hne⟩
  refine hleast.congr fun capacity => ⟨?_, ?_⟩
  · rintro ⟨entry, -, hne, rule, ⟨⟨hrelevant, -⟩, hfresh, hallow⟩, hcapacity⟩
    exact ⟨hne, rule, ⟨hrelevant, (hcurrent rule).mp hfresh, hallow⟩, hcapacity⟩
  · rintro ⟨hne, rule, ⟨hrelevant, hfresh, hallow⟩, hcapacity⟩
    obtain ⟨rules, hrules⟩ : ∃ rules, (collectRules registry source target endpointA endpointB)[rule.owner]? =
        some rules :=
      Option.isSome_iff_exists.mp
        (Std.ExtTreeMap.isSome_getElem?_iff_mem.mpr ((hcollected.domains _).mpr hrelevant.owned))
    exact ⟨(rule.owner, rules), Std.ExtTreeMap.mem_toList_iff_getElem?_eq_some.mpr hrules, hne, rule,
      ⟨⟨hrelevant, rfl⟩, (hcurrent rule).mpr hfresh, hallow⟩, hcapacity⟩

/-- The evaluation reads as the relevant rules do. -/
lemma evaluatePolicy_declared : Declared registry source target endpointA endpointB
    (evaluatePolicy registry source target endpointA endpointB) := by
  have hrefuse := anyRefuse_iff registry endpointA endpointB hsource htarget
  have hmissing := missingDomains_iff registry endpointA endpointB
    hsource htarget
  have hstale := anyStale_iff registry endpointA endpointB hsource htarget
  have hdegraded := allowDegraded_iff registry endpointA endpointB
    hsource htarget
  have hleast := ceiling_least registry endpointA endpointB hsource htarget
  obtain ⟨hrefused, hallowed, hstaled, hnone⟩ :=
    conclude_decision (tallyOf registry source target endpointA endpointB)
  refine ⟨?_, ?_, ?_, ?_, fun _ => hdegraded, fun _ rule hrule hne => ?_, fun _ hne => ?_⟩
  · exact hrefused.trans hrefuse
  · exact hallowed.trans (and_congr (not_congr hrefuse) hmissing)
  · refine hstaled.trans (and_congr (not_congr hrefuse) ?_)
    rw [hstale, hmissing]
    refine ⟨fun h => h.2, fun h => ⟨fun hboth => ?_, h⟩⟩
    rcases h with hsource | htarget
    · exact hsource.1 hboth.1
    · exact htarget.1 hboth.2
  · exact hnone
  · have hset : SetLimit (AllowRule registry source target endpointA endpointB) rule.maxCapacity :=
      ⟨fun hzero => hne (Counter.ext hzero), rule, hrule, rfl⟩
    cases hceiling : ceilingOf (tallyOf registry source target endpointA endpointB).result with
    | none => exact absurd hset (hleast.absent hceiling _)
    | some capacity =>
      obtain ⟨⟨hpositive, -⟩, hsmallest⟩ := hleast.present capacity hceiling
      have hcapacity := ceilingOf_eq_some hceiling
      refine ⟨fun hzero => hpositive ?_, ?_⟩
      · rw [← hcapacity]
        exact congrArg Counter.value hzero
      · refine Counter.le_iff.mpr ?_
        have hle := hsmallest _ hset
        rwa [← hcapacity] at hle
  · have hceiling : ceilingOf (tallyOf registry source target endpointA endpointB).result =
        some (evaluatePolicy registry source target endpointA endpointB).maxCapacity :=
      if_neg fun hzero => hne (Counter.ext hzero)
    obtain ⟨⟨-, rule, hrule, hcapacity⟩, -⟩ := hleast.present _ hceiling
    exact ⟨rule, hrule, hcapacity⟩

end Named

end Agreement

/-! The names of the rules. -/

/-- The rule without its name. -/
def anonymous (rule : PolicyRule) : PolicyRule := { rule with id := [] }

/-- The registries hold the same rules, under whatever names and so in whatever order. -/
def SameRules (registry other : Registry) : Prop :=
  ∀ rule, (∃ r ∈ values registry.policies, anonymous r = rule) ↔ ∃ r ∈ values other.policies, anonymous r = rule

/-- The sum of a domain without the names in it. -/
def unnamedRules (rules : DomainRules) : DomainRules := { rules with allowIds := [], refuseIds := [] }

/-- The evaluation without the names in it. -/
def unnamed (result : PolicyEvaluation) : PolicyEvaluation := { result with ruleIds := [] }

def unnamedTally (tally : PolicyTally) : PolicyTally := { tally with result := unnamed tally.result }

section Names

variable {current : PolicyRule → Bool} {P : PolicyRule → Prop} {rules other : DomainRules}

/-- The sum of a domain sees the rules without their names. -/
lemma Sums.anonymous (h : Sums current P rules) (hcurrent : ∀ rule, current (anonymous rule) = current rule) :
    Sums current (fun rule => ∃ r, P r ∧ anonymous r = rule) rules := by
  have hexists (test : PolicyRule → Prop) (htest : ∀ rule, test (ModelPolicyLaws.anonymous rule) ↔ test rule) :
      (∃ rule, (∃ r, P r ∧ ModelPolicyLaws.anonymous r = rule) ∧ test rule) ↔ ∃ rule, P rule ∧ test rule := by
    constructor
    · rintro ⟨-, ⟨r, hP, rfl⟩, hr⟩
      exact ⟨r, hP, (htest r).mp hr⟩
    · rintro ⟨r, hP, hr⟩
      exact ⟨_, ⟨r, hP, rfl⟩, (htest r).mpr hr⟩
  refine ⟨?_, ?_, ?_, ?_, ?_, h.unlimited⟩
  · rw [h.allow, hexists _ fun rule => by rw [hcurrent]; rfl]
  · rw [h.refuse, hexists _ fun rule => by rw [hcurrent]; rfl]
  · rw [h.stale, hexists _ fun rule => by rw [hcurrent]]
  · rw [h.degraded]
    constructor
    · rintro hall - ⟨r, hP, rfl⟩ hfresh hallow
      exact hall r hP (by rwa [hcurrent] at hfresh) hallow
    · intro hall r hP hfresh hallow
      exact hall (ModelPolicyLaws.anonymous r) ⟨r, hP, rfl⟩ (by rwa [hcurrent]) hallow
  · refine h.capacity.congr fun c => and_congr_right fun _ => ?_
    constructor
    · rintro ⟨r, ⟨hP, hfresh, hallow⟩, hc⟩
      exact ⟨_, ⟨⟨r, hP, rfl⟩, by rwa [hcurrent], hallow⟩, hc⟩
    · rintro ⟨-, ⟨⟨r, hP, rfl⟩, hfresh, hallow⟩, hc⟩
      exact ⟨r, ⟨hP, by rwa [hcurrent] at hfresh, hallow⟩, hc⟩

/-- The rules determine the sum up to the names. -/
lemma Sums.unique (h : Sums current P rules) (h' : Sums current P other) : unnamedRules rules = unnamedRules other := by
  have hallow := Bool.eq_iff_iff.mpr (h.allow.trans h'.allow.symm)
  have hrefuse := Bool.eq_iff_iff.mpr (h.refuse.trans h'.refuse.symm)
  have hstale := Bool.eq_iff_iff.mpr (h.stale.trans h'.stale.symm)
  have hdegraded := Bool.eq_iff_iff.mpr (h.degraded.trans h'.degraded.symm)
  have hlimit := h.capacity.unique units_injective h'.capacity
  have hcapacity : rules.hasCapacityLimit = other.hasCapacityLimit ∧ rules.maxCapacity = other.maxCapacity := by
    unfold limitOf at hlimit
    have hfree := h.unlimited
    have hfree' := h'.unlimited
    cases hset : rules.hasCapacityLimit <;> cases hset' : other.hasCapacityLimit <;> simp_all
  simp only [unnamedRules, hallow, hrefuse, hstale, hdegraded, hcapacity.1, hcapacity.2]

/-- The second pass works on sums without names as well. -/
lemma add_unnamed (tally : PolicyTally) (entry : AuthorityDomainId × DomainRules) :
    unnamedTally (tally.add entry) = unnamedTally ((unnamedTally tally).add (entry.1, unnamedRules entry.2)) := by
  cases hrefuse : entry.2.hasRefuse <;> cases hallow : entry.2.hasAllow <;>
    simp [PolicyTally.add, PolicyTally.addRefusals, PolicyTally.addAllows, unnamedTally, unnamed, unnamedRules,
      hrefuse, hallow]

lemma foldl_add_unnamed (entries : List (AuthorityDomainId × DomainRules)) {tally other : PolicyTally}
    (h : unnamedTally tally = unnamedTally other) :
    unnamedTally (entries.foldl PolicyTally.add tally) =
      unnamedTally ((entries.map fun entry => (entry.1, unnamedRules entry.2)).foldl PolicyTally.add other) := by
  induction entries generalizing tally other with
  | nil => exact h
  | cons entry rest ih =>
    refine ih ?_
    have hother := add_unnamed other (entry.1, unnamedRules entry.2)
    rw [add_unnamed, h]
    exact hother.symm

/-- Rules that differ in their names are collected into sums that differ in them. -/
lemma collectRules_unnamed {registry other : Registry} (h : SameRules registry other) (source target : ClusterRecord)
    (endpointA endpointB : EndpointId) :
    (collectRules registry source target endpointA endpointB).map (fun _ => unnamedRules) =
      (collectRules other source target endpointA endpointB).map (fun _ => unnamedRules) := by
  have hcollected := collectRules_collected registry source target endpointA endpointB
  have hcollected' := collectRules_collected other source target endpointA endpointB
  have hrelevant (domain : AuthorityDomainId) (rule : PolicyRule) :
      (∃ r, (Relevant registry source target endpointA endpointB r ∧ r.owner = domain) ∧ anonymous r = rule) ↔
        ∃ r, (Relevant other source target endpointA endpointB r ∧ r.owner = domain) ∧ anonymous r = rule := by
    have hone {registry other : Registry} (h : SameRules registry other) :
        (∃ r, (Relevant registry source target endpointA endpointB r ∧ r.owner = domain) ∧ anonymous r = rule) →
          ∃ r, (Relevant other source target endpointA endpointB r ∧ r.owner = domain) ∧ anonymous r = rule := by
      rintro ⟨r, ⟨⟨hmem, howned, hmatched⟩, howner⟩, hr⟩
      obtain ⟨r', hmem', hr'⟩ := (h rule).mp ⟨r, hmem, hr⟩
      have hsame : anonymous r' = anonymous r := hr'.trans hr.symm
      have hsameOwner : (anonymous r').owner = (anonymous r).owner := congrArg PolicyRule.owner hsame
      have hsameMatch := congrArg (·.matchesPair source.id target.id endpointA endpointB) hsame
      exact ⟨r', ⟨⟨hmem', by rw [show r'.owner = r.owner from hsameOwner]; exact howned, hsameMatch.trans hmatched⟩, hsameOwner.trans howner⟩, hr'⟩
    exact ⟨hone h, hone fun rule => (h rule).symm⟩
  refine Std.ExtTreeMap.ext_getElem? fun domain => ?_
  rw [Std.ExtTreeMap.getElem?_map, Std.ExtTreeMap.getElem?_map]
  have hdomains : domain ∈ collectRules registry source target endpointA endpointB ↔
      domain ∈ collectRules other source target endpointA endpointB :=
    (hcollected.domains domain).trans (hcollected'.domains domain).symm
  rw [← Std.ExtTreeMap.isSome_getElem?_iff_mem, ← Std.ExtTreeMap.isSome_getElem?_iff_mem] at hdomains
  cases hfind : (collectRules registry source target endpointA endpointB)[domain]? with
  | none =>
    cases hfind' : (collectRules other source target endpointA endpointB)[domain]? with
    | none => rfl
    | some rules => simp [hfind, hfind'] at hdomains
  | some rules =>
    cases hfind' : (collectRules other source target endpointA endpointB)[domain]? with
    | none => simp [hfind, hfind'] at hdomains
    | some rules' =>
      have hsums := (hcollected.sums _ _ hfind).anonymous fun _ => rfl
      have hsums' := (hcollected'.sums _ _ hfind').anonymous fun _ => rfl
      exact congrArg some (hsums.unique (hsums'.congr fun rule => (hrelevant domain rule).symm))

/-- The evaluation depends on the names of the rules in the names it reports alone. -/
lemma evaluatePolicy_unnamed {registry other : Registry} (h : SameRules registry other)
    (source target : ClusterRecord) (endpointA endpointB : EndpointId) :
    unnamed (evaluatePolicy other source target endpointA endpointB) =
      unnamed (evaluatePolicy registry source target endpointA endpointB) := by
  have htally : unnamedTally (tallyOf other source target endpointA endpointB) =
      unnamedTally (tallyOf registry source target endpointA endpointB) := by
    have hentries := congrArg Std.ExtTreeMap.toList (collectRules_unnamed h source target endpointA endpointB)
    rw [Std.ExtTreeMap.toList_map, Std.ExtTreeMap.toList_map] at hentries
    have hregistry := foldl_add_unnamed (collectRules registry source target endpointA endpointB).toList
      (rfl : unnamedTally {} = unnamedTally {})
    have hother := foldl_add_unnamed (collectRules other source target endpointA endpointB).toList
      (rfl : unnamedTally {} = unnamedTally {})
    rw [hentries] at hregistry
    exact hother.trans hregistry.symm
  have hread (registry : Registry) : unnamed (evaluatePolicy registry source target endpointA endpointB) =
      { (unnamedTally (tallyOf registry source target endpointA endpointB)).result with
        decision := (unnamedTally (tallyOf registry source target endpointA endpointB)).conclude.1
        detail := (unnamedTally (tallyOf registry source target endpointA endpointB)).conclude.2 } := rfl
  rw [hread, hread, htally]

end Names

/-- Evaluating policy reads the relevant rules as they are meant, and not their names. -/
theorem evaluatePolicy_correct (registry : Registry) (source target : ClusterRecord) (endpointA endpointB : EndpointId)
    (hsource : source.id.isEmpty = false) (htarget : target.id.isEmpty = false) :
    Declared registry source target endpointA endpointB (evaluatePolicy registry source target endpointA endpointB) ∧
    ∀ other, SameRules registry other →
      unnamed (evaluatePolicy other source target endpointA endpointB) =
        unnamed (evaluatePolicy registry source target endpointA endpointB) :=
  ⟨evaluatePolicy_declared registry endpointA endpointB hsource htarget, fun _ h => evaluatePolicy_unnamed h source target endpointA endpointB⟩

/-! A source whose policy has moved on, and a target. -/

def alphaCluster : ClusterRecord :=
  { id := ⟨ascii "alpha", .inr (by decide)⟩, domain := ⟨ascii "domain-a", .inr (by decide)⟩, policyGeneration := ⟨2⟩ }

def betaCluster : ClusterRecord :=
  { id := ⟨ascii "beta", .inr (by decide)⟩, domain := ⟨ascii "domain-b", .inr (by decide)⟩, policyGeneration := ⟨1⟩ }

/-- The cluster's domain allows everything. -/
def allowAll (cluster : ClusterRecord) : PolicyRule :=
  { id := cluster.domain.value, owner := cluster.domain, allow := true, maxCapacity := ⟨4⟩ }

/-- The source's domain refused its cluster's traffic under an earlier generation. -/
def oldRefusal : PolicyRule :=
  { id := ascii "old", owner := alphaCluster.domain, clusterA := alphaCluster.id, generation := ⟨1⟩ }

def policyRegistry (rules : List PolicyRule) : Registry :=
  { policies := rules.foldl (fun policies rule => policies.insert rule.id rule) ∅ }

theorem evaluatePolicy_correct_sample :
    alphaCluster.id.isEmpty = false ∧ betaCluster.id.isEmpty = false ∧
      Declared (policyRegistry [allowAll alphaCluster, allowAll betaCluster]) alphaCluster betaCluster .empty .empty
        (evaluatePolicy (policyRegistry [allowAll alphaCluster, allowAll betaCluster]) alphaCluster betaCluster
          .empty .empty) :=
  ⟨by decide, by decide, (evaluatePolicy_correct _ _ _ _ _ (by decide) (by decide)).1⟩

/-- A stale rule for the pair keeps it from being allowed. -/
def NoFallback (registry : Registry) (source target : ClusterRecord) (endpointA endpointB : EndpointId) : Prop :=
  (∃ rule, Relevant registry source target endpointA endpointB rule ∧ Stale source target rule) →
    (evaluatePolicy registry source target endpointA endpointB).decision ≠ .allowed

/-- A stale rule is passed over exactly if there is no current refusal and both domains have another rule that
allows. -/
theorem noFallback_iff (registry : Registry) (source target : ClusterRecord) (endpointA endpointB : EndpointId)
    (hsource : source.id.isEmpty = false) (htarget : target.id.isEmpty = false) :
    NoFallback registry source target endpointA endpointB ↔
      (∀ rule, Relevant registry source target endpointA endpointB rule → ¬Stale source target rule) ∨
      (∃ rule, RefuseRule registry source target endpointA endpointB rule) ∨
      ¬AllowedBy registry source target endpointA endpointB source.domain ∨
      ¬AllowedBy registry source target endpointA endpointB target.domain := by
  have hallowed := (evaluatePolicy_declared registry endpointA endpointB
    hsource htarget).allowed
  unfold NoFallback
  rw [Ne, hallowed]
  constructor
  · intro hnever
    by_cases hstale : ∃ rule, Relevant registry source target endpointA endpointB rule ∧ Stale source target rule
    · have hdenied := hnever hstale
      rw [not_and_or, not_and_or, not_not] at hdenied
      exact .inr hdenied
    · exact .inl fun rule hrelevant hrule => hstale ⟨rule, hrelevant, hrule⟩
  · rintro (hfresh | hrefused | hmissing) ⟨rule, hrelevant, hrule⟩ ⟨hclear, hboth⟩
    · exact hfresh rule hrelevant hrule
    · exact hclear hrefused
    · exact hmissing.elim (fun hno => hno hboth.1) fun hno => hno hboth.2

/-- Without another rule of its domain, the old refusal is not passed over. -/
theorem noFallback_sample : alphaCluster.id.isEmpty = false ∧ betaCluster.id.isEmpty = false ∧
    NoFallback (policyRegistry [oldRefusal, allowAll betaCluster]) alphaCluster betaCluster .empty .empty := by
  have hvalues : values (policyRegistry [oldRefusal, allowAll betaCluster]).policies =
      [allowAll betaCluster, oldRefusal] := by decide +kernel
  refine ⟨by decide, by decide, (noFallback_iff _ _ _ _ _ (by decide) (by decide)).mpr (.inr (.inr (.inl ?_)))⟩
  rintro ⟨rule, ⟨⟨hmem, -, -⟩, -, hallow⟩, howner⟩
  rw [hvalues, List.mem_cons, List.mem_singleton] at hmem
  rcases hmem with rfl | rfl
  · exact absurd howner (by decide)
  · exact absurd hallow (by decide)

/-- Next to rules that name no cluster, it is. -/
theorem old_refusal_falls_back :
    ¬NoFallback (policyRegistry [oldRefusal, allowAll alphaCluster, allowAll betaCluster]) alphaCluster betaCluster
      .empty .empty := by
  intro h
  refine h ⟨oldRefusal, ⟨by decide +kernel, .inl rfl, by decide +kernel⟩, .inl ⟨rfl, rfl, by decide⟩⟩ ?_
  decide +kernel

end InterClusterFabric.ModelPolicyLaws
