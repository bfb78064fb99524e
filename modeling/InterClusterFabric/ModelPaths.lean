import InterClusterFabric.LibraryLeast
import InterClusterFabric.ModelRegistry
import Mathlib.Data.List.TakeWhile

/-! What the walk along the hops of a path computes. The walk takes in the links it can pass and ends at
the first hop that stops it, so the outcome is a matter of which hop that is and of what came before. -/
namespace InterClusterFabric.ModelPaths
open CoreStatus CoreIds ModelRecords ModelRegistry LibraryLeast LibraryOrdMap

/-- Why the walk ends at a hop. -/
inductive Stop
  | missing | unsupported | down
deriving DecidableEq, Repr

/-- The link under the hop is of a kind, or in a state, that the runtime does not drive. -/
def undriven (link : LinkRecord) : Bool := !linkKindSupported link.kind || link.state == .unsupported

def stopAt (links : OrdMap EdgeId LinkRecord) (hop : EdgeId) : Option Stop :=
  match links[hop]? with
  | none => some .missing
  | some link =>
    if undriven link then some .unsupported else if link.state = .down then some .down else none

/-- The hops before the first one that stops the walk. -/
def passed (links : OrdMap EdgeId LinkRecord) (hops : List EdgeId) : List EdgeId :=
  hops.takeWhile fun hop => (stopAt links hop).isNone

/-- The walk takes in one link. -/
def pass (links : OrdMap EdgeId LinkRecord) (scan : PathScan) (hop : EdgeId) : PathScan :=
  match links[hop]? with
  | none => scan
  | some link => (scan.meet link.state).narrow link.capacity

/-- What the end of the walk adds to what it has seen. -/
def conclude (scan : PathScan) : Option Stop → PathScan
  | none => scan
  | some .missing => { scan with state := .unknown }
  | some .unsupported => { scan with unsupported := true, state := .down }
  | some .down => { scan with state := .down }

section Walk

variable {links : OrdMap EdgeId LinkRecord} {hop : EdgeId} {link : LinkRecord}

lemma stopAt_eq_none : stopAt links hop = none ↔
    ∃ link, links[hop]? = some link ∧ undriven link = false ∧ link.state ≠ .down := by
  unfold stopAt
  cases hfind : links[hop]? with
  | none => simp
  | some link =>
    cases hdriven : undriven link <;> by_cases hdown : link.state = .down <;> simp [hdriven, hdown]

lemma undriven_eq_false : undriven link = false ↔ linkKindSupported link.kind = true ∧ link.state ≠ .unsupported := by
  simp [undriven]

@[simp] lemma narrow_state (scan : PathScan) (capacity : CapacityUnits) :
    (scan.narrow capacity).state = scan.state := by
  unfold PathScan.narrow
  split <;> rfl

@[simp] lemma narrow_unsupported (scan : PathScan) (capacity : CapacityUnits) :
    (scan.narrow capacity).unsupported = scan.unsupported := by
  unfold PathScan.narrow
  split <;> rfl

/-- A link that is not down does not bring the walk down. -/
lemma meet_state_ne_down {scan : PathScan} (hscan : scan.state ≠ .down) {state : LinkState}
    (hdown : state ≠ .down) (hunsupported : state ≠ .unsupported) : (scan.meet state).state ≠ .down := by
  cases state <;> simp_all [PathScan.meet]
  split <;> simp_all

lemma pass_state_ne_down {scan : PathScan} (hscan : scan.state ≠ .down) (hpass : stopAt links hop = none) :
    (pass links scan hop).state ≠ .down := by
  obtain ⟨link, hfind, hdriven, hdown⟩ := stopAt_eq_none.mp hpass
  simp only [pass, hfind, narrow_state]
  exact meet_state_ne_down hscan hdown (undriven_eq_false.mp hdriven).2

/-- The walk begins alive. -/
lemma start_alive : ({} : PathScan).state ≠ .down := by decide

/-- One hop of the walk: it ends here, or the link is taken in. -/
lemma scanHops_cons (rest : List EdgeId) {scan : PathScan} (hscan : scan.state ≠ .down) :
    scanHops links (hop :: rest) scan =
      match stopAt links hop with
      | some stop => conclude scan (some stop)
      | none => scanHops links rest (pass links scan hop) := by
  rw [scanHops]
  cases hfind : links[hop]? with
  | none =>
    have hstop : stopAt links hop = some .missing := by simp [stopAt, hfind]
    rw [hstop]
    rfl
  | some link =>
    dsimp only
    by_cases hkind : linkKindSupported link.kind = false
    · have hstop : stopAt links hop = some .unsupported := by simp [stopAt, hfind, undriven, hkind]
      rw [if_pos hkind, hstop]
      rfl
    rw [if_neg hkind]
    by_cases hunsupported : link.state = .unsupported
    · have hstop : stopAt links hop = some .unsupported := by simp [stopAt, hfind, undriven, hunsupported]
      have hmeet : (scan.meet .unsupported).state = .down := rfl
      rw [hstop, hunsupported, if_pos hmeet]
      rfl
    have hdriven : undriven link = false := undriven_eq_false.mpr ⟨by simpa using hkind, hunsupported⟩
    by_cases hdown : link.state = .down
    · have hstop : stopAt links hop = some .down := by simp [stopAt, hfind, hdriven, hdown]
      have hmeet : (scan.meet .down).state = .down := rfl
      rw [hstop, hdown, if_pos hmeet]
      rfl
    have hstop : stopAt links hop = none := stopAt_eq_none.mpr ⟨link, hfind, hdriven, hdown⟩
    have hpass : pass links scan hop = (scan.meet link.state).narrow link.capacity := by simp only [pass, hfind]
    rw [hstop, if_neg (meet_state_ne_down hscan hdown hunsupported), hpass]

/-- The walk takes in the hops it passes, then ends as the hop that stops it says. -/
lemma scanHops_eq (hops : List EdgeId) {scan : PathScan} (hscan : scan.state ≠ .down) :
    scanHops links hops scan =
      conclude ((passed links hops).foldl (pass links) scan) (hops.findSome? (stopAt links)) := by
  induction hops generalizing scan with
  | nil => rfl
  | cons hop rest ih =>
    rw [scanHops_cons rest hscan]
    cases hstop : stopAt links hop with
    | some stop => simp [passed, hstop]
    | none =>
      dsimp only
      rw [ih (pass_state_ne_down hscan hstop)]
      simp [passed, hstop]

end Walk

/-! Live paths. -/

/-- The hop is a registered link of a supported kind whose state passes the test. -/
def Carries (links : OrdMap EdgeId LinkRecord) (test : LinkState → Prop) (hop : EdgeId) : Prop :=
  ∃ link, links[hop]? = some link ∧ linkKindSupported link.kind = true ∧ test link.state

/-- The states of a link that carries traffic. -/
def Lively (state : LinkState) : Prop := state = .up ∨ state = .degraded

section Live

variable {links : OrdMap EdgeId LinkRecord} {hop : EdgeId}

lemma stopAt_of_carries {test : LinkState → Prop} (htest : ∀ state, test state → Lively state)
    (h : Carries links test hop) : stopAt links hop = none := by
  obtain ⟨link, hfind, hkind, hstate⟩ := h
  refine stopAt_eq_none.mpr ⟨link, hfind, undriven_eq_false.mpr ⟨hkind, ?_⟩, ?_⟩ <;>
    rcases htest _ hstate with hup | hdegraded <;> simp_all

/-- A hop that is passed is a registered link of a supported kind, and not down. -/
lemma carries_of_pass (h : stopAt links hop = none) : ∃ link, links[hop]? = some link ∧
    linkKindSupported link.kind = true ∧ (Lively link.state ∨ link.state = .unknown) := by
  obtain ⟨link, hfind, hdriven, hdown⟩ := stopAt_eq_none.mp h
  obtain ⟨hkind, hunsupported⟩ := undriven_eq_false.mp hdriven
  refine ⟨link, hfind, hkind, ?_⟩
  unfold Lively
  cases hstate : link.state <;> simp_all

lemma conclude_dead (scan : PathScan) (stop : Stop) :
    (conclude scan (some stop)).state ≠ .up ∧ (conclude scan (some stop)).state ≠ .degraded := by
  cases stop <;> simp [conclude]

lemma scanHops_up (hops : List EdgeId) {scan : PathScan} (hscan : scan.state ≠ .down) :
    (scanHops links hops scan).state = .up ↔
      scan.state = .up ∧ ∀ hop ∈ hops, Carries links (· = .up) hop := by
  induction hops generalizing scan with
  | nil => simp [scanHops]
  | cons hop rest ih =>
    rw [scanHops_cons rest hscan]
    cases hstop : stopAt links hop with
    | some stop =>
      have hdead : ¬Carries links (· = .up) hop := fun h => by
        rw [stopAt_of_carries (fun _ => .inl) h] at hstop
        cases hstop
      simp [(conclude_dead scan stop).1, hdead]
    | none =>
      obtain ⟨link, hfind, hkind, hstate⟩ := carries_of_pass hstop
      have hstep : (pass links scan hop).state = .up ↔ scan.state = .up ∧ Carries links (· = .up) hop := by
        simp only [pass, hfind, narrow_state, Carries, Option.some.injEq, exists_eq_left', hkind, true_and]
        rcases hstate with (hup | hdegraded) | hunknown
        · simp [hup, PathScan.meet]
        · rw [hdegraded]
          simp only [PathScan.meet]
          split <;> simp_all
        · simp [hunknown, PathScan.meet, hscan]
      dsimp only
      rw [ih (pass_state_ne_down hscan hstop), hstep, List.forall_mem_cons, and_assoc]

lemma scanHops_degraded (hops : List EdgeId) {scan : PathScan} (hscan : scan.state ≠ .down) :
    (scanHops links hops scan).state = .degraded ↔
      (scan.state = .up ∨ scan.state = .degraded) ∧ (∀ hop ∈ hops, Carries links Lively hop) ∧
        (scan.state = .degraded ∨ ∃ hop ∈ hops, Carries links (· = .degraded) hop) := by
  induction hops generalizing scan with
  | nil =>
    simp only [scanHops, List.not_mem_nil, false_implies, implies_true, true_and, false_and, exists_false, or_false]
    exact ⟨fun h => ⟨.inr h, h⟩, fun h => h.2⟩
  | cons hop rest ih =>
    rw [scanHops_cons rest hscan]
    cases hstop : stopAt links hop with
    | some stop =>
      have hdead : ¬Carries links Lively hop := fun h => by
        rw [stopAt_of_carries (fun _ => id) h] at hstop
        cases hstop
      simp [(conclude_dead scan stop).2, hdead]
    | none =>
      obtain ⟨link, hfind, hkind, hstate⟩ := carries_of_pass hstop
      have hcarries (test : LinkState → Prop) : Carries links test hop ↔ test link.state := by
        simp [Carries, hfind, hkind]
      have hpass : (pass links scan hop).state = (scan.meet link.state).state := by
        simp only [pass, hfind, narrow_state]
      dsimp only
      rw [ih (pass_state_ne_down hscan hstop), hpass, List.forall_mem_cons, List.exists_mem_cons_iff, hcarries, hcarries]
      rcases hstate with (hup | hdegraded) | hunknown
      · simp [hup, PathScan.meet, Lively]
      · rw [hdegraded]
        cases hkept : scan.state <;> simp_all [PathScan.meet, Lively]
      · simp [hunknown, PathScan.meet, hscan, Lively]

end Live

/-! Capacities. -/

/-- Capacities are compared as numbers. -/
def units (capacity : CapacityUnits) : ℕ := capacity.value.toNat

lemma units_injective : Function.Injective units :=
  fun _ _ h => Counter.ext (UInt64.toNat_inj.mp h)

/-- The smallest capacity the walk has seen. -/
def lowest (scan : PathScan) : Option CapacityUnits := if scan.first = true then none else some scan.bottleneck

/-- The capacity of a link under one of the hops. -/
def CapacityOf (links : OrdMap EdgeId LinkRecord) (hops : List EdgeId) (capacity : CapacityUnits) : Prop :=
  ∃ hop ∈ hops, ∃ link, links[hop]? = some link ∧ link.capacity = capacity

section Capacity

variable {links : OrdMap EdgeId LinkRecord}

lemma lowest_meet (scan : PathScan) (state : LinkState) : lowest (scan.meet state) = lowest scan := by
  cases state with
  | unknown => simp only [PathScan.meet]; split <;> rfl
  | degraded => simp only [PathScan.meet]; split <;> rfl
  | down => rfl
  | unsupported => rfl
  | up => rfl

lemma lowest_narrow (scan : PathScan) (capacity : CapacityUnits) :
    lowest (scan.narrow capacity) = keepLeast units (lowest scan) capacity := by
  unfold PathScan.narrow lowest
  by_cases hfirst : scan.first = true
  · simp [hfirst, keepLeast]
  · by_cases hlt : capacity < scan.bottleneck
    · simp [hfirst, hlt, keepLeast, units, Counter.lt_iff.mp hlt]
    · simp [hfirst, hlt, keepLeast, units, mt Counter.lt_iff.mpr hlt]

lemma lowest_conclude (scan : PathScan) (stop : Option Stop) : lowest (conclude scan stop) = lowest scan := by
  rcases stop with _ | _ | _ | _ <;> rfl

/-- The walk keeps the smallest capacity of the links it has taken in. -/
lemma lowest_foldl_pass (hops : List EdgeId) {scan : PathScan} {P : CapacityUnits → Prop}
    (h : Least units P (lowest scan)) :
    Least units (fun c => P c ∨ CapacityOf links hops c) (lowest (hops.foldl (pass links) scan)) := by
  induction hops generalizing scan P with
  | nil => exact h.congr fun c => by simp [CapacityOf]
  | cons hop rest ih =>
    rw [List.foldl_cons]
    cases hfind : links[hop]? with
    | none =>
      have hpass : pass links scan hop = scan := by simp only [pass, hfind]
      rw [hpass]
      exact (ih h).congr fun c => by simp [CapacityOf, hfind]
    | some link =>
      have hpass : lowest (pass links scan hop) = keepLeast units (lowest scan) link.capacity := by
        simp only [pass, hfind, lowest_narrow, lowest_meet]
      have hstep : Least units (fun c => P c ∨ c = link.capacity) (lowest (pass links scan hop)) := by
        rw [hpass]
        exact h.keep link.capacity
      refine (ih hstep).congr fun c => ?_
      simp only [CapacityOf, List.exists_mem_cons_iff, hfind, Option.some.injEq, exists_eq_left', or_assoc, eq_comm]

lemma recomputePath_bottleneck (links : OrdMap EdgeId LinkRecord) (path : PathRecord) :
    (recomputePath links path).bottleneck = (lowest (scanHops links path.hops {})).getD ⟨0⟩ := by
  simp only [recomputePath, lowest]
  split <;> rfl

/-- The bottleneck is the smallest capacity among the links that are passed. -/
lemma lowest_scanHops (links : OrdMap EdgeId LinkRecord) (hops : List EdgeId) :
    Least units (CapacityOf links (passed links hops)) (lowest (scanHops links hops {})) := by
  rw [scanHops_eq hops (by decide), lowest_conclude]
  have start_alive : Least units (fun _ => False) (lowest {}) := .empty fun _ => id
  exact (lowest_foldl_pass (passed links hops) start_alive).congr fun c => by simp

end Capacity

/-! What `recompute_path_states` leaves behind. -/

/-- The path is up over links that are all up, degraded over links of which some are degraded and the others
up, and in both cases its bottleneck is the smallest capacity among them. A path without hops has none. -/
structure LiveState (links : OrdMap EdgeId LinkRecord) (path next : PathRecord) : Prop where
  up : next.state = .up ↔ ∀ hop ∈ path.hops, Carries links (· = .up) hop
  degraded : next.state = .degraded ↔ (∀ hop ∈ path.hops, Carries links Lively hop) ∧
    ∃ hop ∈ path.hops, Carries links (· = .degraded) hop
  bottleneck : next.state = .up ∨ next.state = .degraded →
    (∀ hop ∈ path.hops, ∀ link, links[hop]? = some link → next.bottleneck ≤ link.capacity) ∧
      (CapacityOf links path.hops next.bottleneck ∨ path.hops = [] ∧ next.bottleneck = ⟨0⟩)
  supported : next.state = .up ∨ next.state = .degraded → next.containsUnsupportedEdge = false
  rest : next = { path with
    state := next.state, bottleneck := next.bottleneck, containsUnsupportedEdge := next.containsUnsupportedEdge }

section Live

variable {links : OrdMap EdgeId LinkRecord} {path : PathRecord}

lemma recomputePath_up : (recomputePath links path).state = .up ↔ ∀ hop ∈ path.hops, Carries links (· = .up) hop := by
  have hup : (scanHops links path.hops {}).state = .up ↔ _ := scanHops_up path.hops start_alive
  simpa [recomputePath] using hup

lemma recomputePath_degraded : (recomputePath links path).state = .degraded ↔
    (∀ hop ∈ path.hops, Carries links Lively hop) ∧ ∃ hop ∈ path.hops, Carries links (· = .degraded) hop := by
  have hdegraded : (scanHops links path.hops {}).state = .degraded ↔ _ := scanHops_degraded path.hops start_alive
  simpa [recomputePath] using hdegraded

/-- No hop of a live path stops the walk. -/
lemma stopAt_of_live (h : (recomputePath links path).state = .up ∨ (recomputePath links path).state = .degraded)
    {hop : EdgeId} (hhop : hop ∈ path.hops) : stopAt links hop = none := by
  rcases h with hup | hdegraded
  · exact stopAt_of_carries (fun _ => .inl) (recomputePath_up.mp hup hop hhop)
  · exact stopAt_of_carries (fun _ => id) ((recomputePath_degraded.mp hdegraded).1 hop hhop)

lemma passed_eq_self {hops : List EdgeId} (h : ∀ hop ∈ hops, stopAt links hop = none) : passed links hops = hops :=
  List.takeWhile_eq_self_iff.mpr fun hop hhop => by rw [h hop hhop]; rfl

lemma foldl_pass_unsupported {hops : List EdgeId} (h : ∀ hop ∈ hops, stopAt links hop = none) (scan : PathScan) :
    (hops.foldl (pass links) scan).unsupported = scan.unsupported := by
  induction hops generalizing scan with
  | nil => rfl
  | cons hop rest ih =>
    obtain ⟨link, hfind, -, hstate⟩ := carries_of_pass (h hop (by simp))
    rw [List.foldl_cons, ih fun x hx => h x (by simp [hx])]
    simp only [pass, hfind, narrow_unsupported]
    rcases hstate with (hup | hdegraded) | hunknown
    · rw [hup]
      rfl
    · rw [hdegraded]
      simp only [PathScan.meet]
      split <;> rfl
    · rw [hunknown]
      simp only [PathScan.meet]
      split <;> rfl

lemma foldl_pass_ne_down {hops : List EdgeId} (h : ∀ hop ∈ hops, stopAt links hop = none) {scan : PathScan}
    (hscan : scan.state ≠ .down) : (hops.foldl (pass links) scan).state ≠ .down := by
  induction hops generalizing scan with
  | nil => exact hscan
  | cons hop rest ih =>
    exact ih (fun x hx => h x (by simp [hx])) (pass_state_ne_down hscan (h hop (by simp)))

lemma stopAt_of_passed {hops : List EdgeId} {hop : EdgeId} (h : hop ∈ passed links hops) : stopAt links hop = none := by
  have hnone := List.mem_takeWhile_imp h
  simpa using hnone

/-- The flag says that the hop which ended the walk is unsupported. -/
lemma recomputePath_unsupported (links : OrdMap EdgeId LinkRecord) (path : PathRecord) : (recomputePath links path).containsUnsupportedEdge = true ↔
    path.hops.findSome? (stopAt links) = some .unsupported := by
  have hwalk : ((passed links path.hops).foldl (pass links) {}).unsupported = false :=
    foldl_pass_unsupported (fun _ => stopAt_of_passed) {}
  have hscan : scanHops links path.hops {} = _ := scanHops_eq path.hops start_alive
  simp only [recomputePath, hscan]
  cases hstop : path.hops.findSome? (stopAt links) with
  | none => simp [conclude, hwalk]
  | some stop => cases stop <;> simp [conclude, hwalk]

lemma recomputePath_live (links : OrdMap EdgeId LinkRecord) (path : PathRecord) :
    LiveState links path (recomputePath links path) where
  up := recomputePath_up
  degraded := recomputePath_degraded
  bottleneck hlive := by
    have hpass : ∀ hop ∈ path.hops, stopAt links hop = none := fun hop hhop => stopAt_of_live hlive hhop
    have hleast := lowest_scanHops links path.hops
    rw [passed_eq_self hpass] at hleast
    rw [recomputePath_bottleneck]
    cases hlowest : lowest (scanHops links path.hops {}) with
    | none =>
      have hnone := hleast.absent hlowest
      have hempty : path.hops = [] := by
        refine List.eq_nil_iff_forall_not_mem.mpr fun hop hhop => ?_
        obtain ⟨link, hfind, -⟩ := carries_of_pass (hpass hop hhop)
        exact hnone link.capacity ⟨hop, hhop, link, hfind, rfl⟩
      exact ⟨fun hop hhop => absurd (hempty ▸ hhop) List.not_mem_nil, .inr ⟨hempty, rfl⟩⟩
    | some capacity =>
      obtain ⟨hmem, hsmallest⟩ := hleast.present capacity hlowest
      refine ⟨fun hop hhop link hfind => ?_, .inl hmem⟩
      exact Counter.le_iff.mpr (hsmallest link.capacity ⟨hop, hhop, link, hfind, rfl⟩)
  supported hlive := by
    have hnone : path.hops.findSome? (stopAt links) = none :=
      List.findSome?_eq_none_iff.mpr fun hop hhop => stopAt_of_live hlive hhop
    have hflag := recomputePath_unsupported links path
    rw [hnone] at hflag
    simpa using hflag
  rest := rfl

end Live

/-- The registry differs from another in its paths at most. -/
def SameButPaths (registry next : Registry) : Prop := next = { registry with paths := next.paths }

/-- Recomputing gives every path the state its links say, changes nothing else, and has nothing left to
change afterwards. -/
theorem recomputePathStates_correct (registry : Registry) :
    (∀ id path, registry.paths[(id : PathId)]? = some path →
      ∃ next, registry.recomputePathStates.paths[id]? = some next ∧ LiveState registry.links path next) ∧
    (∀ id : PathId, registry.paths[id]? = none → registry.recomputePathStates.paths[id]? = none) ∧
    SameButPaths registry registry.recomputePathStates ∧
    registry.recomputePathStates.recomputePathStates = registry.recomputePathStates := by
  have hfind (id : PathId) : registry.recomputePathStates.paths[id]? =
      registry.paths[id]?.map (recomputePath registry.links) := Std.ExtTreeMap.getElem?_map
  refine ⟨fun id path hpath => ?_, fun id hnone => ?_, rfl, ?_⟩
  · refine ⟨recomputePath registry.links path, ?_, recomputePath_live registry.links path⟩
    rw [hfind, hpath]
    rfl
  · rw [hfind, hnone]
    rfl
  · have htwice (path : PathRecord) :
        recomputePath registry.links (recomputePath registry.links path) = recomputePath registry.links path := rfl
    unfold Registry.recomputePathStates
    congr 1
    refine Std.ExtTreeMap.ext_getElem? fun id => ?_
    simp only [Std.ExtTreeMap.getElem?_map, Option.map_map]
    congr 1

/-! The order of the hops. -/

/-- What a path is classified as. -/
structure Classification where
  state : PathState
  bottleneck : CapacityUnits
  containsUnsupportedEdge : Bool
deriving DecidableEq, Repr

/-- The classification of a path after its state has been recomputed. -/
def classification (registry : Registry) (id : PathId) : Option Classification :=
  registry.recomputePathStates.paths[id]?.map fun path =>
    ⟨path.state, path.bottleneck, path.containsUnsupportedEdge⟩

/-- The registry with the hops of one path listed in another order. -/
def reordered (registry : Registry) (id : PathId) (path : PathRecord) (hops : List EdgeId) : Registry :=
  { registry with paths := registry.paths.insert id { path with hops } }

/-- The classification depends on which links the path runs over, not on how they are listed, and the flag
tells whether one of them is not driven. -/
structure OrderFree (registry : Registry) (id : PathId) (path : PathRecord) : Prop where
  flag : (classification registry id).map (·.containsUnsupportedEdge) = some true ↔
    ∃ hop ∈ path.hops, ∃ link, registry.links[hop]? = some link ∧
      (linkKindSupported link.kind = false ∨ link.state = .unsupported)
  order : ∀ hops, hops.Perm path.hops →
    classification (reordered registry id path hops) id = classification registry id

/-- The hops that stop the walk stop it for one reason, and if there are any, the others have no capacity. -/
def OneReason (links : OrdMap EdgeId LinkRecord) (hops : List EdgeId) : Prop :=
  ∀ hop ∈ hops, ∀ stop, stopAt links hop = some stop → ∀ other ∈ hops,
    stopAt links other = some stop ∨
      stopAt links other = none ∧ ∀ link, links[other]? = some link → link.capacity = ⟨0⟩

section Order

variable {links : OrdMap EdgeId LinkRecord}

/-- What the walk along the hops makes of them. -/
def classify (links : OrdMap EdgeId LinkRecord) (hops : List EdgeId) : Classification :=
  let scan := scanHops links hops {}
  ⟨scan.state, (lowest scan).getD ⟨0⟩, scan.unsupported⟩

lemma classification_eq {registry : Registry} {id : PathId} {path : PathRecord}
    (h : registry.paths[id]? = some path) : classification registry id = some (classify registry.links path.hops) := by
  have hfind : registry.recomputePathStates.paths[id]? = some (recomputePath registry.links path) := by
    unfold Registry.recomputePathStates
    rw [Std.ExtTreeMap.getElem?_map, h]
    rfl
  rw [classification, hfind, Option.map_some, recomputePath_bottleneck]
  rfl

lemma classification_reordered (registry : Registry) (id : PathId) (path : PathRecord) (hops : List EdgeId) :
    classification (reordered registry id path hops) id = some (classify registry.links hops) := by
  have hfind : (reordered registry id path hops).paths[id]? = some { path with hops } := by simp [reordered]
  rw [classification_eq hfind]
  rfl

/-- The state and the flag of a walk that was stopped. -/
def Stop.verdict : Stop → PathState × Bool
  | .missing => (.unknown, false)
  | .unsupported => (.down, true)
  | .down => (.down, false)

lemma Stop.verdict_injective : Function.Injective Stop.verdict := by
  intro stop other h
  cases stop <;> cases other <;> first | rfl | cases h

lemma classify_of_stop {hops : List EdgeId} {stop : Stop} (h : hops.findSome? (stopAt links) = some stop) :
    ((classify links hops).state, (classify links hops).containsUnsupportedEdge) = stop.verdict := by
  have hwalk : ((passed links hops).foldl (pass links) {}).unsupported = false :=
    foldl_pass_unsupported (fun _ => stopAt_of_passed) {}
  have hscan : scanHops links hops {} = _ := scanHops_eq hops start_alive
  simp only [classify, hscan, h]
  cases stop <;> simp [conclude, Stop.verdict, hwalk]

/-- The walk along hops whose only stops are of one kind ends for that reason. -/
lemma findSome_of_oneReason {hops : List EdgeId} {hop : EdgeId} {stop : Stop} (h : OneReason links hops)
    (hhop : hop ∈ hops) (hstop : stopAt links hop = some stop) : hops.findSome? (stopAt links) = some stop := by
  cases hfirst : hops.findSome? (stopAt links) with
  | none =>
    rw [List.findSome?_eq_none_iff.mp hfirst hop hhop] at hstop
    cases hstop
  | some first =>
    obtain ⟨other, hother, hreason⟩ := List.exists_of_findSome?_eq_some hfirst
    rcases h hop hhop stop hstop other hother with hsame | ⟨hnone, -⟩
    · rw [← hreason, hsame]
    · rw [hnone] at hreason
      cases hreason

/-- A walk over links without capacity has no bottleneck. -/
lemma classify_bottleneck_zero {hops : List EdgeId}
    (h : ∀ hop ∈ hops, stopAt links hop = none → ∀ link, links[hop]? = some link → link.capacity = ⟨0⟩) :
    (classify links hops).bottleneck = ⟨0⟩ := by
  have hleast := lowest_scanHops links hops
  simp only [classify]
  cases hlowest : lowest (scanHops links hops {}) with
  | none => rfl
  | some capacity =>
    obtain ⟨⟨hop, hhop, link, hfind, rfl⟩, -⟩ := hleast.present capacity hlowest
    exact h hop (List.takeWhile_subset _ hhop) (stopAt_of_passed hhop) link hfind

/-- A walk that passes all its hops sees the same, in whatever order it takes them. -/
lemma classify_of_pass {hops other : List EdgeId} (hperm : other.Perm hops)
    (h : ∀ hop ∈ hops, stopAt links hop = none) : classify links other = classify links hops := by
  have hother : ∀ hop ∈ other, stopAt links hop = none := fun hop hhop => h hop (hperm.mem_iff.mp hhop)
  have hup : (classify links other).state = .up ↔ (classify links hops).state = .up := by
    simp only [classify, scanHops_up _ start_alive, hperm.mem_iff]
  have hdegraded : (classify links other).state = .degraded ↔ (classify links hops).state = .degraded := by
    simp only [classify, scanHops_degraded _ start_alive, hperm.mem_iff]
  have hdown {hops : List EdgeId} (h : ∀ hop ∈ hops, stopAt links hop = none) :
      (classify links hops).state ≠ .down ∧ (classify links hops).containsUnsupportedEdge = false := by
    have hnone : hops.findSome? (stopAt links) = none := List.findSome?_eq_none_iff.mpr h
    simp only [classify, scanHops_eq hops start_alive, hnone, passed_eq_self h, conclude]
    exact ⟨foldl_pass_ne_down h start_alive, foldl_pass_unsupported h {}⟩
  have hbottleneck : (classify links other).bottleneck = (classify links hops).bottleneck := by
    have hleast := lowest_scanHops links hops
    have hleast' := lowest_scanHops links other
    rw [passed_eq_self h] at hleast
    rw [passed_eq_self hother] at hleast'
    have hsame := hleast'.congr (Q := CapacityOf links hops) fun c => by simp only [CapacityOf, hperm.mem_iff]
    have hlowest := hsame.unique units_injective hleast
    simp only [classify]
    rw [hlowest]
  have hstate : (classify links other).state = (classify links hops).state := by
    have hne := (hdown h).1
    have hne' := (hdown hother).1
    cases hs : (classify links hops).state <;> cases hs' : (classify links other).state <;> simp_all
  have hflag := (hdown hother).2.trans (hdown h).2.symm
  cases hc : classify links other
  cases hc' : classify links hops
  simp_all

lemma stopAt_eq_unsupported {hop : EdgeId} : stopAt links hop = some .unsupported ↔
    ∃ link, links[hop]? = some link ∧ (linkKindSupported link.kind = false ∨ link.state = .unsupported) := by
  unfold stopAt
  cases hfind : links[hop]? with
  | none => simp
  | some link =>
    cases hdriven : undriven link with
    | true =>
      have hcause : linkKindSupported link.kind = false ∨ link.state = .unsupported := by simpa [undriven] using hdriven
      simp [hdriven, hcause]
    | false =>
      obtain ⟨hkind, hstate⟩ := undriven_eq_false.mp hdriven
      by_cases hdown : link.state = .down <;> simp [hdriven, hkind, hstate, hdown]

/-- Hops that stop the walk for one reason are classified alike in every order. -/
lemma classify_perm {hops other : List EdgeId} (h : OneReason links hops) (hperm : other.Perm hops) :
    classify links other = classify links hops := by
  by_cases hpass : ∀ hop ∈ hops, stopAt links hop = none
  · exact classify_of_pass hperm hpass
  · push Not at hpass
    obtain ⟨hop, hhop, hne⟩ := hpass
    obtain ⟨stop, hstop⟩ := Option.ne_none_iff_exists'.mp hne
    have hreason : OneReason links other := fun x hx s hs y hy =>
      h x (hperm.mem_iff.mp hx) s hs y (hperm.mem_iff.mp hy)
    have hidle {hops : List EdgeId} (h : OneReason links hops) (hhop : hop ∈ hops) :
        (classify links hops).bottleneck = ⟨0⟩ := by
      refine classify_bottleneck_zero fun x hx hnone => ?_
      rcases h hop hhop stop hstop x hx with hsame | ⟨-, hcapacity⟩
      · rw [hnone] at hsame
        cases hsame
      · exact hcapacity
    have hhop' := hperm.mem_iff.mpr hhop
    have hverdict := classify_of_stop (findSome_of_oneReason h hhop hstop)
    have hverdict' := classify_of_stop (findSome_of_oneReason hreason hhop' hstop)
    have hzero := (hidle hreason hhop').trans (hidle h hhop).symm
    obtain ⟨hstate, hflag⟩ := Prod.mk.injEq .. ▸ hverdict'.trans hverdict.symm
    cases hc : classify links other
    cases hc' : classify links hops
    simp_all

/-- Bringing forward the hop that stops the walk, and one that does not before it, shows both. -/
lemma oneReason_of_perm {hops : List EdgeId}
    (h : ∀ other, other.Perm hops → classify links other = classify links hops) : OneReason links hops := by
  intro hop hhop stop hstop other hother
  have hfirst := h _ (List.perm_cons_erase hhop).symm
  cases hreason : stopAt links other with
  | some reason =>
    have hfirst' := h _ (List.perm_cons_erase hother).symm
    have hverdict : ((classify links (hop :: hops.erase hop)).state,
        (classify links (hop :: hops.erase hop)).containsUnsupportedEdge) = stop.verdict :=
      classify_of_stop (by rw [List.findSome?_cons, hstop])
    have hverdict' : ((classify links (other :: hops.erase other)).state,
        (classify links (other :: hops.erase other)).containsUnsupportedEdge) = reason.verdict :=
      classify_of_stop (by rw [List.findSome?_cons, hreason])
    rw [hfirst] at hverdict
    rw [hfirst'] at hverdict'
    exact .inl (congrArg some (Stop.verdict_injective (hverdict'.symm.trans hverdict)))
  | none =>
    refine .inr ⟨rfl, fun link hfind => ?_⟩
    have hne : hop ≠ other := fun hsame => by
      rw [hsame, hreason] at hstop
      cases hstop
    have hrest : hop ∈ hops.erase other := (List.mem_erase_of_ne hne).mpr hhop
    have hsecond := h _ (((List.perm_cons_erase hrest).cons other).symm.trans (List.perm_cons_erase hother).symm)
    have hzero : (classify links (hop :: hops.erase hop)).bottleneck = ⟨0⟩ := by
      simp only [classify, scanHops_cons _ start_alive, hstop, lowest_conclude]
      rfl
    have hseen : (classify links (other :: hop :: (hops.erase other).erase hop)).bottleneck = link.capacity := by
      have hwalk : scanHops links (hop :: (hops.erase other).erase hop) (pass links {} other) = _ :=
        scanHops_cons _ (pass_state_ne_down start_alive hreason)
      simp only [classify, scanHops_cons _ start_alive, hreason]
      rw [hwalk, hstop, lowest_conclude]
      simp only [pass, hfind, lowest_narrow, lowest_meet]
      rfl
    rw [← hseen, hsecond, ← hfirst, hzero]

lemma flag_of_oneReason {hops : List EdgeId} (h : OneReason links hops) :
    (classify links hops).containsUnsupportedEdge = true ↔ ∃ hop ∈ hops, stopAt links hop = some .unsupported := by
  have hflag := recomputePath_unsupported links { hops := hops }
  refine hflag.trans ⟨fun hfirst => ?_, fun ⟨hop, hhop, hstop⟩ => findSome_of_oneReason h hhop hstop⟩
  exact List.exists_of_findSome?_eq_some hfirst

end Order

/-- The order of the hops is without effect exactly if they stop the walk for one reason at most, and where
they do, the walk passes no link with capacity. -/
theorem orderFree_iff (registry : Registry) (id : PathId) (path : PathRecord) (h : registry.paths[id]? = some path) :
    OrderFree registry id path ↔ OneReason registry.links path.hops := by
  constructor
  · intro hfree
    refine oneReason_of_perm fun hops hperm => ?_
    have hsame := hfree.order hops hperm
    rw [classification_reordered, classification_eq h] at hsame
    exact Option.some.inj hsame
  · intro hreason
    refine ⟨?_, fun hops hperm => ?_⟩
    · rw [classification_eq h]
      simp only [Option.map_some, Option.some.injEq, flag_of_oneReason hreason, stopAt_eq_unsupported]
    · rw [classification_reordered, classification_eq h, classify_perm hreason hperm]

/-! A path of two hops. -/

def nearEdge : EdgeId := ⟨ascii "e1", .inr (by decide)⟩

def farEdge : EdgeId := ⟨ascii "e2", .inr (by decide)⟩

def twoHops : PathRecord :=
  { id := ⟨ascii "p1", .inr (by decide)⟩, a := ⟨ascii "alpha-ep", .inr (by decide)⟩,
    b := ⟨ascii "beta-ep", .inr (by decide)⟩, hops := [nearEdge, farEdge] }

def twoHopLink (edge : EdgeId) (state : LinkState) : LinkRecord :=
  { id := edge, a := twoHops.a, b := twoHops.b, kind := .syntheticModel, state, capacity := ⟨5⟩ }

def twoHopRegistry (near far : LinkState) : Registry :=
  { links := ((∅ : OrdMap EdgeId LinkRecord).insert nearEdge (twoHopLink nearEdge near)).insert farEdge
      (twoHopLink farEdge far)
    paths := (∅ : OrdMap PathId PathRecord).insert twoHops.id twoHops }

/-- Two links that carry traffic. -/
theorem orderFree_sample : (twoHopRegistry .up .degraded).paths[twoHops.id]? = some twoHops ∧
    OrderFree (twoHopRegistry .up .degraded) twoHops.id twoHops := by
  have hpath : (twoHopRegistry .up .degraded).paths[twoHops.id]? = some twoHops := by decide +kernel
  have hpass : ∀ hop ∈ twoHops.hops, stopAt (twoHopRegistry .up .degraded).links hop = none := by decide +kernel
  refine ⟨hpath, (orderFree_iff _ _ _ hpath).mpr fun hop hhop stop hstop => ?_⟩
  rw [hpass hop hhop] at hstop
  cases hstop

/-- A link that is down hides the unsupported one behind it. -/
theorem down_hides_unsupported : (twoHopRegistry .down .unsupported).paths[twoHops.id]? = some twoHops ∧
    ¬OrderFree (twoHopRegistry .down .unsupported) twoHops.id twoHops := by
  refine ⟨by decide +kernel, fun hfree => ?_⟩
  have hflag : (classification (twoHopRegistry .down .unsupported) twoHops.id).map (·.containsUnsupportedEdge) =
      some true :=
    hfree.flag.mpr ⟨farEdge, by decide, twoHopLink farEdge .unsupported, by decide +kernel, .inr rfl⟩
  have hunseen : (classification (twoHopRegistry .down .unsupported) twoHops.id).map (·.containsUnsupportedEdge) =
      some false := by decide +kernel
  rw [hunseen] at hflag
  cases hflag

end InterClusterFabric.ModelPaths
