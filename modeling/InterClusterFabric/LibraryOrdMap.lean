import Mathlib.Tactic

/-! Key-ordered maps. The container is the extensional tree map of the standard library; this
module adds the list of values in key order and how updates act on it. -/
namespace InterClusterFabric.LibraryOrdMap
open Std

variable {κ β : Type} [Ord κ] [TransOrd κ] [LawfulEqOrd κ]

/-- `std::map`: iteration is in the order of the keys. -/
abbrev OrdMap (κ β : Type) [Ord κ] := ExtTreeMap κ β compare

omit [LawfulEqOrd κ] in
/-- The records of a container, in key order. -/
def values (m : OrdMap κ β) : List β := m.toList.map Prod.snd

lemma mem_values {m : OrdMap κ β} {v : β} : v ∈ values m ↔ ∃ k : κ, m[k]? = some v := by
  simp only [values, List.mem_map, Prod.exists, exists_eq_right,
    ExtTreeMap.mem_toList_iff_getElem?_eq_some]

omit [LawfulEqOrd κ] in
lemma values_length (m : OrdMap κ β) : (values m).length = m.size := by
  rw [values, List.length_map, ExtTreeMap.length_toList]

omit [LawfulEqOrd κ] in
@[simp] lemma values_empty : values (∅ : OrdMap κ β) = [] :=
  List.eq_nil_of_length_eq_zero (by rw [values_length]; rfl)

omit [TransOrd κ] in
lemma compare_eq_iff {a b : κ} : compare a b = .eq ↔ a = b := LawfulEqOrd.compare_eq_iff_eq

section Updates

variable [DecidableEq κ]

lemma getElem?_insert_eq (m : OrdMap κ β) (k a : κ) (v : β) :
    (m.insert k v)[a]? = if a = k then some v else m[a]? := by
  rw [ExtTreeMap.getElem?_insert]
  by_cases h : a = k
  · rw [if_pos h, if_pos (compare_eq_iff.mpr h.symm)]
  · rw [if_neg h, if_neg (fun h' => h (compare_eq_iff.mp h').symm)]

lemma getElem?_erase_eq (m : OrdMap κ β) (k a : κ) :
    (m.erase k)[a]? = if a = k then none else m[a]? := by
  rw [ExtTreeMap.getElem?_erase]
  by_cases h : a = k
  · rw [if_pos h, if_pos (compare_eq_iff.mpr h.symm)]
  · rw [if_neg h, if_neg (fun h' => h (compare_eq_iff.mp h').symm)]

lemma getElem?_modify_eq (m : OrdMap κ β) (k a : κ) (f : β → β) :
    (m.modify k f)[a]? = if a = k then m[a]?.map f else m[a]? := by
  rw [ExtTreeMap.getElem?_modify]
  by_cases h : a = k
  · subst h
    rw [if_pos (compare_eq_iff.mpr rfl), if_pos rfl]
  · rw [if_neg h, if_neg (fun h' => h (compare_eq_iff.mp h').symm)]

/-- Writing back the changed value of a key is a change under that key. -/
lemma insert_eq_modify {m : OrdMap κ β} {k : κ} {v : β} (h : m[k]? = some v) (f : β → β) :
    m.insert k (f v) = m.modify k f := by
  refine ExtTreeMap.ext_getElem? fun a => ?_
  rw [getElem?_insert_eq, getElem?_modify_eq]
  by_cases hk : a = k
  · subst hk
    simp [h]
  · simp [hk]

/-- A change that leaves the value of its key alone changes nothing. -/
lemma modify_eq_self {m : OrdMap κ β} {k : κ} {f : β → β} (h : ∀ v, m[k]? = some v → f v = v) : m.modify k f = m := by
  refine ExtTreeMap.ext_getElem? fun a => ?_
  rw [getElem?_modify_eq]
  split
  · rename_i hk
    subst hk
    cases hfind : m[a]? with
    | none => rfl
    | some v => rw [Option.map_some, h v hfind]
  · rfl

/-- It is enough that the change leaves alone whatever reads like the value of its key. -/
lemma modify_eq_self_of_map {γ : Type*} {m : OrdMap κ β} {k : κ} {read : β → γ} {f : β → β} {x : γ}
    (hf : ∀ v, read v = x → f v = v) (h : m[k]?.map read = some x) : m.modify k f = m :=
  modify_eq_self fun v hfind => hf v (by rwa [hfind, Option.map_some, Option.some.injEq] at h)

/-- Changes under different keys commute. -/
lemma modify_comm (m : OrdMap κ β) {k k' : κ} (h : k ≠ k') (f g : β → β) :
    (m.modify k f).modify k' g = (m.modify k' g).modify k f := by
  refine ExtTreeMap.ext_getElem? fun a => ?_
  simp only [getElem?_modify_eq]
  by_cases hk : a = k
  · subst hk
    simp [h]
  · simp [hk]

omit [DecidableEq κ] in
/-- So do changes of every value, if they commute on each. -/
lemma map_comm (m : OrdMap κ β) {f g : β → β} (h : ∀ v, f (g v) = g (f v)) :
    (m.map fun _ v => g v).map (fun _ v => f v) = (m.map fun _ v => f v).map fun _ v => g v := by
  refine ExtTreeMap.ext_getElem? fun a => ?_
  simp only [ExtTreeMap.getElem?_map, Option.map_map]
  congr 1
  funext v
  exact h v

end Updates

omit [LawfulEqOrd κ] in
lemma size_insert_le_succ (m : OrdMap κ β) (k : κ) (v : β) : (m.insert k v).size ≤ m.size + 1 :=
  ExtTreeMap.size_insert_le

omit [LawfulEqOrd κ] in
lemma size_le_insert (m : OrdMap κ β) (k : κ) (v : β) : m.size ≤ (m.insert k v).size := by
  rw [ExtTreeMap.size_insert]
  split <;> omega

/-- A map whose keys are among those of another is no larger. -/
lemma size_le_of_subset {γ : Type} {m : OrdMap κ β} {n : OrdMap κ γ} (h : ∀ k, k ∈ m → k ∈ n) :
    m.size ≤ n.size := by
  classical
  rw [← ExtTreeMap.length_keys, ← ExtTreeMap.length_keys]
  refine (List.subperm_of_subset ExtTreeMap.nodup_keys fun k hk => ?_).length_le
  exact ExtTreeMap.mem_keys.mpr (h k (ExtTreeMap.mem_keys.mp hk))

/-- A search through the values finds the first hit in the order of the keys. -/
lemma values_findSome?_eq_some {γ : Type} {m : OrdMap κ β} {f : β → Option γ} {b : γ} :
    (values m).findSome? f = some b ↔ ∃ (k : κ) (v : β), m[k]? = some v ∧ f v = some b ∧
      ∀ (k' : κ) v', m[k']? = some v' → compare k' k = .lt → f v' = none := by
  have hordered : m.toList.Pairwise fun p q => compare p.1 q.1 = .lt := ExtTreeMap.ordered_keys_toList
  rw [values, List.findSome?_map]
  constructor
  · intro h
    obtain ⟨before, ⟨k, v⟩, after, hsplit, hhit, hnone⟩ := List.findSome?_eq_some_iff.mp h
    have hmem : (k, v) ∈ m.toList := by simp [hsplit]
    refine ⟨k, v, ExtTreeMap.mem_toList_iff_getElem?_eq_some.mp hmem, hhit, fun k' v' hfind hlt => ?_⟩
    have hmem' : (k', v') ∈ m.toList := ExtTreeMap.mem_toList_iff_getElem?_eq_some.mpr hfind
    rw [hsplit] at hmem' hordered
    obtain ⟨-, hafter, -⟩ := List.pairwise_append.mp hordered
    rcases List.mem_append.mp hmem' with hbefore | hrest
    · exact hnone (k', v') hbefore
    · -- what comes later has a larger key
      have hge : compare k k' ≠ .gt := by
        rcases List.mem_cons.mp hrest with heq | hlater
        · cases heq
          simp
        · simp [(List.pairwise_cons.mp hafter).1 _ hlater]
      exact absurd (OrientedCmp.gt_of_lt hlt) hge
  · rintro ⟨k, v, hfind, hhit, hnone⟩
    have hmem : (k, v) ∈ m.toList := ExtTreeMap.mem_toList_iff_getElem?_eq_some.mpr hfind
    obtain ⟨before, after, hsplit⟩ := List.append_of_mem hmem
    refine List.findSome?_eq_some_iff.mpr ⟨before, (k, v), after, hsplit, hhit, fun p hp => ?_⟩
    have hp' : p ∈ m.toList := by simp [hsplit, hp]
    rw [hsplit] at hordered
    obtain ⟨-, -, hacross⟩ := List.pairwise_append.mp hordered
    exact hnone p.1 p.2 (ExtTreeMap.mem_toList_iff_getElem?_eq_some.mp hp') (hacross p hp (k, v) (by simp))

omit [LawfulEqOrd κ] in
lemma values_map {γ : Type} (m : OrdMap κ β) (f : β → γ) : values (m.map fun _ v => f v) = (values m).map f := by
  rw [values, values, ExtTreeMap.toList_map, List.map_map, List.map_map]
  rfl

/-- Two maps that hold the same of what passes a test show the same of it. -/
lemma values_filter_eq {m n : OrdMap κ β} {p : β → Bool}
    (h : ∀ (k : κ) v, p v = true → (m[k]? = some v ↔ n[k]? = some v)) : (values m).filter p = (values n).filter p := by
  have hlists : m.toList.filter (fun e => p e.2) = n.toList.filter (fun e => p e.2) := by
    have hordered (t : OrdMap κ β) :
        (t.toList.filter fun e => p e.2).Pairwise fun a b => compare a.1 b.1 = .lt :=
      List.Pairwise.filter _ ExtTreeMap.ordered_keys_toList
    have hnodup (t : OrdMap κ β) : (t.toList.filter fun e => p e.2).Nodup := by
      refine (hordered t).imp fun {a b} hlt heq => ?_
      rw [heq] at hlt
      simp at hlt
    refine List.Perm.eq_of_pairwise (fun a b _ _ hab hba => ?_) (hordered m) (hordered n)
      ((List.perm_ext_iff_of_nodup (hnodup m) (hnodup n)).mpr fun e => ?_)
    · have hgt := OrientedCmp.gt_of_lt hab
      rw [hba] at hgt
      cases hgt
    · simp only [List.mem_filter, ExtTreeMap.mem_toList_iff_getElem?_eq_some (k := e.1) (v := e.2)]
      constructor
      · rintro ⟨hfind, hp⟩
        exact ⟨(h e.1 e.2 hp).mp hfind, hp⟩
      · rintro ⟨hfind, hp⟩
        exact ⟨(h e.1 e.2 hp).mpr hfind, hp⟩
  have hfilter (t : OrdMap κ β) : (values t).filter p = (t.toList.filter fun e => p e.2).map Prod.snd := by
    rw [values, List.filter_map]
    rfl
  rw [hfilter, hfilter, hlists]

/-! Rebuilding a map from its values. -/

section Rebuild

variable [DecidableEq κ] (key : β → κ)

/-- Inserting a list of values under their own keys. -/
def insertAll (m : OrdMap κ β) (l : List β) : OrdMap κ β := l.foldl (fun acc v => acc.insert (key v) v) m

lemma getElem?_insertAll {l : List β} (hnodup : (l.map key).Nodup) (m : OrdMap κ β) (a : κ) :
    (insertAll key m l)[a]? = (l.find? fun v => decide (key v = a)).or m[a]? := by
  induction l generalizing m with
  | nil => simp [insertAll]
  | cons v rest ih =>
    obtain ⟨hv, hrest⟩ := List.nodup_cons.mp hnodup
    have hstep : insertAll key m (v :: rest) = insertAll key (m.insert (key v) v) rest := rfl
    rw [hstep, ih hrest, getElem?_insert_eq]
    by_cases h : key v = a
    · -- no later value has this key, so the inserted one stays
      have hnone : rest.find? (fun w => decide (key w = a)) = none := by
        refine List.find?_eq_none.mpr fun w hw heq => hv ?_
        rw [h, ← of_decide_eq_true heq]
        exact List.mem_map_of_mem hw
      simp [h, hnone]
    · simp [h, Ne.symm h]

omit [DecidableEq κ] in
lemma values_nodup {m : OrdMap κ β} (hkeyed : ∀ k v, m[k]? = some v → key v = k) :
    ((values m).map key).Nodup := by
  have hkeys : (values m).map key = m.keys := by
    rw [values, List.map_map, ← ExtTreeMap.map_fst_toList_eq_keys]
    refine List.map_congr_left fun p hp => ?_
    exact hkeyed p.1 p.2 (ExtTreeMap.mem_toList_iff_getElem?_eq_some.mp hp)
  rw [hkeys]
  exact ExtTreeMap.nodup_keys

omit [LawfulEqOrd κ] [DecidableEq κ] in
lemma values_ordered {m : OrdMap κ β} (hkeyed : ∀ p ∈ m.toList, key p.2 = p.1) :
    (values m).Pairwise fun v w => compare (key v) (key w) = .lt := by
  have hordered : m.toList.Pairwise fun p q => compare p.1 q.1 = .lt := ExtTreeMap.ordered_keys_toList
  refine List.pairwise_map.mpr (hordered.imp_of_mem fun {p q} hp hq hlt => ?_)
  rw [hkeyed p hp, hkeyed q hq]
  exact hlt

lemma insertAll_values {m : OrdMap κ β} (hkeyed : ∀ k v, m[k]? = some v → key v = k) :
    insertAll key ∅ (values m) = m := by
  refine ExtTreeMap.ext_getElem? fun a => ?_
  rw [getElem?_insertAll key (values_nodup key hkeyed), ExtTreeMap.getElem?_empty, Option.or_none]
  cases hfind : (values m).find? (fun v => decide (key v = a)) with
  | none =>
    cases hm : m[a]? with
    | none => rfl
    | some v =>
      have := List.find?_eq_none.mp hfind v (mem_values.mpr ⟨a, hm⟩)
      simp [hkeyed a v hm] at this
  | some v =>
    obtain ⟨k, hk⟩ := mem_values.mp (List.mem_of_find?_eq_some hfind)
    have ha : key v = a := by simpa using List.find?_some hfind
    rw [← ha, hkeyed k v hk, hk]

omit [LawfulEqOrd κ] [DecidableEq κ] in
lemma size_insertAll_le (m : OrdMap κ β) (l : List β) :
    (insertAll key m l).size ≤ m.size + l.length := by
  induction l generalizing m with
  | nil => exact le_rfl
  | cons v rest ih =>
    have hinsert := size_insert_le_succ m (key v) v
    have hrest := ih (m.insert (key v) v)
    show (insertAll key (m.insert (key v) v) rest).size ≤ _
    rw [List.length_cons]
    omega

lemma keyed_insertAll {m : OrdMap κ β} (l : List β) (hm : ∀ (k : κ) v, m[k]? = some v → key v = k) :
    ∀ (k : κ) v, (insertAll key m l)[k]? = some v → key v = k := by
  induction l generalizing m with
  | nil => exact hm
  | cons w rest ih =>
    refine ih fun k v hv => ?_
    rw [getElem?_insert_eq] at hv
    split at hv
    · rename_i hk
      cases hv
      exact hk.symm
    · exact hm k v hv

/-- Every record in the container was inserted, or had been there. -/
lemma mem_values_insertAll {m : OrdMap κ β} {l : List β} {v : β}
    (hv : v ∈ values (insertAll key m l)) : v ∈ values m ∨ v ∈ l := by
  induction l generalizing m with
  | nil => exact .inl hv
  | cons w rest ih =>
    rcases ih hv with hmem | hmem
    · obtain ⟨k, hk⟩ := mem_values.mp hmem
      rw [getElem?_insert_eq] at hk
      split at hk
      · cases hk
        exact .inr (by simp)
      · exact .inl (mem_values.mpr ⟨k, hk⟩)
    · exact .inr (by simp [hmem])

/-- Records that are inserted in the order of their keys come out as they went in. -/
lemma values_insertAll {l : List β} (h : l.Pairwise fun v w => compare (key v) (key w) = .lt) :
    values (insertAll key ∅ l) = l := by
  have hkeyed : ∀ (k : κ) v, (insertAll key ∅ l)[k]? = some v → key v = k := keyed_insertAll key l (by simp)
  have hnodup : (l.map key).Nodup := by
    refine List.pairwise_map.mpr (h.imp fun {v w} hlt heq => ?_)
    rw [heq, ReflOrd.compare_self] at hlt
    cases hlt
  refine List.Perm.eq_of_pairwise (fun v w _ _ hvw hwv => ?_) (values_ordered key fun p hp => ?_) h
    ((List.perm_ext_iff_of_nodup (List.Nodup.of_map _ (values_nodup key hkeyed)) (List.Nodup.of_map _ hnodup)).mpr
      fun v => ⟨fun hv => ?_, fun hv => ?_⟩)
  · rw [OrientedCmp.gt_of_lt hvw] at hwv
    cases hwv
  · exact hkeyed p.1 p.2 (ExtTreeMap.mem_toList_iff_getElem?_eq_some.mp hp)
  · exact (mem_values_insertAll key hv).resolve_left (by simp)
  · refine mem_values.mpr ⟨key v, ?_⟩
    rw [getElem?_insertAll key hnodup]
    cases hfind : l.find? fun w => decide (key w = key v) with
    | none => exact absurd (List.find?_eq_none.mp hfind v hv) (by simp)
    | some w =>
      have hkey : key w = key v := by simpa using List.find?_some hfind
      rw [List.inj_on_of_nodup_map hnodup (List.mem_of_find?_eq_some hfind) hv hkey, Option.some_or]

end Rebuild

end InterClusterFabric.LibraryOrdMap
