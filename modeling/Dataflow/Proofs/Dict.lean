import Dataflow.Dict
import Mathlib.Tactic

set_option autoImplicit false

/-! # The look-up theory of maps

Everything about a `Dict` follows from its look-ups. The first sections read entries, keys and
values back as look-ups and say what each operation does to `get?`; `Dict.ext_get?` says that
nothing else matters: two maps with the same look-ups are equal, because the entries of both
are sorted.
-/

namespace Dataflow

/-- A change of every element leaves a list alone exactly if it leaves each element alone. -/
theorem map_eq_self_iff {α : Type} {f : α → α} {l : List α} :
    l.map f = l ↔ ∀ a ∈ l, f a = a := by
  have h : l.map f = l.map id ↔ ∀ a ∈ l, f a = id a := List.map_inj_left
  rwa [List.map_id] at h

namespace Dict

variable {κ α : Type} [Ord κ]

/-! ## Entries, keys and values -/

theorem contains_iff (d : Dict κ α) (k : κ) : d.contains k = true ↔ ∃ v, d.get? k = some v :=
  Option.isSome_iff_exists

@[simp] theorem get?_empty (k : κ) : (empty : Dict κ α).get? k = none := rfl

/-- The keys are listed in strictly ascending order. -/
theorem ascending_keys (d : Dict κ α) : d.keys.Pairwise fun a b => compare a b = .lt :=
  List.pairwise_map.2 d.ascending

variable [Std.LawfulEqOrd κ]

/-- Two entries of a sorted list do not share a key. -/
theorem ne_of_ascending {k k' : κ} (h : compare k k' = .lt) : k ≠ k' := by
  rintro rfl
  have hself : compare k k = .eq := Std.ReflCmp.compare_self
  rw [hself] at h
  cases h

theorem nodup_keys (d : Dict κ α) : d.keys.Nodup :=
  d.ascending_keys.imp ne_of_ascending

variable [DecidableEq κ]

theorem find_cons (k k' : κ) (v : α) (l : List (κ × α)) :
    find k ((k', v) :: l) = if k = k' then some v else find k l := by
  simp only [find, Std.LawfulEqCmp.compare_eq_iff_eq]

theorem mem_of_find_eq_some {k : κ} {v : α} {l : List (κ × α)} (h : find k l = some v) :
    (k, v) ∈ l := by
  induction l with
  | nil => simp [find] at h
  | cons e rest ih =>
      obtain ⟨k', v'⟩ := e
      rw [find_cons] at h
      by_cases hk : k = k'
      · rw [if_pos hk, Option.some.injEq] at h
        rw [hk, h]
        exact List.mem_cons_self
      · rw [if_neg hk] at h
        exact List.mem_cons_of_mem _ (ih h)

theorem find_eq_some_of_mem {k : κ} {v : α} {l : List (κ × α)}
    (hl : l.Pairwise (fun a b => compare a.1 b.1 = .lt)) (h : (k, v) ∈ l) :
    find k l = some v := by
  induction l with
  | nil => cases h
  | cons e rest ih =>
      obtain ⟨k', v'⟩ := e
      obtain ⟨hhead, hrest⟩ := List.pairwise_cons.1 hl
      rw [find_cons]
      rcases List.mem_cons.1 h with heq | hmem
      · obtain ⟨rfl, rfl⟩ := Prod.mk.inj heq
        rw [if_pos rfl]
      · rw [if_neg (Ne.symm (ne_of_ascending (hhead _ hmem))), ih hrest hmem]

theorem mem_entries_iff (d : Dict κ α) (k : κ) (v : α) :
    (k, v) ∈ d.entries ↔ d.get? k = some v :=
  ⟨find_eq_some_of_mem d.ascending, mem_of_find_eq_some⟩

theorem mem_keys_iff (d : Dict κ α) (k : κ) : k ∈ d.keys ↔ (d.get? k).isSome := by
  simp only [keys, List.mem_map, Prod.exists, mem_entries_iff, Option.isSome_iff_exists]
  constructor
  · rintro ⟨k', v, hv, rfl⟩
    exact ⟨v, hv⟩
  · rintro ⟨v, hv⟩
    exact ⟨k, v, hv, rfl⟩

theorem mem_values_iff (d : Dict κ α) (v : α) : v ∈ d.values ↔ ∃ k, d.get? k = some v := by
  simp only [values, List.mem_map, Prod.exists, mem_entries_iff]
  constructor
  · rintro ⟨k, v', hv, rfl⟩
    exact ⟨k, hv⟩
  · rintro ⟨k, hk⟩
    exact ⟨k, v, hk, rfl⟩

/-- Values that know their keys list them. -/
theorem map_values_eq_keys {d : Dict κ α} {key : α → κ}
    (h : ∀ k v, d.get? k = some v → key v = k) : d.values.map key = d.keys := by
  rw [values, keys, List.map_map]
  refine List.map_congr_left fun e he => ?_
  exact h e.1 e.2 ((mem_entries_iff d e.1 e.2).1 he)

/-- A change of every value leaves a map alone exactly if it leaves each value alone. -/
protected theorem map_eq_self_iff {f : κ → α → α} {d : Dict κ α} :
    d.map f = d ↔ ∀ k v, d.get? k = some v → f k v = v := by
  have hentries : d.map f = d ↔ d.entries.map (fun e => (e.1, f e.1 e.2)) = d.entries := by
    obtain ⟨entries, ascending⟩ := d
    simp only [map, Dict.mk.injEq]
  rw [hentries, map_eq_self_iff]
  constructor
  · intro h k v hv
    exact (Prod.mk.inj (h (k, v) ((mem_entries_iff d k v).2 hv))).2
  · intro h e he
    rw [h e.1 e.2 ((mem_entries_iff d e.1 e.2).1 he)]

/-! ## Dropping and adding entries

`find` takes the first entry of a key, so that what `place` does to it does not depend on the
order of the entries. For `filter` it does: an entry that is dropped must not uncover
another one of its key. -/

theorem find_filter (p : κ → α → Bool) (k : κ) {l : List (κ × α)}
    (hl : l.Pairwise (fun a b => compare a.1 b.1 = .lt)) :
    find k (l.filter (fun e => p e.1 e.2)) = (find k l).filter (p k) := by
  induction l with
  | nil => rfl
  | cons e rest ih =>
      obtain ⟨k', v'⟩ := e
      obtain ⟨hhead, hrest⟩ := List.pairwise_cons.1 hl
      rw [find_cons, List.filter_cons]
      by_cases hk : k = k'
      · subst hk
        have hnone : find k rest = none := by
          refine Option.eq_none_iff_forall_not_mem.2 fun v hv => ?_
          exact ne_of_ascending (hhead _ (mem_of_find_eq_some hv)) rfl
        by_cases hp : p k v'
        · rw [if_pos hp, find_cons, if_pos rfl, if_pos rfl, Option.filter_some, if_pos hp]
        · rw [if_neg hp, if_pos rfl, Option.filter_some, if_neg hp, ih hrest, hnone,
            Option.filter_none]
      · rw [if_neg hk]
        by_cases hp : p k' v'
        · rw [if_pos hp, find_cons, if_neg hk, ih hrest]
        · rw [if_neg hp, ih hrest]

@[simp] theorem get?_erase (d : Dict κ α) (k k' : κ) :
    (d.erase k).get? k' = if k' = k then none else d.get? k' := by
  have hfind : (d.erase k).get? k' = (d.get? k').filter (fun _ => compare k k' != .eq) :=
    find_filter (fun x _ => compare k x != .eq) k' d.ascending
  rw [hfind]
  by_cases hk : k' = k
  · have hne : (compare k k' != .eq) = false := by
      rw [bne_eq_false_iff_eq, Std.LawfulEqCmp.compare_eq_iff_eq]
      exact hk.symm
    rw [if_pos hk, hne]
    cases d.get? k' <;> rfl
  · have hne : (compare k k' != .eq) = true := by
      rw [bne_iff_ne, Ne, Std.LawfulEqCmp.compare_eq_iff_eq]
      exact Ne.symm hk
    rw [if_neg hk, hne]
    cases d.get? k' <;> rfl

theorem length_place_of_find_eq_none {k : κ} (v : α) {l : List (κ × α)} (h : find k l = none) :
    (place k v l).length = l.length + 1 := by
  induction l with
  | nil => rfl
  | cons e rest ih =>
      obtain ⟨k₀, v₀⟩ := e
      rw [find_cons] at h
      by_cases hk : k = k₀
      · rw [if_pos hk] at h
        cases h
      · rw [if_neg hk] at h
        unfold place
        split
        · rfl
        · rename_i heq
          exact absurd (Std.LawfulEqCmp.compare_eq_iff_eq.1 heq) hk
        · rw [List.length_cons, ih h, List.length_cons]

variable [Std.TransOrd κ]

theorem find_place (k k' : κ) (v : α) (l : List (κ × α)) :
    find k' (place k v l) = if k' = k then some v else find k' l := by
  induction l with
  | nil => rw [place, find_cons]
  | cons e rest ih =>
      obtain ⟨k₀, v₀⟩ := e
      unfold place
      split
      · rw [find_cons]
      · rename_i heq
        rw [Std.LawfulEqCmp.compare_eq_iff_eq] at heq
        subst heq
        rw [find_cons, find_cons]
        by_cases hk : k' = k
        · rw [if_pos hk, if_pos hk]
        · rw [if_neg hk, if_neg hk, if_neg hk]
      · rename_i hgt
        have hne : k₀ ≠ k := ne_of_ascending (Std.OrientedCmp.gt_iff_lt.1 hgt)
        rw [find_cons, find_cons, ih]
        by_cases hk : k' = k₀
        · rw [if_pos hk, if_pos hk, if_neg (hk ▸ hne)]
        · rw [if_neg hk, if_neg hk]

@[simp] theorem get?_insert (d : Dict κ α) (k k' : κ) (v : α) :
    (d.insert k v).get? k' = if k' = k then some v else d.get? k' :=
  find_place k k' v d.entries

theorem get?_insert_self (d : Dict κ α) (k : κ) (v : α) : (d.insert k v).get? k = some v := by
  rw [get?_insert, if_pos rfl]

theorem get?_insert_of_ne (d : Dict κ α) {k k' : κ} (v : α) (h : k' ≠ k) :
    (d.insert k v).get? k' = d.get? k' := by
  rw [get?_insert, if_neg h]

/-- What was there first stays. -/
theorem get?_insertNew (d : Dict κ α) (k k' : κ) (v : α) :
    (d.insertNew k v).get? k' = (d.get? k').or (if k' = k then some v else none) := by
  unfold insertNew
  by_cases hc : d.contains k
  · obtain ⟨v', hv'⟩ := (d.contains_iff k).1 hc
    rw [if_pos hc]
    by_cases hk : k' = k
    · rw [hk, hv', Option.some_or]
    · rw [if_neg hk, Option.or_none]
  · have hnone : d.get? k = none := by
      refine Option.eq_none_iff_forall_not_mem.2 fun v' hv' => ?_
      exact hc ((d.contains_iff k).2 ⟨v', hv'⟩)
    rw [if_neg hc, get?_insert]
    by_cases hk : k' = k
    · rw [if_pos hk, if_pos hk, hk, hnone, Option.none_or]
    · rw [if_neg hk, if_neg hk, Option.or_none]

/-- A new key adds one entry. -/
theorem size_insert_of_get?_eq_none {d : Dict κ α} {k : κ} (v : α) (h : d.get? k = none) :
    (d.insert k v).size = d.size + 1 :=
  length_place_of_find_eq_none v h

/-- Of elements that are added under the same key, the first one stays. -/
theorem get?_foldl_insertNew {ι : Type} (key : ι → κ) (value : ι → α) (l : List ι)
    (d : Dict κ α) (k : κ) :
    (l.foldl (fun d i => d.insertNew (key i) (value i)) d).get? k =
      (d.get? k).or ((l.find? fun i => key i = k).map value) := by
  induction l generalizing d with
  | nil => rw [List.foldl_nil, List.find?_nil, Option.map_none, Option.or_none]
  | cons i rest ih =>
      rw [List.foldl_cons, ih, get?_insertNew, List.find?_cons, Option.or_assoc]
      by_cases hk : k = key i
      · rw [if_pos hk, decide_eq_true hk.symm, Option.some_or, Option.map_some]
      · rw [if_neg hk, decide_eq_false (Ne.symm hk), Option.none_or]

@[simp] theorem get?_singleton (k k' : κ) (v : α) :
    (singleton k v).get? k' = if k' = k then some v else none :=
  get?_insert empty k k' v

theorem get?_foldl_insert {l : List (κ × α)} (h : (l.map (·.1)).Nodup) (d : Dict κ α) (k : κ)
    (v : α) :
    (l.foldl (fun d e => d.insert e.1 e.2) d).get? k = some v ↔
      (k, v) ∈ l ∨ k ∉ l.map (·.1) ∧ d.get? k = some v := by
  induction l generalizing d with
  | nil => simp
  | cons e rest ih =>
      obtain ⟨k', v'⟩ := e
      obtain ⟨hk', hrest⟩ := List.nodup_cons.1 h
      rw [List.foldl_cons, ih hrest, get?_insert]
      by_cases hk : k = k'
      · subst hk
        have hnot : (k, v) ∉ rest := fun hmem => hk' (List.mem_map.2 ⟨(k, v), hmem, rfl⟩)
        simp [hnot, hk', eq_comm]
      · simp [hk]

/-- In a list with distinct keys every entry counts. -/
theorem get?_ofList_eq_some_iff {l : List (κ × α)} (h : (l.map (·.1)).Nodup) {k : κ} {v : α} :
    (ofList l).get? k = some v ↔ (k, v) ∈ l := by
  rw [ofList, get?_foldl_insert h, get?_empty]
  simp

/-- The keys of a map are those of the entries that it is made of. -/
theorem isSome_get?_foldl_insert (l : List (κ × α)) (d : Dict κ α) (k : κ) :
    ((l.foldl (fun d e => d.insert e.1 e.2) d).get? k).isSome ↔
      k ∈ l.map (·.1) ∨ (d.get? k).isSome := by
  induction l generalizing d with
  | nil => simp
  | cons e rest ih =>
      rw [List.foldl_cons, ih, get?_insert, List.map_cons, List.mem_cons]
      by_cases hk : k = e.1
      · simp [hk]
      · simp [hk]

theorem isSome_get?_ofList (l : List (κ × α)) (k : κ) :
    ((ofList l).get? k).isSome ↔ k ∈ l.map (·.1) := by
  rw [ofList, isSome_get?_foldl_insert, get?_empty]
  simp

theorem get?_foldl_insert_or (l : List (κ × α)) (d : Dict κ α) (k : κ) :
    (l.foldl (fun d e => d.insert e.1 e.2) d).get? k = ((ofList l).get? k).or (d.get? k) := by
  induction l generalizing d with
  | nil => rfl
  | cons e rest ih =>
      rw [ofList, List.foldl_cons, List.foldl_cons, ih, ih (empty.insert _ _), get?_insert,
        get?_insert, get?_empty, Option.or_assoc]
      by_cases hk : k = e.1
      · rw [if_pos hk, if_pos hk, Option.some_or]
      · rw [if_neg hk, if_neg hk, Option.none_or]

/-- An entry counts if its key does not come again. -/
theorem get?_ofList_cons (e : κ × α) (l : List (κ × α)) (k : κ) :
    (ofList (e :: l)).get? k = ((ofList l).get? k).or (if k = e.1 then some e.2 else none) := by
  rw [ofList, List.foldl_cons, get?_foldl_insert_or, get?_insert, get?_empty]

/-- **A map is its look-ups.** -/
theorem ext_get? {d d' : Dict κ α} (h : ∀ k, d.get? k = d'.get? k) : d = d' := by
  have hnd : ∀ c : Dict κ α, c.entries.Nodup := fun c =>
    c.ascending.imp fun hlt heq => ne_of_ascending hlt (congrArg Prod.fst heq)
  have hmem : ∀ e, e ∈ d.entries ↔ e ∈ d'.entries := by
    rintro ⟨k, v⟩
    rw [mem_entries_iff, mem_entries_iff, h]
  have hperm : d.entries.Perm d'.entries := (List.perm_ext_iff_of_nodup (hnd d) (hnd d')).2 hmem
  have hentries : d.entries = d'.entries := by
    refine hperm.eq_of_pairwise (fun a b ha hb hab hba => ?_) d.ascending d'.ascending
    have hgt : compare a.1 b.1 = .gt := Std.OrientedCmp.gt_iff_lt.2 hba
    rw [hab] at hgt
    cases hgt
  cases d
  cases d'
  simpa using hentries

/-- A map is made of its own entries. -/
@[simp] theorem ofList_toList (d : Dict κ α) : ofList d.toList = d := by
  refine ext_get? fun k => Option.ext fun v => ?_
  have hkeys : (d.toList.map (·.1)).Nodup := nodup_keys d
  rw [get?_ofList_eq_some_iff hkeys]
  exact mem_entries_iff d k v

end Dict

end Dataflow
