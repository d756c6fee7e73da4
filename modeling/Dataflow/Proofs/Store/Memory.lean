import Dataflow.Proofs.Store.Closure

set_option autoImplicit false

/-! # A memory store is a map

What a memory store answers depends on one thing only: which revision it holds under which
identifier (`MemoryStore.Refines`). A listing is strictly ascending, so that neither the order in
which the revisions are enumerated nor the way in which they came into the store can be seen in
it. After any history of insertions and removals a revision is held under an identifier if it was
the last one inserted there and has not been removed since (`MemoryStore.left`,
`MemoryStore.replay_refines`).
-/

namespace Dataflow

/-! ## What a query selects -/

namespace Query

/-- A revision passes every condition that a query sets. -/
structure Passes (q : Query) (r : Revision) : Prop where
  kind : ∀ kind, q.kind = some kind → r.kind = kind
  states : ∀ states, q.states = some states → r.state ∈ states
  categories : ∀ categories, q.categories = some categories → r.category ∈ categories
  ids : ∀ ids, q.ids = some ids → r.id ∈ ids

theorem admits_iff {α : Type} {condition : Option α} {test : α → Bool} :
    admits condition test = true ↔ ∀ a, condition = some a → test a = true := by
  cases condition <;> simp [admits]

theorem selects_iff {q : Query} {r : Revision} : q.selects r = true ↔ q.Passes r := by
  have hparts : q.selects r = true ↔
      (∀ kind, q.kind = some kind → r.kind = kind) ∧
        (∀ states, q.states = some states → r.state ∈ states) ∧
        (∀ categories, q.categories = some categories → r.category ∈ categories) ∧
        ∀ ids, q.ids = some ids → r.id ∈ ids := by
    simp only [selects, Bool.and_eq_true, admits_iff, decide_eq_true_iff, List.contains_iff_mem,
      and_assoc]
  rw [hparts]
  constructor
  · rintro ⟨hkind, hstates, hcategories, hids⟩
    exact ⟨hkind, hstates, hcategories, hids⟩
  · rintro ⟨hkind, hstates, hcategories, hids⟩
    exact ⟨hkind, hstates, hcategories, hids⟩

end Query

/-! ## Listings -/

/-- A strictly ascending list is determined by its members. -/
theorem eq_of_ascending {α : Type} {lt : α → α → Prop} (hasymm : ∀ a b, lt a b → ¬ lt b a)
    {l l' : List α} (hl : l.Pairwise lt) (hl' : l'.Pairwise lt)
    (hmem : ∀ a, a ∈ l ↔ a ∈ l') : l = l' := by
  have hnodup : ∀ {l : List α}, l.Pairwise lt → l.Nodup := by
    intro l hl
    refine hl.imp fun {a b} hab heq => ?_
    rw [heq] at hab
    exact hasymm b b hab hab
  -- in a strict order nothing comes twice, so that equal members make a permutation
  have hperm : l.Perm l' := (List.perm_ext_iff_of_nodup (hnodup hl) (hnodup hl')).2 hmem
  exact hperm.eq_of_pairwise (fun a b _ _ hab hba => absurd hba (hasymm a b hab)) hl hl'

namespace MemoryStore

/-- The order of a listing: by name, and by identifier within a name. -/
def Precedes (a b : Revision) : Prop :=
  a.name < b.name ∨ a.name = b.name ∧ a.id.bits < b.id.bits

theorem Precedes.asymm {a b : Revision} (h : Precedes a b) : ¬ Precedes b a := by
  rintro (hname | ⟨hname, hid⟩)
  · rcases h with h | ⟨h, -⟩
    · exact String.lt_asymm h hname
    · rw [h] at hname
      exact String.lt_irrefl _ hname
  · rcases h with h | ⟨-, h⟩
    · rw [hname] at h
      exact String.lt_irrefl _ h
    · exact BitVec.lt_asymm h hid

/-- How two revisions compare in a listing. -/
def order (a b : Revision) : Ordering := (compare a.name b.name).then (compare a.id b.id)

theorem order_eq : order = compareLex (compareOn (·.name)) (compareOn (·.id)) := rfl

theorem order_eq_lt_iff {a b : Revision} : order a b = .lt ↔ Precedes a b := by
  have hname : compare a.name b.name = .lt ↔ a.name < b.name := compareOfLessAndEq_eq_lt
  have hid : compare a.id b.id = .lt ↔ a.id.bits < b.id.bits := compareOfLessAndEq_eq_lt
  rw [order, Ordering.then_eq_lt, Std.LawfulEqCmp.compare_eq_iff_eq, hname, hid, Precedes]

theorem precedes_of_listedBefore {a b : Revision} (h : listedBefore a b = true)
    (hid : a.id ≠ b.id) : Precedes a b := by
  rw [← order_eq_lt_iff]
  have hle : (order a b).isLE = true := h
  cases horder : order a b with
  | lt => rfl
  | eq =>
      have heq := (Ordering.then_eq_eq.1 horder).2
      exact absurd (Std.LawfulEqCmp.compare_eq_iff_eq.1 heq) hid
  | gt =>
      rw [horder] at hle
      cases hle

theorem listedBefore_trans (a b c : Revision) (hab : listedBefore a b = true)
    (hbc : listedBefore b c = true) : listedBefore a c = true := by
  have htrans : Std.TransCmp order := order_eq ▸ inferInstance
  exact htrans.isLE_trans hab hbc

theorem listedBefore_total (a b : Revision) : (listedBefore a b || listedBefore b a) = true := by
  have hcmp : Std.TransCmp order := order_eq ▸ inferInstance
  show ((order a b).isLE || (order b a).isLE) = true
  have hswap : order b a = (order a b).swap := hcmp.eq_swap
  rw [hswap]
  cases order a b <;> rfl

theorem pairwise_listedBefore (l : List Revision) :
    (l.mergeSort listedBefore).Pairwise fun a b => listedBefore a b = true :=
  List.pairwise_mergeSort listedBefore_trans listedBefore_total l

/-- The revisions that a query selects from an enumeration of a store. -/
def selectFrom (enumerated : List Revision) (q : Query) : List Revision :=
  (enumerated.filter q.selects).mergeSort listedBefore

/-- The categories of one kind of revision, or of all, in an enumeration of a store. -/
def categoriesFrom (enumerated : List Revision) (kind : Option RevisionKind) : List String :=
  let selected := enumerated.filter fun r => Query.admits kind (fun k => r.kind = k)
  (Dict.ofList (selected.map fun r => (r.category, ()))).keys

/-- A store selects from its revisions as they are listed by identifier. -/
theorem selectFrom_values (s : MemoryStore) : selectFrom s.revisions.values = s.select := rfl

theorem categoriesFrom_values (s : MemoryStore) :
    categoriesFrom s.revisions.values = s.categories := rfl

section Enumeration

variable {enumerated : List Revision}

theorem mem_selectFrom {q : Query} {r : Revision} :
    r ∈ selectFrom enumerated q ↔ r ∈ enumerated ∧ q.Passes r := by
  rw [selectFrom, List.mem_mergeSort, List.mem_filter, Query.selects_iff]

/-- Of revisions with distinct identifiers a listing is strictly ascending. -/
theorem pairwise_selectFrom (h : (enumerated.map (·.id)).Nodup) (q : Query) :
    (selectFrom enumerated q).Pairwise Precedes := by
  -- only revisions with one identifier can stand on a level in the order of the sort
  have hids : ((selectFrom enumerated q).map (·.id)).Nodup := by
    have hperm : (selectFrom enumerated q).Perm (enumerated.filter q.selects) :=
      List.mergeSort_perm _ _
    refine (hperm.map _).nodup_iff.2 (h.sublist ?_)
    exact List.filter_sublist.map _
  exact (pairwise_listedBefore _).imp₂ (fun _ _ hle hne => precedes_of_listedBefore hle hne)
    (List.pairwise_map.1 hids)

/-- A narrower query takes revisions away from what is selected. -/
theorem selectFrom_of_narrower {q q' : Query} {p : Revision → Bool}
    (hids : (enumerated.map (·.id)).Nodup) (h : ∀ r, q'.Passes r ↔ q.Passes r ∧ p r = true) :
    selectFrom enumerated q' = (selectFrom enumerated q).filter p := by
  refine eq_of_ascending (fun _ _ => Precedes.asymm) (pairwise_selectFrom hids q')
    ((pairwise_selectFrom hids q).filter p) fun r => ?_
  rw [List.mem_filter, mem_selectFrom, mem_selectFrom, h, and_assoc]

theorem mem_categoriesFrom {kind : Option RevisionKind} {category : String} :
    category ∈ categoriesFrom enumerated kind ↔
      ∃ r ∈ enumerated, (∀ k, kind = some k → r.kind = k) ∧ r.category = category := by
  have hadmits : ∀ r : Revision, Query.admits kind (fun k => decide (r.kind = k)) = true ↔
      ∀ k, kind = some k → r.kind = k := by
    intro r
    simp only [Query.admits_iff, decide_eq_true_iff]
  rw [categoriesFrom, Dict.mem_keys_iff, Dict.isSome_get?_ofList, List.map_map]
  simp only [List.mem_map, List.mem_filter, hadmits, Function.comp_apply, and_assoc]

theorem pairwise_categoriesFrom (kind : Option RevisionKind) :
    (categoriesFrom enumerated kind).Pairwise (· < ·) :=
  (Dict.ascending_keys _).imp compareOfLessAndEq_eq_lt.1

/-- A listing does not show in which order the revisions were enumerated. -/
theorem selectFrom_of_perm {enumerated' : List Revision} (hperm : enumerated.Perm enumerated')
    (h : (enumerated'.map (·.id)).Nodup) (q : Query) :
    selectFrom enumerated q = selectFrom enumerated' q := by
  have hids : (enumerated.map (·.id)).Nodup := (hperm.map _).nodup_iff.2 h
  refine eq_of_ascending (fun _ _ => Precedes.asymm) (pairwise_selectFrom hids q)
    (pairwise_selectFrom h q) fun r => ?_
  rw [mem_selectFrom, mem_selectFrom, hperm.mem_iff]

theorem categoriesFrom_of_perm {enumerated' : List Revision}
    (hperm : enumerated.Perm enumerated') (kind : Option RevisionKind) :
    categoriesFrom enumerated kind = categoriesFrom enumerated' kind := by
  refine eq_of_ascending (fun _ _ => String.lt_asymm) (pairwise_categoriesFrom kind)
    (pairwise_categoriesFrom kind) fun category => ?_
  simp only [mem_categoriesFrom, hperm.mem_iff]

end Enumeration

/-! ## What a store answers -/

/-- A store answers as a map from identifiers to revisions does. -/
structure Refines (s : MemoryStore) (m : Uuid → Option Revision) : Prop where
  /-- A look-up fails only over an identifier that has no revision, and says which. -/
  get : ∀ id, s.get id = (m id).elim (.error (.notFound id)) .ok
  remove : ∀ id, (s.remove id).1 = m id
  size : s.size = {id | m id ≠ none}.ncard
  /-- The revisions that pass a query are listed. -/
  mem_select : ∀ q r, r ∈ s.select q ↔ (∃ id, m id = some r) ∧ q.Passes r
  /-- They are listed in their order, each once. -/
  select_ascending : ∀ q, (s.select q).Pairwise Precedes
  /-- It does not matter in which order the revisions are enumerated. -/
  select_eq : ∀ enumerated : List Revision, enumerated.Perm s.revisions.values →
    ∀ q, selectFrom enumerated q = s.select q
  /-- The categories are those of the revisions of the kind. -/
  mem_categories : ∀ kind category, category ∈ s.categories kind ↔
    ∃ id r, m id = some r ∧ (∀ k, kind = some k → r.kind = k) ∧ r.category = category
  categories_ascending : ∀ kind, (s.categories kind).Pairwise (· < ·)
  categories_eq : ∀ enumerated : List Revision, enumerated.Perm s.revisions.values →
    ∀ kind, categoriesFrom enumerated kind = s.categories kind

variable {s s' : MemoryStore} {m : Uuid → Option Revision}

theorem mem_values_iff {r : Revision} :
    r ∈ s.revisions.values ↔ ∃ id, s.revisions.get? id = some r :=
  Dict.mem_values_iff _ _

/-- A revision is enumerated if it is found under its identifier. -/
theorem mem_values_iff_get {r : Revision} : r ∈ s.revisions.values ↔ s.get r.id = .ok r := by
  rw [mem_values_iff]
  constructor
  · rintro ⟨id, hid⟩
    have hget : s.get id = .ok r := get_eq_ok_iff.2 hid
    rwa [id_of_get hget]
  · intro hget
    exact ⟨r.id, get_eq_ok_iff.1 hget⟩

/-- No identifier is enumerated twice. -/
theorem nodup_ids (s : MemoryStore) : (s.revisions.values.map (·.id)).Nodup := by
  have hkeys : s.revisions.values.map (·.id) = s.revisions.keys :=
    Dict.map_values_eq_keys fun id r h => s.keyed (id, r) ((Dict.mem_entries_iff _ _ _).2 h)
  rw [hkeys]
  exact Dict.nodup_keys _

/-- The number of revisions is the number of identifiers that have one. -/
theorem size_eq_ncard (s : MemoryStore) : s.size = {id | s.revisions.get? id ≠ none}.ncard := by
  have hset : {id | s.revisions.get? id ≠ none} = ↑s.revisions.keys.toFinset := by
    ext id
    rw [List.coe_toFinset, Set.mem_ofPred_eq, Set.mem_ofPred_eq, Dict.mem_keys_iff,
      Option.isSome_iff_ne_none]
  rw [hset, Set.ncard_coe_finset, List.toFinset_card_of_nodup (Dict.nodup_keys _)]
  exact (List.length_map _).symm

/-- **What a store answers depends on its look-ups only.** -/
theorem refines_of_get? (h : ∀ id, s.revisions.get? id = m id) : s.Refines m where
  get id := by
    rw [get, ← h]
    cases s.revisions.get? id <;> rfl
  remove := h
  size := by
    rw [size_eq_ncard]
    simp only [h]
  mem_select q r := by
    rw [← selectFrom_values, mem_selectFrom, mem_values_iff]
    simp only [h]
  select_ascending q := pairwise_selectFrom s.nodup_ids q
  select_eq enumerated hperm q := selectFrom_of_perm hperm s.nodup_ids q
  mem_categories kind category := by
    rw [← categoriesFrom_values, mem_categoriesFrom]
    simp only [mem_values_iff, h]
    constructor
    · rintro ⟨r, ⟨id, hid⟩, hkind, hcategory⟩
      exact ⟨id, r, hid, hkind, hcategory⟩
    · rintro ⟨id, r, hid, hkind, hcategory⟩
      exact ⟨r, ⟨id, hid⟩, hkind, hcategory⟩
  categories_ascending := pairwise_categoriesFrom
  categories_eq enumerated hperm kind := categoriesFrom_of_perm hperm kind

/-- Two stores give the same answers. -/
structure SameAnswers (s s' : MemoryStore) : Prop where
  get : ∀ id, s.get id = s'.get id
  remove : ∀ id, (s.remove id).1 = (s'.remove id).1
  size : s.size = s'.size
  select : ∀ q, s.select q = s'.select q
  categories : ∀ kind, s.categories kind = s'.categories kind

/-- Stores that refine one map cannot be told apart. -/
theorem Refines.sameAnswers (h : s.Refines m) (h' : s'.Refines m) : s.SameAnswers s' where
  get id := by rw [h.get, h'.get]
  remove id := by rw [h.remove, h'.remove]
  size := by rw [h.size, h'.size]
  select q := by
    refine eq_of_ascending (fun _ _ => Precedes.asymm) (h.select_ascending q)
      (h'.select_ascending q) fun r => ?_
    rw [h.mem_select, h'.mem_select]
  categories kind := by
    refine eq_of_ascending (fun _ _ => String.lt_asymm) (h.categories_ascending kind)
      (h'.categories_ascending kind) fun category => ?_
    rw [h.mem_categories, h'.mem_categories]

/-! ## Histories -/

/-- A change of a store. -/
inductive Change where
  | insert (r : Revision)
  | remove (id : Uuid)

/-- What a change leaves under an identifier, if it is about this identifier. -/
def Change.effect? (id : Uuid) : Change → Option (Option Revision)
  | insert r => if r.id = id then some (some r) else none
  | remove id' => if id' = id then some none else none

/-- What a history leaves under an identifier: what the last change about it leaves. -/
def left (history : List Change) (id : Uuid) : Option Revision :=
  (history.reverse.findSome? (Change.effect? id)).join

/-- A history that is not about an identifier leaves nothing under it. -/
theorem left_of_untouched {history : List Change} {id : Uuid}
    (h : ∀ change ∈ history, change.effect? id = none) : left history id = none := by
  have hnone : history.reverse.findSome? (Change.effect? id) = none :=
    List.findSome?_eq_none_iff.2 fun change hmem => h change (List.mem_reverse.1 hmem)
  rw [left, hnone]
  rfl

/-- The store after a change. -/
def apply (s : MemoryStore) : Change → MemoryStore
  | .insert r => s.insert r
  | .remove id => (s.remove id).2

/-- The store that a history makes of the empty one. -/
def replay (history : List Change) : MemoryStore := history.foldl apply empty

/-- A change has its effect on the identifier that it is about, and none on the others. -/
theorem get?_apply (s : MemoryStore) (change : Change) (id : Uuid) :
    (s.apply change).revisions.get? id = (change.effect? id).getD (s.revisions.get? id) := by
  cases change with
  | insert r =>
      show (s.revisions.insert r.id r).get? id = _
      rw [Dict.get?_insert, Change.effect?]
      by_cases hid : id = r.id
      · rw [if_pos hid, if_pos hid.symm, Option.getD_some]
      · rw [if_neg hid, if_neg (Ne.symm hid), Option.getD_none]
  | remove id' =>
      show (s.revisions.erase id').get? id = _
      rw [Dict.get?_erase, Change.effect?]
      by_cases hid : id = id'
      · rw [if_pos hid, if_pos hid.symm, Option.getD_some]
      · rw [if_neg hid, if_neg (Ne.symm hid), Option.getD_none]

theorem left_concat (history : List Change) (change : Change) (id : Uuid) :
    left (history ++ [change]) id = (change.effect? id).getD (left history id) := by
  rw [left, List.reverse_append, List.reverse_singleton, List.singleton_append,
    List.findSome?_cons]
  cases change.effect? id <;> rfl

/-- **A history leaves in the store what it leaves.** -/
theorem get?_replay (history : List Change) (id : Uuid) :
    (replay history).revisions.get? id = left history id := by
  -- the last change decides, so the induction takes changes off the end
  induction history using List.reverseRecOn with
  | nil => rfl
  | append_singleton history change ih =>
      rw [replay, List.foldl_append, List.foldl_cons, List.foldl_nil, get?_apply, left_concat]
      exact congrArg _ ih

/-- **After any history a store answers as the map of what the history leaves**: look-ups and
removals find what was left, and listings hold all of it, in order and each once, in whatever
order the store enumerates its revisions. Histories that leave the same make stores that cannot
be told apart. -/
theorem replay_refines (history : List Change) :
    (replay history).Refines (left history) ∧
      ∀ history', left history' = left history →
        (replay history').SameAnswers (replay history) := by
  have hrefines : ∀ history, (replay history).Refines (left history) :=
    fun history => refines_of_get? (get?_replay history)
  refine ⟨hrefines history, fun history' hleft => ?_⟩
  have hsame : (replay history').Refines (left history) := hleft ▸ hrefines history'
  exact hsame.sameAnswers (hrefines history)

/-! A revision that is removed and inserted anew, and one that stays. -/

/-- A component without inputs and outputs. -/
def sampleComponent (id : Nat) (category : String) : Revision :=
  .component (.ofNat id) .nil "sample" category .empty ⟨.nil, "main", ""⟩

/-- What is left after a detour is what is left without it, the other way round. -/
theorem replay_refines_detour :
    let detour := [Change.insert (sampleComponent 1 "b"), .insert (sampleComponent 2 "a"),
      .remove (.ofNat 1), .insert (sampleComponent 1 "c")]
    let direct := [Change.insert (sampleComponent 1 "c"), .insert (sampleComponent 2 "a")]
    left direct = left detour ∧ (replay direct).SameAnswers (replay detour) ∧
      (replay detour).size = 2 ∧ (replay detour).categories none = ["a", "c"] := by
  intro detour direct
  have hleft : left direct = left detour := by
    funext id
    by_cases hfirst : id = .ofNat 1
    · rw [hfirst]
      rfl
    · by_cases hsecond : id = .ofNat 2
      · rw [hsecond]
        rfl
      · have habout : ∀ change ∈ direct ++ detour, change.effect? id = none := by
          simp only [direct, detour, List.cons_append, List.nil_append, List.forall_mem_cons]
          have hinsert : ∀ n category, id ≠ .ofNat n →
              (Change.insert (sampleComponent n category)).effect? id = none :=
            fun n category h => if_neg (Ne.symm h)
          have hremove : (Change.remove (.ofNat 1)).effect? id = none := if_neg (Ne.symm hfirst)
          simp [hinsert, hremove, hfirst, hsecond]
        obtain ⟨hdirect, hdetour⟩ := List.forall_mem_append.1 habout
        rw [left_of_untouched hdirect, left_of_untouched hdetour]
  exact ⟨hleft, (replay_refines detour).2 direct hleft, rfl, rfl⟩

end MemoryStore

end Dataflow
