import Dataflow.Proofs.Component.Listing

set_option autoImplicit false

/-! # Browsing and flat listing agree

The entries of a direction can be listed flat, or browsed by category. Both apply the same rules,
but the query behind a level asks for one category, and the levels are cut by another predicate
than the rules. `ComponentConfig.browsing_agrees` says that nothing is lost or doubled in between:
the flat listing has one entry for each component that passes the rules, and the level below a
category is the part of the flat listing that belongs to it. That both come in the same order is
a property of sorting: taking elements away before or after it makes no difference
(`List.filter_mergeSort_of_total`).
-/

namespace List

variable {α β : Type}

section MergeSort

variable {le : α → α → Bool} (htrans : ∀ a b c, le a b = true → le b c = true → le a c = true)
  (htotal : ∀ a b, (le a b || le b a) = true)

include htrans htotal

/-- A sorted list falls into what is less than an element and what is not, and sorting the element
in puts it between the two. -/
theorem mergeSort_parts (a : α) (l : List α) :
    l.mergeSort le =
        (l.mergeSort le).filter (fun b => !le a b) ++ (l.mergeSort le).filter (le a) ∧
      (a :: l).mergeSort le =
        (l.mergeSort le).filter (fun b => !le a b) ++ a :: (l.mergeSort le).filter (le a) := by
  obtain ⟨l₁, l₂, hcons, hl, hless⟩ := mergeSort_cons htrans htotal a l
  have hnot : ∀ b ∈ l₂, le a b = true := by
    have hpairwise := pairwise_mergeSort htrans htotal (a :: l)
    rw [hcons] at hpairwise
    exact (pairwise_cons.1 (pairwise_append.1 hpairwise).2.1).1
  have hfirst : (l.mergeSort le).filter (fun b => !le a b) = l₁ := by
    have hnone : l₂.filter (fun b => !le a b) = [] :=
      filter_eq_nil_iff.2 fun b hb => by simp [hnot b hb]
    rw [hl, filter_append, filter_eq_self.2 hless, hnone, append_nil]
  have hsecond : (l.mergeSort le).filter (le a) = l₂ := by
    have hnone : l₁.filter (le a) = [] :=
      filter_eq_nil_iff.2 fun b hb => by simpa using hless b hb
    rw [hl, filter_append, filter_eq_self.2 hnot, hnone, nil_append]
  rw [hfirst, hsecond]
  exact ⟨hl, hcons⟩

/-- Taking elements away from a sorted list is sorting what is left. -/
theorem filter_mergeSort_of_total (p : α → Bool) (l : List α) :
    (l.mergeSort le).filter p = (l.filter p).mergeSort le := by
  induction l with
  | nil => simp
  | cons a l ih =>
      obtain ⟨hparts, hcons⟩ := mergeSort_parts htrans htotal a l
      cases hp : p a with
      | false =>
          have hneg : ¬ p a = true := by simp [hp]
          rw [hcons, filter_append, filter_cons_of_neg hneg, ← filter_append, ← hparts, ih,
            filter_cons_of_neg hneg]
      | true =>
          rw [hcons, filter_append, filter_cons_of_pos hp, filter_cons_of_pos hp,
            (mergeSort_parts htrans htotal a (l.filter p)).2, ← ih, filter_comm,
            filter_comm (le a)]

/-- Sorting fewer elements gives fewer of the sorted ones, in the same order. -/
theorem Sublist.mergeSort_of_total {l₁ l₂ : List α} (h : l₁.Sublist l₂) :
    (l₁.mergeSort le).Sublist (l₂.mergeSort le) := by
  induction h with
  | slnil => exact Sublist.refl _
  | @cons l₁ l₂ a _ ih =>
      obtain ⟨hparts, hcons⟩ := mergeSort_parts htrans htotal a l₂
      rw [hcons]
      rw [hparts] at ih
      exact ih.trans ((Sublist.refl _).append (sublist_cons_self a _))
  | @cons_cons l₁ l₂ a _ ih =>
      rw [(mergeSort_parts htrans htotal a l₁).2, (mergeSort_parts htrans htotal a l₂).2]
      exact (ih.filter _).append ((ih.filter _).cons_cons a)

end MergeSort

/-- Where a partial function is defined on a list, its results stand for the elements. -/
theorem forall₂_filterMap {f : α → Option β} {l : List α} (h : ∀ a ∈ l, ∃ b, f a = some b) :
    List.Forall₂ (fun b a => f a = some b) (l.filterMap f) l := by
  induction l with
  | nil => exact .nil
  | cons a l ih =>
      obtain ⟨b, hb⟩ := h a List.mem_cons_self
      rw [List.filterMap_cons_some hb]
      exact .cons hb (ih fun a' ha' => h a' (List.mem_cons_of_mem a ha'))

end List

namespace Dataflow

namespace StructureEntry

variable {direction : Direction} {r : Revision} {listed : StructureEntry}

theorem category_of_ofRevision? (h : ofRevision? direction r = some listed) :
    listed.category = r.category := by
  obtain ⟨t, -, rfl⟩ := Option.map_eq_some_iff.1 h
  rfl

/-- Entries are sorted by name. -/
def byName (a b : StructureEntry) : Bool := (compare a.name b.name).isLE

theorem byName_iff {a b : StructureEntry} : byName a b = true ↔ a.name ≤ b.name := by
  have hgt : compare a.name b.name = .gt ↔ b.name < a.name := by
    rw [Std.OrientedCmp.gt_iff_lt]
    exact compareOfLessAndEq_eq_lt
  rw [byName, Ordering.isLE_iff_ne_gt, ← String.not_lt, ← hgt]

theorem byName_trans (a b c : StructureEntry) (hab : byName a b = true) (hbc : byName b c = true) :
    byName a c = true := by
  rw [byName_iff] at hab hbc ⊢
  exact String.le_trans hab hbc

theorem byName_total (a b : StructureEntry) : (byName a b || byName b a) = true := by
  rw [Bool.or_eq_true, byName_iff, byName_iff]
  exact String.le_total a.name b.name

end StructureEntry

namespace ComponentConfig

variable {c : ComponentConfig} {s : MemoryStore} {direction : Direction}

/-! ## The flat listing -/

/-- The selected components that may be used in a direction. -/
def suitable (c : ComponentConfig) (direction : Direction) (components : List Revision) :
    List Revision :=
  components.filter fun r => (c.unsuitability? (.ofRevision r) direction false).isNone

theorem entriesOf_eq (components : List Revision) :
    c.entriesOf direction false components =
      ((c.suitable direction components).filterMap
        (StructureEntry.ofRevision? direction)).mergeSort StructureEntry.byName := rfl

theorem mem_suitable_iff {components : List Revision} {r : Revision} :
    r ∈ c.suitable direction components ↔
      r ∈ components ∧ c.accept (.ofRevision r) direction false = .ok () := by
  rw [suitable, List.mem_filter, isNone_unsuitability?_iff]

/-- What a query of a direction selects, of all categories or of some. -/
def selected (c : ComponentConfig) (s : MemoryStore) (categories : Option (List String)) :
    List Revision :=
  MemoryStore.selectFrom s.revisions.values
    ⟨some .component, some (c.allowedStates false), categories, none⟩

theorem listing_eq (categories : Option (List String)) :
    c.listing s direction categories none false =
      c.entriesOf direction false (c.selected s categories) := rfl

/-- The components that pass the rules are among those that are selected. -/
theorem mem_suitable_selected_iff {r : Revision} :
    r ∈ c.suitable direction (c.selected s none) ↔
      s.get r.id = .ok r ∧ c.accept (.ofRevision r) direction false = .ok () := by
  rw [mem_suitable_iff, selected, MemoryStore.mem_selectFrom, MemoryStore.mem_values_iff_get]
  constructor
  · rintro ⟨⟨hget, -⟩, haccept⟩
    exact ⟨hget, haccept⟩
  · rintro ⟨hget, haccept⟩
    refine ⟨⟨hget, (passes_iff_of_accept haccept).2 ⟨?_, ?_⟩⟩, haccept⟩
    · rintro categories ⟨⟩
    · rintro ids ⟨⟩

/-- Entries stand for components, one for each. -/
structure StandsFor (c : ComponentConfig) (s : MemoryStore) (direction : Direction)
    (l : List StructureEntry) (components : List Revision) : Prop where
  /-- The components are those stored that pass the rules, disabled ones not allowed. -/
  mem_iff : ∀ r, r ∈ components ↔
    s.get r.id = .ok r ∧ c.accept (.ofRevision r) direction false = .ok ()
  nodup : components.Nodup
  made : List.Forall₂ (fun listed r => StructureEntry.ofRevision? direction r = some listed)
    l components

/-- **The flat listing has one entry for each component that passes the rules.** -/
theorem exists_standsFor (c : ComponentConfig) (s : MemoryStore) (direction : Direction) :
    ∃ components, c.StandsFor s direction (c.listing s direction none none false) components := by
  let passed := c.suitable direction (c.selected s none)
  have hnodup : passed.Nodup := by
    have hselected : (c.selected s none).Nodup := by
      refine (MemoryStore.pairwise_selectFrom s.nodup_ids _).imp fun {a b} hab heq => ?_
      rw [heq] at hab
      exact hab.asymm hab
    exact hselected.sublist List.filter_sublist
  have hentries : ∀ r ∈ passed, ∃ listed, StructureEntry.ofRevision? direction r = some listed := by
    intro r hr
    exact StructureEntry.exists_ofRevision?_of_accept (mem_suitable_selected_iff.1 hr).2
  -- sorting permutes the entries, and the components with them
  have hperm : (c.listing s direction none none false).Perm
      (passed.filterMap (StructureEntry.ofRevision? direction)) := List.mergeSort_perm _ _
  obtain ⟨components, hmade, hcomponents⟩ :=
    List.perm_comp_forall₂ hperm (List.forall₂_filterMap hentries)
  refine ⟨components, fun r => ?_, hcomponents.nodup_iff.2 hnodup, hmade⟩
  rw [hcomponents.mem_iff]
  exact mem_suitable_selected_iff

theorem pairwise_listing (categories : Option (List String)) :
    (c.listing s direction categories none false).Pairwise fun a b => a.name ≤ b.name := by
  rw [listing_eq, entriesOf_eq]
  exact (List.pairwise_mergeSort StructureEntry.byName_trans StructureEntry.byName_total _).imp
    fun h => StructureEntry.byName_iff.1 h

/-- A property of entries that is one of components takes entries away with their components. -/
theorem filter_filterMap_ofRevision? {p : StructureEntry → Bool} {q : Revision → Bool}
    (h : ∀ r listed, StructureEntry.ofRevision? direction r = some listed → p listed = q r)
    (components : List Revision) :
    (components.filterMap (StructureEntry.ofRevision? direction)).filter p =
      (components.filter q).filterMap (StructureEntry.ofRevision? direction) := by
  rw [List.filter_filterMap, List.filterMap_filter]
  refine List.filterMap_congr fun r _ => ?_
  cases hmade : StructureEntry.ofRevision? direction r with
  | none => simp
  | some listed => rw [Option.filter_some, h r listed hmade]

/-- A part of the flat listing is the listing of a part of the components. -/
theorem filter_listing {p : StructureEntry → Bool} {q : Revision → Bool}
    (h : ∀ r listed, StructureEntry.ofRevision? direction r = some listed → p listed = q r) :
    (c.listing s direction none none false).filter p =
      c.entriesOf direction false ((c.selected s none).filter q) := by
  rw [listing_eq, entriesOf_eq, entriesOf_eq,
    List.filter_mergeSort_of_total StructureEntry.byName_trans StructureEntry.byName_total,
    filter_filterMap_ofRevision? h, suitable, suitable, List.filter_comm]

/-! ## The level below a category -/

/-- Asking for one category is taking its components out of all. -/
theorem selected_category (category : String) :
    c.selected s (some [category]) =
      (c.selected s none).filter fun r => decide (r.category = category) := by
  refine MemoryStore.selectFrom_of_narrower s.nodup_ids fun r => ?_
  rw [decide_eq_true_iff]
  refine ⟨fun h => ?_, fun h => ?_⟩
  · refine ⟨⟨h.kind, h.states, ?_, h.ids⟩, List.mem_singleton.1 (h.categories _ rfl)⟩
    rintro categories ⟨⟩
  · refine ⟨h.1.kind, h.1.states, ?_, h.1.ids⟩
    rintro categories ⟨⟩
    exact List.mem_singleton.2 h.2

/-- The listing of a category is the part of the flat listing that belongs to it. -/
theorem listing_category (category : String) :
    c.listing s direction (some [category]) none false =
      (c.listing s direction none none false).filter
        fun listed => decide (listed.category = category) := by
  have hcategory : ∀ r listed, StructureEntry.ofRevision? direction r = some listed →
      decide (listed.category = category) = decide (r.category = category) := by
    intro r listed hmade
    rw [StructureEntry.category_of_ofRevision? hmade]
  rw [filter_listing hcategory, listing_eq, selected_category]

/-! ## The root -/

theorem pairwise_thingNodes :
    ∃ nodes, c.structureBelow s.toStore none = .ok ⟨nodes, [], []⟩ ∧
      nodes.Pairwise fun a b => a.category < b.category := by
  refine ⟨_, rfl, ?_⟩
  rw [List.pairwise_map]
  exact (MemoryStore.pairwise_categoriesFrom (some .component)).filter _

/-- **Browsing and flat listing agree.** In each direction the flat listing has one entry for each
stored component that passes the rules, and no other, by name; the level below a category holds
the entries of the flat listing that belong to the category, in the same order; and the categories
at the root are strictly ascending and hold that of every entry. -/
theorem browsing_agrees (c : ComponentConfig) (s : MemoryStore) (direction : Direction) :
    ∃ l nodes, c.entriesByName s.toStore direction none = .ok l ∧
      c.structureBelow s.toStore none = .ok ⟨nodes, [], []⟩ ∧
      (∃ components, c.StandsFor s direction l components) ∧
      l.Pairwise (fun a b => a.name ≤ b.name) ∧
      (∀ category, ∃ level, c.structureBelow s.toStore (some category) = .ok level ∧
        level.side direction = l.filter fun listed => decide (listed.category = category)) ∧
      nodes.Pairwise (fun a b => a.category < b.category) ∧
      ∀ listed ∈ l, ⟨listed.category⟩ ∈ nodes := by
  obtain ⟨nodes, hroot, hascending⟩ := pairwise_thingNodes (c := c) (s := s)
  refine ⟨c.listing s direction none none false, nodes, entriesByName_toStore none, hroot,
    exists_standsFor c s direction, pairwise_listing none, fun category => ?_, hascending,
    fun listed hmem => ?_⟩
  · obtain ⟨level, hlevel, hside⟩ := side_structureBelow (c := c) (s := s) direction category
    exact ⟨level, hlevel, hside.trans (listing_category category)⟩
  · obtain ⟨r, hoffers⟩ := mem_listing_all_iff.1 hmem
    obtain ⟨level, hlevel, hnode⟩ := exists_thingNode_of_offers hoffers
    rw [hroot] at hlevel
    obtain rfl := Except.ok.inj hlevel
    rw [StructureEntry.category_of_ofRevision? hoffers.made]
    exact hnode

/-- Of a source and a sink the source is listed for loading, and its category is one of two. -/
theorem browsing_agrees_shelf :
    ∃ l nodes, standard.entriesByName Engine.sampleShelf.toStore .load none = .ok l ∧
      standard.structureBelow Engine.sampleShelf.toStore none = .ok ⟨nodes, [], []⟩ ∧
      nodes = [⟨"sinks"⟩, ⟨"sources"⟩] ∧
      ∃ listed ∈ l, StructureEntry.ofRevision? .load Engine.sampleSource = some listed ∧
        ⟨listed.category⟩ ∈ nodes := by
  obtain ⟨l, nodes, hflat, hroot, -, -, -, -, hshown⟩ :=
    browsing_agrees standard Engine.sampleShelf .load
  have hl : standard.listing Engine.sampleShelf .load none none false = l := by
    rw [entriesByName_toStore] at hflat
    exact Except.ok.inj hflat
  obtain ⟨listed, hmade⟩ : ∃ listed,
      StructureEntry.ofRevision? .load Engine.sampleSource = some listed := ⟨_, rfl⟩
  have hmem : listed ∈ standard.listing Engine.sampleShelf .load none none false :=
    mem_listing_all_iff.2 ⟨Engine.sampleSource, ⟨rfl, rfl, hmade⟩⟩
  rw [hl] at hmem
  refine ⟨l, nodes, hflat, hroot, ?_, listed, hmem, hmade, hshown listed hmem⟩
  cases hroot
  rfl

end ComponentConfig

end Dataflow
