import Dataflow.Proofs.Component.Browsing

set_option autoImplicit false

/-! # Looser configurations show more

A configuration restricts by state, by the categories of sources and by those of sinks, and the
three meet in different predicates: the states in the query and in the rules, the categories in
the rules, and both lists of categories in the predicate that cuts the levels. Hence it is not
plain that lifting a restriction never hides anything. `ComponentConfig.looser_shows_more` says
so: what was accepted is accepted still, and every list of the structure grows, with its order
kept. An allow-list that is absent restricts nothing, so that dropping one is a way to loosen, and
adding one never is.
-/

namespace Dataflow

/-- A wider query selects more, in the same order. -/
theorem MemoryStore.selectFrom_sublist {enumerated : List Revision} {q q' : Query}
    (h : ∀ r, q.Passes r → q'.Passes r) :
    (selectFrom enumerated q).Sublist (selectFrom enumerated q') := by
  refine List.Sublist.mergeSort_of_total listedBefore_trans listedBefore_total ?_
  refine List.monotone_filter_right enumerated fun r hr => ?_
  exact Query.selects_iff.2 (h r (Query.selects_iff.1 hr))

namespace ComponentConfig

/-- What a configuration restricts is no more than what another restricts: drafts are allowed if
the other allows them, and each list of categories is absent or has all of the other's list, which
is there. -/
structure LooserThan (c' c : ComponentConfig) : Prop where
  drafts : c.allowDrafts = true → c'.allowDrafts = true
  categories : ∀ direction allowed', c'.allowedCategories direction = some allowed' →
    ∃ allowed, c.allowedCategories direction = some allowed ∧
      ∀ category ∈ allowed, category ∈ allowed'

variable {c c' : ComponentConfig} {s : MemoryStore} {direction : Direction}

/-! ## The rules -/

theorem allowsCategory_iff {category : String} :
    c.allowsCategory direction category = true ↔
      ∀ allowed, c.allowedCategories direction = some allowed → category ∈ allowed := by
  rw [allowsCategory]
  cases c.allowedCategories direction <;> simp

/-- A category is worth listing unless there are two lists and it is in neither. -/
theorem listsCategory_iff {category : String} :
    c.listsCategory category = true ↔
      ∀ sources sinks, c.allowedCategories .load = some sources →
        c.allowedCategories .send = some sinks → category ∈ sources ∨ category ∈ sinks := by
  rw [listsCategory]
  show _ ↔ ∀ sources sinks, c.sourceCategories = some sources → c.sinkCategories = some sinks → _
  cases c.sourceCategories <;> cases c.sinkCategories <;> simp

section

variable (h : c'.LooserThan c)

include h

theorem LooserThan.mem_allowedStates {allowDisabled : Bool} {state : RevisionState}
    (hstate : state ∈ c.allowedStates allowDisabled) : state ∈ c'.allowedStates allowDisabled := by
  rw [mem_allowedStates_iff] at hstate ⊢
  rcases hstate with hreleased | ⟨hdrafts, hdraft⟩ | hdisabled
  · exact .inl hreleased
  · exact .inr (.inl ⟨h.drafts hdrafts, hdraft⟩)
  · exact .inr (.inr hdisabled)

theorem LooserThan.allowsCategory {category : String}
    (hallows : c.allowsCategory direction category = true) :
    c'.allowsCategory direction category = true := by
  rw [allowsCategory_iff] at hallows ⊢
  intro allowed' hallowed'
  obtain ⟨allowed, hallowed, hsubset⟩ := h.categories direction allowed' hallowed'
  exact hsubset category (hallows allowed hallowed)

theorem LooserThan.listsCategory {category : String} (hlists : c.listsCategory category = true) :
    c'.listsCategory category = true := by
  rw [listsCategory_iff] at hlists ⊢
  intro sources' sinks' hsources' hsinks'
  -- where the looser configuration has both lists, the other one has them too
  obtain ⟨sources, hsources, hsourcesSubset⟩ := h.categories .load sources' hsources'
  obtain ⟨sinks, hsinks, hsinksSubset⟩ := h.categories .send sinks' hsinks'
  rcases hlists sources sinks hsources hsinks with hsource | hsink
  · exact .inl (hsourcesSubset category hsource)
  · exact .inr (hsinksSubset category hsink)

/-- **What is accepted is accepted under a looser configuration**, in each direction and with
disabled components allowed or not. -/
theorem LooserThan.accept {p : ComponentProfile} {allowDisabled : Bool}
    (haccept : c.accept p direction allowDisabled = .ok ()) :
    c'.accept p direction allowDisabled = .ok () := by
  rw [accept_eq_ok_iff] at haccept ⊢
  obtain ⟨hkind, hstate, hcategory, hshape⟩ := haccept
  exact ⟨hkind, h.mem_allowedStates hstate, h.allowsCategory hcategory, hshape⟩

/-! ## The listings -/

theorem LooserThan.entriesOf {components components' : List Revision} {allowDisabled : Bool}
    (hcomponents : components.Sublist components') :
    (c.entriesOf direction allowDisabled components).Sublist
      (c'.entriesOf direction allowDisabled components') := by
  refine List.Sublist.mergeSort_of_total StructureEntry.byName_trans StructureEntry.byName_total
    (List.Sublist.filterMap _ ?_)
  refine (hcomponents.filter _).trans (List.monotone_filter_right components' fun r hr => ?_)
  rw [isNone_unsuitability?_iff] at hr ⊢
  exact h.accept hr

/-- A listing grows: its query selects more, and more of what is selected passes the rules. -/
theorem LooserThan.listing (s : MemoryStore) (direction : Direction)
    (categories : Option (List String)) (ids : Option (List Uuid)) (allowDisabled : Bool) :
    (c.listing s direction categories ids allowDisabled).Sublist
      (c'.listing s direction categories ids allowDisabled) := by
  refine h.entriesOf (MemoryStore.selectFrom_sublist fun r hpasses => ?_)
  refine ⟨hpasses.kind, ?_, hpasses.categories, hpasses.ids⟩
  rintro states ⟨⟩
  exact h.mem_allowedStates (hpasses.states _ rfl)

theorem LooserThan.entriesByName (s : MemoryStore) (direction : Direction)
    (filter : Option String) :
    (filterByName filter (c.listing s direction none none false)).Sublist
      (filterByName filter (c'.listing s direction none none false)) := by
  have hlisting := h.listing s direction none none false
  cases filter with
  | none => exact hlisting
  | some text => exact hlisting.filter _

/-- A level grows: the categories at the root, and the sources and sinks below a category. -/
theorem LooserThan.structureBelow (s : MemoryStore) (parent : Option String) :
    ∃ level level', c.structureBelow s.toStore parent = .ok level ∧
      c'.structureBelow s.toStore parent = .ok level' ∧
      level.thingNodes.Sublist level'.thingNodes ∧
      ∀ direction, (level.side direction).Sublist (level'.side direction) := by
  cases parent with
  | none =>
      refine ⟨_, _, rfl, rfl, List.Sublist.map _ ?_, fun direction => ?_⟩
      · exact List.monotone_filter_right _ fun category hlists => h.listsCategory hlists
      · cases direction <;> exact List.Sublist.refl _
  | some category =>
      refine ⟨_, _, structureBelow_some category, structureBelow_some category, ?_,
        fun direction => ?_⟩
      · split <;> exact List.nil_sublist _
      · -- what cuts the level takes nothing away, so its sides are the listings
        obtain ⟨level, hlevel, hside⟩ := side_structureBelow (c := c) (s := s) direction category
        obtain ⟨level', hlevel', hside'⟩ :=
          side_structureBelow (c := c') (s := s) direction category
        rw [structureBelow_some] at hlevel hlevel'
        rw [Except.ok.inj hlevel, Except.ok.inj hlevel', hside, hside']
        exact h.listing s direction (some [category]) none false

end

/-- **A looser configuration shows more.** If drafts that one configuration allows are allowed by
another, and each list of categories of the other is absent or holds all of the first one's, then
the other accepts every component that the first one accepts, and the flat listings, looked
through for a name or not, the categories at the root and the levels below categories under the
first are sublists of those under the other. -/
theorem looser_shows_more (h : c'.LooserThan c) (s : MemoryStore) :
    (∀ p direction allowDisabled, c.accept p direction allowDisabled = .ok () →
        c'.accept p direction allowDisabled = .ok ()) ∧
      (∀ direction filter, ∃ l l', c.entriesByName s.toStore direction filter = .ok l ∧
        c'.entriesByName s.toStore direction filter = .ok l' ∧ l.Sublist l') ∧
      ∀ parent, ∃ level level', c.structureBelow s.toStore parent = .ok level ∧
        c'.structureBelow s.toStore parent = .ok level' ∧
        level.thingNodes.Sublist level'.thingNodes ∧
        ∀ direction, (level.side direction).Sublist (level'.side direction) := by
  refine ⟨fun p direction allowDisabled => h.accept, fun direction filter => ?_,
    h.structureBelow s⟩
  exact ⟨_, _, entriesByName_toStore filter, entriesByName_toStore filter,
    h.entriesByName s direction filter⟩

/-- A configuration that lets only sources of one category through. -/
def sourcesOnly : ComponentConfig :=
  { standard with sourceCategories := some ["sources"], sinkCategories := some [] }

/-- Without the list of sources, and with drafts, what the list let through is there still. -/
theorem looser_shows_more_shelf :
    let loose : ComponentConfig :=
      { sourcesOnly with allowDrafts := true, sourceCategories := none }
    ∃ l l', sourcesOnly.entriesByName Engine.sampleShelf.toStore .load none = .ok l ∧
      loose.entriesByName Engine.sampleShelf.toStore .load none = .ok l' ∧ l.Sublist l' ∧
      ∃ listed ∈ l', StructureEntry.ofRevision? .load Engine.sampleSource = some listed := by
  intro loose
  have hloose : loose.LooserThan sourcesOnly := by
    refine ⟨fun _ => rfl, fun direction allowed' hallowed' => ?_⟩
    cases direction with
    | load => cases hallowed'
    | send => exact ⟨allowed', hallowed', fun category hcategory => hcategory⟩
  obtain ⟨-, hflat, -⟩ := looser_shows_more hloose Engine.sampleShelf
  obtain ⟨l, l', hl, hl', hsublist⟩ := hflat .load none
  refine ⟨l, l', hl, hl', hsublist, ?_⟩
  obtain ⟨listed, hmade⟩ : ∃ listed,
      StructureEntry.ofRevision? .load Engine.sampleSource = some listed := ⟨_, rfl⟩
  have hmem : listed ∈ sourcesOnly.listing Engine.sampleShelf .load none none false :=
    mem_listing_all_iff.2 ⟨Engine.sampleSource, rfl, rfl, hmade⟩
  rw [entriesByName_toStore] at hl
  rw [show sourcesOnly.listing Engine.sampleShelf .load none none false = l from
    Except.ok.inj hl] at hmem
  exact ⟨listed, hsublist.subset hmem, hmade⟩

end ComponentConfig

end Dataflow
