import Dataflow.Component.Structure
import Dataflow.Proofs.Component.Prepared
import Dataflow.Proofs.Store.Memory
import Dataflow.Proofs.Uuid

set_option autoImplicit false

/-! # What is listed can be bound

Those who make wirings see the components in listings, and refer to them by what the listings
say. A listing selects components by a query and by the rules of suitability, and writes the
identifier of a component in one of two places; a binding reads a reference, looks the component
up and applies the rules again. `Engine.fetches_listed` says that the two are inverse to each
other: what is listed can be bound and leads back to the component that it was made from, and
each component that can be bound is listed, unless it is disabled.
-/

namespace Dataflow

/-! ## The rules with and without disabled components -/

namespace ComponentConfig

variable {c : ComponentConfig} {direction : Direction}

theorem mem_allowedStates_iff {allowDisabled : Bool} {state : RevisionState} :
    state ∈ c.allowedStates allowDisabled ↔
      state = .released ∨ (c.allowDrafts = true ∧ state = .draft) ∨
        (allowDisabled = true ∧ state = .disabled) := by
  rw [allowedStates, List.cons_append, List.mem_cons, List.mem_append]
  cases c.allowDrafts <;> cases allowDisabled <;> simp

/-- To be found without its identifier a component must not be disabled. -/
theorem accept_false_iff {p : ComponentProfile} :
    c.accept p direction false = .ok () ↔
      c.accept p direction true = .ok () ∧ p.state ≠ .disabled := by
  have hstates : p.state ∈ c.allowedStates false ↔
      p.state ∈ c.allowedStates true ∧ p.state ≠ .disabled := by
    rw [mem_allowedStates_iff, mem_allowedStates_iff]
    cases p.state <;> simp
  simp only [accept_eq_ok_iff, hstates]
  constructor
  · rintro ⟨hkind, ⟨hstate, henabled⟩, hcategory, hshape⟩
    exact ⟨⟨hkind, hstate, hcategory, hshape⟩, henabled⟩
  · rintro ⟨⟨hkind, hstate, hcategory, hshape⟩, henabled⟩
    exact ⟨hkind, ⟨hstate, henabled⟩, hcategory, hshape⟩

/-- A category that may be used in one direction is worth listing. -/
theorem listsCategory_of_allowsCategory {category : String}
    (h : c.allowsCategory direction category = true) : c.listsCategory category = true := by
  rw [allowsCategory] at h
  rw [listsCategory]
  cases hsources : c.sourceCategories with
  | none => rfl
  | some sources =>
      cases hsinks : c.sinkCategories with
      | none => rfl
      | some sinks =>
          rw [Bool.or_eq_true]
          cases direction with
          | load =>
              rw [allowedCategories, hsources] at h
              exact .inl h
          | send =>
              rw [allowedCategories, hsinks] at h
              exact .inr h

end ComponentConfig

/-! ## The entry of a component -/

namespace StructureEntry

variable {direction : Direction} {r : Revision} {listed : StructureEntry}

/-- A component that passes the rules has a value to give or to take, and hence an entry. -/
theorem exists_ofRevision?_of_accept {c : ComponentConfig} {allowDisabled : Bool}
    (h : c.accept (.ofRevision r) direction allowDisabled = .ok ()) :
    ∃ listed, ofRevision? direction r = some listed := by
  -- the rules ask a source for one output and a sink for the input of its data
  have htype : ∃ t, dataType? direction r.interface = some t := by
    cases direction with
    | load =>
        obtain ⟨o, houtputs⟩ := ComponentConfig.exists_output_of_accept h
        have hhead : r.interface.outputs = [o] := houtputs
        rw [dataType?, hhead]
        exact ⟨o.dataType, rfl⟩
    | send =>
        obtain ⟨i, hdata⟩ := Option.isSome_iff_exists.1 (ComponentConfig.exists_data_of_accept h)
        have hinput : r.interface.input? sinkDataInput = some i := hdata
        rw [dataType?, hinput]
        exact ⟨i.dataType, rfl⟩
  obtain ⟨t, ht⟩ := htype
  rw [ofRevision?, ht]
  exact ⟨_, rfl⟩

/-- Wherever an entry has it, the reference in force is the identifier of the component. -/
theorem reference_of_ofRevision? (h : ofRevision? direction r = some listed) :
    (listed.metadataKey <|> some listed.id) = some (toString r.id) := by
  obtain ⟨t, -, rfl⟩ := Option.map_eq_some_iff.1 h
  -- metadata have the identifier of the component as their key, other data as their own
  by_cases hmetadata : (decide (direction = .load) && t.external.isMetadata) = true
  · simp [hmetadata]
  · simp [hmetadata]

/-- An entry belongs to one component. -/
theorem id_eq_of_ofRevision? {r' : Revision} (h : ofRevision? direction r = some listed)
    (h' : ofRevision? direction r' = some listed) : r.id = r'.id := by
  have htext : some (toString r.id) = some (toString r'.id) :=
    (reference_of_ofRevision? h).symm.trans (reference_of_ofRevision? h')
  have hread := congrArg (·.bind Uuid.ofString?) htext
  simp only [Option.bind_some, Uuid.ofString?_toString] at hread
  exact Option.some.inj hread

/-- The filters of an entry are inputs. -/
theorem exists_input_of_filter (h : ofRevision? direction r = some listed) {key : String}
    (hkey : listed.filters.contains key = true) :
    ∃ i ∈ r.interface.inputs, isFilter direction i = true ∧ i.name = key := by
  obtain ⟨t, -, rfl⟩ := Option.map_eq_some_iff.1 h
  have hfilters : ((filtersOf direction r.interface).get? key).isSome := hkey
  rw [filtersOf, Dict.isSome_get?_ofList, List.map_map] at hfilters
  obtain ⟨i, hi, hname⟩ := List.mem_map.1 hfilters
  obtain ⟨hinput, hfilter⟩ := List.mem_filter.1 hi
  exact ⟨i, hinput, hfilter, hname⟩

/-- A wiring entry that binds what is listed: it refers to it, and sets only filters of it. -/
structure BoundBy (listed : StructureEntry) (entry : WiringEntry) : Prop where
  adapterId : entry.adapterId = componentAdapterId
  refId : entry.descriptor.refId = some listed.id
  refKey : entry.descriptor.refKey = listed.metadataKey
  filters : ∀ key, entry.descriptor.filters.contains key = true →
    listed.filters.contains key = true

/-- A descriptor that refers to an entry refers to the component. -/
theorem reference_of_descriptor {d : Descriptor} (hrefId : d.refId = some listed.id)
    (hrefKey : d.refKey = listed.metadataKey) (h : ofRevision? direction r = some listed) :
    Uuid.ofString? (d.reference?.getD "") = some r.id := by
  have hreference : d.reference? = some (toString r.id) := by
    calc d.reference? = (d.refKey <|> d.refId) := rfl
      _ = (listed.metadataKey <|> some listed.id) := by rw [hrefKey, hrefId]
      _ = some (toString r.id) := reference_of_ofRevision? h
  rw [hreference]
  exact Uuid.ofString?_toString r.id

/-- A binding of an entry refers to the component. -/
theorem BoundBy.reference {entry : WiringEntry} (hbound : listed.BoundBy entry)
    (h : ofRevision? direction r = some listed) :
    Uuid.ofString? (entry.reference?.getD "") = some r.id :=
  reference_of_descriptor hbound.refId hbound.refKey h

/-- The component takes the filters of a binding of its entry. To a sink its value is sent. -/
theorem BoundBy.takesFilters {entry : WiringEntry} (hbound : listed.BoundBy entry)
    (h : ofRevision? direction r = some listed) {sent : Option Json}
    (hsent : sent.isSome ↔ direction = .send) :
    r.interface.TakesFilters entry.descriptor.filters sent := by
  intro key v hget hused
  have hcontains : entry.descriptor.filters.contains key = true :=
    (Dict.contains_iff _ _).2 ⟨v, hget⟩
  obtain ⟨i, hi, hfilter, hname⟩ := exists_input_of_filter h (hbound.filters key hcontains)
  cases direction with
  | load => exact List.find?_isSome.2 ⟨i, hi, beq_iff_eq.2 hname⟩
  | send =>
      -- the only filter of a sink is its data, which gives way to what is sent
      rw [isFilter, Bool.and_eq_true, Bool.or_eq_true] at hfilter
      rcases hfilter.1 with hload | hdata
      · cases of_decide_eq_true hload
      · have hkey : key = sinkDataInput := hname.symm.trans (beq_iff_eq.1 hdata)
        exact absurd ⟨hsent.2 rfl, hkey⟩ hused

end StructureEntry

/-! ## The listings -/

/-- The entries of one direction on a level. -/
def StructureListing.side (level : StructureListing) : Direction → List StructureEntry
  | .load => level.sources
  | .send => level.sinks

namespace ComponentConfig

variable {c : ComponentConfig} {s : MemoryStore} {direction : Direction}
  {listed : StructureEntry}

/-- An entry is shown on a level below a category, or among those whose name holds a text. -/
def Lists (c : ComponentConfig) (s : RevisionStore) (direction : Direction)
    (listed : StructureEntry) : Prop :=
  (∃ parent level, c.structureBelow s parent = .ok level ∧ listed ∈ level.side direction) ∨
    ∃ filter l, c.entriesByName s direction filter = .ok l ∧ listed ∈ l

/-- A stored component passes the rules, and an entry is made from it. -/
structure Offers (c : ComponentConfig) (s : MemoryStore) (direction : Direction)
    (allowDisabled : Bool) (r : Revision) (listed : StructureEntry) : Prop where
  stored : s.get r.id = .ok r
  accepted : c.accept (.ofRevision r) direction allowDisabled = .ok ()
  made : StructureEntry.ofRevision? direction r = some listed

theorem mem_entriesOf {allowDisabled : Bool} {components : List Revision} :
    listed ∈ c.entriesOf direction allowDisabled components ↔
      ∃ r ∈ components, c.accept (.ofRevision r) direction allowDisabled = .ok () ∧
        StructureEntry.ofRevision? direction r = some listed := by
  simp only [entriesOf, List.mem_mergeSort, List.mem_filterMap, List.mem_filter,
    isNone_unsuitability?_iff, and_assoc]

/-- The entries of the components of a memory store that a listing asks for. -/
def listing (c : ComponentConfig) (s : MemoryStore) (direction : Direction)
    (categories : Option (List String)) (ids : Option (List Uuid)) (allowDisabled : Bool) :
    List StructureEntry :=
  c.entriesOf direction allowDisabled (MemoryStore.selectFrom s.revisions.values
    ⟨some .component, some (c.allowedStates allowDisabled), categories, ids⟩)

theorem entries_toStore (direction : Direction) (categories : Option (List String))
    (ids : Option (List Uuid)) (allowDisabled : Bool) :
    c.entries s.toStore direction categories ids allowDisabled =
      .ok (c.listing s direction categories ids allowDisabled) := rfl

/-- The query of a listing asks for no more than the rules, but for the categories and the
identifiers. -/
theorem passes_iff_of_accept {r : Revision} {categories : Option (List String)}
    {ids : Option (List Uuid)} {allowDisabled : Bool}
    (h : c.accept (.ofRevision r) direction allowDisabled = .ok ()) :
    Query.Passes ⟨some .component, some (c.allowedStates allowDisabled), categories, ids⟩ r ↔
      (∀ l, categories = some l → r.category ∈ l) ∧ ∀ l, ids = some l → r.id ∈ l := by
  obtain ⟨hkind, hstate, -⟩ := accept_eq_ok_iff.1 h
  constructor
  · intro hpasses
    exact ⟨hpasses.categories, hpasses.ids⟩
  · rintro ⟨hcategories, hids⟩
    refine ⟨?_, ?_, hcategories, hids⟩
    · rintro kind ⟨⟩
      exact hkind
    · rintro states ⟨⟩
      exact hstate

/-- **What a listing holds**: an entry for each component that passes the rules, out of the
categories and the identifiers that are asked for. -/
theorem mem_listing_iff {categories : Option (List String)} {ids : Option (List Uuid)}
    {allowDisabled : Bool} :
    listed ∈ c.listing s direction categories ids allowDisabled ↔
      ∃ r, c.Offers s direction allowDisabled r listed ∧
        (∀ l, categories = some l → r.category ∈ l) ∧ ∀ l, ids = some l → r.id ∈ l := by
  rw [listing, mem_entriesOf]
  simp only [MemoryStore.mem_selectFrom, MemoryStore.mem_values_iff_get]
  constructor
  · rintro ⟨r, ⟨hget, hpasses⟩, haccept, hmade⟩
    exact ⟨r, ⟨hget, haccept, hmade⟩, (passes_iff_of_accept haccept).1 hpasses⟩
  · rintro ⟨r, ⟨hget, haccept, hmade⟩, hasked⟩
    exact ⟨r, ⟨hget, (passes_iff_of_accept haccept).2 hasked⟩, haccept, hmade⟩

/-- Below a category stand both of its listings, if it is worth listing. -/
theorem structureBelow_some (category : String) :
    c.structureBelow s.toStore (some category) =
      .ok (if c.listsCategory category then
        ⟨[], c.listing s .load (some [category]) none false,
          c.listing s .send (some [category]) none false⟩
      else .empty) := by
  rw [structureBelow, entries_toStore, entries_toStore]
  split <;> rfl

/-- The predicate that cuts the levels takes nothing away: a category that is not worth listing has
no component that the rules let through. -/
theorem side_structureBelow (direction : Direction) (category : String) :
    ∃ level, c.structureBelow s.toStore (some category) = .ok level ∧
      level.side direction = c.listing s direction (some [category]) none false := by
  rw [structureBelow_some]
  refine ⟨_, rfl, ?_⟩
  by_cases hlists : c.listsCategory category = true
  · rw [if_pos hlists]
    cases direction <;> rfl
  · rw [if_neg hlists]
    have hempty : c.listing s direction (some [category]) none false = [] := by
      rw [List.eq_nil_iff_forall_not_mem]
      intro listed hmem
      obtain ⟨r, hoffers, hcategory, -⟩ := mem_listing_iff.1 hmem
      have hallows : c.allowsCategory direction r.category = true :=
        (accept_eq_ok_iff.1 hoffers.accepted).2.2.1
      rw [List.mem_singleton.1 (hcategory _ rfl)] at hallows
      exact hlists (listsCategory_of_allowsCategory hallows)
    rw [hempty]
    cases direction <;> rfl

/-- Below a category stand the entries of its components. -/
theorem exists_structureBelow_iff {category : String} :
    (∃ level, c.structureBelow s.toStore (some category) = .ok level ∧
        listed ∈ level.side direction) ↔
      ∃ r, c.Offers s direction false r listed ∧ r.category = category := by
  obtain ⟨level, hlevel, hside⟩ := side_structureBelow (c := c) (s := s) direction category
  rw [hlevel, exists_ok_iff, hside, mem_listing_iff]
  simp

theorem entriesByName_toStore (filter : Option String) :
    c.entriesByName s.toStore direction filter =
      .ok (filterByName filter (c.listing s direction none none false)) := by
  rw [entriesByName, entries_toStore]
  rfl

/-- All entries of a direction. -/
theorem mem_listing_all_iff :
    listed ∈ c.listing s direction none none false ↔
      ∃ r, c.Offers s direction false r listed := by
  rw [mem_listing_iff]
  simp

/-- Looking for a name takes entries away only. -/
theorem mem_of_mem_filterByName {filter : Option String} {l : List StructureEntry}
    (h : listed ∈ filterByName filter l) : listed ∈ l := by
  cases filter with
  | none => exact h
  | some text => exact (List.mem_filter.1 h).1

/-- **What is listed is what the rules offer**, in each kind of listing. -/
theorem lists_iff :
    c.Lists s.toStore direction listed ↔ ∃ r, c.Offers s direction false r listed := by
  constructor
  · rintro (⟨parent, level, hok, hmem⟩ | ⟨filter, l, hok, hmem⟩)
    · cases parent with
      | none =>
          -- at the root there are categories only
          cases hok
          cases direction <;> cases hmem
      | some category =>
          obtain ⟨r, hoffers, -⟩ := exists_structureBelow_iff.1 ⟨level, hok, hmem⟩
          exact ⟨r, hoffers⟩
    · rw [entriesByName_toStore] at hok
      cases hok
      exact mem_listing_all_iff.1 (mem_of_mem_filterByName hmem)
  · intro h
    exact .inr ⟨none, _, entriesByName_toStore none, mem_listing_all_iff.2 h⟩

/-- The category of a component that is offered stands at the root. -/
theorem exists_thingNode_of_offers {r : Revision} (h : c.Offers s direction false r listed) :
    ∃ level, c.structureBelow s.toStore none = .ok level ∧ ⟨r.category⟩ ∈ level.thingNodes := by
  obtain ⟨hkind, -, hallows, -⟩ := accept_eq_ok_iff.1 h.accepted
  refine ⟨_, rfl, List.mem_map.2 ⟨r.category, List.mem_filter.2 ⟨?_, ?_⟩, rfl⟩⟩
  · show r.category ∈ MemoryStore.categoriesFrom s.revisions.values (some .component)
    refine MemoryStore.mem_categoriesFrom.2 ⟨r, ?_, ?_, rfl⟩
    · exact MemoryStore.mem_values_iff_get.2 h.stored
    · rintro kind ⟨⟩
      exact hkind
  · exact listsCategory_of_allowsCategory hallows

end ComponentConfig

/-! ## Bindings of what is listed -/

namespace Engine

variable {e : Engine} {s : MemoryStore} {direction : Direction} {entry : WiringEntry}
  {r : Revision} {listed : StructureEntry}

/-- **What the check of an entry accepts**: a stored component under the reference of the entry
that passes the rules. -/
theorem componentOf_eq_ok_iff (hstore : e.store = s.toStore) :
    e.componentOf entry direction = .ok r ↔
      Uuid.ofString? (entry.reference?.getD "") = some r.id ∧ s.get r.id = .ok r ∧
        e.componentConfig.accept (.ofRevision r) direction true = .ok () := by
  constructor
  · intro h
    obtain ⟨id, hid, hget, haccept⟩ := accepted_of_componentOf h
    rw [hstore] at hget
    obtain rfl := MemoryStore.id_of_get hget
    exact ⟨hid, hget, haccept⟩
  · rintro ⟨hid, hget, haccept⟩
    have hfound : e.store.get r.id = .ok r := by
      rw [hstore]
      exact hget
    rw [componentOf, hid]
    dsimp only
    rw [hfound]
    dsimp only
    rw [haccept]
    rfl

/-- **What the check of a wiring accepts**: wirings all of whose entries are accepted. -/
theorem fetchComponents_eq_ok_iff (hactive : e.componentConfig.active = true) {w : Wiring}
    {components : List Revision} :
    (e.fetchComponents w).result = .ok components ↔
      List.Forall₂ (fun b r => e.componentOf b.1 b.2 = .ok r) (componentEntries w) components := by
  rw [result_fetchComponents, mapError_eq_ok]
  constructor
  · exact forall₂_boundComponents
  · intro h
    rw [boundComponents]
    cases hentries : componentEntries w with
    | nil =>
        rw [hentries] at h
        cases h
        rfl
    | cons b rest =>
        rw [hentries] at h
        dsimp only
        rw [if_pos hactive]
        exact mapM_eq_ok_iff.2 h

/-- Each binding of an entry leads to the component: it is accepted, it is what a wiring with
this binding fetches, and its record makes a wiring of the filters and of what is sent. -/
structure LeadsTo (e : Engine) (direction : Direction) (listed : StructureEntry) (r : Revision) :
    Prop where
  accepts : ∀ entry, listed.BoundBy entry → e.componentOf entry direction = .ok r
  fetches : ∀ entry w, listed.BoundBy entry → componentEntries w = [(entry, direction)] →
    (e.fetchComponents w).result = .ok [r]
  wires : ∀ entry, listed.BoundBy entry → ∀ record : ComponentRecord,
    record.interface = r.interface → ∀ (sent : Option Json) (type : Option ExternalType),
      (sent.isSome ↔ direction = .send) →
        ∃ w, record.bindingWiring entry.descriptor.filters (sent.map fun v => ⟨v, type⟩) = .ok w

/-- An entry of a component is shown wherever it may be: its category stands at the root, it
stands below its category, and it is among all entries of the direction. -/
structure Shows (e : Engine) (direction : Direction) (r : Revision) (listed : StructureEntry) :
    Prop where
  made : StructureEntry.ofRevision? direction r = some listed
  root : ∃ level, e.componentConfig.structureBelow e.store none = .ok level ∧
    ⟨r.category⟩ ∈ level.thingNodes
  below : ∃ level, e.componentConfig.structureBelow e.store (some r.category) = .ok level ∧
    listed ∈ level.side direction
  byName : ∃ l, e.componentConfig.entriesByName e.store direction none = .ok l ∧ listed ∈ l

/-- What the rules offer can be bound. -/
theorem leadsTo_of_offers (hstore : e.store = s.toStore)
    (hactive : e.componentConfig.active = true)
    (h : e.componentConfig.Offers s direction false r listed) : e.LeadsTo direction listed r := by
  have haccepts : ∀ entry, listed.BoundBy entry → e.componentOf entry direction = .ok r := by
    intro entry hbound
    refine (componentOf_eq_ok_iff hstore).2 ⟨hbound.reference h.made, h.stored, ?_⟩
    exact (ComponentConfig.accept_false_iff.1 h.accepted).1
  refine ⟨haccepts, fun entry w hbound hw => ?_, fun entry hbound record hrecord sent type hsent =>
    ?_⟩
  · rw [fetchComponents_eq_ok_iff hactive, hw]
    exact .cons (haccepts entry hbound) .nil
  · have htakes : r.interface.TakesFilters entry.descriptor.filters sent :=
      hbound.takesFilters h.made hsent
    rw [← hrecord] at htakes
    exact ComponentRecord.exists_bindingWiring_iff.2 htakes

/-- What can be bound is offered, unless it is disabled. -/
theorem exists_offers_of_componentOf (hstore : e.store = s.toStore)
    (h : e.componentOf entry direction = .ok r) (henabled : r.state ≠ .disabled) :
    ∃ listed, e.componentConfig.Offers s direction false r listed := by
  obtain ⟨-, hget, haccept⟩ := (componentOf_eq_ok_iff hstore).1 h
  obtain ⟨listed, hmade⟩ := StructureEntry.exists_ofRevision?_of_accept haccept
  exact ⟨listed, hget, ComponentConfig.accept_false_iff.2 ⟨haccept, henabled⟩, hmade⟩

theorem shows_of_offers (hstore : e.store = s.toStore)
    (h : e.componentConfig.Offers s direction false r listed) : e.Shows direction r listed where
  made := h.made
  root := by
    rw [hstore]
    exact ComponentConfig.exists_thingNode_of_offers h
  below := by
    rw [hstore]
    exact ComponentConfig.exists_structureBelow_iff.2 ⟨r, h, rfl⟩
  byName := by
    rw [hstore]
    exact ⟨_, ComponentConfig.entriesByName_toStore none,
      ComponentConfig.mem_listing_all_iff.2 ⟨r, h⟩⟩

/-- **Listing and binding are inverse to each other.** With a memory store and an active
configuration, each entry that is listed in a direction was made from one stored component, and
each binding of the entry leads to this component. Conversely a component that is accepted for
some entry of a wiring is shown in its direction, unless it is disabled. -/
theorem fetches_listed (hstore : e.store = s.toStore)
    (hactive : e.componentConfig.active = true) :
    (∀ direction listed, e.componentConfig.Lists e.store direction listed →
      ∃ r, s.get r.id = .ok r ∧ StructureEntry.ofRevision? direction r = some listed ∧
        (∀ r', s.get r'.id = .ok r' → StructureEntry.ofRevision? direction r' = some listed →
          r' = r) ∧ e.LeadsTo direction listed r) ∧
    ∀ entry direction r, e.componentOf entry direction = .ok r → r.state ≠ .disabled →
      ∃ listed, e.Shows direction r listed := by
  constructor
  · intro direction listed hlists
    rw [hstore] at hlists
    obtain ⟨r, hoffers⟩ := ComponentConfig.lists_iff.1 hlists
    refine ⟨r, hoffers.stored, hoffers.made, fun r' hget hmade => ?_,
      leadsTo_of_offers hstore hactive hoffers⟩
    have hid : r'.id = r.id := StructureEntry.id_eq_of_ofRevision? hmade hoffers.made
    rw [hid, hoffers.stored] at hget
    exact (Except.ok.inj hget).symm
  · intro entry direction r hof henabled
    obtain ⟨listed, hoffers⟩ := exists_offers_of_componentOf hstore hof henabled
    exact ⟨listed, shows_of_offers hstore hoffers⟩

/-- A component that takes a value, and has a further input. -/
def sampleSink : Revision :=
  { Revision.component (.ofNat 11) (.ofNat 2) "writing" "sinks"
      ⟨[.required sinkDataInput .series, .optional "scale" .float .null], []⟩
      ⟨.ofNat 12, "write", ""⟩ with
    state := .released }

/-- A source, which gives single values, and a sink, which takes a series. -/
def sampleShelf : MemoryStore := .ofList [sampleSource, sampleSink]

/-- An engine over the two. -/
def shelfEngine : Engine := .inProcess .standard .standard sampleShelf.toStore .standard

theorem fetches_listed_shelf :
    (∃ listed, shelfEngine.Shows .load sampleSource listed ∧
      listed.metadataKey = some "00000000-0000-0000-0000-000000000004" ∧
      shelfEngine.LeadsTo .load listed sampleSource) ∧
    ∃ listed, shelfEngine.Shows .send sampleSink listed ∧ listed.metadataKey = none ∧
      shelfEngine.LeadsTo .send listed sampleSink := by
  obtain ⟨hbinds, hshows⟩ := fetches_listed (e := shelfEngine) (s := sampleShelf) rfl rfl
  have hround : ∀ entry direction r, shelfEngine.componentOf entry direction = .ok r →
      r.state ≠ .disabled → sampleShelf.get r.id = .ok r →
        ∃ listed, shelfEngine.Shows direction r listed ∧
          shelfEngine.LeadsTo direction listed r := by
    intro entry direction r hof henabled hget
    obtain ⟨listed, hshown⟩ := hshows entry direction r hof henabled
    obtain ⟨r', -, -, hunique, hleads⟩ := hbinds direction listed (.inr ⟨none, hshown.byName⟩)
    obtain rfl := hunique r hget hshown.made
    exact ⟨listed, hshown, hleads⟩
  have hsource : shelfEngine.componentOf ⟨"in", componentAdapterId,
      { Descriptor.empty with refId := some "00000000-0000-0000-0000-000000000004" }⟩ .load =
        .ok sampleSource := rfl
  have hsink : shelfEngine.componentOf ⟨"out", componentAdapterId,
      { Descriptor.empty with refId := some "00000000-0000-0000-0000-00000000000b" }⟩ .send =
        .ok sampleSink := rfl
  obtain ⟨source, hshown, hleads⟩ := hround _ _ _ hsource (by decide) rfl
  obtain ⟨sink, hshown', hleads'⟩ := hround _ _ _ hsink (by decide) rfl
  refine ⟨⟨source, hshown, ?_, hleads⟩, sink, hshown', ?_, hleads'⟩
  · cases hshown.made
    rfl
  · cases hshown'.made
    rfl

end Engine

end Dataflow
