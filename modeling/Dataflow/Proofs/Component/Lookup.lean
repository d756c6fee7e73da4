import Dataflow.Proofs.Component.Browsing

set_option autoImplicit false

/-! # What a look-up finds

A component can be looked up by its identifier, and then it is found although it is disabled. The
look-up is a listing with another query: it asks for one identifier and lets disabled components
through. `ComponentConfig.lookup_adds_disabled` says that nothing else is different. What is found
is the entry of the stored revision, if the rules accept it; unless the revision is disabled, this
is the part of the flat listing that refers to the identifier; and disabled components are in no
listing. A look-up never fails, because a memory store has one revision for an identifier at most
(`MemoryStore.selectFrom_id`).
-/

namespace Dataflow

/-- What a query for one identifier selects is the revision under it, if it passes. -/
theorem MemoryStore.selectFrom_id {s : MemoryStore} {q : Query} {id : Uuid}
    (hids : q.ids = some [id]) :
    selectFrom s.revisions.values q = (s.get id).toOption.toList.filter q.selects := by
  have hstored : (s.get id).toOption.toList.Pairwise Precedes := by
    cases s.get id with
    | error cause => exact .nil
    | ok r => exact List.pairwise_singleton Precedes r
  refine eq_of_ascending (fun _ _ => Precedes.asymm) (pairwise_selectFrom s.nodup_ids q)
    (hstored.filter _) fun r => ?_
  rw [mem_selectFrom, mem_values_iff_get, List.mem_filter, Query.selects_iff, Option.mem_toList,
    toOption_eq_some_iff]
  refine and_congr_left fun hpasses => ?_
  rw [List.mem_singleton.1 (hpasses.ids _ hids)]

namespace StructureEntry

variable {direction : Direction} {r : Revision} {listed : StructureEntry}

/-- Whether an entry refers to the component with an identifier. -/
def refersTo (listed : StructureEntry) (id : Uuid) : Bool :=
  (listed.metadataKey <|> some listed.id) == some (toString id)

/-- An entry refers to the component that it was made from. -/
theorem refersTo_iff_of_ofRevision? (h : ofRevision? direction r = some listed) {id : Uuid} :
    listed.refersTo id = true ↔ r.id = id := by
  rw [refersTo, reference_of_ofRevision? h, beq_iff_eq, Option.some.injEq]
  constructor
  · intro htext
    have hread := congrArg Uuid.ofString? htext
    rw [Uuid.ofString?_toString, Uuid.ofString?_toString] at hread
    exact Option.some.inj hread
  · intro hid
    rw [hid]

end StructureEntry

namespace ComponentConfig

variable {c : ComponentConfig} {s : MemoryStore} {direction : Direction} {id : Uuid}
  {allowDisabled : Bool} {listed : StructureEntry}

/-! ## The listing of one identifier -/

/-- The entry of the revision with an identifier, if there is one and it passes the rules. -/
def found? (c : ComponentConfig) (s : MemoryStore) (direction : Direction) (id : Uuid)
    (allowDisabled : Bool) : Option StructureEntry :=
  ((s.get id).toOption.filter fun r =>
    (c.unsuitability? (.ofRevision r) direction allowDisabled).isNone).bind
      (StructureEntry.ofRevision? direction)

theorem found?_eq_some_iff :
    c.found? s direction id allowDisabled = some listed ↔
      ∃ r, s.get id = .ok r ∧ c.accept (.ofRevision r) direction allowDisabled = .ok () ∧
        StructureEntry.ofRevision? direction r = some listed := by
  simp only [found?, Option.bind_eq_some_iff, Option.filter_eq_some_iff, toOption_eq_some_iff,
    isNone_unsuitability?_iff, and_assoc]

/-- Something is found exactly if the rules accept what is stored. -/
theorem isSome_found?_iff :
    (c.found? s direction id allowDisabled).isSome ↔
      ∃ r, s.get id = .ok r ∧ c.accept (.ofRevision r) direction allowDisabled = .ok () := by
  rw [Option.isSome_iff_exists]
  simp only [found?_eq_some_iff]
  constructor
  · rintro ⟨listed, r, hget, haccept, -⟩
    exact ⟨r, hget, haccept⟩
  · rintro ⟨r, hget, haccept⟩
    obtain ⟨listed, hmade⟩ := StructureEntry.exists_ofRevision?_of_accept haccept
    exact ⟨listed, r, hget, haccept, hmade⟩

/-- **The listing of one identifier is what is found under it.** -/
theorem listing_id :
    c.listing s direction none (some [id]) allowDisabled =
      (c.found? s direction id allowDisabled).toList := by
  -- the rules ask for all that the query asks for
  have hpassed : (MemoryStore.selectFrom s.revisions.values
      ⟨some .component, some (c.allowedStates allowDisabled), none, some [id]⟩).filter
        (fun r => (c.unsuitability? (.ofRevision r) direction allowDisabled).isNone) =
      ((s.get id).toOption.filter fun r =>
        (c.unsuitability? (.ofRevision r) direction allowDisabled).isNone).toList := by
    rw [MemoryStore.selectFrom_id rfl, Option.toList_filter, List.filter_filter]
    refine List.filter_congr fun r hr => ?_
    rw [Option.mem_toList, toOption_eq_some_iff] at hr
    rw [Bool.and_eq_left_iff_imp, isNone_unsuitability?_iff]
    intro haccept
    rw [Query.selects_iff, passes_iff_of_accept haccept]
    refine ⟨nofun, fun l hl => ?_⟩
    rw [← Option.some.inj hl, MemoryStore.id_of_get hr]
    exact List.mem_singleton_self id
  rw [listing, entriesOf, hpassed, found?]
  cases (s.get id).toOption.filter _ with
  | none => simp
  | some r => cases hmade : StructureEntry.ofRevision? direction r <;> simp [hmade]

/-- **A look-up never fails**: it finds one entry or none. -/
theorem entryById_toStore (direction : Direction) (id : Uuid) :
    c.entryById s.toStore direction id = .ok (c.found? s direction id true) := by
  rw [entryById, entries_toStore, listing_id]
  cases c.found? s direction id true <;> rfl

/-! ## Look-up and flat listing -/

/-- Only for disabled components it matters whether they are allowed. -/
theorem found?_of_enabled (henabled : ∀ r, s.get id = .ok r → r.state ≠ .disabled) :
    c.found? s direction id true = c.found? s direction id false := by
  refine Option.ext fun listed => ?_
  rw [found?_eq_some_iff, found?_eq_some_iff]
  refine exists_congr fun r => and_congr_right fun hget => and_congr_left fun _ => ?_
  rw [accept_false_iff]
  exact (and_iff_left (henabled r hget)).symm

/-- What is found without disabled components is the part of the flat listing that refers to the
identifier. -/
theorem filter_refersTo_listing :
    (c.listing s direction none none false).filter (·.refersTo id) =
      (c.found? s direction id false).toList := by
  have hid : ∀ r listed, StructureEntry.ofRevision? direction r = some listed →
      listed.refersTo id = decide (r.id = id) := by
    intro r listed hmade
    rw [Bool.eq_iff_iff, decide_eq_true_iff]
    exact StructureEntry.refersTo_iff_of_ofRevision? hmade
  have hselected : (c.selected s none).filter (fun r => decide (r.id = id)) =
      MemoryStore.selectFrom s.revisions.values
        ⟨some .component, some (c.allowedStates false), none, some [id]⟩ := by
    refine (MemoryStore.selectFrom_of_narrower s.nodup_ids fun r => ?_).symm
    rw [decide_eq_true_iff]
    refine ⟨fun h => ?_, fun h => ?_⟩
    · exact ⟨⟨h.kind, h.states, h.categories, nofun⟩, List.mem_singleton.1 (h.ids _ rfl)⟩
    · refine ⟨h.1.kind, h.1.states, h.1.categories, ?_⟩
      rintro ids ⟨⟩
      exact List.mem_singleton.2 h.2
  rw [filter_listing hid, hselected, ← listing_id]
  rfl

/-- **No listing shows a disabled component.** -/
theorem refersTo_eq_false_of_disabled (hlists : c.Lists s.toStore direction listed) {r : Revision}
    (hget : s.get r.id = .ok r) (hdisabled : r.state = .disabled) :
    listed.refersTo r.id = false := by
  obtain ⟨r', hoffers⟩ := lists_iff.1 hlists
  rw [← Bool.not_eq_true, StructureEntry.refersTo_iff_of_ofRevision? hoffers.made]
  intro hid
  have hstored := hoffers.stored
  rw [hid, hget] at hstored
  obtain rfl := Except.ok.inj hstored
  exact (accept_false_iff.1 hoffers.accepted).2 hdisabled

/-- **A look-up adds disabled components to the listing, and nothing else.** It never fails. It
finds an entry exactly if a revision with the identifier is stored that the rules accept, disabled
or not, and this is the entry of the revision. Unless that revision is disabled, what is found is
all that the flat listing has for the identifier. No listing has an entry that refers to a
disabled component. -/
theorem lookup_adds_disabled (c : ComponentConfig) (s : MemoryStore) (direction : Direction)
    (id : Uuid) :
    ∃ found l, c.entryById s.toStore direction id = .ok found ∧
      c.entriesByName s.toStore direction none = .ok l ∧
      (found.isSome ↔
        ∃ r, s.get id = .ok r ∧ c.accept (.ofRevision r) direction true = .ok ()) ∧
      (∀ listed, found = some listed →
        ∃ r, s.get id = .ok r ∧ StructureEntry.ofRevision? direction r = some listed) ∧
      ((∀ r, s.get id = .ok r → r.state ≠ .disabled) →
        l.filter (·.refersTo id) = found.toList) ∧
      ∀ listed r, c.Lists s.toStore direction listed → s.get r.id = .ok r →
        r.state = .disabled → listed.refersTo r.id = false := by
  refine ⟨c.found? s direction id true, c.listing s direction none none false,
    entryById_toStore direction id, entriesByName_toStore none, isSome_found?_iff,
    fun listed hfound => ?_, fun henabled => ?_, fun listed r hlists hget hdisabled =>
      refersTo_eq_false_of_disabled hlists hget hdisabled⟩
  · obtain ⟨r, hget, -, hmade⟩ := found?_eq_some_iff.1 hfound
    exact ⟨r, hget, hmade⟩
  · rw [filter_refersTo_listing, found?_of_enabled henabled]

/-- The source of the shelf, taken out of use. -/
def retiredSource : Revision := { Engine.sampleSource with state := .disabled }

/-- A store of a disabled source and a sink that is in use. -/
def retiredShelf : MemoryStore := .ofList [retiredSource, Engine.sampleSink]

/-- The disabled source is found and not listed; the sink is found and listed. -/
theorem lookup_adds_disabled_shelf :
    (∃ source, standard.entryById retiredShelf.toStore .load retiredSource.id = .ok (some source) ∧
      ∀ l, standard.entriesByName retiredShelf.toStore .load none = .ok l →
        ∀ listed ∈ l, listed.refersTo retiredSource.id = false) ∧
    ∃ sink l, standard.entryById retiredShelf.toStore .send Engine.sampleSink.id =
        .ok (some sink) ∧
      standard.entriesByName retiredShelf.toStore .send none = .ok l ∧
      l.filter (·.refersTo Engine.sampleSink.id) = [sink] := by
  constructor
  · obtain ⟨found, l, hfound, hflat, hsome, -, -, hhidden⟩ :=
      lookup_adds_disabled standard retiredShelf .load retiredSource.id
    obtain ⟨source, rfl⟩ := Option.isSome_iff_exists.1 (hsome.2 ⟨retiredSource, rfl, rfl⟩)
    refine ⟨source, hfound, fun l hl listed hlisted => ?_⟩
    exact hhidden listed retiredSource (.inr ⟨none, l, hl, hlisted⟩) rfl rfl
  · obtain ⟨found, l, hfound, hflat, hsome, -, henabled, -⟩ :=
      lookup_adds_disabled standard retiredShelf .send Engine.sampleSink.id
    obtain ⟨sink, rfl⟩ := Option.isSome_iff_exists.1 (hsome.2 ⟨Engine.sampleSink, rfl, rfl⟩)
    refine ⟨sink, l, hfound, hflat, henabled fun r hr => ?_⟩
    have hsame : Engine.sampleSink = r := Except.ok.inj hr
    rw [← hsame]
    decide

end ComponentConfig

end Dataflow
