import Dataflow.Proofs.Component.Listing
import Dataflow.Proofs.Text.Lower

set_option autoImplicit false

/-! # What a search for a name hides

The flat listings can be searched for a text, in any case: the lower case of the text must occur in
the lower case of the name. One expects that a name that holds the text as it is written is found.
But a capital sigma has two lower cases, and which of them it takes depends on where it stands, so
that the end of a word in the text can be the middle of a word in the name. `hides_match_iff` says
for which texts this happens: for those with an open sigma (`Text.OpenSigma`).
-/

namespace Dataflow

theorem StructureEntry.name_of_ofRevision? {direction : Direction} {r : Revision}
    {listed : StructureEntry} (h : ofRevision? direction r = some listed) :
    listed.name = r.displayName := by
  obtain ⟨t, -, rfl⟩ := Option.map_eq_some_iff.1 h
  rfl

namespace ComponentConfig

variable {c : ComponentConfig} {s : MemoryStore} {direction : Direction} {filter name : String}
  {listed : StructureEntry}

/-- A search for a text hides an entry whose name holds the text as it is written. -/
def HidesMatch (c : ComponentConfig) (s : MemoryStore) (direction : Direction) (filter : String) :
    Prop :=
  ∃ l l' listed, c.entriesByName s.toStore direction none = .ok l ∧
    c.entriesByName s.toStore direction (some filter) = .ok l' ∧
    listed ∈ l ∧ Text.contains listed.name filter = true ∧ listed ∉ l'

theorem mem_filterByName_iff {l : List StructureEntry} :
    listed ∈ filterByName (some filter) l ↔
      listed ∈ l ∧ Text.contains (Text.lower listed.name) (Text.lower filter) = true :=
  List.mem_filter

/-- Without an open sigma no match is hidden. -/
theorem not_hidesMatch (h : ¬ Text.OpenSigma filter.toList) :
    ¬ c.HidesMatch s direction filter := by
  rintro ⟨l, l', listed, hl, hl', hmem, hmatch, hhidden⟩
  rw [entriesByName_toStore] at hl hl'
  cases hl
  cases hl'
  exact hhidden (mem_filterByName_iff.2 ⟨hmem, Text.contains_lower_of_not_openSigma h hmatch⟩)

/-! ## A component with any name -/

/-- A component that may be used in a direction, under a name. -/
def named (direction : Direction) (name : String) : Revision :=
  match direction with
  | .load => { Engine.sampleSource with name := name }
  | .send => { Engine.sampleSink with name := name }

/-- Everything that comes after the name where it is shown. -/
def shownVersion : List Char := " (1.0.0)".toList

theorem displayName_named :
    (named direction name).displayName.toList = name.toList ++ shownVersion := by
  have hversion : (named direction name).versionTag = "1.0.0" := by cases direction <;> rfl
  have hname : (named direction name).name = name := by cases direction <;> rfl
  have hshown : shownVersion = " (".toList ++ ("1.0.0".toList ++ ")".toList) := by decide
  rw [Revision.displayName, hversion, hname, hshown, String.toList_append, String.toList_append,
    String.toList_append, List.append_assoc, List.append_assoc]

theorem exists_offers_named (direction : Direction) (name : String) :
    ∃ listed, standard.Offers (.ofList [named direction name]) direction false
      (named direction name) listed := by
  have haccept : standard.accept (.ofRevision (named direction name)) direction false = .ok () := by
    cases direction <;> rfl
  obtain ⟨listed, hmade⟩ := StructureEntry.exists_ofRevision?_of_accept haccept
  refine ⟨listed, ?_, haccept, hmade⟩
  cases direction <;> rfl

/-- A name that holds a text, and whose lower case does not hold that of the text, is hidden. -/
theorem hidesMatch_named
    (hoccurs : filter.toList <:+: name.toList ++ shownVersion)
    (hlost : ¬ Text.lowerWithin [] filter.toList [] <:+:
      Text.lowerWithin [] (name.toList ++ shownVersion) []) :
    standard.HidesMatch (.ofList [named direction name]) direction filter := by
  obtain ⟨listed, hoffers⟩ := exists_offers_named direction name
  have hname : listed.name.toList = name.toList ++ shownVersion := by
    rw [StructureEntry.name_of_ofRevision? hoffers.made, displayName_named]
  refine ⟨_, _, listed, entriesByName_toStore none, entriesByName_toStore (some filter),
    mem_listing_all_iff.2 ⟨_, hoffers⟩, ?_, ?_⟩
  · rw [Text.contains_iff, hname]
    exact hoccurs
  · rw [mem_filterByName_iff, Text.contains_iff, Text.toList_lower, Text.toList_lower, hname]
    exact fun h => hlost h.2

/-- **A search only takes entries away, and it hides a match exactly for a text with an open
sigma.** For every text the search returns a part of the listing, in its order. There are a
configuration and a store for which it leaves out an entry whose name holds the text as it is
written if and only if the text has a capital sigma with nothing before it but characters that are
passed over and no cased character behind it, or with a cased character before it and nothing
behind it but characters that are passed over. -/
theorem hides_match_iff (filter : String) :
    (∀ (c : ComponentConfig) (s : MemoryStore) (direction : Direction),
      ∃ l l', c.entriesByName s.toStore direction none = .ok l ∧
        c.entriesByName s.toStore direction (some filter) = .ok l' ∧ l'.Sublist l) ∧
    ∀ direction : Direction, (∃ c s, ComponentConfig.HidesMatch c s direction filter) ↔
      Text.OpenSigma filter.toList := by
  refine ⟨fun c s direction => ?_, fun direction => ⟨?_, fun hopen => ?_⟩⟩
  · exact ⟨_, _, entriesByName_toStore none, entriesByName_toStore (some filter),
      List.filter_sublist⟩
  · rintro ⟨c, s, hhides⟩
    by_contra hclosed
    exact not_hidesMatch hclosed hhides
  · -- a component whose name is the text with a letter before it or behind it
    have hfree : Text.SigmaFree shownVersion := ⟨by decide, by decide, by decide⟩
    obtain ⟨p, p', hlost⟩ := hopen.exists_hidden hfree
    refine ⟨standard, .ofList [named direction (String.ofList (p ++ filter.toList ++ p'))],
      hidesMatch_named ?_ ?_⟩
    · rw [String.toList_ofList, List.append_assoc _ p']
      exact List.infix_append _ _ _
    · rw [String.toList_ofList]
      exact hlost

/-- A search for `AΣ` does not find `AΣA`: the sigma ends the text and not the name. -/
theorem hides_match_prefix :
    standard.HidesMatch (.ofList [named .load "AΣA"]) .load "AΣ" := by
  have hfilter : "AΣ".toList = ['A'] ++ Text.capitalSigma :: [] := by decide
  have hname : "AΣA".toList ++ shownVersion =
      (['A'] ++ Text.capitalSigma :: []) ++ 'A' :: shownVersion := by decide
  refine hidesMatch_named ?_ ?_
  · rw [hfilter, hname]
    exact List.infix_append [] _ _
  · rw [hfilter, hname]
    exact Text.not_infix_before_letter Text.nextIsCased_letter (List.forall_mem_nil _)
      ⟨by decide, by decide, by decide⟩

/-- A name is found by its letters; a single sigma is not found everywhere. -/
theorem hides_match_iff_letters :
    (∀ c s, ¬ ComponentConfig.HidesMatch c s .load "READ") ∧
      ∃ c s, ComponentConfig.HidesMatch c s .send "Σ" := by
  constructor
  · intro c s hhides
    have hopen := ((hides_match_iff "READ").2 .load).1 ⟨c, s, hhides⟩
    exact Text.not_openSigma_of_notMem (by decide) hopen
  · exact ((hides_match_iff "Σ").2 .send).2 ⟨[], [], by decide, .inl ⟨List.forall_mem_nil _, rfl⟩⟩

end ComponentConfig

end Dataflow
