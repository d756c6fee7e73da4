import Dataflow.Component.Suitability
import Dataflow.Execution.Error
import Dataflow.Store.Memory
import Dataflow.Text.Lower

set_option autoImplicit false

/-! # What there is to bind

The components that may serve as sources and sinks are shown to those who make wirings. Their
categories come first; below a category stand the sources and the sinks that belong to it.
The same entries can be listed flat, filtered by name, or looked up by identifier. An entry
tells how to bind it: what to refer to, of which type it is, and which filters it takes.
-/

namespace Dataflow

/-- A category of components. -/
structure ThingNode where
  category : String
  deriving DecidableEq

/-- Writes a category. It stands below nothing. -/
def ThingNode.toJson (n : ThingNode) : Json :=
  .object [("id", .text n.category), ("parentId", .null), ("name", .text n.category),
    ("description", .text ("Components suitable as sources/sinks in category " ++ n.category))]

/-- A filter that a binding may set. -/
structure StructureFilter where
  name : String
  required : Bool
  defaultValue : Option Json

/-- Writes a filter. Every filter is a free text. -/
def StructureFilter.toJson (f : StructureFilter) : Json :=
  .object [("name", .text f.name), ("type", .text "free_text"), ("required", .bool f.required),
    ("default_value", .ofOption id f.defaultValue)]

/-- A component that may serve as a source or a sink. -/
structure StructureEntry where
  /-- What to refer to: the component, or the category if there is a key. -/
  id : String
  category : String
  name : String
  externalType : ExternalType
  /-- The component, where the entry is metadata of its category. -/
  metadataKey : Option String
  filters : Dict String StructureFilter

namespace StructureEntry

/-- The inputs that those who make wirings set by other means. -/
def implicitFilters : List String := ["timestampFrom", "timestampTo"]

/-- The type of the value that a component gives or takes. -/
def dataType? (direction : Direction) (i : Interface) : Option DataType :=
  match direction with
  | .load => i.outputs.head?.map (·.dataType)
  | .send => (i.input? sinkDataInput).map (·.dataType)

/-- Whether an input is a filter. A sink has none but its data. -/
def isFilter (direction : Direction) (i : Input) : Bool :=
  (direction = .load || i.name == sinkDataInput) && !implicitFilters.contains i.name

/-- The filter of an input. -/
def filterOf (i : Input) : StructureFilter := ⟨i.name, i.kind = .required, i.value⟩

/-- The filters that an interface takes in a direction. -/
def filtersOf (direction : Direction) (i : Interface) : Dict String StructureFilter :=
  .ofList ((i.inputs.filter (isFilter direction)).map fun i => (i.name, filterOf i))

/-- The entry of a component. -/
def ofRevision? (direction : Direction) (r : Revision) : Option StructureEntry :=
  (dataType? direction r.interface).map fun t =>
    let isMetadata := direction = .load && t.external.isMetadata
    { id := if isMetadata then r.category else toString r.id
      category := r.category
      name := r.displayName
      externalType := t.external
      metadataKey := if isMetadata then some (toString r.id) else none
      filters := filtersOf direction r.interface }

/-- Where an entry stands: its category and its name. -/
def path (e : StructureEntry) : String := e.category ++ "/" ++ e.name

/-- Writes an entry, without a key if it has none. -/
def toJson (e : StructureEntry) : Json :=
  .object ([("id", .text e.id), ("thingNodeId", .text e.category), ("name", .text e.name),
    ("path", .text e.path), ("type", e.externalType.toJson)] ++
    (e.metadataKey.map fun k => ("metadataKey", .text k)).toList ++
    [("filters", .ofDict StructureFilter.toJson e.filters)])

end StructureEntry

/-- What stands on one level: categories, or sources and sinks. -/
structure StructureListing where
  thingNodes : List ThingNode
  sources : List StructureEntry
  sinks : List StructureEntry

namespace StructureListing

/-- The level on which nothing stands. -/
def empty : StructureListing := ⟨[], [], []⟩

/-- Writes a level. -/
def toJson (l : StructureListing) : Json :=
  .object [("id", .text componentAdapterId), ("name", .text "Component Adapter"),
    ("thingNodes", .ofList ThingNode.toJson l.thingNodes),
    ("sources", .ofList StructureEntry.toJson l.sources),
    ("sinks", .ofList StructureEntry.toJson l.sinks)]

end StructureListing

namespace ComponentConfig

/-- The entries of selected components that may be used in a direction, by name. -/
def entriesOf (c : ComponentConfig) (direction : Direction) (allowDisabled : Bool)
    (components : List Revision) : List StructureEntry :=
  let suitable := components.filter fun r =>
    (c.unsuitability? (.ofRevision r) direction allowDisabled).isNone
  (suitable.filterMap (StructureEntry.ofRevision? direction)).mergeSort
    fun a b => (compare a.name b.name).isLE

/-- The entries of the stored components that may be used in a direction. -/
def entries (c : ComponentConfig) (s : RevisionStore) (direction : Direction)
    (categories : Option (List String)) (ids : Option (List Uuid)) (allowDisabled : Bool) :
    Except ExecutionError (List StructureEntry) :=
  let query : Query :=
    { kind := some .component, states := some (c.allowedStates allowDisabled), categories, ids }
  ((s.select query).mapError .ofModel).map (c.entriesOf direction allowDisabled)

/-- The categories of stored components that are worth listing. -/
def thingNodes (c : ComponentConfig) (s : RevisionStore) :
    Except ExecutionError (List ThingNode) :=
  ((s.categories (some .component)).mapError .ofModel).map fun categories =>
    (categories.filter c.listsCategory).map ThingNode.mk

/-- What stands at the root, or below a category. -/
def structureBelow (c : ComponentConfig) (s : RevisionStore) :
    Option String → Except ExecutionError StructureListing
  | none => (c.thingNodes s).map fun nodes => ⟨nodes, [], []⟩
  | some category =>
      if c.listsCategory category then do
        let sources ← c.entries s .load (some [category]) none false
        let sinks ← c.entries s .send (some [category]) none false
        return ⟨[], sources, sinks⟩
      else return .empty

/-- The entries whose name holds a text, in any case. -/
def filterByName (filter : Option String) (entries : List StructureEntry) : List StructureEntry :=
  match filter with
  | none => entries
  | some text => entries.filter fun e => Text.contains (Text.lower e.name) (Text.lower text)

/-- All entries of a direction whose name holds a text. -/
def entriesByName (c : ComponentConfig) (s : RevisionStore) (direction : Direction)
    (filter : Option String) : Except ExecutionError (List StructureEntry) :=
  (c.entries s direction none none false).map (filterByName filter)

/-- The entry of a component. Disabled components are found too. -/
def entryById (c : ComponentConfig) (s : RevisionStore) (direction : Direction) (id : Uuid) :
    Except ExecutionError (Option StructureEntry) := do
  let entries ← c.entries s direction none (some [id]) true
  if entries.length > 1 then throw (.internal (.ambiguous entries.length direction id))
  else return entries.getLast?

/-- The category with a name, if it is worth listing. -/
def thingNode? (c : ComponentConfig) (id : String) : Option ThingNode :=
  if id ≠ "" ∧ c.listsCategory id then some ⟨id⟩ else none

end ComponentConfig

end Dataflow
