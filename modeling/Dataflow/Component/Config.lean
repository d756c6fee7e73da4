import Dataflow.Direction
import Dataflow.Revision.Kind

set_option autoImplicit false

/-! # Which components serve as sources and sinks

A `ComponentConfig` restricts the components that may be used as sources and sinks by state
and by category. Released components always may be; disabled ones only where they are asked
for by identifier.
-/

namespace Dataflow

/-- The restrictions on components used as sources and sinks. -/
structure ComponentConfig where
  /-- Whether components may be used so at all. -/
  active : Bool
  allowDrafts : Bool
  /-- The categories of sources; without a list every category is allowed. -/
  sourceCategories : Option (List String)
  /-- The categories of sinks; without a list every category is allowed. -/
  sinkCategories : Option (List String)
  deriving DecidableEq

namespace ComponentConfig

/-- The restrictions that hold when nothing is configured. -/
def standard : ComponentConfig := ⟨true, false, none, none⟩

/-- The states that a component may be in. -/
def allowedStates (c : ComponentConfig) (allowDisabled : Bool) : List RevisionState :=
  .released :: (if c.allowDrafts then [.draft] else []) ++
    (if allowDisabled then [.disabled] else [])

/-- The list of categories for a direction, if there is one. -/
def allowedCategories (c : ComponentConfig) : Direction → Option (List String)
  | .load => c.sourceCategories
  | .send => c.sinkCategories

/-- Whether a category may be used in a direction. -/
def allowsCategory (c : ComponentConfig) (direction : Direction) (category : String) : Bool :=
  match c.allowedCategories direction with
  | some allowed => allowed.contains category
  | none => true

/-- Whether a category is worth listing: one direction at least may use it. -/
def listsCategory (c : ComponentConfig) (category : String) : Bool :=
  match c.sourceCategories, c.sinkCategories with
  | some sources, some sinks => sources.contains category || sinks.contains category
  | _, _ => true

/-- Reads a configuration; what is absent has its standard value. -/
def ofJson? (v : Json) : Option ComponentConfig := do
  let f ← v.fields? ["active", "allow_draft_components", "allowed_source_categories",
    "allowed_sink_categories"]
  let active ← Json.optional f "active" true Json.bool?
  let allowDrafts ← Json.optional f "allow_draft_components" false Json.bool?
  let categories := Json.nullable? (Json.list? Json.text?)
  let sourceCategories ← Json.optional f "allowed_source_categories" none categories
  let sinkCategories ← Json.optional f "allowed_sink_categories" none categories
  some { active, allowDrafts, sourceCategories, sinkCategories }

/-- Writes a configuration. -/
def toJson (c : ComponentConfig) : Json :=
  .object [("active", .bool c.active), ("allow_draft_components", .bool c.allowDrafts),
    ("allowed_source_categories", .ofOption (.ofList .text) c.sourceCategories),
    ("allowed_sink_categories", .ofOption (.ofList .text) c.sinkCategories)]

end ComponentConfig

end Dataflow
