import Dataflow.Revision.Content
import Dataflow.Wiring

set_option autoImplicit false

/-! # Revisions

A revision is a version of a component or of a workflow. It is well formed if the names on
its interface are unique and its content is of the kind it declares. `wrap` makes a
component into a workflow with a single operator that instances it and carries every input
and output through under its own name.
-/

namespace Dataflow

/-- A versioned definition of a component or a workflow. -/
structure Revision where
  id : Uuid
  group : Uuid
  name : String
  description : String
  category : String
  versionTag : String
  kind : RevisionKind
  state : RevisionState
  interface : Interface
  content : RevisionContent
  documentation : String
  /-- The bindings used when an execution supplies none. -/
  testWiring : Wiring
  releaseWiring : Option Wiring

namespace Revision

/-- A draft of a component. -/
def component (id group : Uuid) (name category : String) (interface : Interface)
    (code : CodeContent) : Revision where
  id := id
  group := group
  name := name
  description := ""
  category := category
  versionTag := "1.0.0"
  kind := .component
  state := .draft
  interface := interface
  content := .code code
  documentation := ""
  testWiring := .empty
  releaseWiring := none

/-- A draft of a workflow. -/
def workflow (id group : Uuid) (name category : String) (interface : Interface)
    (content : WorkflowContent) : Revision :=
  { component id group name category interface ⟨.nil, "", ""⟩ with
    kind := .workflow, content := .workflow content }

/-- The name with the version tag in parentheses. -/
def displayName (r : Revision) : String := r.name ++ " (" ++ r.versionTag ++ ")"

/-- The code of a component. -/
def code? (r : Revision) : Option CodeContent := r.content.code?

/-- The graph of a workflow. -/
def workflow? (r : Revision) : Option WorkflowContent := r.content.workflow?

/-- Whether the content is of the declared kind. -/
def contentMatches (r : Revision) : Bool :=
  match r.kind, r.content with
  | .component, .code _ => true
  | .workflow, .workflow _ => true
  | _, _ => false

/-- The first defect of a revision, that of its interface first. -/
def defect? (r : Revision) : Option Defect :=
  match r.interface.defect? with
  | some defect => some defect
  | none => if r.contentMatches then none else some (.contentMismatch r.id r.kind)

/-- Fails if a revision is not well formed. -/
def check (r : Revision) : Except ModelError Unit :=
  match r.defect? with
  | some defect => .error (.invalid defect)
  | none => .ok ()

/-- The graph of one operator that carries an interface through under the same names. -/
def wrapping (r : Revision) (operator : OperatorId) : WorkflowContent where
  operators := [⟨operator, r.id, r.name⟩]
  connections := []
  inputs := r.interface.inputs.map fun i => ⟨i.name, operator, i.name⟩
  outputs := r.interface.outputs.map fun o => ⟨o.name, operator, o.name⟩

/-- The workflow with a single operator that instances a component. It keeps all else of the
component. -/
def wrap (r : Revision) (operator : OperatorId) : Except ModelError Revision :=
  match r.kind with
  | .component =>
      .ok { r with kind := .workflow, content := .workflow (r.wrapping operator) }
  | .workflow => .error (.invalid (.notWrappable r.id r.kind))

/-- The names of the members of a written revision, in order. -/
def fieldNames : List String :=
  ["id", "revision_group_id", "name", "description", "category", "version_tag", "type", "state",
   "io_interface", "content", "documentation", "test_wiring", "release_wiring"]

/-- Reads a revision. -/
def read? (form : Json.Form) (v : Json) : Option Revision := do
  let f ← v.fields? fieldNames
  let id ← Json.required f "id" Json.uuid?
  let group ← Json.required f "revision_group_id" Json.uuid?
  let name ← Json.required f "name" Json.text?
  let description ← Json.optional f "description" "" Json.text?
  let category ← Json.required f "category" Json.text?
  let versionTag ← Json.required f "version_tag" Json.text?
  let kind ← Json.required f "type" (RevisionKind.read? form)
  let state ← Json.required f "state" (RevisionState.read? form)
  let interface ← Json.required f "io_interface" (Interface.read? form)
  let content ← Json.required f "content" (RevisionContent.read? form)
  let documentation ← Json.optional f "documentation" "" Json.text?
  let testWiring ← Json.optional f "test_wiring" .empty (Wiring.read? form)
  let releaseWiring ←
    Json.optional f "release_wiring" none (Json.nullable? (Wiring.read? form))
  some { id, group, name, description, category, versionTag, kind, state, interface, content,
         documentation, testWiring, releaseWiring }

/-- Reads a revision as it is written. -/
def ofJson? : Json → Option Revision := read? .direct

/-- Writes a revision, without a release wiring if it has none. -/
def toJson (r : Revision) : Json :=
  .object ([("id", .ofUuid r.id), ("revision_group_id", .ofUuid r.group), ("name", .text r.name),
    ("description", .text r.description), ("category", .text r.category),
    ("version_tag", .text r.versionTag), ("type", r.kind.toJson), ("state", r.state.toJson),
    ("io_interface", r.interface.toJson), ("content", r.content.toJson),
    ("documentation", .text r.documentation), ("test_wiring", r.testWiring.toJson)] ++
    (r.releaseWiring.map fun w => ("release_wiring", w.toJson)).toList)

end Revision

end Dataflow
