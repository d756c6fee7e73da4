import Dataflow.Revision.Basic

set_option autoImplicit false

/-! # Executable trees

A `Node` is what is left of a revision when every operator has been replaced by the revision
it instances: a component that runs one function, or a workflow around further nodes. The
identity of a node is that of its operator, and the identity of its revision at the root.
-/

namespace Dataflow

/-- A leaf: one component to run. -/
structure ComponentNode where
  id : OperatorId
  name : String
  /-- The revision that the node instances. -/
  component : Uuid
  codeModule : Uuid
  function : String
  interface : Interface

/-- A workflow without the nodes inside it. -/
structure WorkflowFrame where
  id : OperatorId
  name : String
  /-- The revision that the node instances. -/
  workflow : Uuid
  interface : Interface
  connections : List Connection
  inputs : List Mapping
  outputs : List Mapping

/-- An executable node. -/
inductive Node where
  | component (c : ComponentNode)
  | workflow (w : WorkflowFrame) (children : List Node)

namespace Node

instance : Inhabited Node := ⟨.component ⟨.nil, "", .nil, .nil, "", .empty⟩⟩

/-- The identity of a node. -/
def id : Node → OperatorId
  | component c => c.id
  | workflow w _ => w.id

/-- The name of a node. -/
def name : Node → String
  | component c => c.name
  | workflow w _ => w.name

/-- The interface of a node. -/
def interface : Node → Interface
  | component c => c.interface
  | workflow w _ => w.interface

mutual

/-- The number of nodes below a node. -/
def descendantCount : Node → Nat
  | component _ => 0
  | workflow _ children => nodeCount children

/-- The number of nodes in and below a list of nodes. -/
def nodeCount : List Node → Nat
  | [] => 0
  | n :: ns => 1 + descendantCount n + nodeCount ns

end

/-- The component nodes in and below the nodes that wait, the first of them first. The fuel
bounds the number of nodes taken. -/
def collectComponents : Nat → List Node → List ComponentNode
  | 0, _ => []
  | _, [] => []
  | fuel + 1, component c :: pending => c :: collectComponents fuel pending
  | fuel + 1, workflow _ children :: pending => collectComponents fuel (children ++ pending)

/-- Every component node of a tree, depth first and from left to right. -/
def componentNodes (n : Node) : List ComponentNode :=
  collectComponents (n.descendantCount + 1) [n]

/-! ## Written form -/

/-- Reads the fields of a component node. -/
def componentOfJson? (v : Json) : Option ComponentNode := do
  let f ← v.fields?
    ["id", "name", "component_id", "code_module_id", "function_name", "interface"]
  let id ← Json.required f "id" Json.uuid?
  let name ← Json.required f "name" Json.text?
  let component ← Json.required f "component_id" Json.uuid?
  let codeModule ← Json.required f "code_module_id" Json.uuid?
  let function ← Json.required f "function_name" Json.text?
  let interface ← Json.required f "interface" (Interface.read? .gathered)
  some { id, name, component, codeModule, function, interface }

/-- The names of the members of a written workflow node, in order. -/
def workflowFieldNames : List String :=
  ["id", "name", "workflow_id", "interface", "children", "connections", "inputs", "outputs"]

/-- Reads the fields of a workflow node other than its children. -/
def frameOfFields? (f : Json.Fields) : Option WorkflowFrame := do
  let id ← Json.required f "id" Json.uuid?
  let name ← Json.required f "name" Json.text?
  let workflow ← Json.required f "workflow_id" Json.uuid?
  let interface ← Json.required f "interface" (Interface.read? .gathered)
  let connections ← Json.optional f "connections" [] (Json.list? Connection.ofJson?)
  let inputs ← Json.optional f "inputs" [] (Json.list? Mapping.ofJson?)
  let outputs ← Json.optional f "outputs" [] (Json.list? Mapping.ofJson?)
  some { id, name, workflow, interface, connections, inputs, outputs }

/-- Reads a node whose workflows nest at most as deep as the fuel says. What stands inside of
it comes from a gathered value, for the node has a tag. -/
def read? : Nat → Json.Form → Json → Option Node
  | 0, _, _ => none
  | fuel + 1, form, v => do
      let (word, rest) ← v.tagged? form "node_kind" ["component", "workflow"]
      if word = "component" then (componentOfJson? rest).map component
      else
        let f ← rest.fields? workflowFieldNames
        let frame ← frameOfFields? f
        let children ← Json.required f "children" (Json.list? (read? fuel .gathered))
        some (workflow frame children)

/-- Reads a node by its tag `node_kind`. -/
def ofJson? (v : Json) : Option Node := read? (v.depth + 1) .direct v

/-- The members of a written component node. -/
def componentMembers (c : ComponentNode) : List (String × Json) :=
  [("id", .ofUuid c.id), ("name", .text c.name), ("component_id", .ofUuid c.component),
   ("code_module_id", .ofUuid c.codeModule), ("function_name", .text c.function),
   ("interface", c.interface.toJson)]

mutual

/-- Writes a node with its tag. -/
def toJson : Node → Json
  | component c => .object (("node_kind", .text "component") :: componentMembers c)
  | workflow w children =>
      .object [("node_kind", .text "workflow"), ("id", .ofUuid w.id), ("name", .text w.name),
        ("workflow_id", .ofUuid w.workflow), ("interface", w.interface.toJson),
        ("children", .array (toJsonAll children)),
        ("connections", .ofList Connection.toJson w.connections),
        ("inputs", .ofList Mapping.toJson w.inputs), ("outputs", .ofList Mapping.toJson w.outputs)]

/-- Writes each of several nodes. -/
def toJsonAll : List Node → List Json
  | [] => []
  | n :: ns => toJson n :: toJsonAll ns

end

end Node

end Dataflow
