import Dataflow.ModelError

set_option autoImplicit false

/-! # Bodies of revisions

The content of a revision is the code of a component or the graph of a workflow: operators
that instance other revisions, connections between their connectors, and the mappings that
expose connectors as inputs and outputs of the workflow. `connect` keeps a graph sound: it
joins two different operators of the graph or changes nothing.
-/

namespace Dataflow

/-- The executable code of a component. The source text is never interpreted here. -/
structure CodeContent where
  codeModule : Uuid
  function : String
  source : String
  deriving DecidableEq

namespace CodeContent

/-- Reads code; the source text may be absent. -/
def ofJson? (v : Json) : Option CodeContent := do
  let f ← v.fields? ["code_module_id", "function_name", "source"]
  let codeModule ← Json.required f "code_module_id" Json.uuid?
  let function ← Json.required f "function_name" Json.text?
  let source ← Json.optional f "source" "" Json.text?
  some ⟨codeModule, function, source⟩

/-- The members of written code. -/
def members (c : CodeContent) : List (String × Json) :=
  [("code_module_id", .ofUuid c.codeModule), ("function_name", .text c.function),
   ("source", .text c.source)]

end CodeContent

/-- An instance of a revision inside a workflow. -/
structure Operator where
  id : OperatorId
  /-- The revision that the operator instances. -/
  revision : Uuid
  name : String
  deriving DecidableEq

namespace Operator

/-- Reads an operator. -/
def ofJson? (v : Json) : Option Operator := do
  let f ← v.fields? ["id", "revision_id", "name"]
  let id ← Json.required f "id" Json.uuid?
  let revision ← Json.required f "revision_id" Json.uuid?
  let name ← Json.required f "name" Json.text?
  some ⟨id, revision, name⟩

/-- Writes an operator. -/
def toJson (o : Operator) : Json :=
  .object [("id", .ofUuid o.id), ("revision_id", .ofUuid o.revision), ("name", .text o.name)]

end Operator

/-- A named connector of one operator. -/
structure Endpoint where
  operator : OperatorId
  connector : String
  deriving DecidableEq

namespace Endpoint

/-- Reads an endpoint. -/
def ofJson? (v : Json) : Option Endpoint := do
  let f ← v.fields? ["operator_id", "connector"]
  let operator ← Json.required f "operator_id" Json.uuid?
  let connector ← Json.required f "connector" Json.text?
  some ⟨operator, connector⟩

/-- Writes an endpoint. -/
def toJson (e : Endpoint) : Json :=
  .object [("operator_id", .ofUuid e.operator), ("connector", .text e.connector)]

end Endpoint

/-- A link from an operator output to an operator input. -/
structure Connection where
  source : Endpoint
  target : Endpoint
  deriving DecidableEq

namespace Connection

/-- Reads a connection. -/
def ofJson? (v : Json) : Option Connection := do
  let f ← v.fields? ["from", "to"]
  let source ← Json.required f "from" Endpoint.ofJson?
  let target ← Json.required f "to" Endpoint.ofJson?
  some ⟨source, target⟩

/-- Writes a connection. -/
def toJson (c : Connection) : Json :=
  .object [("from", c.source.toJson), ("to", c.target.toJson)]

end Connection

/-- The route between an input or output of a workflow and a connector inside it. -/
structure Mapping where
  /-- The name on the interface of the workflow. -/
  name : String
  endpoint : Endpoint
  deriving DecidableEq

namespace Mapping

/-- Reads a mapping. -/
def ofJson? (v : Json) : Option Mapping := do
  let f ← v.fields? ["name", "endpoint"]
  let name ← Json.required f "name" Json.text?
  let endpoint ← Json.required f "endpoint" Endpoint.ofJson?
  some ⟨name, endpoint⟩

/-- Writes a mapping. -/
def toJson (m : Mapping) : Json :=
  .object [("name", .text m.name), ("endpoint", m.endpoint.toJson)]

end Mapping

/-- The graph of a workflow. -/
structure WorkflowContent where
  operators : List Operator
  connections : List Connection
  /-- Which operator inputs the inputs of the workflow reach. -/
  inputs : List Mapping
  /-- Which operator outputs the outputs of the workflow expose. -/
  outputs : List Mapping
  deriving DecidableEq

namespace WorkflowContent

/-- The graph without operators. -/
def empty : WorkflowContent := ⟨[], [], [], []⟩

/-- The first operator with an identity. -/
def operator? (w : WorkflowContent) (id : OperatorId) : Option Operator :=
  w.operators.find? (·.id == id)

/-- Adds an operator that instances a revision, under a fresh identity. -/
def addOperator (w : WorkflowContent) (id : OperatorId) (revision : Uuid) (name : String) :
    WorkflowContent :=
  { w with operators := w.operators ++ [⟨id, revision, name⟩] }

/-- Why two endpoints cannot be connected, if they cannot: an operator that the graph does not
have, or one operator on both sides. -/
def connectDefect? (w : WorkflowContent) (source target : Endpoint) : Option Defect :=
  match [source, target].find? (fun e => (w.operator? e.operator).isNone) with
  | some e => some (.unknownEndpoint e.operator e.connector)
  | none =>
      if source.operator = target.operator then some (.selfConnection source.operator) else none

/-- Connects an operator output to an input of another operator. -/
def connect (w : WorkflowContent) (source target : Endpoint) :
    Except ModelError WorkflowContent :=
  match w.connectDefect? source target with
  | some defect => .error (.invalid defect)
  | none => .ok { w with connections := w.connections ++ [⟨source, target⟩] }

/-- Exposes an operator input as an input of the workflow. -/
def exposeInput (w : WorkflowContent) (name : String) (endpoint : Endpoint) : WorkflowContent :=
  { w with inputs := w.inputs ++ [⟨name, endpoint⟩] }

/-- Exposes an operator output as an output of the workflow. -/
def exposeOutput (w : WorkflowContent) (name : String) (endpoint : Endpoint) : WorkflowContent :=
  { w with outputs := w.outputs ++ [⟨name, endpoint⟩] }

/-- Reads a graph; every list may be absent. -/
def ofJson? (v : Json) : Option WorkflowContent := do
  let f ← v.fields? ["operators", "connections", "inputs", "outputs"]
  let operators ← Json.optional f "operators" [] (Json.list? Operator.ofJson?)
  let connections ← Json.optional f "connections" [] (Json.list? Connection.ofJson?)
  let inputs ← Json.optional f "inputs" [] (Json.list? Mapping.ofJson?)
  let outputs ← Json.optional f "outputs" [] (Json.list? Mapping.ofJson?)
  some ⟨operators, connections, inputs, outputs⟩

/-- The members of a written graph. -/
def members (w : WorkflowContent) : List (String × Json) :=
  [("operators", .ofList Operator.toJson w.operators),
   ("connections", .ofList Connection.toJson w.connections),
   ("inputs", .ofList Mapping.toJson w.inputs), ("outputs", .ofList Mapping.toJson w.outputs)]

/-- Writes a graph. -/
def toJson (w : WorkflowContent) : Json := .object w.members

end WorkflowContent

/-- The body of a revision. -/
inductive RevisionContent where
  | code (c : CodeContent)
  | workflow (w : WorkflowContent)
  deriving DecidableEq

namespace RevisionContent

/-- The code, if the content is code. -/
def code? : RevisionContent → Option CodeContent
  | code c => some c
  | workflow _ => none

/-- The graph, if the content is one. -/
def workflow? : RevisionContent → Option WorkflowContent
  | workflow w => some w
  | code _ => none

/-- Reads content by its tag `kind`. -/
def read? (form : Json.Form) (v : Json) : Option RevisionContent := do
  let (word, rest) ← v.tagged? form "kind" ["code", "workflow"]
  if word = "code" then (CodeContent.ofJson? rest).map code
  else (WorkflowContent.ofJson? rest).map workflow

/-- Writes content with its tag. -/
def toJson : RevisionContent → Json
  | code c => .object (("kind", .text "code") :: c.members)
  | workflow w => .object (("kind", .text "workflow") :: w.members)

end RevisionContent

end Dataflow
