import Dataflow.Node.Basic

set_option autoImplicit false

/-! # Execution inputs

An `ExecutionInput` holds all that one execution needs: the tree to run, the wiring of its
root, and each code module and component record that the tree refers to. `defect?` finds
the first reason why it is not consistent: an identifier contained twice, a record without
its module, a node without a matching record, or a wiring that does not fit the interface of
the root.
-/

namespace Dataflow

/-- The source text of component bodies. -/
structure CodeModule where
  id : Uuid
  code : String
  deriving DecidableEq

namespace CodeModule

/-- The code module of a component. -/
def ofRevision? (r : Revision) : Option CodeModule := r.code?.map fun c => ⟨c.codeModule, c.source⟩

/-- Reads a code module. -/
def ofJson? (v : Json) : Option CodeModule := do
  let f ← v.fields? ["id", "code"]
  let id ← Json.required f "id" Json.uuid?
  let code ← Json.required f "code" Json.text?
  some ⟨id, code⟩

/-- Writes a code module. -/
def toJson (m : CodeModule) : Json := .object [("id", .ofUuid m.id), ("code", .text m.code)]

end CodeModule

/-- What is known about one component. -/
structure ComponentRecord where
  id : Uuid
  name : String
  versionTag : String
  category : String
  state : RevisionState
  interface : Interface
  codeModule : Uuid
  function : String

namespace ComponentRecord

/-- The record of a component; a revision of another kind or without code has none. -/
def ofRevision? (r : Revision) : Option ComponentRecord :=
  if r.kind = .component then
    r.code?.map fun c =>
      { id := r.id, name := r.name, versionTag := r.versionTag, category := r.category,
        state := r.state, interface := r.interface, codeModule := c.codeModule,
        function := c.function }
  else none

/-- The name with the version tag in parentheses. -/
def displayName (c : ComponentRecord) : String := c.name ++ " (" ++ c.versionTag ++ ")"

/-- Reads a record. -/
def ofJson? (v : Json) : Option ComponentRecord := do
  let f ← v.fields? ["id", "name", "version_tag", "category", "state", "interface",
    "code_module_id", "function_name"]
  let id ← Json.required f "id" Json.uuid?
  let name ← Json.required f "name" Json.text?
  let versionTag ← Json.required f "version_tag" Json.text?
  let category ← Json.required f "category" Json.text?
  let state ← Json.required f "state" RevisionState.ofJson?
  let interface ← Json.required f "interface" Interface.ofJson?
  let codeModule ← Json.required f "code_module_id" Json.uuid?
  let function ← Json.required f "function_name" Json.text?
  some { id, name, versionTag, category, state, interface, codeModule, function }

/-- Writes a record. -/
def toJson (c : ComponentRecord) : Json :=
  .object [("id", .ofUuid c.id), ("name", .text c.name), ("version_tag", .text c.versionTag),
    ("category", .text c.category), ("state", c.state.toJson), ("interface", c.interface.toJson),
    ("code_module_id", .ofUuid c.codeModule), ("function_name", .text c.function)]

end ComponentRecord

/-- The switches of one execution. -/
structure Configuration where
  /-- The name of the execution in logs. -/
  name : String
  /-- Whether components that produce plots only are run. -/
  runPurePlots : Bool
  deriving DecidableEq

namespace Configuration

/-- Reads a configuration. -/
def ofJson? (v : Json) : Option Configuration := do
  let f ← v.fields? ["name", "run_pure_plot_operators"]
  let name ← Json.required f "name" Json.text?
  let runPurePlots ← Json.optional f "run_pure_plot_operators" false Json.bool?
  some ⟨name, runPurePlots⟩

/-- Writes a configuration. -/
def toJson (c : Configuration) : Json :=
  .object [("name", .text c.name), ("run_pure_plot_operators", .bool c.runPurePlots)]

end Configuration

/-- Why an execution input is not consistent. -/
inductive InputFault where
  | duplicateModule (codeModule : Uuid)
  | duplicateComponent (component : Uuid)
  | missingModule (codeModule component : Uuid)
  | missingComponent (component : Uuid) (name : String) (node : OperatorId)
  | otherModule (name : String) (node : OperatorId) (expected component found : Uuid)
  /-- A revision or a wiring is not well formed. -/
  | model (cause : ModelError)
  /-- A fault given in words. -/
  | described (text : String)
  deriving DecidableEq

/-- A name with an identity in parentheses. -/
def labelled (name : String) (id : OperatorId) : String := name ++ " (" ++ toString id ++ ")"

/-- The wording of a fault. -/
def InputFault.message : InputFault → String
  | duplicateModule codeModule =>
      "code module " ++ toString codeModule ++ " is contained more than once"
  | duplicateComponent component =>
      "component " ++ toString component ++ " is contained more than once"
  | missingModule codeModule component =>
      "code module " ++ toString codeModule ++ " of component " ++ toString component ++
        " is missing"
  | missingComponent component name node =>
      "component " ++ toString component ++ " of node " ++ labelled name node ++ " is missing"
  | otherModule name node expected component found =>
      "node " ++ labelled name node ++ " expects code module " ++ toString expected ++
        " but component " ++ toString component ++ " has " ++ toString found
  | model cause => cause.message
  | described text => text

/-- Everything that one execution needs. -/
structure ExecutionInput where
  codeModules : List CodeModule
  components : List ComponentRecord
  workflow : Node
  configuration : Configuration
  wiring : Wiring
  jobId : Uuid
  /-- The revision that was requested. -/
  rootId : Uuid

namespace ExecutionInput

/-- The first code module contained twice. -/
def moduleDefect? : List Uuid → List CodeModule → Option InputFault
  | _, [] => none
  | seen, m :: rest =>
      if m.id ∈ seen then some (.duplicateModule m.id) else moduleDefect? (m.id :: seen) rest

/-- The first component contained twice or without its module. -/
def componentDefect? (modules : List CodeModule) :
    List Uuid → List ComponentRecord → Option InputFault
  | _, [] => none
  | seen, c :: rest =>
      if c.id ∈ seen then some (.duplicateComponent c.id)
      else if modules.all (·.id ≠ c.codeModule) then some (.missingModule c.codeModule c.id)
      else componentDefect? modules (c.id :: seen) rest

/-- Why a node has no matching record. -/
def nodeDefect? (components : List ComponentRecord) (n : ComponentNode) : Option InputFault :=
  match components.find? (·.id == n.component) with
  | none => some (.missingComponent n.component n.name n.id)
  | some c =>
      if c.codeModule = n.codeModule then none
      else some (.otherModule n.name n.id n.codeModule c.id c.codeModule)

/-- The first reason why an input is not consistent. -/
def defect? (x : ExecutionInput) : Option InputFault :=
  (moduleDefect? [] x.codeModules).or <|
  (componentDefect? x.codeModules [] x.components).or <|
  (x.workflow.componentNodes.findSome? (nodeDefect? x.components)).or <|
  (x.wiring.defect? x.workflow.interface).map fun d => .model (.invalid d)

/-- Fails if an input is not consistent. -/
def check (x : ExecutionInput) : Except InputFault Unit :=
  match x.defect? with
  | some fault => .error fault
  | none => .ok ()

/-- Reads an input. -/
def ofJson? (v : Json) : Option ExecutionInput := do
  let f ← v.fields? ["code_modules", "components", "workflow", "configuration",
    "workflow_wiring", "job_id", "root_id"]
  let codeModules ← Json.required f "code_modules" (Json.list? CodeModule.ofJson?)
  let components ← Json.required f "components" (Json.list? ComponentRecord.ofJson?)
  let workflow ← Json.required f "workflow" Node.ofJson?
  let configuration ← Json.required f "configuration" Configuration.ofJson?
  let wiring ← Json.required f "workflow_wiring" Wiring.ofJson?
  let jobId ← Json.required f "job_id" Json.uuid?
  let rootId ← Json.required f "root_id" Json.uuid?
  some { codeModules, components, workflow, configuration, wiring, jobId, rootId }

/-- Writes an input. -/
def toJson (x : ExecutionInput) : Json :=
  .object [("code_modules", .ofList CodeModule.toJson x.codeModules),
    ("components", .ofList ComponentRecord.toJson x.components),
    ("workflow", x.workflow.toJson), ("configuration", x.configuration.toJson),
    ("workflow_wiring", x.wiring.toJson), ("job_id", .ofUuid x.jobId),
    ("root_id", .ofUuid x.rootId)]

end ExecutionInput

end Dataflow
