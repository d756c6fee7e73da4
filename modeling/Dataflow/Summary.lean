import Dataflow.CommandLine.Options
import Dataflow.Report

set_option autoImplicit false

/-! # Summaries

A summary is a JSON value that shows of a thing what is of interest when one looks at it from
outside: of a result the names of the measured steps in place of their timings, of a node its
name and its components beside the node itself, of an event or a request all that it carries.
-/

namespace Dataflow

/-! ## Values and wirings -/

/-- The name of a data type and the types that it stands in for. -/
def DataType.summary (t : DataType) : Json :=
  .object [("canonical", .text t.name), ("display", .text t.name),
    ("external_type", .text t.external.name), ("general_type", .text t.external.general.name)]

/-- The name of an external type, and how it stands to metadata. -/
def ExternalType.summary (t : ExternalType) : Json :=
  .object [("canonical", .text t.name), ("general_type", .text t.general.name),
    ("is_metadata", .bool t.isMetadata)]

/-- How an entry of a wiring is served. -/
def WiringEntry.summary (e : WiringEntry) : Json :=
  .object [("direct", .bool e.isDirect), ("reference", .ofText? e.reference?)]

/-- What is to be done for an entry of a wiring. -/
def Binding.toJson : Binding → Json
  | direct value => .object [("direct",
      .object [("some", .bool value.isSome), ("value", value.getD .null)])]
  | adapter id d => .object [("adapter_id", .text id), ("reference", .ofText? d.reference?),
      ("descriptor", d.toJson), ("display", .text (toString d))]

/-- A revision by its identity, its name and its category. -/
def Revision.summary (r : Revision) : Json :=
  .object [("id", .ofUuid r.id), ("name", .text r.displayName), ("category", .text r.category)]

/-- What a configuration allows, and how it stands to each of the given categories. -/
def ComponentConfig.summary (c : ComponentConfig) (categories : List String) : Json :=
  let allowed (direction : Direction) : Json :=
    .ofOption (.ofList .text) (c.allowedCategories direction)
  .object [("config", c.toJson),
    ("states", .ofList RevisionState.toJson (c.allowedStates false)),
    ("states_with_disabled", .ofList RevisionState.toJson (c.allowedStates true)),
    ("source_categories", allowed .load), ("sink_categories", allowed .send),
    ("categories", .ofList (fun name => .object [("source", .bool (c.allowsCategory .load name)),
      ("sink", .bool (c.allowsCategory .send name)), ("listed", .bool (c.listsCategory name))])
      categories)]

/-- The members that show artifacts: code by module, display names by component. -/
def Artifacts.members (a : Artifacts) : List (String × Json) :=
  [("code_modules", .object (a.codeModules.toList.map fun e => (toString e.1, .text e.2.code))),
    ("components",
      .object (a.components.toList.map fun e => (toString e.1, .text e.2.displayName)))]

/-! ## Executions -/

/-- A node with its identity, its interface and the components below it. -/
def Node.summary (n : Node) : Json :=
  .object [("id", .ofUuid n.id), ("name", .text n.name), ("interface", n.interface.toJson),
    ("descendant_count", .ofNat n.descendantCount),
    ("component_nodes", .ofList (fun (c : ComponentNode) =>
      .array [.ofUuid c.id, .text c.name, .ofUuid c.component]) n.componentNodes),
    ("node", n.toJson)]

/-- A result with the names of the measured steps only. -/
def ExecutionResult.summary (r : ExecutionResult) : Json :=
  .object [("result", .text r.status.name),
    ("output_results_by_output_name", .ofDict id r.outputs),
    ("output_types_by_output_name", .ofDict DataType.toJson r.outputTypes),
    ("error", .ofText? r.error), ("job_id", .ofUuid r.jobId),
    ("measured_steps", .ofList .text r.measuredSteps.keys)]

/-- An error of an execution with who is at fault. -/
def ExecutionError.summary (e : ExecutionError) : Json :=
  .object [("kind", .text e.kind.name), ("configuration", .bool e.kind.isConfiguration),
    ("internal", .bool e.kind.isInternal), ("display", .text e.message)]

/-! ## Traces -/

/-- A log event without the fields of some names. -/
def Event.summary (hidden : List String) (e : Event) : Json :=
  .object [("level", .text e.level.name), ("target", .text e.target),
    ("message", .text e.message), ("fields", .object ((e.fields.filter fun f =>
      !hidden.contains f.1).map fun f => (f.1, .text f.2)))]

/-- A request to a remote runtime; blanks around the values of its headers do not count. -/
def Request.toJson (r : Request) : Json :=
  .object [("method", .text r.method), ("path", .text (String.ofList r.url.path.toChars)),
    ("authorization", .ofText? (r.authorization.map Text.trim)),
    ("user_agent", .text (Text.trim r.userAgent)), ("content_type", .ofText? r.contentType),
    ("body", .ofOption id (r.body.bind Json.parse?))]

/-! ## The program -/

/-- What the program is to do. -/
def Command.toJson : Command → Json
  | info => .text "info"
  | structureBelow parent => .object [("structure", .ofText? parent)]
  | sources filter => .object [("sources", .ofText? filter)]
  | sinks filter => .object [("sinks", .ofText? filter)]
  | run revision wiring jobId plots => .object [("run", .object [("revision_id", .ofUuid revision),
      ("wiring", .ofText? wiring), ("job_id", .ofOption .ofUuid jobId),
      ("run_pure_plot_operators", .bool plots)])]

/-- The members that show the options of the program. -/
def Options.members (o : Options) : List (String × Json) :=
  [("catalog_dir", .text o.catalogDir), ("json_logs", .bool o.jsonLogs),
    ("runtime_token", .ofText? o.runtimeToken),
    ("max_concurrent_executions", .ofNat o.maxConcurrent), ("adapter", o.component.toJson),
    ("runtime", o.remote.toJson), ("remote", .bool o.remote.isRemote),
    ("command", o.command.toJson)]

end Dataflow
