import Dataflow.Direction
import Dataflow.Execution.Result

set_option autoImplicit false

/-! # Log events

An `Event` is something an operator of this program may want to read in its log. Each has a
level, a target that tells the part of the program apart, a message, and fields; the text of
a field is that of its value.
-/

namespace Dataflow

/-- How much an event matters. -/
inductive Level where
  | trace | debug | info | warn
  deriving DecidableEq

/-- The name of a level. -/
def Level.name : Level → String
  | trace => "TRACE"
  | debug => "DEBUG"
  | info => "INFO"
  | warn => "WARN"

/-- Something worth a line in a log. -/
inductive Event where
  | nestedRevisionsCollected (root : Uuid) (count : Nat)
  | revisionFlattened (root : Uuid) (nodes : Nat)
  | inputAssembled (root job : Uuid) (codeModules components : Nat)
  | componentsFetched (count : Nat)
  | plotSkipped (node : String)
  | componentRan (node : String)
  | workflowRan (node : String)
  | bindingFailed (direction : Direction) (binding error : String)
  | inputsLoaded (count : Nat)
  | outputsSent (count : Nat)
  | subExecutionStarted (direction : Direction) (root job : Uuid)
  | graphFailed (job : Uuid) (error : String)
  | graphFinished (job : Uuid) (directOutputs sentOutputs : Nat)
  | inputRan (job : Uuid) (remote : Bool)
  | executionStarted (revision job : Uuid)
  | executionFinished (revision job : Uuid) (status : ExecutionStatus)
  | clientRequested (url : String) (timeoutMs : Nat)
  | clientCreated (url : String)
  | inputPosted (url : String) (job : Uuid)
  | programStarted (version : String)
  | configured (catalogDir : String) (remote token adapterActive draftComponents : Bool)
  | catalogFileLoaded (path : String) (revisions : Nat)
  | catalogLoaded (revisions : Nat)

namespace Event

/-- How much an event matters. -/
def level : Event → Level
  | componentRan _ | workflowRan _ => .trace
  | bindingFailed .. | graphFailed .. => .warn
  | executionStarted .. | executionFinished .. | clientCreated _ | configured .. | catalogLoaded _ =>
      .info
  | _ => .debug

/-- The part of the program that an event comes from. -/
def target : Event → String
  | nestedRevisionsCollected .. => "cascade_core::store"
  | revisionFlattened .. => "cascade_runtime::flatten"
  | inputAssembled .. => "cascade_runtime::assemble"
  | plotSkipped _ | componentRan _ | workflowRan _ => "cascade_runtime::executor::graph"
  | bindingFailed .. | inputsLoaded _ | outputsSent _ => "cascade_runtime::dispatch"
  | subExecutionStarted .. => "cascade_runtime::adapter::component"
  | graphFailed .. | graphFinished .. => "cascade_runtime::executor"
  | componentsFetched _ | inputRan .. | executionStarted .. | executionFinished .. =>
      "cascade_runtime::engine"
  | clientRequested .. | clientCreated _ | inputPosted .. => "cascade_runtime::remote"
  | programStarted _ | configured .. => "cascade_cli::config"
  | catalogFileLoaded .. | catalogLoaded _ => "cascade_cli::catalog"

/-- What happened. -/
def message : Event → String
  | nestedRevisionsCollected .. => "Collected nested revisions"
  | revisionFlattened .. => "Flattened revision"
  | inputAssembled .. => "Assembled execution input"
  | componentsFetched _ => "Fetched component adapter components"
  | plotSkipped _ => "Skipped pure plot operator"
  | componentRan _ => "Ran component"
  | workflowRan _ => "Ran workflow"
  | bindingFailed .. => "Binding failed"
  | inputsLoaded _ => "Loaded wired inputs"
  | outputsSent _ => "Sent wired outputs"
  | subExecutionStarted .. => "Running component sub-execution"
  | graphFailed .. => "Execution failed"
  | graphFinished .. | executionFinished .. => "Execution finished"
  | inputRan .. => "Ran execution input"
  | executionStarted .. => "Execution started"
  | clientRequested .. => "Creating remote runtime client"
  | clientCreated _ => "Remote runtime client created"
  | inputPosted .. => "Posting execution input"
  | programStarted _ => "Build information"
  | configured .. => "Configuration"
  | catalogFileLoaded .. => "Loaded catalog file"
  | catalogLoaded _ => "Catalog loaded"

/-- The names and texts of the fields. -/
def fields : Event → List (String × String)
  | nestedRevisionsCollected root count =>
      [("root_id", toString root), ("nested_count", toString count)]
  | revisionFlattened root nodes => [("root_id", toString root), ("node_count", toString nodes)]
  | inputAssembled root job codeModules components =>
      [("root_id", toString root), ("job_id", toString job),
       ("code_modules", toString codeModules), ("components", toString components)]
  | componentsFetched count | inputsLoaded count | outputsSent count =>
      [("count", toString count)]
  | plotSkipped node | componentRan node | workflowRan node => [("node", node)]
  | bindingFailed direction binding error =>
      [("direction", direction.name), ("binding", binding), ("error", error)]
  | subExecutionStarted direction root job =>
      [("direction", direction.name), ("root_id", toString root), ("job_id", toString job)]
  | graphFailed job error => [("job_id", toString job), ("error", error)]
  | graphFinished job directOutputs sentOutputs =>
      [("job_id", toString job), ("direct_outputs", toString directOutputs),
       ("sent_outputs", toString sentOutputs)]
  | inputRan job remote => [("job_id", toString job), ("remote", toString remote)]
  | executionStarted revision job =>
      [("revision_id", toString revision), ("job_id", toString job)]
  | executionFinished revision job status =>
      [("revision_id", toString revision), ("job_id", toString job), ("status", status.name)]
  | clientRequested url timeoutMs => [("base_url", url), ("timeout_ms", toString timeoutMs)]
  | clientCreated url => [("base_url", url)]
  | inputPosted url job => [("url", url), ("job_id", toString job)]
  | programStarted version => [("version", version), ("features", "[]")]
  | configured catalogDir remote token adapterActive draftComponents =>
      [("catalog_dir", catalogDir), ("remote", toString remote), ("runtime_token", toString token),
       ("adapter_active", toString adapterActive),
       ("allow_draft_components", toString draftComponents)]
  | catalogFileLoaded path revisions => [("path", path), ("revisions", toString revisions)]
  | catalogLoaded revisions => [("revisions", toString revisions)]

end Event

end Dataflow
