import Dataflow.Binding
import Dataflow.Execution.Artifacts
import Dataflow.Journal.Traced

set_option autoImplicit false

/-! # Components as executions

A component that a binding refers to is run as an execution of its own: it is regenerated,
wrapped into a workflow and flattened like any revision. Its inputs are all provided directly,
from the filters of the binding and, for a sink, from the value that is sent; its outputs are
not wired. Components that produce plots only are run like all others.
-/

namespace Dataflow

/-- A revision unfolded along a closure, with its log event. -/
def Revision.flattenLogged (root : Revision) (closure : Closure) :
    Traced ExecutionError Node := do
  let node ← (Traced.ofExcept (root.flatten closure)).mapError .integrity
  Traced.log (.revisionFlattened root.id node.descendantCount)
  return node

/-- An execution input assembled from what has been gathered, with its log event. -/
def Assembly.assembleLogged (a : Assembly) (jobId : Uuid) (workflow : Node) :
    Traced ExecutionError ExecutionInput := do
  let x ← (Traced.ofExcept (a.assemble jobId workflow)).mapError .inputValidation
  Traced.log (.inputAssembled x.rootId x.jobId x.codeModules.length x.components.length)
  return x

namespace ComponentConfig

/-- The component and the code module that a descriptor refers to, if the component may be used
in a direction. A disabled component may be, because it is asked for by identifier. -/
def referenced (c : ComponentConfig) (artifacts : Artifacts) (direction : Direction)
    (d : Descriptor) : Except BindingFault (ComponentRecord × CodeModule) := do
  let reference := d.reference?.getD ""
  match Uuid.ofString? reference with
  | none => throw (.invalidReference reference)
  | some id =>
      match artifacts.component? id with
      | none => throw (.componentNotPresent id)
      | some record =>
          match artifacts.codeModule? record.codeModule with
          | none => throw (.codeModuleNotPresent record.codeModule)
          | some codeModule =>
              (c.accept (.ofRecord record) direction true).mapError .unsuitable
              return (record, codeModule)

/-- The execution that serves a binding. Its operator and its job have the given identities. -/
def bindingExecution (c : ComponentConfig) (artifacts : Artifacts) (direction : Direction)
    (d : Descriptor) (sent : Option Json) (operatorId : OperatorId) (jobId : Uuid) :
    Traced BindingFault ExecutionInput := do
  let (record, codeModule) ← Traced.ofExcept (c.referenced artifacts direction d)
  let component := record.regenerate codeModule
  let workflow ←
    (Traced.ofExcept (component.wrap operatorId)).mapError (.execution ∘ .ofModel)
  let node ←
    (workflow.flattenLogged (.singleton operatorId component)).mapError .execution
  let sentValue := sent.map fun v => ⟨v, d.externalType⟩
  let wiring ← (Traced.ofExcept (record.bindingWiring d.filters sentValue)).mapError .unknownFilter
  let assembly : Assembly :=
    { Assembly.start workflow.id with
      artifacts := .ofLists [codeModule] [record]
      wiring := some wiring
      configuration :=
        some ⟨record.displayName ++ " as component " ++ direction.usage, true⟩ }
  (assembly.assembleLogged jobId node).mapError .execution

end ComponentConfig

end Dataflow
