import Dataflow.Adapter.Dispatch
import Dataflow.Component.Execution

set_option autoImplicit false

/-! # The adapter of components

This adapter runs a component for each binding. A source is run with the filters of the
binding as its inputs, and its only output is the value; a sink is run with the value that is
sent as its input `data`.
-/

namespace Dataflow

namespace ComponentConfig

/-- Fails a binding with a message. -/
def failBinding {α : Type} (d : Descriptor) (message : String) : Attempt BindingFailure α :=
  throw ⟨message, some d⟩

/-- The value of a binding whose execution has ended. -/
def bindingValue (direction : Direction) (d : Descriptor) (x : ExecutionInput)
    (result : ExecutionResult) : Attempt BindingFailure Json :=
  match result.error with
  | some error => failBinding d error
  | none =>
      match direction, x.workflow.interface.outputs with
      | .load, o :: _ =>
          match result.outputs.get? o.name with
          | some v => return v
          | none =>
              failBinding d ("component source produced no output '" ++ o.name ++ "'")
      | _, _ => return .null

/-- Runs the component of a binding: the value of a source, and `null` for a sink. -/
def runBinding (c : ComponentConfig) (ctx : AdapterContext) (direction : Direction)
    (d : Descriptor) (sent : Option Json) : Attempt BindingFailure Json := do
  let operatorId ← Attempt.ofRun Run.freshOperatorId
  let jobId ← Attempt.ofRun Run.freshId
  let execution := c.bindingExecution ctx.artifacts direction d sent operatorId jobId
  let x ← (Attempt.ofTraced execution).mapError fun fault => ⟨fault.message, some d⟩
  Attempt.log (.subExecutionStarted direction x.rootId x.jobId)
  let result ← (ctx.execute x).mapError fun error => ⟨error.message, some d⟩
  bindingValue direction d x result

/-- Runs the component of every binding for its value. -/
def loadBindings (c : ComponentConfig) (ctx : AdapterContext) (bindings : Bindings) :
    Attempt AdapterError Values :=
  settle .load (bindings.toList.map fun b => (b.1, c.runBinding ctx .load b.2 none))

/-- Runs the component of one binding on the value that is sent, if there is one. -/
def sendBinding (c : ComponentConfig) (ctx : AdapterContext) (values : Values) (name : String)
    (d : Descriptor) : Attempt BindingFailure Json :=
  match values.get? name with
  | some v => c.runBinding ctx .send d (some v)
  | none => failBinding d ("no value to send for '" ++ name ++ "'")

/-- Runs the component of every binding on the value that is sent. -/
def sendBindings (c : ComponentConfig) (ctx : AdapterContext) (bindings : Bindings)
    (values : Values) : Attempt AdapterError Values := do
  let _ ← settle .send (bindings.toList.map fun b => (b.1, c.sendBinding ctx values b.1 b.2))
  return .empty

/-- The adapter that runs components under given restrictions. -/
def adapter (c : ComponentConfig) : Adapter :=
  ⟨componentAdapterId, c.loadBindings, c.sendBindings⟩

end ComponentConfig

end Dataflow
