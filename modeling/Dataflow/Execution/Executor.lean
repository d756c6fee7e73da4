import Dataflow.Adapter.Dispatch
import Dataflow.Graph.Evaluate

set_option autoImplicit false

/-! # Running execution inputs

An `Executor` runs an execution input in phases: it checks the input, loads the wired inputs,
evaluates the tree, sends the wired outputs, and returns all other outputs. The first phase
that fails is the last one. A failed evaluation is not an error of the executor but a result
that says so.

An adapter may run further executions on the same executor. The program's own adapters run
none from within such an execution, so that executions nest one level deep.
-/

namespace Dataflow

/-- What executions are run with. -/
structure Executor where
  adapters : Adapters
  bodies : Bodies

/-- The executor without adapters and bodies. -/
def Executor.empty : Executor := ⟨.empty, .empty⟩

namespace Values

/-- The values of the given names, and the values without them. -/
def separate : List String → Values → Values × Values
  | [], rest => (.empty, rest)
  | name :: names, rest =>
      match rest.get? name with
      | none => separate names rest
      | some v =>
          let (taken, rest) := separate names (rest.erase name)
          (taken.insertNew name v, rest)

end Values

namespace ExecutionInput

/-- The entries of outputs that go to an adapter. -/
def sentEntries (x : ExecutionInput) : List WiringEntry := x.wiring.outputs.filter (!·.isDirect)

/-- The number of entries of outputs that are handed through. -/
def directCount (x : ExecutionInput) : Nat := (x.wiring.outputs.filter (·.isDirect)).length

end ExecutionInput

namespace Executor

/-- Evaluates the tree of an input on loaded values. -/
def evaluate (x : Executor) (input : ExecutionInput) (values : Values) :
    Run (Except NodeFailure Values) :=
  (Attempt.ofTraced (input.workflow.evaluate x.bodies input.configuration.runPurePlots values)).outcome

/-- Sends the wired ones of computed outputs, and returns the others. -/
def finish (x : Executor) (ctx : AdapterContext) (input : ExecutionInput) (outputs : Values) :
    Attempt ExecutionError ExecutionResult := do
  let (sent, kept) := Values.separate (input.sentEntries.map (·.name)) outputs
  let first ← Attempt.ofRun Run.now
  (x.adapters.send ctx input.sentEntries sent).mapError .adapterHandling
  let timing ← Attempt.ofRun (Run.timingSince first)
  Attempt.log (.graphFinished input.jobId input.directCount input.sentEntries.length)
  return (ExecutionResult.success input.jobId kept).record .sendOutputs timing

/-- Runs an input; `nested` runs the executions that adapters start. -/
def runWith (x : Executor) (nested : ExecutionInput → Attempt ExecutionError ExecutionResult)
    (input : ExecutionInput) : Attempt ExecutionError ExecutionResult := do
  Attempt.ofExcept (input.check.mapError .inputValidation)
  let ctx : AdapterContext := ⟨.ofInput input, nested⟩
  let first ← Attempt.ofRun Run.now
  let values ← (x.adapters.load ctx input.wiring.inputs).mapError .adapterHandling
  let loading ← Attempt.ofRun (Run.timingSince first)
  let first ← Attempt.ofRun Run.now
  let outcome ← Attempt.ofRun (x.evaluate input values)
  let running ← Attempt.ofRun (Run.timingSince first)
  let result ←
    match outcome with
    | .ok outputs => x.finish ctx input outputs
    | .error failure => do
        Attempt.log (.graphFailed input.jobId failure.message)
        pure (.failure input.jobId failure.message)
  return (result.record .runGraph running).record .loadInputs loading

/-- Runs an input; executions that adapters start may nest as deep as the fuel says. -/
def runNested (x : Executor) : Nat → ExecutionInput → Attempt ExecutionError ExecutionResult
  | 0, _ => throw (.internal .nesting)
  | depth + 1, input => x.runWith (x.runNested depth) input

/-- Runs an input. -/
def run (x : Executor) (input : ExecutionInput) : Attempt ExecutionError ExecutionResult :=
  x.runNested 2 input

end Executor

end Dataflow
