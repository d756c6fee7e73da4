import Dataflow.Interface
import Dataflow.Timing.MeasuredSteps

set_option autoImplicit false

/-! # Execution results

An `ExecutionResult` reports how an execution ended: the values of the outputs that were not
sent to an adapter, or the failure of what was executed, word for word.
-/

namespace Dataflow

/-- Named values. -/
abbrev Values := Dict String Json

/-- How an execution ended. -/
inductive ExecutionStatus where
  | ok | failure
  deriving DecidableEq

/-- The name of a status. -/
def ExecutionStatus.name : ExecutionStatus → String
  | ok => "ok"
  | failure => "failure"

/-- Statuses are read by their exact name. -/
def ExecutionStatus.ofJson? (v : Json) : Option ExecutionStatus :=
  (v.word? .direct).bind fun s => [ok, failure].find? (·.name == s)

/-- The result of one execution. -/
structure ExecutionResult where
  status : ExecutionStatus
  /-- The values of the outputs that were not sent to an adapter. -/
  outputs : Values
  outputTypes : Dict String DataType
  /-- The failure of what was executed. -/
  error : Option String
  jobId : Uuid
  measuredSteps : MeasuredSteps

namespace ExecutionResult

/-- A success with outputs. -/
def success (jobId : Uuid) (outputs : Values) : ExecutionResult :=
  ⟨.ok, outputs, .empty, none, jobId, .empty⟩

/-- A failure, without outputs. -/
def failure (jobId : Uuid) (error : String) : ExecutionResult :=
  ⟨.failure, .empty, .empty, some error, jobId, .empty⟩

/-- Whether an execution succeeded. -/
def isOk (r : ExecutionResult) : Bool := r.status = .ok && r.error.isNone

/-- Takes the types of the outputs from an interface. -/
def withOutputTypes (r : ExecutionResult) (i : Interface) : ExecutionResult :=
  { r with outputTypes := i.outputTypes }

/-- Records the timing of a phase. -/
def record (r : ExecutionResult) (step : MeasuredStep) (timing : Timing) : ExecutionResult :=
  { r with measuredSteps := r.measuredSteps.insert step.name timing }

/-- The parts of a written result that reading looks at, in order. -/
def parts : List (String × Json.Outline) :=
  [("result", .whole), ("output_results_by_output_name", .whole),
   ("output_types_by_output_name", .whole), ("error", .whole), ("job_id", .whole),
   ("measured_steps", MeasuredSteps.outline)]

/-- Reads a result; only the job must be there. -/
def ofJson? (v : Json) : Option ExecutionResult := do
  let f ← v.fields? (parts.map (·.1))
  let status ← Json.optional f "result" .ok ExecutionStatus.ofJson?
  let outputs ← Json.optional f "output_results_by_output_name" .empty (Json.dict? Json.any?)
  let outputTypes ←
    Json.optional f "output_types_by_output_name" .empty (Json.dict? DataType.ofJson?)
  let error ← Json.optional f "error" none (Json.nullable? Json.text?)
  let jobId ← Json.required f "job_id" Json.uuid?
  let measuredSteps ← Json.optional f "measured_steps" .empty MeasuredSteps.ofJson?
  some { status, outputs, outputTypes, error, jobId, measuredSteps }

/-- Writes a result. -/
def toJson (r : ExecutionResult) : Json :=
  .object [("result", .text r.status.name),
    ("output_results_by_output_name", .ofDict id r.outputs),
    ("output_types_by_output_name", .ofDict DataType.toJson r.outputTypes),
    ("error", .ofText? r.error), ("job_id", .ofUuid r.jobId),
    ("measured_steps", MeasuredSteps.toJson r.measuredSteps)]

end ExecutionResult

end Dataflow
