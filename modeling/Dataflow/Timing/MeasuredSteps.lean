import Dataflow.Dict
import Dataflow.Json.Outline
import Dataflow.Timing.Duration

set_option autoImplicit false

/-! # Measured steps

A `Timing` is the beginning, the end and the length of one phase. `MeasuredSteps` holds the
timings of an execution by the name of the phase; a later timing of a phase replaces an
earlier one.
-/

namespace Dataflow

/-- The beginning, end and length of one phase. -/
structure Timing where
  first : Timestamp
  last : Timestamp
  duration : Duration
  deriving DecidableEq

namespace Timing

/-- The timing of a phase with a known beginning and end. -/
def between (first last : Timestamp) : Timing := ⟨first, last, .between first last⟩

/-- The names of the members of a written timing, in order. -/
def fieldNames : List String := ["start", "end", "duration"]

/-- Reads a timing; the length is taken as written. -/
def ofJson? (v : Json) : Option Timing := do
  let f ← v.fields? fieldNames
  let first ← Json.required f "start" Timestamp.ofJson?
  let last ← Json.required f "end" Timestamp.ofJson?
  let duration ← Json.required f "duration" Duration.ofJson?
  some ⟨first, last, duration⟩

/-- Writes a timing. -/
def toJson (t : Timing) : Json :=
  .object [("start", t.first.toJson), ("end", t.last.toJson), ("duration", t.duration.toJson)]

end Timing

/-- The phases of an execution that are measured. -/
inductive MeasuredStep where
  | prepareExecutionInput | runExecutionInput | internalFull | loadInputs | runGraph | sendOutputs
  deriving DecidableEq

/-- The name of a phase. -/
def MeasuredStep.name : MeasuredStep → String
  | prepareExecutionInput => "prepare_execution_input"
  | runExecutionInput => "run_execution_input"
  | internalFull => "internal_full"
  | loadInputs => "load_inputs"
  | runGraph => "run_graph"
  | sendOutputs => "send_outputs"

/-- Timings by the name of their phase. -/
abbrev MeasuredSteps := Dict String Timing

namespace MeasuredSteps

/-- Records a phase, replacing an earlier timing of it. -/
def record (m : MeasuredSteps) (step : String) (timing : Timing) : MeasuredSteps :=
  m.insert step timing

/-- Takes over every phase of `other`. -/
def merge (m other : MeasuredSteps) : MeasuredSteps :=
  other.toList.foldl (fun m e => m.insert e.1 e.2) m

/-- Reads measured steps. -/
def ofJson? (v : Json) : Option MeasuredSteps := v.dict? Timing.ofJson?

/-- The parts of written measured steps that reading looks at. -/
def outline : Json.Outline := .values (.ofNames Timing.fieldNames)

/-- Writes measured steps. -/
def toJson (m : MeasuredSteps) : Json := .ofDict Timing.toJson m

end MeasuredSteps

end Dataflow
