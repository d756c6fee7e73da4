import Dataflow.Binding
import Dataflow.Graph.Evaluate

set_option autoImplicit false

/-! # Reports of outcomes

An outcome is reported as a JSON object: a success under `ok`, and a failure by a code that
names its kind under `error`, with its wording under `message`. The failure of an execution
also says who is at fault, and that of an adapter which bindings failed.
-/

namespace Dataflow

/-- The report of a success. -/
def Json.success (v : Json) : Json := .object [("ok", v)]

/-- The report of a failure. -/
def Json.failure (code message : String) : Json :=
  .object [("error", .text code), ("message", .text message)]

/-- The report of an outcome. -/
def Json.report {ε α : Type} (onError : ε → Json) (onOk : α → Json) : Except ε α → Json
  | .ok a => Json.success (onOk a)
  | .error e => onError e

namespace ModelError

/-- The code of an error. -/
def code : ModelError → String
  | unknownSpelling .. => "unknown_alias"
  | coercion .. => "value_parse"
  | invalid _ => "invalid_revision"
  | notFound _ => "revision_not_found"
  | store _ => "store"
  | serialization _ => "serialization"

/-- The report of an error. -/
def toJson (e : ModelError) : Json := .failure e.code e.message

end ModelError

namespace Unsuitability

/-- The code of a broken rule. -/
def code : Unsuitability → String
  | notAComponent _ => "not_a_component"
  | stateNotAllowed .. => "state_not_allowed"
  | categoryNotAllowed .. => "category_not_allowed"
  | sourceMultipleOutputs _ => "source_multiple_outputs"
  | sourceNoOutput _ => "source_no_output"
  | sinkMissingData _ => "sink_missing_data"
  | sinkHasOutputs _ => "sink_has_outputs"

/-- The report of a broken rule. -/
def toJson (u : Unsuitability) : Json := .failure u.code u.message

end Unsuitability

/-- The report of a filter that is no input. -/
def UnknownFilter.toJson (u : UnknownFilter) : Json := .failure "unknown_filter" u.message

namespace BindingFault

/-- The code of a fault. -/
def code : BindingFault → String
  | missingValue _ => "missing_value"
  | missingReference _ => "missing_reference"
  | invalidReference _ => "invalid_reference"
  | componentNotPresent _ => "component_not_present"
  | codeModuleNotPresent _ => "code_module_not_present"
  | unsuitable fault => fault.code
  | unknownFilter _ => "unknown_filter"
  | execution error => "pipeline:" ++ error.kind.name

/-- The report of a fault. -/
def toJson (f : BindingFault) : Json := .failure f.code f.message

end BindingFault

namespace NodeFailure

/-- The code of a failure. -/
def code : NodeFailure → String
  | missingInput .. => "missing_input"
  | invalidInput .. => "invalid_input"
  | missingBody .. => "missing_body"
  | body .. => "body"
  | missingOutput .. => "missing_output"
  | cycle _ => "cycle"
  | unknownOperator .. => "unknown_operator"

/-- The report of a failure. -/
def toJson (f : NodeFailure) : Json := .failure f.code f.message

end NodeFailure

/-- The report of a failed binding. -/
def BindingFailure.toJson (f : BindingFailure) : Json :=
  .object [("message", .text f.message), ("descriptor", .ofOption Descriptor.toJson f.descriptor)]

namespace AdapterError

/-- The failed bindings by name. -/
def bindingsJson (e : AdapterError) : Json := .ofDict BindingFailure.toJson e.failures

/-- The report of an error. -/
def toJson (e : AdapterError) : Json :=
  .object [("error", .text "adapter"), ("message", .text e.message), ("bindings", e.bindingsJson)]

end AdapterError

namespace ExecutionError

/-- The failed bindings of an error, if it is one of adapters. -/
def bindings? : ExecutionError → Option Json
  | adapterHandling error => some error.bindingsJson
  | _ => none

/-- The report of an error. -/
def toJson (e : ExecutionError) : Json :=
  .object ([("error", .text e.kind.name), ("message", .text e.message),
    ("configuration", .bool e.kind.isConfiguration), ("internal", .bool e.kind.isInternal)] ++
    (e.bindings?.map fun b => ("bindings", b)).toList)

end ExecutionError

end Dataflow
