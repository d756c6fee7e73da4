import Dataflow.Component.Regenerated
import Dataflow.Execution.Error

set_option autoImplicit false

/-! # Bindings

`WiringEntry.resolve` says what is to be done for an entry of a wiring: a directly provided
value is taken from the entry, and any other entry goes to its adapter. A `BindingFault` is
why a binding cannot be resolved, or cannot be made into the execution of a component.
-/

namespace Dataflow

/-- Why a binding cannot be served. -/
inductive BindingFault where
  | missingValue (name : String)
  | missingReference (name : String)
  | invalidReference (reference : String)
  | componentNotPresent (component : Uuid)
  | codeModuleNotPresent (codeModule : Uuid)
  | unsuitable (fault : Unsuitability)
  | unknownFilter (fault : UnknownFilter)
  /-- A component could not be made into an execution. -/
  | execution (error : ExecutionError)

/-- The wording of a fault. -/
def BindingFault.message : BindingFault → String
  | missingValue name => "direct provisioning of '" ++ name ++ "' has no 'value' filter"
  | missingReference name => "wiring of '" ++ name ++ "' has neither ref_id nor ref_key"
  | invalidReference reference => "reference '" ++ reference ++ "' is not a component id"
  | componentNotPresent component => "ComponentRevision " ++ toString component ++ " NOT PRESENT"
  | codeModuleNotPresent codeModule => "CODE MODULE " ++ toString codeModule ++ " NOT PRESENT"
  | unsuitable fault => fault.message
  | unknownFilter fault => fault.message
  | execution error => error.message

/-- What is to be done for an entry of a wiring. -/
inductive Binding where
  /-- A value is handed through; an output that is handed through has none yet. -/
  | direct (value : Option Json)
  /-- An adapter is asked. -/
  | adapter (id : String) (descriptor : Descriptor)

/-- What is to be done for an entry in a direction. -/
def WiringEntry.resolve (e : WiringEntry) (direction : Direction) : Except BindingFault Binding :=
  if e.isDirect then
    match direction with
    | .send => .ok (.direct none)
    | .load =>
        match e.descriptor.filters.get? valueFilter with
        | some value => .ok (.direct (some value))
        | none => .error (.missingValue e.name)
  else if e.reference?.isNone then .error (.missingReference e.name)
  else .ok (.adapter e.adapterId e.descriptor)

end Dataflow
