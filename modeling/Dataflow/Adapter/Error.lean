import Dataflow.Direction
import Dataflow.Wiring

set_option autoImplicit false

/-! # Errors of adapters

An adapter fails with a message and possibly a cause. When several bindings are served
together, the failures of all that failed are gathered in one error, by the name of the
binding, each with the descriptor that was handed to the adapter.
-/

namespace Dataflow

/-- The failure of one binding. -/
structure BindingFailure where
  message : String
  /-- The binding as it was handed on, if it is known. -/
  descriptor : Option Descriptor

/-- The failure of an adapter or of several bindings together. -/
structure AdapterError where
  summary : String
  /-- The bindings that failed. -/
  failures : Dict String BindingFailure
  /-- The cause behind the error. -/
  cause : Option String

namespace AdapterError

/-- An error with a message. -/
def ofMessage (message : String) : AdapterError := ⟨message, .empty, none⟩

/-- The error that gathers the failed bindings of a direction. -/
def gathered (direction : Direction) (failures : Dict String BindingFailure) : AdapterError :=
  match direction with
  | .load => ⟨"errors when loading wired inputs", failures, none⟩
  | .send => ⟨"errors when sending wired outputs", failures, none⟩

/-- The error with a cause. -/
def withCause (e : AdapterError) (cause : String) : AdapterError := { e with cause := some cause }

/-- A line of a list of bindings. -/
def line (name text : String) : String := "\n  " ++ name ++ ": " ++ text

/-- How a list of bindings shows a descriptor. -/
def descriptorText : Option Descriptor → String
  | some d => toString d
  | none => "<unresolved>"

/-- The failed bindings with their messages, and then with their descriptors. -/
def failureLines (failures : Dict String BindingFailure) : String :=
  if failures.isEmpty then ""
  else
    ":" ++ String.join (failures.toList.map fun f => line f.1 f.2.message) ++
      "\nbinding descriptors by name where:" ++
      String.join (failures.toList.map fun f => line f.1 (descriptorText f.2.descriptor))

/-- The wording of an error: its summary, its cause and its failed bindings. -/
def message (e : AdapterError) : String :=
  "adapter handling error: " ++ e.summary ++
    (match e.cause with
     | some cause => ": " ++ cause
     | none => "") ++
    failureLines e.failures

end AdapterError

end Dataflow
