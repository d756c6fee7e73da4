import Dataflow.Binding
import Dataflow.Execution.Artifacts
import Dataflow.Journal.Run
import Dataflow.Text.Quoted

set_option autoImplicit false

/-! # Adapters

An adapter gives values to the inputs that are bound to it and takes those of outputs. It
sees the artifacts of the execution it works for, and may start further executions. Adapters
are found by their identifier.
-/

namespace Dataflow

/-- What an adapter may use of the execution it works for. -/
structure AdapterContext where
  /-- The code modules and components of the execution. -/
  artifacts : Artifacts
  /-- Runs a further execution. -/
  execute : ExecutionInput → Attempt ExecutionError ExecutionResult

/-- A source and sink of values. -/
structure Adapter where
  /-- What wirings call the adapter. -/
  id : String
  /-- Gives one value for each binding. -/
  load : AdapterContext → Bindings → Attempt AdapterError Values
  /-- Takes one value for each binding. -/
  send : AdapterContext → Bindings → Values → Attempt AdapterError Values

namespace Adapter

/-- The error of an adapter that is no sink. -/
def sendingUnsupported (id : String) : AdapterError :=
  .ofMessage ("adapter '" ++ id ++ "' does not support sending")

/-- An adapter that is a source only. -/
def source (id : String) (load : AdapterContext → Bindings → Attempt AdapterError Values) :
    Adapter :=
  ⟨id, load, fun _ _ _ => throw (sendingUnsupported id)⟩

end Adapter

/-- Adapters by their identifier. -/
structure Adapters where
  byId : Dict String Adapter

namespace Adapters

/-- No adapters. -/
def empty : Adapters := ⟨.empty⟩

/-- Adds an adapter, replacing the one with its identifier. -/
def register (a : Adapters) (adapter : Adapter) : Adapters :=
  ⟨a.byId.insert adapter.id adapter⟩

/-- The adapters of a list; of equal identifiers the last one counts. -/
def ofList (l : List Adapter) : Adapters := l.foldl register empty

/-- The adapter with an identifier. -/
def get? (a : Adapters) (id : String) : Option Adapter := a.byId.get? id

/-- The identifiers in order. -/
def ids (a : Adapters) : List String := a.byId.keys

/-- The number of adapters. -/
def size (a : Adapters) : Nat := a.byId.size

/-- Whether there are no adapters. -/
def isEmpty (a : Adapters) : Bool := a.byId.isEmpty

/-- Which adapters there are. -/
def summary (a : Adapters) : String :=
  "AdapterRegistry \x7b adapters: " ++ Text.quotedList a.ids ++ " \x7d"

end Adapters

end Dataflow
