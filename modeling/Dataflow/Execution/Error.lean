import Dataflow.Adapter.Error
import Dataflow.Component.Suitability
import Dataflow.Node.Flatten
import Dataflow.Url.Host

set_option autoImplicit false

/-! # Errors of executions

An `ExecutionError` is why an execution could not be prepared or carried out. A failure of
what was executed is none: it is part of the result. Each error is of one kind; some kinds
mean that the request was wrong, others that the program itself is at fault.
-/

namespace Dataflow

/-- What is wrong with the components that a wiring uses as sources and sinks. -/
inductive ComponentsFault where
  | inactive
  | notAnId (reference wiring : String)
  | notLoaded (component : Uuid) (wiring : String) (cause : ModelError)
  | unsuitable (fault : Unsuitability)
  /-- A fault given in words. -/
  | described (text : String)
  deriving DecidableEq

/-- The wording of a fault. -/
def ComponentsFault.message : ComponentsFault → String
  | inactive => "wiring uses the component adapter but it is not active"
  | notAnId reference wiring =>
      "'" ++ reference ++ "' wired to '" ++ wiring ++ "' is not a component id"
  | notLoaded component wiring cause =>
      "component " ++ toString component ++ " wired to '" ++ wiring ++ "' could not be loaded: " ++
        cause.message
  | unsuitable fault => fault.message
  | described text => text

/-- Why a remote runtime did not answer. -/
inductive ConnectionFault where
  | noUrl
  | invalidUrl (fault : UrlFault)
  /-- There are no credentials to send. -/
  | noToken (cause : String)
  /-- The request could not be made, or the answer has the status of an error. -/
  | http
  /-- Nothing answered. -/
  | unreachable
  /-- A fault given in words. -/
  | described (text : String)
  deriving DecidableEq

/-- The wording of a fault. -/
def ConnectionFault.message : ConnectionFault → String
  | noUrl => "no runtime url configured"
  | invalidUrl fault => "invalid runtime url: " ++ fault.message
  | noToken cause => "could not obtain access token: " ++ cause
  | http => "HTTP error"
  | unreachable => "connection to runtime failed"
  | described text => text

/-- The causes behind a fault, each in its own words. -/
def ConnectionFault.causes : ConnectionFault → List String
  | invalidUrl fault => [fault.message]
  | noToken cause => [cause]
  | _ => []

/-- What is wrong with the answer of a remote runtime. -/
inductive ResultFault where
  /-- The answer is not of the expected form. -/
  | invalidResponse
  | otherJob (answered asked : Uuid)
  /-- A fault given in words. -/
  | described (text : String)
  deriving DecidableEq

/-- The wording of a fault. -/
def ResultFault.message : ResultFault → String
  | invalidResponse => "invalid response"
  | otherJob answered asked =>
      "runtime answered for job " ++ toString answered ++ " instead of " ++ toString asked
  | described text => text

/-- What went wrong in the program itself. -/
inductive InternalFault where
  /-- Several components were found where one was looked up. -/
  | ambiguous (count : Nat) (direction : Direction) (component : Uuid)
  /-- Executions nest deeper than an adapter may nest them. -/
  | nesting
  /-- A fault given in words. -/
  | described (text : String)
  deriving DecidableEq

/-- The wording of a fault. -/
def InternalFault.message : InternalFault → String
  | ambiguous count direction component =>
      "found " ++ toString count ++ " component adapter " ++ direction.usage ++ "s with id " ++
        toString component
  | nesting => "executions nest too deep"
  | described text => text

/-- The kinds of execution errors. -/
inductive ErrorKind where
  | integrity | componentsNotFound | adapterHandling | inputValidation | notFound
  | runtimeConnection | resultValidation | store | serialization | internal
  deriving DecidableEq

namespace ErrorKind

/-- The name of a kind. -/
def name : ErrorKind → String
  | integrity => "integrity"
  | componentsNotFound => "components_not_found"
  | adapterHandling => "adapter_handling"
  | inputValidation => "input_validation"
  | notFound => "not_found"
  | runtimeConnection => "runtime_connection"
  | resultValidation => "result_validation"
  | store => "store"
  | serialization => "serialization"
  | internal => "internal"

/-- Whether the request is at fault, and nothing has been executed. -/
def isConfiguration : ErrorKind → Bool
  | componentsNotFound | inputValidation | notFound => true
  | _ => false

/-- Whether the program itself is at fault. -/
def isInternal : ErrorKind → Bool
  | integrity | internal => true
  | _ => false

end ErrorKind

/-- Why an execution could not be prepared or carried out. -/
inductive ExecutionError where
  | integrity (fault : IntegrityFault)
  | componentsNotFound (fault : ComponentsFault)
  | adapterHandling (error : AdapterError)
  | inputValidation (fault : InputFault)
  | notFound (revision : Uuid)
  | runtimeConnection (fault : ConnectionFault)
  | resultValidation (fault : ResultFault)
  | store (cause : ModelError)
  | serialization (text : String)
  | internal (fault : InternalFault)

namespace ExecutionError

/-- The kind of an error. -/
def kind : ExecutionError → ErrorKind
  | integrity _ => .integrity
  | componentsNotFound _ => .componentsNotFound
  | adapterHandling _ => .adapterHandling
  | inputValidation _ => .inputValidation
  | notFound _ => .notFound
  | runtimeConnection _ => .runtimeConnection
  | resultValidation _ => .resultValidation
  | store _ => .store
  | serialization _ => .serialization
  | internal _ => .internal

/-- The wording of an error. -/
def message : ExecutionError → String
  | integrity fault => "integrity error: " ++ fault.message
  | componentsNotFound fault =>
      "component adapter components not found or invalid: " ++ fault.message
  | adapterHandling error => error.message
  | inputValidation fault => "execution input validation failed: " ++ fault.message
  | notFound revision => "transformation revision " ++ toString revision ++ " not found"
  | runtimeConnection fault => "runtime connection error: " ++ fault.message
  | resultValidation fault => "execution result validation failed: " ++ fault.message
  | store cause => "revision store error: " ++ cause.message
  | serialization text => "serialization error: " ++ text
  | internal fault => "internal error: " ++ fault.message

/-- The causes behind an error, each in its own words. -/
def causes : ExecutionError → List String
  | adapterHandling error => error.cause.toList
  | runtimeConnection fault => fault.causes
  | store cause => [cause.message]
  | _ => []

/-- An error of the data model as one of an execution. -/
def ofModel : ModelError → ExecutionError
  | .notFound revision => .notFound revision
  | cause => .store cause

end ExecutionError

end Dataflow
