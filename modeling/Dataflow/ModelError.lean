import Dataflow.Coercion
import Dataflow.Revision.Kind

set_option autoImplicit false

/-! # Errors of the data model

`Defect` lists what can be wrong with a revision or a wiring, `ModelError` what can go wrong
with the data model as a whole. Each is a cause; `message` words it.
-/

namespace Dataflow

/-- The identity of an operator inside a workflow. It is not the identity of the revision that
the operator instances: several operators may instance the same one. -/
abbrev OperatorId := Uuid

/-- What is wrong with a revision or a wiring. -/
inductive Defect where
  | duplicateInput (name : String)
  | duplicateOutput (name : String)
  | contentMismatch (revision : Uuid) (kind : RevisionKind)
  | notWrappable (revision : Uuid) (kind : RevisionKind)
  | unknownEndpoint (operator : OperatorId) (connector : String)
  | selfConnection (operator : OperatorId)
  | unmatchedInput (name : String)
  | unmatchedOutput (name : String)
  | wiredTwice (name : String)
  | noReference (name adapter : String)
  /-- A defect given in words. -/
  | described (text : String)
  deriving DecidableEq

/-- The wording of a defect. -/
def Defect.message : Defect → String
  | duplicateInput name => "duplicate input name '" ++ name ++ "'"
  | duplicateOutput name => "duplicate output name '" ++ name ++ "'"
  | contentMismatch revision kind =>
      "revision " ++ toString revision ++ " is a " ++ kind.name ++
        " but its content does not match"
  | notWrappable revision kind =>
      "only components can be wrapped, " ++ toString revision ++ " is a " ++ kind.name
  | unknownEndpoint operator connector =>
      "connection endpoint " ++ toString operator ++ "." ++ connector ++
        " references an unknown operator"
  | selfConnection operator => "operator " ++ toString operator ++ " cannot connect to itself"
  | unmatchedInput name => "input wiring '" ++ name ++ "' matches no input"
  | unmatchedOutput name => "output wiring '" ++ name ++ "' matches no output"
  | wiredTwice name => "'" ++ name ++ "' is wired more than once"
  | noReference name adapter =>
      "wiring '" ++ name ++ "' to adapter '" ++ adapter ++ "' has neither ref_id nor ref_key"
  | described text => text

/-- The two tables of type names. -/
inductive TypeTable where
  | dataType | externalType
  deriving DecidableEq

/-- What the entries of a table are called. -/
def TypeTable.noun : TypeTable → String
  | dataType => "data type"
  | externalType => "external type"

/-- What can go wrong with the data model. -/
inductive ModelError where
  /-- A text spells no type of a table. -/
  | unknownSpelling (table : TypeTable) (spelling : String)
  /-- A value has no representation in a type. -/
  | coercion (target : DataType) (fault : CoercionFault)
  /-- A revision, an interface or a wiring is not well formed. -/
  | invalid (defect : Defect)
  /-- No stored revision has this identifier. -/
  | notFound (revision : Uuid)
  /-- The store failed. -/
  | store (text : String)
  /-- A text could not be read or written. -/
  | serialization (text : String)
  deriving DecidableEq

namespace ModelError

/-- The wording of an error. -/
def message : ModelError → String
  | unknownSpelling table spelling => "unknown " ++ table.noun ++ " '" ++ spelling ++ "'"
  | coercion target fault => "cannot parse value as " ++ target.name ++ ": " ++ fault.message
  | invalid defect => "invalid revision: " ++ defect.message
  | notFound revision => "transformation revision " ++ toString revision ++ " not found"
  | store text => "revision store error: " ++ text
  | serialization text => "serialization error: " ++ text

/-- Whether an error reports a missing revision. -/
def isNotFound : ModelError → Bool
  | notFound _ => true
  | _ => false

end ModelError

/-- The data type that a text spells. -/
def DataType.ofSpelling (s : String) : Except ModelError DataType :=
  match ofSpelling? s with
  | some t => .ok t
  | none => .error (.unknownSpelling .dataType s)

/-- The external type that a text spells. -/
def ExternalType.ofSpelling (s : String) : Except ModelError ExternalType :=
  match ofSpelling? s with
  | some t => .ok t
  | none => .error (.unknownSpelling .externalType s)

/-- Brings a value into the representation of a data type, naming the type on failure. -/
def coerceAs (t : DataType) (v : Json) : Except ModelError Json :=
  (coerce t v).mapError (.coercion t)

end Dataflow
