import Dataflow.Json.Record

set_option autoImplicit false

/-! # Members of requests

A request is a JSON object whose members are read one after another. A member that must be there
makes the request incomplete when it is not; one that is there and cannot be read is reported
by its name.
-/

namespace Dataflow

/-- What is wrong with a request. -/
inductive RequestFault where
  /-- A member is not there, or a word is none of those that count. -/
  | incomplete
  /-- A member cannot be read. -/
  | unreadable (member : String)
  deriving DecidableEq

/-- The fault as an answer. -/
def RequestFault.toJson : RequestFault → Json
  | incomplete => .object [("error", .text "bad_input")]
  | unreadable member => .object [("error", .text "decode"), ("field", .text member)]

namespace Json

/-- The member of an object with a name. -/
def member? (v : Json) (name : String) : Option Json :=
  match v with
  | .object members => members.lookup name
  | _ => none

variable {α : Type}

/-- What a member holds. -/
def readMember (name : String) (read : Json → Option α) (v : Json) : Except RequestFault α :=
  match read v with
  | some a => .ok a
  | none => .error (.unreadable name)

/-- What a member holds that must be there. -/
def memberOf (v : Json) (name : String) (read : Json → Option α) : Except RequestFault α :=
  match v.member? name with
  | some x => readMember name read x
  | none => .error .incomplete

/-- What a member holds, or a value to take when it is not there. -/
def memberOr (v : Json) (name : String) (default : α) (read : Json → Option α) :
    Except RequestFault α :=
  match v.member? name with
  | some x => readMember name read x
  | none => .ok default

end Json

end Dataflow
