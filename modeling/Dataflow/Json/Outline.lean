import Dataflow.Json.Basic

set_option autoImplicit false

/-! # Outlines

An `Outline` says which parts of a text are looked at when a record is read from it. Parts
outside the outline are not read: they have to be written like JSON, but numbers may lie
beyond the finite range there, escapes may name half a pair, and the nesting has no limit.
-/

namespace Dataflow.Json

/-- Which parts of a value are looked at. -/
inductive Outline where
  /-- Everything in it. -/
  | whole
  /-- The members with these names, or the items of an array in this order. -/
  | record (fields : List (String × Outline))
  /-- Every item of an array. -/
  | items (item : Outline)
  /-- The value of every member of an object. -/
  | values (value : Outline)

namespace Outline

/-- A record whose fields are looked at as a whole. -/
def ofNames (names : List String) : Outline := record (names.map (·, whole))

/-- The outline of the item of an array at a position. -/
def item : Outline → Nat → Outline
  | record fields, i => (fields.map (·.2)).getD i whole
  | items o, _ => o
  | _, _ => whole

/-- The outline of a member with a name, if it is looked at. -/
def member? : Outline → String → Option Outline
  | record fields, name => fields.lookup name
  | values o, _ => some o
  | _, _ => some whole

end Outline

end Dataflow.Json
