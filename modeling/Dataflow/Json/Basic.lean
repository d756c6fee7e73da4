import Dataflow.Binary64.Printer
import Dataflow.Dict

set_option autoImplicit false

/-! # JSON values

A `Json` is a JSON text as data. A number is either an integer that fits a signed or an
unsigned word of 64 bits, kept exactly, or a finite binary floating-point number; `1` and
`1.0` differ. An object is the list of its members as written, repeated names included;
`normalize` brings the members of every object into name order and keeps the last of
equal names, so that two objects with the same look-ups become one value.
-/

namespace Dataflow

/-- An integer that fits a signed or an unsigned word of 64 bits. -/
structure WordInt where
  value : Int
  fits : -2 ^ 63 ≤ value ∧ value < 2 ^ 64
  deriving DecidableEq

/-- The integer as one that fits a word, if it does. -/
def WordInt.ofInt? (n : Int) : Option WordInt :=
  if h : -2 ^ 63 ≤ n ∧ n < 2 ^ 64 then some ⟨n, h⟩ else none

/-- A JSON number. -/
inductive JsonNumber where
  | integer (n : WordInt)
  | float (x : Binary64)
  deriving DecidableEq

/-- A JSON value; an object holds its members as written. -/
inductive Json where
  | null
  | bool (b : Bool)
  | number (n : JsonNumber)
  | text (s : String)
  | array (items : List Json)
  | object (members : List (String × Json))

namespace JsonNumber

/-- The integer if it is one that a signed word of 64 bits holds. -/
def signed? : JsonNumber → Option Int
  | integer n => if n.value < 2 ^ 63 then some n.value else none
  | float _ => none

/-- The nearest floating-point number. -/
def toBinary64? : JsonNumber → Option Binary64
  | integer n => Binary64.ofInt? n.value
  | float x => some x

/-- The text of a number: the digits of an integer, the shortest text of a float. -/
protected def toString : JsonNumber → String
  | integer n => toString n.value
  | float x => toString x

instance : ToString JsonNumber := ⟨JsonNumber.toString⟩

end JsonNumber

namespace Json

instance : Inhabited Json := ⟨null⟩

/-- The integer as a JSON value; one that fits no word becomes the nearest float, and one
beyond every float becomes `null`. -/
def ofInt (n : Int) : Json :=
  match WordInt.ofInt? n with
  | some w => .number (.integer w)
  | none =>
      match Binary64.ofInt? n with
      | some x => .number (.float x)
      | none => .null

/-- A natural number as a JSON value. -/
def ofNat (n : Nat) : Json := ofInt n

/-- The value or `null`. -/
def ofOption {α : Type} (f : α → Json) : Option α → Json
  | some a => f a
  | none => .null

/-- A text or `null`. -/
def ofText? : Option String → Json := ofOption .text

/-- A list as an array. -/
def ofList {α : Type} (f : α → Json) (l : List α) : Json := .array (l.map f)

/-- A map with text keys as an object in key order. -/
def ofDict {α : Type} (f : α → Json) (d : Dict String α) : Json :=
  .object (d.toList.map fun e => (e.1, f e.2))

/-- The six kinds of JSON values. -/
inductive Kind where
  | null | boolean | number | string | array | object
  deriving DecidableEq

/-- The kind of a value. -/
def kind : Json → Kind
  | .null => .null
  | .bool _ => .boolean
  | .number _ => .number
  | .text _ => .string
  | .array _ => .array
  | .object _ => .object

/-- The name of a kind. -/
def Kind.name : Kind → String
  | null => "null"
  | boolean => "boolean"
  | number => "number"
  | string => "string"
  | array => "array"
  | object => "object"

mutual

/-- The members of every object in name order, the last of equal names only. -/
def normalize : Json → Json
  | .array items => .array (normalizeItems items)
  | .object members => .object (normalizeMembers members).toList
  | v => v

/-- `normalize` for each item. -/
def normalizeItems : List Json → List Json
  | [] => []
  | v :: vs => normalize v :: normalizeItems vs

/-- The members as a map of normalized values; of equal names the last one counts. -/
def normalizeMembers : List (String × Json) → Dict String Json
  | [] => .empty
  | (name, v) :: ms =>
      let rest := normalizeMembers ms
      if rest.contains name then rest else rest.insert name (normalize v)

end

mutual

/-- The value with every text in it replaced, the names of members included. -/
def mapTexts (f : String → String) : Json → Json
  | .text s => .text (f s)
  | .array items => .array (mapItemTexts f items)
  | .object members => .object (mapMemberTexts f members)
  | v => v

/-- `mapTexts` for each item. -/
def mapItemTexts (f : String → String) : List Json → List Json
  | [] => []
  | v :: vs => mapTexts f v :: mapItemTexts f vs

/-- `mapTexts` for each member. -/
def mapMemberTexts (f : String → String) : List (String × Json) → List (String × Json)
  | [] => []
  | (name, v) :: ms => (f name, mapTexts f v) :: mapMemberTexts f ms

end

mutual

/-- How deep arrays and objects nest in a value. -/
def depth : Json → Nat
  | .array items => depthItems items + 1
  | .object members => depthMembers members + 1
  | _ => 0

/-- The greatest depth among items. -/
def depthItems : List Json → Nat
  | [] => 0
  | v :: vs => max (depth v) (depthItems vs)

/-- The greatest depth among members. -/
def depthMembers : List (String × Json) → Nat
  | [] => 0
  | (_, v) :: ms => max (depth v) (depthMembers ms)

end

end Json

end Dataflow
