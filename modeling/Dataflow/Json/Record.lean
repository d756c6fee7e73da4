import Dataflow.Json.Basic
import Dataflow.Uuid

set_option autoImplicit false

/-! # Records in JSON

A record is written as an object with a member for each field, or as an array of the field
values in their order. `fields?` gives both the same view, a look-up by field name.
Members that are no field are ignored, a field written twice is refused, and so is an array
longer than the record. The small readers below turn single values into data; each is
partial and says nothing about why a value does not fit.

What a value with a tag holds is known only once the tag is found. Everything inside such a
value has been gathered before it is read, and so has a value that is tried as one thing
after another. `Form` tells readers of words and tags which of the two they see.
-/

namespace Dataflow.Json

/-- How a value comes to its reader. -/
inductive Form where
  /-- As it is written. -/
  | direct
  /-- From within a value that was gathered before it could be read. -/
  | gathered
  deriving DecidableEq

/-- The look-up of the fields of a record. -/
abbrev Fields := String → Option Json

/-- The number of members with a name. -/
def occurrences (name : String) (members : List (String × Json)) : Nat :=
  members.countP (fun m => m.1 == name)

/-- The fields of a record with the given field names, in their order. -/
def fields? (names : List String) : Json → Option Fields
  | .object members =>
      if names.all (fun name => occurrences name members ≤ 1) then
        some (fun name => if names.contains name then members.lookup name else none)
      else none
  | .array items =>
      if items.length ≤ names.length then some (fun name => (names.zip items).lookup name)
      else none
  | _ => none

/-- The word of a tag: written out or, in a gathered value, given by its position among the
words that count. -/
def tag? (form : Form) (words : List String) : Json → Option String
  | .text word => if word ∈ words then some word else none
  | .number (.integer n) =>
      if form = .gathered ∧ 0 ≤ n.value then words[n.value.toNat]? else none
  | _ => none

/-- A value split by the tag that says what it is: the word of the tag and the value without
it. An array begins with the tag. -/
def tagged? (form : Form) (tag : String) (words : List String) : Json → Option (String × Json)
  | .object members =>
      if occurrences tag members = 1 then do
        let word ← (members.lookup tag).bind (tag? form words)
        some (word, .object (members.filter (fun m => m.1 != tag)))
      else none
  | .array (first :: items) => (tag? form words first).map (·, .array items)
  | _ => none

/-- A field that must be there. -/
def required {α : Type} (f : Fields) (name : String) (read : Json → Option α) : Option α :=
  (f name).bind read

/-- A field with a value to take when it is absent. -/
def optional {α : Type} (f : Fields) (name : String) (default : α) (read : Json → Option α) :
    Option α :=
  match f name with
  | some v => read v
  | none => some default

/-- A value or `null`. -/
def nullable? {α : Type} (read : Json → Option α) : Json → Option (Option α)
  | .null => some none
  | v => (read v).map some

/-- A text. -/
def text? : Json → Option String
  | .text s => some s
  | _ => none

/-- A truth value. -/
def bool? : Json → Option Bool
  | .bool b => some b
  | _ => none

/-- An integer that fits a signed word of 64 bits. -/
def signed? : Json → Option Int
  | .number n => n.signed?
  | _ => none

/-- A natural number that fits an unsigned word of 64 bits. -/
def word64? : Json → Option Nat
  | .number (.integer n) => if 0 ≤ n.value then some n.value.toNat else none
  | _ => none

/-- One of several words: a text, or an object that gives the word the value `null` or, in a
gathered value, that of an object without members. -/
def word? (form : Form) : Json → Option String
  | .text s => some s
  | .object [(s, .null)] => some s
  | .object [(s, .object [])] => if form = .gathered then some s else none
  | _ => none

/-- The items of an array. -/
def array? : Json → Option (List Json)
  | .array items => some items
  | _ => none

/-- The members of an object. -/
def object? : Json → Option (List (String × Json))
  | .object members => some members
  | _ => none

/-- An array of two items, of which the first is a text. -/
def pair? {α : Type} (read : Json → Option α) : Json → Option (String × α)
  | .array [.text a, b] => (read b).map (a, ·)
  | _ => none

/-- An array with every item read. -/
def list? {α : Type} (read : Json → Option α) : Json → Option (List α)
  | .array items => items.mapM read
  | _ => none

/-- An object with every value read; of equal names the last one counts. -/
def dict? {α : Type} (read : Json → Option α) : Json → Option (Dict String α)
  | .object members => (members.mapM (fun m => (read m.2).map (m.1, ·))).map Dict.ofList
  | _ => none

/-- Any value, brought into its normal form. -/
def any? (v : Json) : Option Json := some v.normalize

/-- An identifier. -/
def uuid? : Json → Option Uuid
  | .text s => Uuid.ofString? s
  | _ => none

/-- An identifier as a JSON value. -/
def ofUuid (u : Uuid) : Json := .text (toString u)

end Dataflow.Json
