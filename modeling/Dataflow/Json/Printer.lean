import Dataflow.Json.Basic
import Dataflow.Uuid

set_option autoImplicit false

/-! # JSON text

`render` writes a value without blanks, the members of an object in the order they are
held. In a text the quote, the backslash and the characters below U+0020 are escaped, the
common ones by a letter and the others by four lowercase hexadecimal digits; every other
character stands for itself. `renderIndented` writes one item or member a line, two blanks
deeper than the line that opened it.
-/

namespace Dataflow.Json

/-- The written form of one character of a text. -/
def escapeChar (c : Char) : List Char :=
  if c = '"' then ['\\', '"']
  else if c = '\\' then ['\\', '\\']
  else if c = '\x08' then ['\\', 'b']
  else if c = '\x0c' then ['\\', 'f']
  else if c = '\n' then ['\\', 'n']
  else if c = '\r' then ['\\', 'r']
  else if c = '\t' then ['\\', 't']
  else if c.toNat < 0x20 then '\\' :: 'u' :: Uuid.hexDigits 4 c.toNat
  else [c]

/-- A text in quotes. -/
def quote (s : String) : String := String.ofList ('"' :: s.toList.flatMap escapeChar ++ ['"'])

mutual

/-- A value without blanks. -/
def render : Json → String
  | .null => "null"
  | .bool b => if b then "true" else "false"
  | .number n => toString n
  | .text s => quote s
  | .array items => "[" ++ ",".intercalate (renderItems items) ++ "]"
  | .object members => "\x7b" ++ ",".intercalate (renderMembers members) ++ "\x7d"

/-- The items of an array. -/
def renderItems : List Json → List String
  | [] => []
  | v :: vs => render v :: renderItems vs

/-- The members of an object, each with its name. -/
def renderMembers : List (String × Json) → List String
  | [] => []
  | (name, v) :: ms => (quote name ++ ":" ++ render v) :: renderMembers ms

end

/-- Lines between an opening and a closing mark, or the two marks alone. -/
def enclose (opening closing indent : String) (lines : List String) : String :=
  if lines.isEmpty then opening ++ closing
  else opening ++ "\n" ++ ",\n".intercalate lines ++ "\n" ++ indent ++ closing

mutual

/-- A value with one item or member a line, below a line with the given indentation. -/
def renderBelow (indent : String) : Json → String
  | .null => "null"
  | .bool b => if b then "true" else "false"
  | .number n => toString n
  | .text s => quote s
  | .array items => enclose "[" "]" indent (itemLines (indent ++ "  ") items)
  | .object members => enclose "\x7b" "\x7d" indent (memberLines (indent ++ "  ") members)

/-- The lines of the items of an array. -/
def itemLines (indent : String) : List Json → List String
  | [] => []
  | v :: vs => (indent ++ renderBelow indent v) :: itemLines indent vs

/-- The lines of the members of an object. -/
def memberLines (indent : String) : List (String × Json) → List String
  | [] => []
  | (name, v) :: ms =>
      (indent ++ quote name ++ ": " ++ renderBelow indent v) :: memberLines indent ms

end

/-- A value with one item or member a line. -/
def renderIndented (v : Json) : String := renderBelow "" v

end Dataflow.Json
