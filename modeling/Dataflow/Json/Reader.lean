import Dataflow.Json.Number
import Dataflow.Json.Outline
import Dataflow.Uuid

set_option autoImplicit false

/-! # Reading JSON text

`Json.parse?` reads a text that holds one value between blanks. Members are kept in the
order and number in which they are written. A literal beyond the finite range is refused.
Arrays and objects nest at most 127 deep. An escape of a surrogate stands only as half of
a pair. `Json.parseOutline?` reads only the part of a value that an outline names.
-/

namespace Dataflow.Json

/-- The blanks between JSON tokens. -/
def isGap (c : Char) : Bool := c = ' ' || c = '\n' || c = '\r' || c = '\t'

/-- The text after the blanks it begins with. -/
def skipGap (cs : List Char) : List Char := cs.dropWhile isGap

/-- The text after a given beginning. -/
def dropStart? : List Char → List Char → Option (List Char)
  | [], cs => some cs
  | e :: es, c :: cs => if e = c then dropStart? es cs else none
  | _ :: _, [] => none

/-- The number that four hexadecimal digits write, and the text after them. -/
def fourHex? : List Char → Option (Nat × List Char)
  | a :: b :: c :: d :: cs => do
      let w ← Uuid.hexValue? a
      let x ← Uuid.hexValue? b
      let y ← Uuid.hexValue? c
      let z ← Uuid.hexValue? d
      some (((w * 16 + x) * 16 + y) * 16 + z, cs)
  | _ => none

/-- The character that `\u` and the following digits write, and the text after it. A high
surrogate must be followed by the escape of a low one, and a low one stands nowhere else. -/
def unicodeEscape? (cs : List Char) : Option (Char × List Char) := do
  let (high, cs) ← fourHex? cs
  if 0xd800 ≤ high ∧ high < 0xdc00 then
    let cs ← dropStart? ['\\', 'u'] cs
    let (low, cs) ← fourHex? cs
    if 0xdc00 ≤ low ∧ low < 0xe000 then
      some (Char.ofNat (0x10000 + (high - 0xd800) * 0x400 + (low - 0xdc00)), cs)
    else none
  else if 0xdc00 ≤ high ∧ high < 0xe000 then none
  else some (Char.ofNat high, cs)

/-- The character that a backslash and the following text write, and the text after it. -/
def escape? : List Char → Option (Char × List Char)
  | '"' :: cs => some ('"', cs)
  | '\\' :: cs => some ('\\', cs)
  | '/' :: cs => some ('/', cs)
  | 'b' :: cs => some ('\x08', cs)
  | 'f' :: cs => some ('\x0c', cs)
  | 'n' :: cs => some ('\n', cs)
  | 'r' :: cs => some ('\r', cs)
  | 't' :: cs => some ('\t', cs)
  | 'u' :: cs => unicodeEscape? cs
  | _ => none

/-- The characters up to the closing quote and the text after it. The fuel bounds the number
of characters; the length of the text is enough. -/
def quoted? : Nat → List Char → Option (List Char × List Char)
  | 0, _ => none
  | fuel + 1, cs =>
      match cs with
      | [] => none
      | '"' :: rest => some ([], rest)
      | '\\' :: rest => do
          let (c, rest) ← escape? rest
          let (more, rest) ← quoted? fuel rest
          some (c :: more, rest)
      | c :: rest =>
          if c.toNat < 0x20 then none
          else do
            let (more, rest) ← quoted? fuel rest
            some (c :: more, rest)

/-- A text after its opening quote, and what follows its closing quote. -/
def textFrom? (cs : List Char) : Option (String × List Char) :=
  (quoted? (cs.length + 1) cs).map fun (s, rest) => (String.ofList s, rest)

/-- The text after an escape that stands in a part not looked at. -/
def skipEscape? : List Char → Option (List Char)
  | 'u' :: cs => (fourHex? cs).map (·.2)
  | cs => (escape? cs).map (·.2)

/-- The text after the closing quote of a text that is not looked at. The fuel bounds the
number of characters. -/
def skipQuoted? : Nat → List Char → Option (List Char)
  | 0, _ => none
  | fuel + 1, cs =>
      match cs with
      | [] => none
      | '"' :: rest => some rest
      | '\\' :: rest => (skipEscape? rest).bind (skipQuoted? fuel)
      | c :: rest => if c.toNat < 0x20 then none else skipQuoted? fuel rest

mutual

/-- The text after a value that is not looked at. The fuel bounds the number of calls. -/
def skipValue? : Nat → List Char → Option (List Char)
  | 0, _ => none
  | fuel + 1, cs =>
      match skipGap cs with
      | [] => none
      | c :: rest =>
          if c = '"' then skipQuoted? (rest.length + 1) rest
          else if c = '[' then
            match skipGap rest with
            | ']' :: rest => some rest
            | rest => skipItems? fuel rest
          else if c = '\x7b' then
            match skipGap rest with
            | '\x7d' :: rest => some rest
            | rest => skipMembers? fuel rest
          else if c = 'n' then dropStart? "ull".toList rest
          else if c = 't' then dropStart? "rue".toList rest
          else if c = 'f' then dropStart? "alse".toList rest
          else (NumberLiteral.read? (c :: rest)).map (·.2)

/-- The text after the closing bracket of an array that is not looked at. -/
def skipItems? : Nat → List Char → Option (List Char)
  | 0, _ => none
  | fuel + 1, cs =>
      match skipValue? fuel cs with
      | none => none
      | some rest =>
          match skipGap rest with
          | ',' :: rest => skipItems? fuel rest
          | ']' :: rest => some rest
          | _ => none

/-- The text after the closing brace of an object that is not looked at. -/
def skipMembers? : Nat → List Char → Option (List Char)
  | 0, _ => none
  | fuel + 1, cs =>
      match skipGap cs with
      | '"' :: rest =>
          match skipQuoted? (rest.length + 1) rest with
          | none => none
          | some rest =>
              match skipGap rest with
              | ':' :: rest =>
                  match skipValue? fuel rest with
                  | none => none
                  | some rest =>
                      match skipGap rest with
                      | ',' :: rest => skipMembers? fuel rest
                      | '\x7d' :: rest => some rest
                      | _ => none
              | _ => none
      | _ => none

end

mutual

/-- The looked-at part of a value and the text after it. The fuel bounds the number of calls,
`room` is one more than the number of levels that may still be opened. -/
def value? : Nat → Nat → Outline → List Char → Option (Json × List Char)
  | 0, _, _, _ => none
  | fuel + 1, room, o, cs =>
      match skipGap cs with
      | [] => none
      | c :: rest =>
          if c = '"' then (textFrom? rest).map fun (s, rest) => (.text s, rest)
          else if c = '[' then
            if room ≤ 1 then none
            else match skipGap rest with
              | ']' :: rest => some (.array [], rest)
              | rest =>
                  (items? fuel (room - 1) o 0 rest).map fun (vs, rest) => (.array vs, rest)
          else if c = '\x7b' then
            if room ≤ 1 then none
            else match skipGap rest with
              | '\x7d' :: rest => some (.object [], rest)
              | rest =>
                  (members? fuel (room - 1) o rest).map fun (ms, rest) => (.object ms, rest)
          else if c = 'n' then (dropStart? "ull".toList rest).map fun rest => (.null, rest)
          else if c = 't' then (dropStart? "rue".toList rest).map fun rest => (.bool true, rest)
          else if c = 'f' then (dropStart? "alse".toList rest).map fun rest => (.bool false, rest)
          else do
            let (literal, rest) ← NumberLiteral.read? (c :: rest)
            let n ← literal.value?
            some (.number n, rest)

/-- The items of an array from a position on, up to its closing bracket. -/
def items? : Nat → Nat → Outline → Nat → List Char → Option (List Json × List Char)
  | 0, _, _, _, _ => none
  | fuel + 1, room, o, i, cs =>
      match value? fuel room (o.item i) cs with
      | none => none
      | some (v, rest) =>
          match skipGap rest with
          | ',' :: rest => (items? fuel room o (i + 1) rest).map fun (vs, rest) => (v :: vs, rest)
          | ']' :: rest => some ([v], rest)
          | _ => none

/-- The looked-at members of an object up to its closing brace. -/
def members? : Nat → Nat → Outline → List Char → Option (List (String × Json) × List Char)
  | 0, _, _, _ => none
  | fuel + 1, room, o, cs =>
      match skipGap cs with
      | '"' :: rest =>
          match textFrom? rest with
          | none => none
          | some (name, rest) =>
              match skipGap rest with
              | ':' :: rest =>
                  match memberValue? fuel room (o.member? name) name rest with
                  | none => none
                  | some (found, rest) =>
                      match skipGap rest with
                      | ',' :: rest =>
                          (members? fuel room o rest).map fun (ms, rest) => (found ++ ms, rest)
                      | '\x7d' :: rest => some (found, rest)
                      | _ => none
              | _ => none
      | _ => none

/-- The value of a member under its name; there is none if it is not looked at. -/
def memberValue? : Nat → Nat → Option Outline → String → List Char →
    Option (List (String × Json) × List Char)
  | 0, _, _, _, _ => none
  | fuel + 1, _, none, _, cs => (skipValue? fuel cs).map fun rest => ([], rest)
  | fuel + 1, room, some o, name, cs =>
      (value? fuel room o cs).map fun (v, rest) => ([(name, v)], rest)

end

/-- The number of levels of arrays and objects at which reading stops. -/
def nestingLimit : Nat := 128

/-- The looked-at part of the value that a text holds, its members as written. Three calls read
at least a character, so three times the length of the text is fuel enough. -/
def parseOutline? (o : Outline) (s : String) : Option Json :=
  let cs := s.toList
  match value? (3 * cs.length + 3) nestingLimit o cs with
  | some (v, rest) => if (skipGap rest).isEmpty then some v else none
  | none => none

/-- The value that a text holds, its members as written. -/
def parse? (s : String) : Option Json := parseOutline? .whole s

end Dataflow.Json
