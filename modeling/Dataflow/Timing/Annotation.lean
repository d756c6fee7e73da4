import Dataflow.Timing.Scan

set_option autoImplicit false

/-! # Annotations of a point in time

Behind a point in time there may be annotations in square brackets: first the time zone it
was meant in, then properties such as the calendar. They do not change the point in time and
are only checked for their form. An exclamation mark at the beginning of an annotation asks
readers to refuse what they do not know; no property is known.
-/

namespace Dataflow

namespace Annotation

open Scan

/-- Whether a text is one part of the name of a time zone. -/
def isZoneNamePart : List Char → Bool
  | c :: cs =>
      (c.isAlpha || c == '_' || c == '.') &&
        cs.all fun d => d.isAlphanum || ['_', '.', '+', '-'].contains d
  | [] => false

/-- Whether a text is an offset in hours and optional minutes. -/
def isZoneOffset (cs : List Char) : Bool :=
  let rest? := do
    let rest ← oneOf? ['+', '-'] cs
    let (_, rest) ← below? 26 rest
    match nextPart? (hasColons rest) rest with
    | none => some rest
    | some rest => (below? 60 rest).map (·.2)
  rest? = some []

/-- Whether a text names a time zone: by its offset, or by parts with slashes between them. -/
def isZone (cs : List Char) : Bool :=
  isZoneOffset cs || (cs.splitOn '/').all isZoneNamePart

/-- Whether a text is the key of a property. -/
def isKey : List Char → Bool
  | c :: cs =>
      (c.isLower || c == '_') &&
        cs.all fun d => d.isLower || d.isDigit || d == '_' || d == '-'
  | [] => false

/-- Whether a text is a key, an equals sign, and values with hyphens between them. -/
def isProperty (cs : List Char) : Bool :=
  match cs.splitOn '=' with
  | [key, values] =>
      isKey key && (values.splitOn '-').all fun v => !v.isEmpty && v.all Char.isAlphanum
  | _ => false

/-- Whether the text of an annotation, with its opening bracket, can be one behind the time
zone: a property that need not be known. -/
def isLater : List Char → Bool
  | '[' :: cs => isProperty cs
  | _ => false

/-- Whether the text of an annotation, with its opening bracket, can be the first one: a time
zone with or without an exclamation mark, or a property that need not be known. -/
def isFirst : List Char → Bool
  | '[' :: '!' :: cs => isZone cs
  | '[' :: cs => isZone cs || isProperty cs
  | _ => false

/-- Whether a text is a sequence of annotations. Each ends with a closing bracket, so that
nothing is left after the last of these. -/
def areWellFormed (cs : List Char) : Bool :=
  let pieces := cs.splitOn ']'
  pieces.getLast? == some [] &&
    match pieces.dropLast with
    | [] => true
    | first :: more => isFirst first && more.all isLater

end Annotation

end Dataflow
