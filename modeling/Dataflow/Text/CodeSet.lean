import Dataflow.Uuid

set_option autoImplicit false

/-! # Sets of code points

A `CodeSet` is a list of ranges. The properties of characters that the standard of their
coding gives by tables are written as texts here: hexadecimal numbers and pairs of them
joined by a hyphen, the first and last code point of a range, with blanks or line breaks
between.
-/

namespace Dataflow.Text

/-- The entries of a table: what stands between blanks and line breaks. -/
def entries (cs : List Char) : List (List Char) :=
  ((cs.splitOn '\n').flatMap (·.splitOn ' ')).filter (· ≠ [])

/-- The number that hexadecimal digits write; other characters count as zeros. -/
def hexNumber (cs : List Char) : Nat :=
  cs.foldl (fun n c => 16 * n + (Uuid.hexValue? c).getD 0) 0

/-- A range of code points; both ends belong to it. -/
structure CodeRange where
  first : Nat
  last : Nat

/-- The range that an entry writes. -/
def CodeRange.ofChars (cs : List Char) : CodeRange :=
  match cs.splitOn '-' with
  | [a, b] => ⟨hexNumber a, hexNumber b⟩
  | _ => ⟨hexNumber cs, hexNumber cs⟩

/-- Whether a code point lies in a range. -/
def CodeRange.holds (r : CodeRange) (n : Nat) : Bool := r.first ≤ n && n ≤ r.last

/-- A set of code points. -/
abbrev CodeSet := List CodeRange

namespace CodeSet

/-- The set that a table writes. -/
def ofChars (cs : List Char) : CodeSet := (entries cs).map CodeRange.ofChars

/-- The set that a text writes. -/
def ofText (s : String) : CodeSet := ofChars s.toList

/-- Whether a character is in a set. -/
def contains (s : CodeSet) (c : Char) : Bool := s.any (·.holds c.toNat)

end CodeSet

end Dataflow.Text
