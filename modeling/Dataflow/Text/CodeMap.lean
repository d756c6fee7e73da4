import Dataflow.Text.CodeSet

set_option autoImplicit false

/-! # Maps of code points

A `CodeMap` gives some code points a list of others. It is written as a table of entries, all
numbers in hexadecimal. `41-5a>61` maps a range to one of the same length,
`100-12e*101` does so for every second code point, and `fb00:66+66,66+69` lists the images of
the code points from the first on, each a sum.
-/

namespace Dataflow.Text

/-- An entry of a map. -/
inductive CodeMapEntry where
  /-- Every code point of a range at a multiple of `stride` from its first one has the image at
  the same distance from `image`. -/
  | run (range : CodeRange) (stride image : Nat)
  /-- The images of the code points from `first` on. -/
  | listed (first : Nat) (images : List (List Nat))

namespace CodeMapEntry

/-- The image of a code point under an entry. -/
def image? (n : Nat) : CodeMapEntry → Option (List Nat)
  | run range stride image =>
      if range.holds n && (n - range.first) % stride = 0 then some [image + (n - range.first)]
      else none
  | listed first images => if n < first then none else images[n - first]?

/-- The code point with a given image of its own under an entry. -/
def source? (n : Nat) : CodeMapEntry → Option Nat
  | run range stride image =>
      if image ≤ n && n - image ≤ range.last - range.first && (n - image) % stride = 0 then
        some (range.first + (n - image))
      else none
  | listed first images => (images.findIdx? (· == [n])).map (first + ·)

/-- The entry that characters write. -/
def ofChars (cs : List Char) : CodeMapEntry :=
  match cs.splitOn '>', cs.splitOn '*', cs.splitOn ':' with
  | [range, image], _, _ => run (.ofChars range) 1 (hexNumber image)
  | _, [range, image], _ => run (.ofChars range) 2 (hexNumber image)
  | _, _, [first, images] =>
      listed (hexNumber first) ((images.splitOn ',').map fun i => (i.splitOn '+').map hexNumber)
  | _, _, _ => listed 0 []

end CodeMapEntry

/-- A map of code points to lists of them. -/
abbrev CodeMap := List CodeMapEntry

namespace CodeMap

/-- The map that a text writes. -/
def ofText (s : String) : CodeMap := (entries s.toList).map CodeMapEntry.ofChars

/-- The image of a character, if it has one. -/
def image? (m : CodeMap) (c : Char) : Option (List Char) :=
  (m.findSome? (·.image? c.toNat)).map (·.map Char.ofNat)

/-- The character with a given image of its own, if there is one. -/
def source? (m : CodeMap) (c : Char) : Option Char :=
  (m.findSome? (·.source? c.toNat)).map Char.ofNat

end CodeMap

end Dataflow.Text
