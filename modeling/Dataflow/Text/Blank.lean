set_option autoImplicit false

/-! # Blanks

The blank characters are those with the Unicode property White_Space. `trim` drops them
from both ends of a text.
-/

namespace Dataflow.Text

/-- The ranges of the property White_Space, both ends included. -/
def blankRanges : List (Nat × Nat) :=
  [(0x9, 0xd), (0x20, 0x20), (0x85, 0x85), (0xa0, 0xa0), (0x1680, 0x1680), (0x2000, 0x200a),
   (0x2028, 0x2029), (0x202f, 0x202f), (0x205f, 0x205f), (0x3000, 0x3000)]

/-- Whether a character is blank. -/
def isBlank (c : Char) : Bool :=
  blankRanges.any (fun r => decide (r.1 ≤ c.toNat ∧ c.toNat ≤ r.2))

/-- A list of characters without the blanks at both ends. -/
def trimChars (cs : List Char) : List Char :=
  ((cs.dropWhile isBlank).reverse.dropWhile isBlank).reverse

/-- A text without the blanks at both ends. -/
def trim (s : String) : String := String.ofList (trimChars s.toList)

/-- A text with its ASCII letters in lower case; all other characters stay. -/
def asciiLower (s : String) : String := String.ofList (s.toList.map Char.toLower)

end Dataflow.Text
