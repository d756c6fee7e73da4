import Dataflow.Text.CombiningClass
import Dataflow.Text.Composition

set_option autoImplicit false

/-! # Canonical composition

Many texts can be written in several ways that look the same: a letter with a mark may be one
character or two, and marks may stand in several orders. `composed` brings a text into the
form in which marks stand in canonical order and everything that can be composed is. It takes
the characters of the text apart, sorts the marks behind each base character, and puts together
what the compositions allow.
-/

namespace Dataflow.Text

/-! ## Syllables of Hangul

A syllable is composed of a leading consonant, a vowel and possibly a trailing consonant. The
syllables are numbered so that the parts follow from the number. -/

/-- The first syllable, which has no trailing consonant. -/
def hangulBase : Nat := 0xac00

/-- The first of the 19 leading consonants. -/
def leadingBase : Nat := 0x1100

/-- The first of the 21 vowels. -/
def vowelBase : Nat := 0x1161

/-- The number before that of the first of the 27 trailing consonants. -/
def trailingBase : Nat := 0x11a7

/-- The parts of a syllable. -/
def hangulParts? (c : Char) : Option (List Char) :=
  let i := c.toNat - hangulBase
  if c.toNat < hangulBase ∨ 19 * 21 * 28 ≤ i then none
  else
    let front := [Char.ofNat (leadingBase + i / 588), Char.ofNat (vowelBase + i % 588 / 28)]
    some (if i % 28 = 0 then front else front ++ [Char.ofNat (trailingBase + i % 28)])

/-- The syllable of a leading consonant and a vowel, or of a syllable without a trailing
consonant and one. -/
def hangulSyllable? (a b : Char) : Option Char :=
  let l := a.toNat - leadingBase
  let v := b.toNat - vowelBase
  let s := a.toNat - hangulBase
  let t := b.toNat - trailingBase
  if leadingBase ≤ a.toNat ∧ l < 19 ∧ vowelBase ≤ b.toNat ∧ v < 21 then
    some (Char.ofNat (hangulBase + (l * 21 + v) * 28))
  else if hangulBase ≤ a.toNat ∧ s < 19 * 21 * 28 ∧ s % 28 = 0 ∧ trailingBase < b.toNat ∧ t < 28 then
    some (Char.ofNat (a.toNat + t))
  else none

/-! ## Taking apart and putting together -/

/-- The composition of two characters. -/
def composition? (a b : Char) : Option Char :=
  match hangulSyllable? a b with
  | some c => some c
  | none =>
      (compositions.find? (·.second = b.toNat)).bind fun k =>
        (k.byFirst.image? a).bind (·.head?)

/-- The two characters that a character is composed of. -/
def decomposition? (c : Char) : Option (Char × Char) :=
  compositions.findSome? fun k => (k.byFirst.source? c).map (·, Char.ofNat k.second)

/-- The characters that a character is composed of in the end. The fuel bounds the number of
compositions inside of each other; there are never more than three. -/
def parts : Nat → Char → List Char
  | 0, c => [c]
  | fuel + 1, c =>
      match hangulParts? c with
      | some cs => cs
      | none =>
          match decomposition? c with
          | some (a, b) => parts fuel a ++ [b]
          | none => [c]

/-- Puts a mark before a text that is in canonical order. -/
def insertMark (c : Char) : List Char → List Char
  | [] => [c]
  | d :: ds =>
      if 0 < combiningClass d ∧ combiningClass d < combiningClass c then d :: insertMark c ds
      else c :: d :: ds

/-- Sorts the marks behind each base character by their classes; those of one class stay in
their order. -/
def inOrder : List Char → List Char
  | [] => []
  | c :: cs => if combiningClass c = 0 then c :: inOrder cs else insertMark c (inOrder cs)

/-- Composes a base character with what follows it. The marks in `passed` did not compose with
it; the last of them keeps marks of its class and lower ones from it. -/
def composeFrom (base : Char) (passed : List Char) : List Char → List Char
  | [] => base :: passed
  | c :: cs =>
      let isBlocked := passed.getLast?.any fun d => combiningClass c ≤ combiningClass d
      match if isBlocked then none else composition? base c with
      | some b => composeFrom b passed cs
      | none =>
          if combiningClass c = 0 then base :: passed ++ composeFrom c [] cs
          else composeFrom base (passed ++ [c]) cs

/-- Composes every base character with what follows it. -/
def compose : List Char → List Char
  | [] => []
  | c :: cs => if combiningClass c = 0 then composeFrom c [] cs else c :: compose cs

/-- A text in composed form. Below the first mark nothing can be composed. -/
def composed (cs : List Char) : List Char :=
  if cs.all (fun c => c.toNat < 0x300) then cs else compose (inOrder (cs.flatMap (parts 3)))

end Dataflow.Text
