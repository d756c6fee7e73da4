import Dataflow.Binary64.Arithmetic
import Dataflow.Binary64.Reader
import Dataflow.Json.Basic

set_option autoImplicit false

/-! # Number literals

A `NumberLiteral` is a JSON number as written. `NumberLiteral.value?` is the number that it
stands for. An integer that fits a word is kept exactly. Any other literal becomes a
floating-point number in two steps: its digits, as many as fit an unsigned word of 64 bits,
are rounded to one, and that is multiplied by a power of ten. Both steps round, so a literal
of many digits or of a large exponent may miss the nearest number by a few units of the last
place; `3e23` does, `0.1` does not.
-/

namespace Dataflow

/-- A number as written. -/
structure NumberLiteral where
  negative : Bool
  /-- The digits before the point. -/
  whole : List Char
  /-- The digits after the point, if there is one. -/
  fraction : Option (List Char)
  exponent : Option Int
  deriving DecidableEq

namespace NumberLiteral

/-- The exponent that a text may begin with, and the text after it. -/
def readExponent? : List Char → Option (Option Int × List Char)
  | [] => some (none, [])
  | c :: cs =>
      if c = 'e' ∨ c = 'E' then
        let (negative, rest) := Decimal.splitSign cs
        let ds := rest.takeWhile Decimal.isDigit
        if ds.isEmpty then none
        else
          let n : Int := Decimal.valueOf ds
          some (some (if negative then -n else n), rest.dropWhile Decimal.isDigit)
      else some (none, c :: cs)

/-- The literal that a text begins with, and the text after it. No superfluous zero leads, and
a digit stands on either side of the point. -/
def read? (cs : List Char) : Option (NumberLiteral × List Char) := do
  let (negative, cs) := match cs with
    | '-' :: rest => (true, rest)
    | _ => (false, cs)
  let whole := cs.takeWhile Decimal.isDigit
  let rest := cs.dropWhile Decimal.isDigit
  if whole.isEmpty ∨ (whole.head? = some '0' ∧ whole.length > 1) then none
  let (fraction, rest) := match rest with
    | '.' :: more => (some (more.takeWhile Decimal.isDigit), more.dropWhile Decimal.isDigit)
    | _ => (none, rest)
  if fraction = some [] then none
  let (exponent, rest) ← readExponent? rest
  some (⟨negative, whole, fraction, exponent⟩, rest)

/-- Appends digits to a number as long as it fits an unsigned word of 64 bits; the result comes
with the digits that are left. -/
def gather : Nat → List Char → Nat × List Char
  | n, [] => (n, [])
  | n, d :: ds =>
      let next := 10 * n + (d.toNat - '0'.toNat)
      if next < 2 ^ 64 then gather next ds else (n, d :: ds)

/-- `± significand * 10 ^ exponent`, rounded after each of the two steps. -/
def float? (negative : Bool) (significand : Nat) (exponent : Int) : Option JsonNumber := do
  let x ← Binary64.ofRatio? negative significand 1
  (x.timesPowerOfTen? exponent).map .float

/-- The number that a literal stands for; there is none beyond the finite range. -/
def value? (l : NumberLiteral) : Option JsonNumber :=
  let (n, left) := gather 0 l.whole
  let exact :=
    if l.fraction.isNone ∧ l.exponent.isNone ∧ left.isEmpty ∧ ¬ (l.negative ∧ n = 0) then
      WordInt.ofInt? (if l.negative then -(n : Int) else n)
    else none
  match exact with
  | some w => some (.integer w)
  | none =>
      let fraction := l.fraction.getD []
      let (significand, ignored) := gather n fraction
      let used : Int := (fraction.length - ignored.length : Nat)
      float? l.negative significand (left.length - used + l.exponent.getD 0)

end NumberLiteral

end Dataflow
