import Dataflow.Binary64.Basic

set_option autoImplicit false

/-! # Decimal text

A decimal text has an optional sign, digits with an optional point among or around them,
and an optional exponent. `Decimal` is what such a text says, before any rounding;
`Binary64.ofText?` is the finite number nearest to it. The words for infinity and for
not-a-number name no finite number, and no other text is a number.
-/

namespace Dataflow

/-- A decimal number as written: `± digits * 10 ^ exponent`. -/
structure Decimal where
  negative : Bool
  digits : Nat
  exponent : Int
  deriving DecidableEq

namespace Decimal

/-- Whether a character is a decimal digit of ASCII. -/
def isDigit (c : Char) : Bool := decide ('0' ≤ c ∧ c ≤ '9')

/-- The number that a list of digits writes. -/
def valueOf (ds : List Char) : Nat := ds.foldl (fun n d => 10 * n + (d.toNat - '0'.toNat)) 0

/-- Splits an optional sign off; the flag says whether it is a minus. -/
def splitSign : List Char → Bool × List Char
  | '-' :: cs => (true, cs)
  | '+' :: cs => (false, cs)
  | cs => (false, cs)

/-- An integer: an optional sign and at least one digit, and nothing else. -/
def integer? (cs : List Char) : Option Int :=
  let (negative, ds) := splitSign cs
  if ds.isEmpty ∨ ¬ ds.all isDigit then none
  else some (if negative then -(valueOf ds : Int) else valueOf ds)

/-- The exponent that ends a decimal text: nothing, or `e` and an integer. -/
def exponent? : List Char → Option Int
  | [] => some 0
  | c :: cs => if c = 'e' ∨ c = 'E' then integer? cs else none

/-- Reads a decimal text. At least one digit must stand beside the point. -/
def ofChars? (cs : List Char) : Option Decimal :=
  let (negative, rest) := splitSign cs
  let whole := rest.takeWhile isDigit
  let afterWhole := rest.dropWhile isDigit
  let (fraction, tail) := match afterWhole with
    | '.' :: more => (more.takeWhile isDigit, more.dropWhile isDigit)
    | _ => ([], afterWhole)
  if whole.isEmpty ∧ fraction.isEmpty then none
  else (exponent? tail).map fun e =>
    ⟨negative, valueOf (whole ++ fraction), e - (fraction.length : Int)⟩

end Decimal

namespace Binary64

/-- The finite number nearest to a decimal. -/
def ofDecimalText? (d : Decimal) : Option Binary64 :=
  ofDecimal? d.negative d.digits d.exponent

/-- The finite number that a text writes, if any. -/
def ofText? (s : String) : Option Binary64 := (Decimal.ofChars? s.toList).bind ofDecimalText?

end Binary64

end Dataflow
