import Dataflow.Power

set_option autoImplicit false

/-! # Finite binary floating-point numbers

A `Binary64` is a finite number of the format binary64: a sign and a magnitude. The
magnitude is coded by one natural number, the lower 63 bits of the format, so that the
order of codes is the order of magnitudes. A code `c` stands for
`significand c * 2 ^ shift c / 2 ^ 1074`; everything here is exact arithmetic on natural
numbers. Rounding goes to the nearest number, and a value half-way between two goes to the
one with the even code.
-/

namespace Dataflow

/-- A finite number of the format binary64. -/
structure Binary64 where
  negative : Bool
  /-- The exponent and fraction fields read as one number. -/
  code : Nat
  finite : code < 2047 * 2 ^ 52
  deriving DecidableEq

namespace Binary64

instance : Inhabited Binary64 := ⟨⟨false, 0, by decide⟩⟩

/-- The integer significand of a magnitude code. -/
def significand (code : Nat) : Nat :=
  if code < 2 ^ 52 then code else 2 ^ 52 + code % 2 ^ 52

/-- The power of two, above `2 ^ (-1074)`, that the significand of a code counts. -/
def shift (code : Nat) : Nat := code / 2 ^ 52 - 1

/-- The magnitude as a multiple of `2 ^ (-1074)`. -/
def scaled (x : Binary64) : Nat := significand x.code * 2 ^ shift x.code

/-- The nearest integer to `num / den`; a half goes to the even neighbour. -/
def roundHalfEven (num den : Nat) : Nat :=
  let q := num / den
  let r := num % den
  if 2 * r < den then q
  else if den < 2 * r then q + 1
  else if q % 2 = 0 then q else q + 1

/-- The code nearest to `num / den`, not bounded above. A quotient that rounds up to the
next power of two needs no care: its code is the next one. -/
def nearestCode (num den : Nat) : Nat :=
  let scaledNum := num * 2 ^ 1074
  let q := scaledNum / den
  let p := if q < 2 ^ 53 then 0 else q.log2 - 52
  p * 2 ^ 52 + roundHalfEven scaledNum (den * 2 ^ p)

/-- The number nearest to `± num / den`, or nothing if that lies beyond the finite range. -/
def ofRatio? (negative : Bool) (num den : Nat) : Option Binary64 :=
  if h : nearestCode num den < 2047 * 2 ^ 52 then some ⟨negative, nearestCode num den, h⟩
  else none

/-- Zero with the given sign. -/
def zero (negative : Bool) : Binary64 := ⟨negative, 0, by decide⟩

/-- The number nearest to an integer, or nothing if that lies beyond the finite range. -/
def ofInt? (n : Int) : Option Binary64 := ofRatio? (decide (n < 0)) n.natAbs 1

/-- The integer that a number is, if it is one; both zeros are `0`. -/
def toInt? (x : Binary64) : Option Int :=
  if x.scaled % 2 ^ 1074 = 0 then
    let n : Int := (x.scaled / 2 ^ 1074 : Nat)
    some (if x.negative then -n else n)
  else none

/-- The number nearest to `± digits * 10 ^ exponent`, or nothing if that lies beyond the
finite range. Exponents far outside the range are settled without computing the power. -/
def ofDecimal? (negative : Bool) (digits : Nat) (exponent : Int) : Option Binary64 :=
  if digits = 0 then some (zero negative)
  else
    -- the value lies below `10 ^ magnitude` and at or above a tenth of it, up to the log's slack
    let magnitude : Int := exponent + (digits.log2 : Int) / 3 + 1
    if exponent > 400 then none
    else if magnitude < -400 then some (zero negative)
    else if exponent ≥ 0 then ofRatio? negative (digits * 10 ^ exponent.toNat) 1
    else ofRatio? negative digits (10 ^ (-exponent).toNat)

end Binary64

end Dataflow
