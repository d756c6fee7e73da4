import Dataflow.Binary64.Basic

set_option autoImplicit false

/-! # Products and quotients

The product or quotient of two finite numbers is computed exactly and rounded once.
`timesPowerOfTen?` moves the decimal point of a number: it multiplies by a power of ten, or
divides by one, where the power is itself a rounded number. It is not the rounding of the
exact product: powers above `10 ^ 22` are no exact numbers, and the result is rounded again.
-/

namespace Dataflow.Binary64

/-- The number nearest to the product, or nothing if that lies beyond the finite range. -/
def mul? (x y : Binary64) : Option Binary64 :=
  ofRatio? (x.negative != y.negative) (x.scaled * y.scaled) (2 ^ 2148)

/-- The number nearest to the quotient, or nothing if that lies beyond the finite range or the
divisor is zero. -/
def div? (x y : Binary64) : Option Binary64 :=
  if y.code = 0 then none else ofRatio? (x.negative != y.negative) x.scaled y.scaled

/-- The largest `k` for which `10 ^ k` lies in the finite range. -/
def largestPower : Nat := 308

/-- The number nearest to `10 ^ k`; there is one up to the largest power. -/
def powerOfTen? (k : Nat) : Option Binary64 := ofRatio? false (10 ^ k) 1

/-- The number divided by the largest power of ten so many times, or until it is zero. -/
def dropPowers? : Nat → Binary64 → Option Binary64
  | 0, x => some x
  | n + 1, x =>
      if x.code = 0 then some x
      else do
        let p ← powerOfTen? largestPower
        let y ← x.div? p
        dropPowers? n y

/-- The number times a power of ten, in steps that are each rounded: one multiplication, or as
many divisions by the largest power as go in and one by the rest. -/
def timesPowerOfTen? (x : Binary64) (e : Int) : Option Binary64 :=
  if 0 ≤ e then
    if e ≤ largestPower then (powerOfTen? e.toNat).bind x.mul?
    else if x.code = 0 then some x
    else none
  else
    let k := (-e).toNat - 1
    do
      let y ← dropPowers? (k / largestPower) x
      let p ← powerOfTen? (k % largestPower + 1)
      y.div? p

end Dataflow.Binary64
