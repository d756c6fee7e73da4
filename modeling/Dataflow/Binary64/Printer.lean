import Dataflow.Binary64.Basic

set_option autoImplicit false

/-! # Shortest decimal text

The digits printed for a number are the fewest that read back as it: the coarsest grid of
multiples of a power of ten that has a point in the interval of values rounding to the
number, and of two such points the nearer one. A decimal exponent from -5 to 15 is written
positionally, with at least one digit after the point; any other is written as a digit,
an optional fraction, `e`, a sign (always `-` or `+`) and the exponent's digits.
-/

namespace Dataflow.Binary64

/-- The values that round to a magnitude code, in units of a quarter of `2 ^ (-1074)`: the
value itself, the ends of the interval, and whether the ends belong to it. -/
structure Interval where
  low : Nat
  mid : Nat
  high : Nat
  closed : Bool

/-- The interval of a code. Below a power of two the next number is only half as far. -/
def interval (code : Nat) : Interval :=
  let unit := 2 ^ shift code
  let mid := 4 * significand code * unit
  let below := if code % 2 ^ 52 = 0 ∧ 0 < shift code then unit else 2 * unit
  ⟨mid - below, mid, mid + 2 * unit, code % 2 = 0⟩

/-- Whether `point / scale` lies in the interval. -/
def Interval.holds (i : Interval) (point scale : Nat) : Bool :=
  if i.closed then decide (i.low * scale ≤ point ∧ point ≤ i.high * scale)
  else decide (i.low * scale < point ∧ point < i.high * scale)

/-- The multiple of `10 ^ k` in the interval that is nearest to its middle, as the factor of
`10 ^ k`; of two equally near ones the even one. -/
def Interval.gridPoint? (i : Interval) (k : Int) : Option Nat :=
  let step := 2 ^ 1076 * 10 ^ k.toNat
  let scale := 10 ^ (-k).toNat
  let target := i.mid * scale
  let d := target / step
  let lower := i.holds (d * step) scale
  let upper := i.holds ((d + 1) * step) scale
  let below := target - d * step
  let above := (d + 1) * step - target
  if lower && upper then
    if below < above then some d
    else if above < below then some (d + 1)
    else some (if d % 2 = 0 then d else d + 1)
  else if lower then some d
  else if upper then some (d + 1)
  else none

/-- The first grid with a point in the interval, going down from `10 ^ k`. -/
def Interval.coarsest (i : Interval) : Nat → Int → Nat × Int
  | 0, k => (0, k)
  | fuel + 1, k =>
      match i.gridPoint? k with
      | some d => (d, k)
      | none => i.coarsest fuel (k - 1)

/-- The shortest decimal `digits * 10 ^ k` of a positive magnitude code. A grid coarser than
ten times the number has no point in the interval, and 17 digits always suffice. -/
def shortest (code : Nat) : Nat × Int :=
  let binaryExponent : Int := (significand code * 2 ^ shift code).log2 - 1074
  (interval code).coarsest 22 ((binaryExponent + 1) * 30103 / 100000 + 2)

/-- The text of digits with decimal exponent `e`, written positionally. -/
def positional (ds : List Char) (e : Int) : List Char :=
  if e < 0 then '0' :: '.' :: (List.replicate ((-e).toNat - 1) '0' ++ ds)
  else
    let whole := e.toNat + 1
    if ds.length ≤ whole then ds ++ List.replicate (whole - ds.length) '0' ++ ['.', '0']
    else ds.take whole ++ '.' :: ds.drop whole

/-- The text of digits with decimal exponent `e`, with the exponent written out. -/
def scientific (ds : List Char) (e : Int) : List Char :=
  let mantissa := match ds with
    | d :: d' :: more => d :: '.' :: d' :: more
    | _ => ds
  let sign := if e < 0 then '-' else '+'
  mantissa ++ 'e' :: sign :: (Nat.repr e.natAbs).toList

/-- The text of a number. -/
def toChars (x : Binary64) : List Char :=
  let magnitude :=
    if x.code = 0 then ['0', '.', '0']
    else
      let (d, k) := shortest x.code
      let ds := (Nat.repr d).toList
      let e := k + ds.length - 1
      if -5 ≤ e ∧ e < 16 then positional ds e else scientific ds e
  if x.negative then '-' :: magnitude else magnitude

/-- The text of a number. -/
protected def toString (x : Binary64) : String := String.ofList x.toChars

instance : ToString Binary64 := ⟨Binary64.toString⟩

end Dataflow.Binary64
