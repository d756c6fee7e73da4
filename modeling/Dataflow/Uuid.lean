import Dataflow.Power

set_option autoImplicit false

/-! # Universally unique identifiers

A `Uuid` is a word of 128 bits. It is written as 32 lowercase hexadecimal digits in groups
of 8, 4, 4, 4 and 12. It is read from that form, from the bare 32 digits, from the
grouped form in braces and from the grouped form after `urn:uuid:`; letters may have
either case everywhere.
-/

namespace Dataflow

/-- An identifier of 128 bits. -/
structure Uuid where
  bits : BitVec 128
  deriving DecidableEq

namespace Uuid

instance : Inhabited Uuid := ⟨⟨0⟩⟩

/-- Identifiers are ordered as numbers. -/
instance : Ord Uuid := ⟨fun a b => compare a.bits b.bits⟩

instance : Std.TransOrd Uuid where
  eq_swap {a b} := show compare a.bits b.bits = (compare b.bits a.bits).swap from
    Std.OrientedCmp.eq_swap
  isLE_trans {a b c} (h : (compare a.bits b.bits).isLE) (h' : (compare b.bits c.bits).isLE) :=
    show (compare a.bits c.bits).isLE from Std.TransCmp.isLE_trans h h'

instance : Std.LawfulEqOrd Uuid where
  compare_self {a} := show compare a.bits a.bits = .eq from Std.ReflCmp.compare_self
  eq_of_compare {a b} (h : compare a.bits b.bits = .eq) := by
    have : a.bits = b.bits := Std.LawfulEqCmp.eq_of_compare h
    cases a; cases b; simp_all

/-- The identifier all of whose bits are zero. -/
def nil : Uuid := ⟨0⟩

/-- The identifier with the given number, modulo `2 ^ 128`. -/
def ofNat (n : Nat) : Uuid := ⟨BitVec.ofNat 128 n⟩

/-- The version digit: the 13th hexadecimal digit. -/
def version (u : Uuid) : Nat := u.bits.toNat / 16 ^ 19 % 16

/-! ## Written form -/

/-- The hexadecimal digit of a number below 16. -/
def hexDigit (n : Nat) : Char :=
  if n < 10 then Char.ofNat ('0'.toNat + n) else Char.ofNat ('a'.toNat + (n - 10))

/-- The value of a hexadecimal digit of either case. -/
def hexValue? (c : Char) : Option Nat :=
  if '0' ≤ c ∧ c ≤ '9' then some (c.toNat - '0'.toNat)
  else if 'a' ≤ c ∧ c ≤ 'f' then some (c.toNat - 'a'.toNat + 10)
  else if 'A' ≤ c ∧ c ≤ 'F' then some (c.toNat - 'A'.toNat + 10)
  else none

/-- The last `count` hexadecimal digits of a number, highest first. -/
def hexDigits (count : Nat) (n : Nat) : List Char :=
  (List.range count).map (fun i => hexDigit (n / 16 ^ (count - 1 - i) % 16))

/-- The digits with a hyphen before the 9th, 13th, 17th and 21st. -/
def grouped (ds : List Char) : List Char :=
  ds.take 8 ++ '-' :: (ds.drop 8).take 4 ++ '-' :: (ds.drop 12).take 4 ++
    '-' :: (ds.drop 16).take 4 ++ '-' :: ds.drop 20

/-- The identifier in lowercase groups of 8, 4, 4, 4 and 12 digits. -/
protected def toString (u : Uuid) : String :=
  String.ofList (grouped (hexDigits 32 u.bits.toNat))

instance : ToString Uuid := ⟨Uuid.toString⟩

/-! ## Reading -/

/-- Reads exactly 32 hexadecimal digits. -/
def ofDigits? (ds : List Char) : Option Uuid :=
  if ds.length = 32 then
    (ds.mapM hexValue?).map (fun vs => ofNat (vs.foldl (fun n v => 16 * n + v) 0))
  else none

/-- Reads digits in groups of 8, 4, 4, 4 and 12. -/
def ofGrouped? (cs : List Char) : Option Uuid :=
  let ds := cs.take 8 ++ (cs.drop 9).take 4 ++ (cs.drop 14).take 4 ++ (cs.drop 19).take 4 ++
    cs.drop 24
  if cs.length = 36 ∧ cs[8]? = some '-' ∧ cs[13]? = some '-' ∧ cs[18]? = some '-' ∧
      cs[23]? = some '-' then
    ofDigits? ds
  else none

/-- Reads any of the four accepted forms; nothing may surround them. -/
def ofChars? (cs : List Char) : Option Uuid :=
  if cs.length = 32 then ofDigits? cs
  else if cs.length = 36 then ofGrouped? cs
  else if cs.length = 38 then
    if cs.head? = some '\x7b' ∧ cs.getLast? = some '\x7d' then ofGrouped? (cs.tail.dropLast)
    else none
  else if cs.length = 45 then
    if (cs.take 9).map Char.toLower = "urn:uuid:".toList then ofGrouped? (cs.drop 9) else none
  else none

/-- Reads any of the four accepted forms; nothing may surround them. -/
def ofString? (s : String) : Option Uuid := ofChars? s.toList

end Uuid

end Dataflow
