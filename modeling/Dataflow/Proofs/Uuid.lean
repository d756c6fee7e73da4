import Dataflow.Uuid
import Mathlib.Tactic

set_option autoImplicit false

/-! # Identifiers read back

An identifier is written as 32 hexadecimal digits in groups. The digits give its number back,
the highest first (`Uuid.ofDigits?_hexDigits`), and taking the groups apart undoes grouping
(`Uuid.ofGrouped?_grouped`), so that each identifier is read from what it is written as
(`Uuid.ofString?_toString`).
-/

namespace Dataflow

namespace Uuid

/-! ## Digits -/

theorem hexValue?_hexDigit : ∀ d < 16, hexValue? (hexDigit d) = some d := by
  decide

@[simp] theorem length_hexDigits (count n : Nat) : (hexDigits count n).length = count := by
  rw [hexDigits, List.length_map, List.length_range]

/-- The last digit is the remainder, and the others are the digits of the quotient. -/
theorem hexDigits_succ (count n : Nat) :
    hexDigits (count + 1) n = hexDigits count (n / 16) ++ [hexDigit (n % 16)] := by
  rw [hexDigits, List.range_succ, List.map_append]
  have hlast : count + 1 - 1 - count = 0 := by omega
  refine congrArg₂ (· ++ ·) (List.map_congr_left fun i hi => ?_) ?_
  · have hi := List.mem_range.1 hi
    have hexponent : count + 1 - 1 - i = (count - 1 - i) + 1 := by omega
    rw [hexponent, Nat.pow_succ, Nat.mul_comm, Nat.div_div_eq_div_mul]
  · rw [List.map_singleton, hlast, Nat.pow_zero, Nat.div_one]

/-- The values of digits. -/
def digitValues : Nat → Nat → List Nat
  | 0, _ => []
  | count + 1, n => digitValues count (n / 16) ++ [n % 16]

theorem mapM_hexDigits (count n : Nat) :
    (hexDigits count n).mapM hexValue? = some (digitValues count n) := by
  induction count generalizing n with
  | zero => rfl
  | succ count ih =>
      have hdigit := hexValue?_hexDigit (n % 16) (Nat.mod_lt n (by decide))
      rw [hexDigits_succ, List.mapM_append, ih]
      simp [hdigit, digitValues]

/-- Digits, the highest first, give back what is left of a number by its lowest digits. -/
theorem foldl_digitValues (count n : Nat) :
    (digitValues count n).foldl (fun n v => 16 * n + v) 0 = n % 16 ^ count := by
  induction count generalizing n with
  | zero => simp [digitValues, Nat.mod_one]
  | succ count ih =>
      rw [digitValues, List.foldl_append, ih]
      calc 16 * (n / 16 % 16 ^ count) + n % 16 = n % 16 + 16 * (n / 16 % 16 ^ count) := by ring
        _ = n % (16 * 16 ^ count) := (Nat.mod_mul).symm
        _ = n % 16 ^ (count + 1) := by rw [Nat.pow_succ']

/-- **The digits of an identifier give it back.** -/
theorem ofDigits?_hexDigits (u : Uuid) : ofDigits? (hexDigits 32 u.bits.toNat) = some u := by
  have hsmall : u.bits.toNat < 16 ^ 32 := u.bits.isLt
  rw [ofDigits?, if_pos (length_hexDigits 32 _), mapM_hexDigits, Option.map_some,
    foldl_digitValues, Nat.mod_eq_of_lt hsmall, ofNat, BitVec.ofNat_toNat]
  simp

/-! ## Groups -/

/-- Groups of 8, 4, 4, 4 and 12 digits are read as the digits. -/
theorem ofGrouped?_groups {a b c d e : List Char} (ha : a.length = 8) (hb : b.length = 4)
    (hc : c.length = 4) (hd : d.length = 4) (he : e.length = 12) :
    ofGrouped? (a ++ '-' :: b ++ '-' :: c ++ '-' :: d ++ '-' :: e) =
      ofDigits? (a ++ b ++ c ++ d ++ e) := by
  simp [ofGrouped?, ha, hb, hc, hd, he, List.drop_append, List.drop_eq_nil_of_le]

theorem ofGrouped?_grouped {ds : List Char} (h : ds.length = 32) :
    ofGrouped? (grouped ds) = ofDigits? ds := by
  have hjoin : ds.take 8 ++ (ds.drop 8).take 4 ++ (ds.drop 12).take 4 ++ (ds.drop 16).take 4 ++
      ds.drop 20 = ds := by
    calc ds.take 8 ++ (ds.drop 8).take 4 ++ (ds.drop 12).take 4 ++ (ds.drop 16).take 4 ++
          ds.drop 20
        = ds.take 20 ++ ds.drop 20 := by rw [← List.take_add, ← List.take_add, ← List.take_add]
      _ = ds := List.take_append_drop 20 ds
  rw [grouped, ofGrouped?_groups, hjoin] <;> simp [h]

theorem length_grouped {ds : List Char} (h : ds.length = 32) : (grouped ds).length = 36 := by
  simp [grouped, h]

/-- **An identifier is read from what it is written as.** -/
theorem ofString?_toString (u : Uuid) : ofString? (toString u) = some u := by
  have hdigits := length_hexDigits 32 u.bits.toNat
  have hlength := length_grouped hdigits
  show ofChars? (String.ofList (grouped (hexDigits 32 u.bits.toNat))).toList = some u
  rw [String.toList_ofList, ofChars?, if_neg (by rw [hlength]; decide), if_pos hlength,
    ofGrouped?_grouped hdigits, ofDigits?_hexDigits]

end Uuid

end Dataflow
