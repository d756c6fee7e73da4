import Dataflow.Proofs.Binary64.Nearest

set_option autoImplicit false

/-! # Integers among the floating-point numbers

`toInt?` says which integer a floating-point number is (`toInt?_eq_some_iff`). Rounding makes
integers into integers (`dvd_magnitude_of_rounds`): up to `2 ^ 53` every integer is a number of the
format, and from there on every number of the format is an integer. What is rounded comes out
below `2 ^ 63` if it lies below the midpoint before it, which is `2 ^ 63 - 512`
(`Rounds.lt_limitCode_iff`).
-/

namespace Dataflow.Binary64

/-! ## Which integer a number is -/

theorem value_of_magnitude_eq {x : Binary64} {k : Nat} (h : magnitude x.code = k * unitsPerOne) :
    x.value = signed x.negative k := by
  rw [value, h, Nat.cast_mul, mul_div_assoc, div_self unitsPerOne_pos.ne', mul_one]

theorem magnitude_eq_of_abs_value {x : Binary64} {k : Nat} (h : |x.value| = k) :
    magnitude x.code = k * unitsPerOne := by
  rw [abs_value, div_eq_iff unitsPerOne_pos.ne'] at h
  exact_mod_cast h

theorem abs_value_of_eq {x : Binary64} {n : Int} (h : x.value = n) : |x.value| = n.natAbs := by
  rw [h, Nat.cast_natAbs, Int.cast_abs]

/-- **The integer that a number is, is equal to it.** -/
theorem toInt?_eq_some_iff {x : Binary64} {n : Int} : x.toInt? = some n ↔ x.value = n := by
  have hpos : 0 < unitsPerOne := by exact_mod_cast unitsPerOne_pos
  have hread : x.toInt? = if magnitude x.code % unitsPerOne = 0 then
      some (if x.negative then -((magnitude x.code / unitsPerOne : Nat) : Int)
        else (magnitude x.code / unitsPerOne : Nat)) else none := by
    rw [toInt?, scaled_eq]
    rfl
  rw [hread]
  by_cases hdvd : unitsPerOne ∣ magnitude x.code
  · obtain ⟨k, hk⟩ := hdvd
    rw [hk, Nat.mul_mod_right, if_pos rfl, Nat.mul_div_cancel_left k hpos, Option.some.injEq,
      value_of_magnitude_eq (hk.trans (Nat.mul_comm _ _)), ← Int.cast_inj (α := ℚ)]
    cases x.negative <;> simp
  · rw [if_neg fun hmod => hdvd (Nat.dvd_of_mod_eq_zero hmod)]
    constructor
    · intro h
      cases h
    · intro h
      have hmagnitude := magnitude_eq_of_abs_value (abs_value_of_eq h)
      exact absurd (Dvd.intro_left _ hmagnitude.symm) hdvd

/-! ## Rounding integers -/

theorem two_pow_eq_mul_unitsPerOne {e k : Nat} (h : e = k + 1074) :
    2 ^ e = 2 ^ k * unitsPerOne := by
  rw [unitsPerOne, ← Nat.pow_add, h]

/-- Up to `2 ^ 53` every integer is a magnitude. -/
theorem exists_magnitude_of_le {n : Nat} (h : n ≤ 2 ^ 53) :
    ∃ code, magnitude code = n * unitsPerOne := by
  rcases Nat.eq_zero_or_pos n with rfl | hpos
  · exact ⟨0, by rw [magnitude_zero, Nat.zero_mul]⟩
  rcases Nat.lt_or_eq_of_le h with hlt | rfl
  · have hlog : n.log2 ≤ 52 := Nat.le_of_lt_succ ((Nat.log2_lt hpos.ne').2 hlt)
    have hhigh : n * 2 ^ (52 - n.log2) < 2 ^ 53 := by
      calc n * 2 ^ (52 - n.log2) < 2 ^ (n.log2 + 1) * 2 ^ (52 - n.log2) :=
            Nat.mul_lt_mul_of_pos_right Nat.lt_log2_self (Nat.two_pow_pos _)
        _ = 2 ^ 53 := by rw [← Nat.pow_add, show n.log2 + 1 + (52 - n.log2) = 53 by omega]
    have hlow : 2 ^ 52 ≤ n * 2 ^ (52 - n.log2) := by
      calc 2 ^ 52 = 2 ^ n.log2 * 2 ^ (52 - n.log2) := by
            rw [← Nat.pow_add, show n.log2 + (52 - n.log2) = 52 by omega]
        _ ≤ n * 2 ^ (52 - n.log2) := Nat.mul_le_mul_right _ (Nat.log2_self_le hpos.ne')
    refine ⟨(1022 + n.log2) * 2 ^ 52 + n * 2 ^ (52 - n.log2), ?_⟩
    rw [magnitude_of_le hhigh.le (.inr hlow), Nat.mul_assoc, ← Nat.pow_add,
      two_pow_eq_mul_unitsPerOne (k := 0) (by omega), Nat.pow_zero, Nat.one_mul]
  · exact ⟨_, magnitude_two_pow (p := 1075) (n := 53) (by norm_num)⟩

/-- An integer is rounded to an integer. -/
theorem dvd_magnitude_of_rounds {n code : Nat} (h : Rounds (n * unitsPerOne) code) :
    unitsPerOne ∣ magnitude code := by
  rcases Nat.le_total n (2 ^ 53) with hsmall | hlarge
  · obtain ⟨own, hown⟩ := exists_magnitude_of_le hsmall
    rw [← Nat.cast_mul, ← hown] at h
    rw [h.eq_of_magnitude, hown]
    exact Nat.dvd_mul_left _ _
  · -- above `2 ^ 53` the exponent alone makes an integer
    have hlimit : magnitude (1076 * 2 ^ 52) = 2 ^ 53 * unitsPerOne :=
      magnitude_two_pow (p := 1075) (by norm_num)
    have hle : ((2 ^ 53 * unitsPerOne : Nat) : ℚ) ≤ n * unitsPerOne := by
      exact_mod_cast Nat.mul_le_mul_right unitsPerOne hlarge
    rw [← hlimit] at hle
    have hcode : 1076 * 2 ^ 52 ≤ code := (rounds_magnitude _).mono h hle
    have hshift : 1074 ≤ shift code := by
      rw [shift]
      omega
    obtain ⟨k, hk⟩ := Nat.exists_eq_add_of_le' hshift
    exact ⟨significand code * 2 ^ k, by
      rw [magnitude, two_pow_eq_mul_unitsPerOne hk, ← Nat.mul_assoc, Nat.mul_comm]⟩

/-! ## The limit of signed words -/

/-- The code of `2 ^ 63`. -/
def limitCode : Nat := 1086 * 2 ^ 52

theorem magnitude_limitCode : magnitude limitCode = 2 ^ 63 * unitsPerOne :=
  magnitude_two_pow (p := 1085) (by norm_num)

theorem abs_value_lt_iff {x : Binary64} : |x.value| < 2 ^ 63 ↔ x.code < limitCode := by
  rw [abs_value, div_lt_iff₀ unitsPerOne_pos, ← strictMono_magnitude.lt_iff_lt,
    magnitude_limitCode, ← Nat.cast_lt (α := ℚ)]
  push_cast
  exact Iff.rfl

/-- Before `2 ^ 63` the numbers are 1024 apart. -/
theorem midpoint_limitCode : midpoint (limitCode - 1) = (2 ^ 63 - 512) * unitsPerOne := by
  have hcode : limitCode - 1 = 1084 * 2 ^ 52 + (2 ^ 53 - 1) := by decide
  have hshift : shift (limitCode - 1) = 1084 := by
    rw [hcode]
    exact shift_of_lt (by omega) (.inr (by omega))
  have hunit : 2 ^ 1084 = 2 ^ 10 * unitsPerOne := two_pow_eq_mul_unitsPerOne (by norm_num)
  have hbefore : magnitude (limitCode - 1) = (2 ^ 53 - 1) * (2 ^ 10 * unitsPerOne) := by
    rw [hcode, magnitude_of_le (by omega) (.inr (by omega)), hunit]
  rw [midpoint, magnitude_succ, hbefore, hshift, hunit]
  generalize unitsPerOne = k
  push_cast
  ring

/-- What is rounded to a number below `2 ^ 63` lies below the midpoint before it. -/
theorem Rounds.lt_limitCode_iff {u : ℚ} {code : Nat} (h : Rounds u code) :
    code < limitCode ↔ u < (2 ^ 63 - 512) * unitsPerOne := by
  rw [← midpoint_limitCode]
  exact h.lt_iff (c := limitCode - 1) (by decide)

end Dataflow.Binary64
