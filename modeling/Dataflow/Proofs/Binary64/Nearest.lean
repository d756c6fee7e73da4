import Dataflow.Binary64.Reader
import Dataflow.Proofs.Binary64.Rounding

set_option autoImplicit false

/-! # The nearest number to a decimal

A `Binary64` stands for a rational number, its `value`. What a decimal becomes is the number
nearest to it, and of two equally near ones that with the even code (`IsNearest`); the reader
settles the decimals that are far too large or far too small without the power of ten, which
does not change the outcome (`ofDecimal?_eq_some_iff`).
-/

namespace Dataflow

/-- The number with a sign and a magnitude. -/
def signed (negative : Bool) (u : ℚ) : ℚ := if negative then -u else u

@[simp] theorem signed_false (u : ℚ) : signed false u = u := rfl

@[simp] theorem signed_true (u : ℚ) : signed true u = -u := rfl

/-- The distance of two numbers of given signs and magnitudes, in units of which `k` make one. -/
theorem abs_signed_sub_signed (s t : Bool) (a u : ℚ) {k : ℚ} (hk : 0 < k) :
    |signed s (a / k) - signed t (u / k)| = |signed (s != t) a - u| / k := by
  have hcommon : ∀ b : ℚ, |b / k| = |b| / k := fun b => by rw [abs_div, abs_of_pos hk]
  rw [← hcommon]
  cases s <;> cases t
  · rw [signed_false, signed_false, ← sub_div]
    rfl
  · rw [signed_false, signed_true, ← abs_neg]
    congr 1
    simp only [Bool.false_bne, signed_true]
    ring
  · rw [signed_false, signed_true, ← neg_div, ← sub_div]
    rfl
  · rw [signed_true, signed_true, ← abs_neg]
    congr 1
    simp only [bne_self_eq_false, signed_false]
    ring

theorem abs_signed {negative : Bool} {u : ℚ} (hu : 0 ≤ u) : |signed negative u| = u := by
  cases negative
  · exact abs_of_nonneg hu
  · rw [signed, if_pos rfl, abs_neg, abs_of_nonneg hu]

/-- The rational number that a decimal stands for. -/
def Decimal.value (d : Decimal) : ℚ := signed d.negative (d.digits * 10 ^ d.exponent)

namespace Binary64

/-- The rational number that a floating-point number stands for. -/
def value (x : Binary64) : ℚ := signed x.negative ((magnitude x.code : ℚ) / unitsPerOne)

/-- A floating-point number is nearest to a rational number: no other is nearer, and if another
one is as near, then its code is even. -/
structure IsNearest (q : ℚ) (x : Binary64) : Prop where
  nearest : ∀ y : Binary64, |x.value - q| ≤ |y.value - q|
  even_of_tie : ∀ y : Binary64, |y.value - q| = |x.value - q| → y.value ≠ x.value → x.code % 2 = 0

theorem unitsPerOne_eq : (unitsPerOne : ℚ) = 2 ^ 1074 := by
  rw [unitsPerOne, Nat.cast_pow, Nat.cast_ofNat]

theorem unitsPerOne_pos : (0 : ℚ) < unitsPerOne := by
  rw [unitsPerOne_eq]
  positivity

theorem abs_value (x : Binary64) : |x.value| = magnitude x.code / unitsPerOne :=
  abs_signed (div_nonneg (Nat.cast_nonneg _) unitsPerOne_pos.le)

/-! ## Distances -/

namespace Rounds

variable {u : ℚ} {code c : Nat}

/-- Every other magnitude is farther away, or it is as far and the code is even. -/
theorem abs_sub_lt_or_even (h : Rounds u code) (hne : c ≠ code) :
    |(magnitude code : ℚ) - u| < |(magnitude c : ℚ) - u| ∨
      |(magnitude code : ℚ) - u| = |(magnitude c : ℚ) - u| ∧ code % 2 = 0 := by
  rcases Nat.lt_or_gt_of_ne hne with hlt | hgt
  · obtain ⟨b, rfl⟩ : ∃ b, code = b + 1 := ⟨code - 1, by omega⟩
    have hc : (magnitude c : ℚ) ≤ magnitude b := by
      exact_mod_cast strictMono_magnitude.monotone (by omega : c ≤ b)
    have hstep : (magnitude b : ℚ) < magnitude (b + 1) := by
      exact_mod_cast strictMono_magnitude (Nat.lt_succ_self b)
    have hmid : midpoint b = ((magnitude b : ℚ) + magnitude (b + 1)) / 2 := rfl
    have hfar : u - magnitude b ≤ |(magnitude c : ℚ) - u| := by
      linarith [neg_abs_le ((magnitude c : ℚ) - u)]
    rcases (h.lower_le b rfl).lt_or_eq with hinside | htie
    · left
      have hnear : |(magnitude (b + 1) : ℚ) - u| < u - magnitude b := by
        rw [abs_lt]
        constructor <;> linarith
      exact hnear.trans_le hfar
    · have hnear : |(magnitude (b + 1) : ℚ) - u| = u - magnitude b := by
        rw [abs_of_nonneg] <;> linarith
      rw [hnear]
      exact hfar.lt_or_eq.imp_right fun heq => ⟨heq, h.even_of_lower b rfl htie⟩
  · have hc : (magnitude (code + 1) : ℚ) ≤ magnitude c := by
      exact_mod_cast strictMono_magnitude.monotone (by omega : code + 1 ≤ c)
    have hstep : (magnitude code : ℚ) < magnitude (code + 1) := by
      exact_mod_cast strictMono_magnitude (Nat.lt_succ_self code)
    have hmid : midpoint code = ((magnitude code : ℚ) + magnitude (code + 1)) / 2 := rfl
    have hfar : magnitude (code + 1) - u ≤ |(magnitude c : ℚ) - u| := by
      linarith [le_abs_self ((magnitude c : ℚ) - u)]
    rcases h.le_upper.lt_or_eq with hinside | htie
    · left
      have hnear : |(magnitude code : ℚ) - u| < magnitude (code + 1) - u := by
        rw [abs_lt]
        constructor <;> linarith
      exact hnear.trans_le hfar
    · have hnear : |(magnitude code : ℚ) - u| = magnitude (code + 1) - u := by
        rw [abs_of_nonpos] <;> linarith
      rw [hnear]
      exact hfar.lt_or_eq.imp_right fun heq => ⟨heq, h.even_of_upper htie⟩

/-- No other magnitude is nearer. -/
theorem abs_sub_le (h : Rounds u code) (c : Nat) :
    |(magnitude code : ℚ) - u| ≤ |(magnitude c : ℚ) - u| := by
  by_cases hne : c = code
  · rw [hne]
  · rcases h.abs_sub_lt_or_even hne with hlt | ⟨heq, -⟩
    · exact hlt.le
    · exact heq.le

/-- A number is never farther away than zero. -/
theorem abs_sub_le_self (h : Rounds u code) (hu : 0 ≤ u) : |(magnitude code : ℚ) - u| ≤ u := by
  have hzero := h.abs_sub_le 0
  rwa [magnitude_zero, Nat.cast_zero, zero_sub, abs_neg, abs_of_nonneg hu] at hzero

end Rounds

/-- A number that is rounded to a code is nearest to the number with that code and its sign. -/
theorem isNearest_of_rounds {x : Binary64} {u : ℚ} (hu : 0 ≤ u) (h : Rounds u x.code) :
    IsNearest (signed x.negative (u / unitsPerOne)) x := by
  have hsame : ∀ y : Binary64, y.negative = x.negative →
      |y.value - signed x.negative (u / unitsPerOne)| =
        |(magnitude y.code : ℚ) - u| / unitsPerOne := by
    intro y hsign
    rw [value, abs_signed_sub_signed _ _ _ _ unitsPerOne_pos, hsign, bne_self_eq_false,
      signed_false]
  -- a number of the other sign is as far away as zero, or farther
  have hother : ∀ y : Binary64, y.negative ≠ x.negative →
      |y.value - signed x.negative (u / unitsPerOne)| = (magnitude y.code + u) / unitsPerOne := by
    intro y hsign
    rw [value, abs_signed_sub_signed _ _ _ _ unitsPerOne_pos, bne_iff_ne.2 hsign, signed_true,
      ← neg_add', abs_neg, abs_of_nonneg (by positivity)]
  constructor
  · intro y
    rw [hsame x rfl]
    by_cases hsign : y.negative = x.negative
    · rw [hsame y hsign, div_le_div_iff_of_pos_right unitsPerOne_pos]
      exact h.abs_sub_le y.code
    · rw [hother y hsign, div_le_div_iff_of_pos_right unitsPerOne_pos]
      exact (h.abs_sub_le_self hu).trans (le_add_of_nonneg_left (Nat.cast_nonneg _))
  · intro y htie hne
    rw [hsame x rfl] at htie
    by_cases hsign : y.negative = x.negative
    · rw [hsame y hsign, div_left_inj' unitsPerOne_pos.ne'] at htie
      have hcode : y.code ≠ x.code := by
        intro hcode
        rw [value, value, hsign, hcode] at hne
        exact hne rfl
      rcases h.abs_sub_lt_or_even hcode with hlt | ⟨-, heven⟩
      · exact absurd htie hlt.ne'
      · exact heven
    · -- a tie across zero has a zero on the other side, and is one with the zero on this side too
      rw [hother y hsign, div_left_inj' unitsPerOne_pos.ne'] at htie
      have hy : magnitude y.code = 0 := by
        have hle := h.abs_sub_le_self hu
        rw [← htie] at hle
        have hle' : (magnitude y.code : ℚ) ≤ 0 := by linarith
        exact Nat.le_zero.1 (by exact_mod_cast hle')
      by_cases hx : 0 = x.code
      · rw [← hx]
      · rcases h.abs_sub_lt_or_even hx with hlt | ⟨-, heven⟩
        · rw [← htie, hy, magnitude_zero, Nat.cast_zero, zero_sub, abs_neg, abs_of_nonneg hu,
            zero_add] at hlt
          exact absurd hlt (lt_irrefl u)
        · exact heven

/-! ## Decimals -/

/-- The code of a power of two. -/
theorem magnitude_two_pow {p n : Nat} (h : p + 52 = n + 1074) :
    magnitude ((p + 1) * 2 ^ 52) = 2 ^ n * unitsPerOne := by
  rw [Nat.succ_mul, magnitude_of_le (by omega) (.inr le_rfl), unitsPerOne, ← Nat.pow_add,
    ← Nat.pow_add, Nat.add_comm, h]

/-- What is rounded to a finite number is less than `2 ^ 1024`. -/
theorem Rounds.lt_of_finite {u : ℚ} {code : Nat} (h : Rounds u code)
    (hfinite : code < 2047 * 2 ^ 52) : u < 2 ^ 1024 * unitsPerOne := by
  have hlimit : magnitude (2047 * 2 ^ 52) = 2 ^ 1024 * unitsPerOne := magnitude_two_pow (by norm_num)
  have hnext : (magnitude (code + 1) : ℚ) ≤ magnitude (2047 * 2 ^ 52) := by
    exact_mod_cast strictMono_magnitude.monotone hfinite
  calc u ≤ midpoint code := h.le_upper
    _ < magnitude (code + 1) := midpoint_lt_magnitude code
    _ ≤ magnitude (2047 * 2 ^ 52) := hnext
    _ = 2 ^ 1024 * unitsPerOne := by rw [hlimit, Nat.cast_mul, Nat.cast_pow, Nat.cast_ofNat]

/-- What lies below half of the least positive magnitude is rounded to zero. -/
theorem rounds_zero_of_lt {u : ℚ} (h : u < 1 / 2) : Rounds u 0 := by
  have hmid : midpoint 0 = 1 / 2 := by
    rw [midpoint_eq, magnitude_zero, shift]
    norm_num
  exact ⟨by rw [hmid]; exact h.le, fun c hc => by omega, fun _ => rfl, fun c hc => by omega⟩

/-- A power of eight does not exceed the power of ten. -/
theorem two_pow_le_ten_pow {a b : Nat} (h : a ≤ 3 * b) : (2 : ℚ) ^ a ≤ 10 ^ b := by
  calc (2 : ℚ) ^ a ≤ 2 ^ (3 * b) := pow_le_pow_right₀ one_le_two h
    _ = 8 ^ b := by rw [pow_mul]; norm_num
    _ ≤ 10 ^ b := pow_le_pow_left₀ (by norm_num) (by norm_num) b

/-- A number is less than the power of ten with a third of its binary digits. -/
theorem lt_ten_pow_log2 (n : Nat) : (n : ℚ) < 10 ^ (n.log2 / 3 + 1) := by
  have hlt : (n : ℚ) < 2 ^ (n.log2 + 1) := by exact_mod_cast Nat.lt_log2_self
  exact hlt.trans_le (two_pow_le_ten_pow (by omega))

/-- A decimal with a large exponent is beyond the finite range. -/
theorem le_decimal_of_large {digits : Nat} {exponent : Int} (hdigits : digits ≠ 0)
    (hlarge : 400 < exponent) : (2 : ℚ) ^ 1024 ≤ digits * 10 ^ exponent := by
  have hone : (1 : ℚ) ≤ digits := by exact_mod_cast Nat.one_le_iff_ne_zero.2 hdigits
  calc (2 : ℚ) ^ 1024 ≤ 10 ^ 400 := two_pow_le_ten_pow (by norm_num)
    _ = 10 ^ (400 : Int) := (zpow_natCast 10 400).symm
    _ ≤ 10 ^ exponent := zpow_le_zpow_right₀ (by norm_num) hlarge.le
    _ ≤ digits * 10 ^ exponent := le_mul_of_one_le_left (by positivity) hone

/-- A decimal of small magnitude is below half of the least positive one. -/
theorem decimal_lt_of_small {digits : Nat} {exponent : Int}
    (hsmall : exponent + (digits.log2 : Int) / 3 + 1 < -400) :
    digits * 10 ^ exponent * unitsPerOne < (1 / 2 : ℚ) := by
  have hten : (0 : ℚ) < 10 ^ exponent := by positivity
  have hdigits : (digits : ℚ) < 10 ^ ((digits.log2 : Int) / 3 + 1) := by
    have h := lt_ten_pow_log2 digits
    rw [← zpow_natCast] at h
    push_cast at h
    exact h
  have hvalue : (digits * 10 ^ exponent : ℚ) < 10 ^ (-400 : Int) := by
    calc (digits * 10 ^ exponent : ℚ)
        < 10 ^ ((digits.log2 : Int) / 3 + 1) * 10 ^ exponent := by gcongr
      _ = 10 ^ ((digits.log2 : Int) / 3 + 1 + exponent) := (zpow_add₀ (by norm_num) _ _).symm
      _ ≤ 10 ^ (-400 : Int) := zpow_le_zpow_right₀ (by norm_num) (by omega)
  have hunits : (unitsPerOne : ℚ) * 2 ≤ 10 ^ (400 : Int) := by
    calc (unitsPerOne : ℚ) * 2 = 2 ^ 1075 := by rw [unitsPerOne_eq, ← pow_succ]
      _ ≤ 10 ^ 400 := two_pow_le_ten_pow (by norm_num)
      _ = 10 ^ (400 : Int) := (zpow_natCast 10 400).symm
  have hcancel : (10 : ℚ) ^ (-400 : Int) * 10 ^ (400 : Int) = 1 := by
    rw [← zpow_add₀ (by norm_num)]
    rfl
  calc (digits * 10 ^ exponent * unitsPerOne : ℚ)
      < 10 ^ (-400 : Int) * unitsPerOne := mul_lt_mul_of_pos_right hvalue unitsPerOne_pos
    _ ≤ 10 ^ (-400 : Int) * (10 ^ (400 : Int) / 2) := by
        have hhalf : (unitsPerOne : ℚ) ≤ 10 ^ (400 : Int) / 2 := by linarith
        gcongr
    _ = 1 / 2 := by rw [← mul_div_assoc, hcancel]

/-- **A decimal becomes the number of its sign whose code rounds its magnitude.** -/
theorem ofDecimal?_eq_some_iff {negative : Bool} {digits : Nat} {exponent : Int} {x : Binary64} :
    ofDecimal? negative digits exponent = some x ↔
      x.negative = negative ∧ Rounds (digits * 10 ^ exponent * unitsPerOne) x.code := by
  -- the numbers that are settled as zeros are those with the code zero
  have hzero : ∀ {u : ℚ}, Rounds u 0 →
      (some (zero negative) = some x ↔ x.negative = negative ∧ Rounds u x.code) := by
    intro u hu
    obtain ⟨sign, code, hfinite⟩ := x
    rw [Option.some.injEq, zero, mk.injEq]
    constructor
    · rintro ⟨rfl, rfl⟩
      exact ⟨rfl, hu⟩
    · rintro ⟨rfl, hcode⟩
      exact ⟨rfl, hu.unique hcode⟩
  rw [ofDecimal?]
  by_cases hdigits : digits = 0
  · rw [if_pos hdigits]
    refine hzero (rounds_zero_of_lt ?_)
    rw [hdigits, Nat.cast_zero, zero_mul, zero_mul]
    norm_num
  rw [if_neg hdigits]
  dsimp only
  by_cases hlarge : exponent > 400
  · rw [if_pos hlarge]
    constructor
    · intro h
      cases h
    · rintro ⟨-, hrounds⟩
      have hlt := hrounds.lt_of_finite x.finite
      have hle := mul_le_mul_of_nonneg_right (le_decimal_of_large hdigits hlarge)
        unitsPerOne_pos.le
      exact absurd hlt hle.not_gt
  rw [if_neg hlarge]
  by_cases hsmall : exponent + (digits.log2 : Int) / 3 + 1 < -400
  · rw [if_pos hsmall]
    exact hzero (rounds_zero_of_lt (decimal_lt_of_small hsmall))
  rw [if_neg hsmall]
  by_cases hsign : exponent ≥ 0
  · obtain ⟨k, rfl⟩ := Int.eq_ofNat_of_zero_le hsign
    rw [if_pos hsign, ofRatio?_eq_some_iff Nat.one_pos, Int.toNat_natCast]
    push_cast
    rw [div_one, zpow_natCast]
  · obtain ⟨k, rfl⟩ : ∃ k : Nat, exponent = -k := ⟨(-exponent).toNat, by omega⟩
    rw [if_neg hsign, ofRatio?_eq_some_iff (Nat.pow_pos (by norm_num)), neg_neg, Int.toNat_natCast]
    push_cast
    rw [zpow_neg, zpow_natCast, div_eq_mul_inv]

/-- The number that a decimal becomes is nearest to it. -/
theorem isNearest_of_ofDecimalText? {d : Decimal} {x : Binary64}
    (h : ofDecimalText? d = some x) : IsNearest d.value x := by
  obtain ⟨hsign, hrounds⟩ := ofDecimal?_eq_some_iff.1 h
  have hnearest := isNearest_of_rounds (by positivity) hrounds
  rwa [mul_div_assoc, div_self unitsPerOne_pos.ne', mul_one, hsign] at hnearest

end Binary64

end Dataflow
