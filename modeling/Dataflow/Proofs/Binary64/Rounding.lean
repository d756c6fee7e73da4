import Dataflow.Binary64.Basic
import Mathlib.Tactic

set_option autoImplicit false

/-! # Rounding to the nearest magnitude

The magnitudes of codes are a strictly ascending scale (`strictMono_magnitude`), and half-way
between two neighbours of it lies a `midpoint`. A magnitude stands for everything between the
midpoints on its two sides, and for a midpoint itself if its code is even (`Rounds`). No two
codes round the same number (`Rounds.unique`), and `nearestCode` finds the one that does
(`nearestCode_eq_iff`).

Numbers are counted in units of `2 ^ (-1074)`, the least positive magnitude, as `magnitude`
does.
-/

namespace Dataflow.Binary64

/-! ## The scale of magnitudes -/

/-- The magnitude of a code, as a multiple of `2 ^ (-1074)`. -/
def magnitude (code : Nat) : Nat := significand code * 2 ^ shift code

theorem scaled_eq (x : Binary64) : x.scaled = magnitude x.code := rfl

/-- A code is put together from its exponent and its significand. -/
theorem code_eq (code : Nat) : code = shift code * 2 ^ 52 + significand code := by
  unfold shift significand
  split <;> omega

theorem significand_lt (code : Nat) : significand code < 2 ^ 53 := by
  unfold significand
  split <;> omega

/-- Only the least exponent has significands without a leading bit. -/
theorem shift_eq_zero_or_le_significand (code : Nat) :
    shift code = 0 ∨ 2 ^ 52 ≤ significand code := by
  unfold shift significand
  split <;> omega

section Assembled

variable {p m : Nat}

theorem shift_of_lt (hm : m < 2 ^ 53) (hp : p = 0 ∨ 2 ^ 52 ≤ m) : shift (p * 2 ^ 52 + m) = p := by
  unfold shift
  omega

theorem significand_of_lt (hm : m < 2 ^ 53) (hp : p = 0 ∨ 2 ^ 52 ≤ m) :
    significand (p * 2 ^ 52 + m) = m := by
  unfold significand
  split <;> omega

theorem shift_of_carry : shift (p * 2 ^ 52 + 2 ^ 53) = p + 1 := by
  unfold shift
  omega

theorem le_shift (hm : m ≤ 2 ^ 53) (hp : p = 0 ∨ 2 ^ 52 ≤ m) : p ≤ shift (p * 2 ^ 52 + m) := by
  unfold shift
  omega

/-- A significand of one bit too many carries into the exponent, to the same magnitude. -/
theorem magnitude_of_le (hm : m ≤ 2 ^ 53) (hp : p = 0 ∨ 2 ^ 52 ≤ m) :
    magnitude (p * 2 ^ 52 + m) = m * 2 ^ p := by
  unfold magnitude
  rcases Nat.lt_or_eq_of_le hm with hlt | rfl
  · rw [shift_of_lt hlt hp, significand_of_lt hlt hp]
  · have hsignificand : significand (p * 2 ^ 52 + 2 ^ 53) = 2 ^ 52 := by
      unfold significand
      split <;> omega
    rw [shift_of_carry, hsignificand, Nat.pow_succ 2 p]
    omega

end Assembled

/-- From one magnitude to the next it is one unit of the exponent. -/
theorem magnitude_succ (code : Nat) : magnitude (code + 1) = magnitude code + 2 ^ shift code := by
  have hnext : code + 1 = shift code * 2 ^ 52 + (significand code + 1) := by
    have := code_eq code
    omega
  have hm : significand code + 1 ≤ 2 ^ 53 := significand_lt code
  have hp : shift code = 0 ∨ 2 ^ 52 ≤ significand code + 1 := by
    have := shift_eq_zero_or_le_significand code
    omega
  calc magnitude (code + 1)
      = magnitude (shift code * 2 ^ 52 + (significand code + 1)) := by rw [← hnext]
    _ = (significand code + 1) * 2 ^ shift code := magnitude_of_le hm hp
    _ = magnitude code + 2 ^ shift code := by rw [magnitude, Nat.add_mul, Nat.one_mul]

theorem strictMono_magnitude : StrictMono magnitude := by
  refine strictMono_nat_of_lt_succ fun code => ?_
  have hunit : 0 < 2 ^ shift code := Nat.two_pow_pos _
  rw [magnitude_succ]
  omega

/-- How many units make one. -/
def unitsPerOne : Nat := 2 ^ 1074

theorem magnitude_zero : magnitude 0 = 0 := by
  rw [magnitude, significand, if_pos (by omega), Nat.zero_mul]

/-! ## Midpoints -/

/-- Half-way from a magnitude to the next. -/
def midpoint (code : Nat) : ℚ := ((magnitude code : ℚ) + magnitude (code + 1)) / 2

theorem midpoint_eq (code : Nat) : midpoint code = magnitude code + 2 ^ shift code / 2 := by
  rw [midpoint, magnitude_succ]
  push_cast
  ring

theorem magnitude_lt_midpoint (code : Nat) : (magnitude code : ℚ) < midpoint code := by
  have hunit : (0 : ℚ) < 2 ^ shift code := by positivity
  rw [midpoint_eq]
  linarith

theorem midpoint_lt_magnitude (code : Nat) : midpoint code < magnitude (code + 1) := by
  have hlt : (magnitude code : ℚ) < magnitude (code + 1) := by
    exact_mod_cast strictMono_magnitude (Nat.lt_succ_self code)
  rw [midpoint]
  linarith

theorem strictMono_midpoint : StrictMono midpoint :=
  strictMono_nat_of_lt_succ fun code =>
    (midpoint_lt_magnitude code).trans (magnitude_lt_midpoint (code + 1))

/-! ## Which code rounds a number -/

/-- A code rounds a number: the number lies between the midpoints on both sides, and on one of
them only if the code is even. -/
structure Rounds (u : ℚ) (code : Nat) : Prop where
  le_upper : u ≤ midpoint code
  lower_le : ∀ c, code = c + 1 → midpoint c ≤ u
  even_of_upper : u = midpoint code → code % 2 = 0
  even_of_lower : ∀ c, code = c + 1 → midpoint c = u → code % 2 = 0

theorem rounds_magnitude (code : Nat) : Rounds (magnitude code) code where
  le_upper := (magnitude_lt_midpoint code).le
  lower_le c h := h ▸ (midpoint_lt_magnitude c).le
  even_of_upper h := absurd h (magnitude_lt_midpoint code).ne
  even_of_lower c h htie := absurd htie (h ▸ (midpoint_lt_magnitude c).ne)

namespace Rounds

variable {u u' : ℚ} {code code' : Nat}

/-- Rounding keeps the order of numbers. -/
theorem mono (h : Rounds u code) (h' : Rounds u' code') (hle : u ≤ u') : code ≤ code' := by
  by_contra hlt
  obtain ⟨c, rfl⟩ : ∃ c, code = c + 1 := ⟨code - 1, by omega⟩
  have hcode' : code' ≤ c := by omega
  have hmidpoints : midpoint code' ≤ midpoint c := strictMono_midpoint.monotone hcode'
  -- all of the chain are equal, so that both codes are even, and yet they are neighbours
  have hlower : midpoint c ≤ u := h.lower_le c rfl
  have hupper : u' ≤ midpoint code' := h'.le_upper
  have hsame : code' = c := strictMono_midpoint.injective (by linarith)
  have heven : (c + 1) % 2 = 0 := h.even_of_lower c rfl (by linarith)
  have heven' : code' % 2 = 0 := h'.even_of_upper (by linarith)
  omega

theorem unique (h : Rounds u code) (h' : Rounds u code') : code = code' :=
  Nat.le_antisymm (h.mono h' le_rfl) (h'.mono h le_rfl)

/-- A magnitude is rounded to itself. -/
theorem eq_of_magnitude (h : Rounds (magnitude code) code') : code' = code :=
  h.unique (rounds_magnitude code)

/-- A number is rounded below an even code if it lies below the midpoint before that code. -/
theorem lt_iff {c : Nat} (h : Rounds u code) (heven : (c + 1) % 2 = 0) :
    code < c + 1 ↔ u < midpoint c := by
  constructor
  · intro hlt
    refine lt_of_le_of_ne (h.le_upper.trans (strictMono_midpoint.monotone (by omega))) ?_
    intro htie
    -- on the midpoint itself the code would be the odd one below it, and even
    have hcode : code = c := by
      by_contra hne
      have : midpoint code < midpoint c := strictMono_midpoint (by omega)
      linarith [h.le_upper]
    have := h.even_of_upper (hcode ▸ htie)
    omega
  · intro hlt
    by_contra hge
    obtain ⟨b, rfl⟩ : ∃ b, code = b + 1 := ⟨code - 1, by omega⟩
    have hmidpoints : midpoint c ≤ midpoint b := strictMono_midpoint.monotone (by omega)
    linarith [h.lower_le b rfl]

end Rounds

/-! ## The nearest code -/

/-- Rounding to an integer leaves an error of a half at most, and of a half only for an even
result. -/
theorem roundHalfEven_spec (num : Nat) {den : Nat} (hden : 0 < den) :
    2 * num ≤ (2 * roundHalfEven num den + 1) * den ∧
      2 * roundHalfEven num den * den ≤ 2 * num + den ∧
      (2 * num = (2 * roundHalfEven num den + 1) * den → roundHalfEven num den % 2 = 0) ∧
      (2 * roundHalfEven num den * den = 2 * num + den → roundHalfEven num den % 2 = 0) := by
  have hdiv : num = num / den * den + num % den := by
    rw [Nat.mul_comm]
    exact (Nat.div_add_mod num den).symm
  have hmod : num % den < den := Nat.mod_lt _ hden
  unfold roundHalfEven
  generalize num / den = q at *
  generalize num % den = r at *
  have hsucc : 2 * (q + 1) * den = 2 * (q * den) + 2 * den := by ring
  have hsame : 2 * q * den = 2 * (q * den) := by ring
  simp only [Nat.add_mul, Nat.one_mul]
  split
  · omega
  · split
    · omega
    · split <;> omega

theorem roundHalfEven_bounds (num den : Nat) :
    num / den ≤ roundHalfEven num den ∧ roundHalfEven num den ≤ num / den + 1 := by
  simp only [roundHalfEven]
  split
  · omega
  · split
    · omega
    · split <;> omega

/-- The exponent of the nearest code leaves a significand of the right size. -/
theorem exponent_spec (q : Nat) :
    let p := if q < 2 ^ 53 then 0 else q.log2 - 52
    q / 2 ^ p < 2 ^ 53 ∧ (p = 0 ∨ 2 ^ 52 ≤ q / 2 ^ p) := by
  intro p
  by_cases hq : q < 2 ^ 53
  · have hp : p = 0 := if_pos hq
    rw [hp, Nat.pow_zero, Nat.div_one]
    exact ⟨hq, .inl rfl⟩
  · have hp : p = q.log2 - 52 := if_neg hq
    have hpos : q ≠ 0 := by omega
    have hlog : 53 ≤ q.log2 := (Nat.le_log2 hpos).2 (by omega)
    have hlow : 2 ^ 52 * 2 ^ p ≤ q := by
      rw [← Nat.pow_add, show 52 + p = q.log2 by omega]
      exact Nat.log2_self_le hpos
    have hhigh : q < 2 ^ 53 * 2 ^ p := by
      rw [← Nat.pow_add, show 53 + p = q.log2 + 1 by omega]
      exact Nat.lt_log2_self
    exact ⟨(Nat.div_lt_iff_lt_mul (Nat.two_pow_pos p)).2 hhigh,
      .inr ((Nat.le_div_iff_mul_le (Nat.two_pow_pos p)).2 hlow)⟩

/-- A significand that is rounded for an exponent makes a code that rounds. -/
theorem rounds_of_significand {u : ℚ} {p m : Nat} (hm : m ≤ 2 ^ 53) (hp : p = 0 ∨ 2 ^ 52 ≤ m)
    (hupper : u ≤ (m + 1 / 2) * 2 ^ p) (hlower : (m - 1 / 2) * 2 ^ p ≤ u)
    (hupperEven : u = (m + 1 / 2) * 2 ^ p → m % 2 = 0)
    (hlowerEven : (m - 1 / 2) * 2 ^ p = u → m % 2 = 0)
    (hleast : p = 0 ∨ 2 ^ 52 * 2 ^ p ≤ u) : Rounds u (p * 2 ^ 52 + m) := by
  have hmagnitude : (magnitude (p * 2 ^ 52 + m) : ℚ) = m * 2 ^ p := by
    rw [magnitude_of_le hm hp]
    push_cast
    rfl
  have hunits : (2 : ℚ) ^ p ≤ 2 ^ shift (p * 2 ^ 52 + m) :=
    pow_le_pow_right₀ one_le_two (le_shift hm hp)
  generalize hcode : p * 2 ^ 52 + m = code at hmagnitude hunits ⊢
  have hmidpoint : midpoint code = m * 2 ^ p + 2 ^ shift code / 2 := by
    rw [midpoint_eq, hmagnitude]
  have heven : m % 2 = 0 → code % 2 = 0 := by omega
  -- the number before has the same exponent, unless the significand is the least one of its own
  have hbelow : ∀ c, code = c + 1 →
      midpoint c = (m - 1 / 2) * 2 ^ p ∨ midpoint c < m * 2 ^ p ∧ (m : ℚ) * 2 ^ p ≤ u := by
    intro c hc
    by_cases hsame : p = 0 ∨ 2 ^ 52 < m
    · left
      have hc' : c = p * 2 ^ 52 + (m - 1) := by omega
      have hone : ((m - 1 : Nat) : ℚ) = m - 1 := by
        rw [Nat.cast_sub (by omega), Nat.cast_one]
      have hbefore : (magnitude c : ℚ) = (m - 1) * 2 ^ p := by
        rw [hc', magnitude_of_le (by omega) (by omega)]
        push_cast
        rw [hone]
      rw [midpoint, ← hc, hbefore, hmagnitude]
      ring
    · right
      have hleastM : m = 2 ^ 52 := by omega
      constructor
      · rw [← hmagnitude, hc]
        exact midpoint_lt_magnitude c
      · rw [hleastM]
        push_cast
        exact hleast.resolve_left (by omega)
  refine ⟨?_, fun c hc => ?_, fun htie => ?_, fun c hc htie => ?_⟩
  · rw [hmidpoint]
    linarith
  · rcases hbelow c hc with h | ⟨h, hu⟩
    · rw [h]
      exact hlower
    · linarith
  · rw [hmidpoint] at htie
    exact heven (hupperEven (by linarith))
  · rcases hbelow c hc with h | ⟨h, hu⟩
    · exact heven (hlowerEven (h ▸ htie))
    · linarith

/-- Rounding a quotient for an exponent under which it has a significand of the right size. -/
theorem rounds_quotient {num den p : Nat} (hden : 0 < den) (hhigh : num / (den * 2 ^ p) < 2 ^ 53)
    (hlow : p = 0 ∨ 2 ^ 52 ≤ num / (den * 2 ^ p)) :
    Rounds ((num : ℚ) / den) (p * 2 ^ 52 + roundHalfEven num (den * 2 ^ p)) := by
  have hunit : 0 < den * 2 ^ p := Nat.mul_pos hden (Nat.two_pow_pos p)
  obtain ⟨hupper, hlower, hupperEven, hlowerEven⟩ := roundHalfEven_spec num hunit
  obtain ⟨hfloor, hceil⟩ := roundHalfEven_bounds num (den * 2 ^ p)
  generalize roundHalfEven num (den * 2 ^ p) = m at *
  have hden' : (0 : ℚ) < den := by exact_mod_cast hden
  have hupper' : (2 * num : ℚ) ≤ (2 * m + 1) * (den * 2 ^ p) := by exact_mod_cast hupper
  have hlower' : (2 * m * (den * 2 ^ p) : ℚ) ≤ 2 * num + den * 2 ^ p := by
    exact_mod_cast hlower
  refine rounds_of_significand (by omega) (by omega) ?_ ?_ (fun htie => hupperEven ?_)
    (fun htie => hlowerEven ?_) ?_
  · rw [div_le_iff₀ hden']
    linarith
  · rw [le_div_iff₀ hden']
    linarith
  · rw [div_eq_iff hden'.ne'] at htie
    have : (2 * num : ℚ) = (2 * m + 1) * (den * 2 ^ p) := by rw [htie]; ring
    exact_mod_cast this
  · rw [eq_div_iff hden'.ne'] at htie
    have : (2 * m * (den * 2 ^ p) : ℚ) = 2 * num + den * 2 ^ p := by rw [← htie]; ring
    exact_mod_cast this
  · refine hlow.imp_right fun hle => ?_
    have hmul : 2 ^ 52 * (den * 2 ^ p) ≤ num := (Nat.le_div_iff_mul_le hunit).1 hle
    have hmul' : ((2 : ℚ) ^ 52 * (den * 2 ^ p)) ≤ num := by exact_mod_cast hmul
    rw [le_div_iff₀ hden']
    linarith

/-- **The nearest code rounds.** -/
theorem rounds_nearestCode (num : Nat) {den : Nat} (hden : 0 < den) :
    Rounds ((num : ℚ) / den * unitsPerOne) (nearestCode num den) := by
  have hunits : (num : ℚ) / den * unitsPerOne = ((num * 2 ^ 1074 : Nat) : ℚ) / den := by
    rw [Nat.cast_mul, unitsPerOne, div_mul_eq_mul_div]
  obtain ⟨hhigh, hlow⟩ := exponent_spec (num * 2 ^ 1074 / den)
  rw [Nat.div_div_eq_div_mul] at hhigh hlow
  rw [hunits]
  exact rounds_quotient hden hhigh hlow

/-- The nearest code is the one that rounds. -/
theorem nearestCode_eq_iff {num den code : Nat} (hden : 0 < den) :
    nearestCode num den = code ↔ Rounds ((num : ℚ) / den * unitsPerOne) code := by
  constructor
  · rintro rfl
    exact rounds_nearestCode num hden
  · exact (rounds_nearestCode num hden).unique

/-- A quotient becomes the number of its sign whose code rounds its magnitude. -/
theorem ofRatio?_eq_some_iff {negative : Bool} {num den : Nat} {x : Binary64} (hden : 0 < den) :
    ofRatio? negative num den = some x ↔
      x.negative = negative ∧ Rounds ((num : ℚ) / den * unitsPerOne) x.code := by
  rw [← nearestCode_eq_iff hden, ofRatio?]
  generalize nearestCode num den = code
  obtain ⟨sign, own, hfinite⟩ := x
  constructor
  · intro h
    split at h
    · cases h
      exact ⟨rfl, rfl⟩
    · cases h
  · rintro ⟨rfl, rfl⟩
    exact dif_pos hfinite

end Dataflow.Binary64
