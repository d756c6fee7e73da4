import Dataflow.Binary64.Printer
import Dataflow.Proofs.Binary64.Nearest

set_option autoImplicit false

/-! # The digits that are printed

The digits of a number are found by going down from a coarse grid of decimals to the first that
has a point in the interval of the number. A point in the interval is rounded to the number
(`Interval.rounds_of_holds`), so whatever is found reads back. That something is found at all
(`rounds_shortest`) rests on two facts: a grid whose step is less than half the distance to the
next number has a point in the interval (`isSome_gridPoint?`), and the grids that are tried come
down to such a step, for the first of them is chosen by a decimal approximation of the binary
exponent (`ten_zpow_le_two_zpow`).
-/

namespace Dataflow.Binary64

/-! ## The interval of a number -/

/-- Four times a midpoint is an integer, as intervals are measured in quarters of a unit. -/
theorem four_mul_midpoint (code : Nat) :
    (4 * midpoint code : ℚ) = (4 * magnitude code + 2 * 2 ^ shift code : Nat) := by
  rw [midpoint_eq]
  push_cast
  ring

theorem interval_high (code : Nat) : ((interval code).high : ℚ) = 4 * midpoint code := by
  have hhigh : (interval code).high = 4 * magnitude code + 2 * 2 ^ shift code := by
    show 4 * significand code * 2 ^ shift code + 2 * 2 ^ shift code = _
    rw [magnitude, Nat.mul_assoc]
  rw [four_mul_midpoint, hhigh]

/-- Below a power of two the numbers lie half as dense. -/
theorem two_mul_two_pow_shift (code : Nat) :
    2 * 2 ^ shift code =
      if (code + 1) % 2 ^ 52 = 0 ∧ 0 < shift (code + 1) then 2 ^ shift (code + 1)
      else 2 * 2 ^ shift (code + 1) := by
  by_cases h : (code + 1) % 2 ^ 52 = 0 ∧ 0 < shift (code + 1)
  · have hshift : shift (code + 1) = shift code + 1 := by
      obtain ⟨hdvd, hpos⟩ := h
      unfold shift at hpos ⊢
      omega
    rw [if_pos h, hshift, Nat.pow_succ, Nat.mul_comm]
  · have hshift : shift (code + 1) = shift code := by
      unfold shift at h ⊢
      omega
    rw [if_neg h, hshift]

theorem interval_low (code : Nat) : ((interval (code + 1)).low : ℚ) = 4 * midpoint code := by
  have hlow : (interval (code + 1)).low = 4 * magnitude (code + 1) - 2 * 2 ^ shift code := by
    rw [two_mul_two_pow_shift, magnitude, ← Nat.mul_assoc]
    rfl
  rw [four_mul_midpoint, hlow, magnitude_succ]
  congr 1
  omega

theorem interval_closed (code : Nat) : (interval code).closed = decide (code % 2 = 0) := rfl

/-- **A point in the interval of a number is rounded to it.** -/
theorem Interval.rounds_of_holds {code point scale : Nat} (hscale : 0 < scale)
    (h : (interval (code + 1)).holds point scale = true) :
    Rounds (point / (4 * scale) : ℚ) (code + 1) := by
  have hpos : (0 : ℚ) < 4 * scale := by exact_mod_cast Nat.mul_pos (by norm_num) hscale
  have hlow := interval_low code
  have hhigh := interval_high (code + 1)
  rw [holds, interval_closed] at h
  generalize interval (code + 1) = i at h hlow hhigh
  have hupper : (point / (4 * scale) : ℚ) ≤ midpoint (code + 1) ↔ point ≤ i.high * scale := by
    rw [div_le_iff₀ hpos, ← mul_assoc, mul_comm (midpoint _), ← hhigh]
    norm_cast
  have hupper' : (point / (4 * scale) : ℚ) = midpoint (code + 1) → i.high * scale ≤ point := by
    intro heq
    rw [div_eq_iff hpos.ne', ← mul_assoc, mul_comm (midpoint _), ← hhigh] at heq
    exact_mod_cast heq.ge
  have hlower : midpoint code ≤ (point / (4 * scale) : ℚ) ↔ i.low * scale ≤ point := by
    rw [le_div_iff₀ hpos, ← mul_assoc, mul_comm (midpoint _), ← hlow]
    norm_cast
  have hlower' : midpoint code = (point / (4 * scale) : ℚ) → point ≤ i.low * scale := by
    intro heq
    rw [eq_div_iff hpos.ne', ← mul_assoc, mul_comm (midpoint _), ← hlow] at heq
    exact_mod_cast heq.ge
  by_cases heven : (code + 1) % 2 = 0
  · rw [if_pos (decide_eq_true heven), decide_eq_true_iff] at h
    refine ⟨hupper.2 h.2, ?_, fun _ => heven, fun _ _ _ => heven⟩
    rintro c hc
    obtain rfl : c = code := by omega
    exact hlower.2 h.1
  · rw [if_neg (by simpa using heven), decide_eq_true_iff] at h
    refine ⟨hupper.2 h.2.le, ?_, fun heq => ?_, ?_⟩
    · rintro c hc
      obtain rfl : c = code := by omega
      exact hlower.2 h.1.le
    · exact absurd (hupper' heq) h.2.not_ge
    · rintro c hc heq
      obtain rfl : c = code := by omega
      exact absurd (hlower' heq) h.1.not_ge

/-! ## Points of a grid -/

/-- The step from one point of a grid to the next, in units of which `scale` make a quarter of
`2 ^ (-1074)`. -/
def gridStep (k : Int) : Nat := 2 ^ 1076 * 10 ^ k.toNat

/-- The units of a grid with a fractional step. -/
def gridScale (k : Int) : Nat := 10 ^ (-k).toNat

theorem gridStep_pos (k : Int) : 0 < gridStep k := by
  rw [gridStep]
  positivity

theorem gridScale_pos (k : Int) : 0 < gridScale k := Nat.pow_pos (by norm_num)

/-- What a grid offers is one of the two points next to the middle, if that lies in the
interval. -/
theorem Interval.gridPoint?_eq (i : Interval) (k : Int) :
    i.gridPoint? k =
      let d := i.mid * gridScale k / gridStep k
      let lower := i.holds (d * gridStep k) (gridScale k)
      let upper := i.holds ((d + 1) * gridStep k) (gridScale k)
      let below := i.mid * gridScale k - d * gridStep k
      let above := (d + 1) * gridStep k - i.mid * gridScale k
      if lower && upper then
        if below < above then some d
        else if above < below then some (d + 1)
        else some (if d % 2 = 0 then d else d + 1)
      else if lower then some d
      else if upper then some (d + 1)
      else none := rfl

theorem Interval.holds_of_gridPoint? {i : Interval} {k : Int} {d : Nat}
    (h : i.gridPoint? k = some d) : i.holds (d * gridStep k) (gridScale k) = true := by
  rw [gridPoint?_eq] at h
  generalize gridStep k = step at *
  generalize gridScale k = scale at *
  dsimp only at h
  generalize i.mid * scale / step = e at h
  cases hlower : i.holds (e * step) scale <;> cases hupper : i.holds ((e + 1) * step) scale <;>
    rw [hlower, hupper] at h
  · cases h
  · obtain rfl := Option.some.inj h
    exact hupper
  · obtain rfl := Option.some.inj h
    exact hlower
  · -- both points lie in the interval, and the one nearer to the middle is taken
    have hcases : d = e ∨ d = e + 1 := by
      simp only [Bool.and_self, if_true] at h
      split at h
      · exact .inl (Option.some.inj h).symm
      · split at h
        · exact .inr (Option.some.inj h).symm
        · split at h
          · exact .inl (Option.some.inj h).symm
          · exact .inr (Option.some.inj h).symm
    rcases hcases with rfl | rfl
    · exact hlower
    · exact hupper

/-- If the point above the middle lies in the interval, then the grid has a point. -/
theorem Interval.isSome_gridPoint?_of_holds {i : Interval} {k : Int}
    (h : i.holds ((i.mid * gridScale k / gridStep k + 1) * gridStep k) (gridScale k) = true) :
    (i.gridPoint? k).isSome := by
  rw [gridPoint?_eq]
  dsimp only
  rw [h]
  cases i.holds (i.mid * gridScale k / gridStep k * gridStep k) (gridScale k)
  · rfl
  · simp only [Bool.and_self, if_true]
    split
    · rfl
    · split <;> rfl

/-- A grid with a step of less than half the distance to the next number has a point in the
interval. -/
theorem isSome_gridPoint? {code : Nat} {k : Int}
    (h : gridStep k < 2 * 2 ^ shift code * gridScale k) (hcode : 0 < magnitude code) :
    ((interval code).gridPoint? k).isSome := by
  apply Interval.isSome_gridPoint?_of_holds
  -- the point above the middle is at most one step away from it, and the end is farther
  have hmid : (interval code).mid = 4 * magnitude code := Nat.mul_assoc _ _ _
  have hhigh : (interval code).high = (interval code).mid + 2 * 2 ^ shift code := rfl
  have hlow : (interval code).low < (interval code).mid := by
    have hbelow : 0 < if code % 2 ^ 52 = 0 ∧ 0 < shift code then 2 ^ shift code
        else 2 * 2 ^ shift code := by
      split <;> positivity
    have hmidPos : 0 < (interval code).mid := by omega
    exact Nat.sub_lt hmidPos hbelow
  have hscale := gridScale_pos k
  have hstep := gridStep_pos k
  generalize interval code = i at hhigh hlow ⊢
  generalize gridStep k = step at h hstep ⊢
  generalize gridScale k = scale at h hscale ⊢
  have hdiv : step * (i.mid * scale / step) + i.mid * scale % step = i.mid * scale :=
    Nat.div_add_mod _ _
  have hmod : i.mid * scale % step < step := Nat.mod_lt _ hstep
  have hpoint : (i.mid * scale / step + 1) * step = step * (i.mid * scale / step) + step := by
    ring
  have hlowScale : i.low * scale < i.mid * scale := Nat.mul_lt_mul_of_pos_right hlow hscale
  have hhighScale : i.high * scale = i.mid * scale + 2 * 2 ^ shift code * scale := by
    rw [hhigh]
    ring
  rw [Interval.holds, hpoint]
  split
  · rw [decide_eq_true_iff]
    omega
  · rw [decide_eq_true_iff]
    omega

/-! ## Going down to a point -/

/-- Going down finds a point if one of the grids on the way has one. -/
theorem Interval.gridPoint?_coarsest {i : Interval} {fuel : Nat} {k : Int} {j : Nat}
    (hj : j < fuel) (h : (i.gridPoint? (k - j)).isSome) :
    i.gridPoint? (i.coarsest fuel k).2 = some (i.coarsest fuel k).1 := by
  induction fuel generalizing k j with
  | zero => omega
  | succ fuel ih =>
      rw [coarsest]
      cases hpoint : i.gridPoint? k with
      | some d => exact hpoint
      | none =>
          dsimp only
          cases j with
          | zero =>
              rw [Nat.cast_zero, sub_zero, hpoint] at h
              cases h
          | succ j =>
              refine ih (k := k - 1) (j := j) (by omega) ?_
              rw [Nat.cast_succ, add_comm, ← sub_sub] at h
              exact h

/-! ## The decimal exponent to begin with -/

/-- Where a fraction is close to the logarithm of two, it makes a power of two into a power of ten
that is not larger than twice the former. -/
theorem ten_zpow_le_two_zpow_of {p q : Nat} (hq : 0 < q) (hten : 10 ^ p ≤ 2 ^ (q + 1))
    (htwo : 2 ^ q ≤ 10 ^ p) {a n : Int} (h : q * a ≤ p * n) (hn : n ≤ q) :
    (10 : ℚ) ^ a ≤ 2 ^ (n + 1) := by
  have hten' : (10 : ℚ) ^ p ≤ 2 ^ (q + 1) := by exact_mod_cast hten
  have htwo' : (2 : ℚ) ^ q ≤ 10 ^ p := by exact_mod_cast htwo
  have hbase : ((10 : ℚ) ^ p) ^ n ≤ 2 ^ (q * (n + 1) : Int) := by
    rcases Int.le_total 0 n with hpos | hneg
    · obtain ⟨m, rfl⟩ := Int.eq_ofNat_of_zero_le hpos
      calc ((10 : ℚ) ^ p) ^ (m : Int) = (10 ^ p) ^ m := zpow_natCast _ _
        _ ≤ (2 ^ (q + 1)) ^ m := pow_le_pow_left₀ (by positivity) hten' m
        _ = 2 ^ ((q + 1) * m : Int) := by
            rw [← pow_mul, ← zpow_natCast]
            push_cast
            rfl
        _ ≤ 2 ^ (q * (m + 1) : Int) := by
            refine zpow_le_zpow_right₀ (by norm_num) ?_
            have hexpand : (q * (m + 1) : Int) = q * m + q := by ring
            have hexpand' : ((q + 1) * m : Int) = q * m + m := by ring
            omega
    · obtain ⟨m, rfl⟩ : ∃ m : Nat, n = -m := ⟨n.natAbs, by omega⟩
      calc ((10 : ℚ) ^ p) ^ (-m : Int) = ((10 ^ p) ^ m)⁻¹ := by rw [zpow_neg, zpow_natCast]
        _ ≤ ((2 ^ q) ^ m)⁻¹ := by
            have hle : ((2 : ℚ) ^ q) ^ m ≤ (10 ^ p) ^ m :=
              pow_le_pow_left₀ (by positivity) htwo' m
            exact inv_anti₀ (by positivity) hle
        _ = 2 ^ (q * -m : Int) := by
            rw [← pow_mul, ← zpow_natCast, ← zpow_neg]
            push_cast
            rw [mul_neg]
        _ ≤ 2 ^ (q * (-m + 1) : Int) := by
            refine zpow_le_zpow_right₀ (by norm_num) ?_
            have hexpand : (q * (-m + 1) : Int) = q * -m + q := by ring
            omega
  have hpow : ((10 : ℚ) ^ a) ^ q ≤ (2 ^ (n + 1)) ^ q := by
    calc ((10 : ℚ) ^ a) ^ q = 10 ^ (q * a : Int) := by
          rw [← zpow_natCast, ← zpow_mul, mul_comm]
      _ ≤ 10 ^ (p * n : Int) := zpow_le_zpow_right₀ (by norm_num) h
      _ = (10 ^ p) ^ n := by rw [zpow_mul, zpow_natCast]
      _ ≤ 2 ^ (q * (n + 1) : Int) := hbase
      _ = (2 ^ (n + 1)) ^ q := by rw [← zpow_natCast, ← zpow_mul, mul_comm]
  exact (pow_le_pow_iff_left₀ (by positivity) (by positivity) hq.ne').1 hpow

theorem ten_zpow_le_two_zpow {a n : Int} (h : 100000 * a ≤ 30103 * n) (hn : n ≤ 100000) :
    (10 : ℚ) ^ a ≤ 2 ^ (n + 1) := by
  have hten : 10 ^ 30103 ≤ 2 ^ (100000 + 1) := by decide +kernel
  have htwo : 2 ^ 100000 ≤ 10 ^ 30103 := by decide +kernel
  exact ten_zpow_le_two_zpow_of (by norm_num) hten htwo h hn

/-! ## The digits -/

theorem zpow_mul_gridScale (k : Int) : (10 : ℚ) ^ k * gridScale k = 10 ^ k.toNat := by
  rw [gridScale]
  push_cast
  rcases Int.le_total 0 k with hpos | hneg
  · rw [Int.toNat_of_nonpos (by omega : -k ≤ 0), pow_zero, mul_one, ← zpow_natCast,
      Int.toNat_of_nonneg hpos]
  · rw [Int.toNat_of_nonpos hneg, pow_zero, ← zpow_natCast, Int.toNat_of_nonneg (by omega),
      ← zpow_add₀ (by norm_num), add_neg_cancel, zpow_zero]

theorem four_mul_unitsPerOne : (4 * unitsPerOne : ℚ) = 2 ^ (1076 : Int) := by
  have hone : (unitsPerOne : ℚ) = 2 ^ (1074 : Int) := by
    rw [unitsPerOne_eq, ← zpow_natCast, Nat.cast_ofNat]
  calc (4 * unitsPerOne : ℚ) = 2 ^ (2 : Int) * 2 ^ (1074 : Int) := by
        rw [hone]
        norm_num
    _ = 2 ^ (1076 : Int) := by rw [← zpow_add₀ (by norm_num)]; norm_num

theorem gridStep_eq (k : Int) :
    (gridStep k : ℚ) = 4 * unitsPerOne * 10 ^ k * gridScale k := by
  rw [four_mul_unitsPerOne, mul_assoc, zpow_mul_gridScale, gridStep, Nat.cast_mul, Nat.cast_pow,
    Nat.cast_pow, Nat.cast_ofNat, Nat.cast_ofNat, ← zpow_natCast (2 : ℚ), Nat.cast_ofNat]

/-- A point of a grid, as a number of units. -/
theorem gridPoint_eq (d : Nat) (k : Int) :
    ((d * gridStep k : Nat) / (4 * gridScale k) : ℚ) = d * 10 ^ k * unitsPerOne := by
  have hscale : (gridScale k : ℚ) ≠ 0 := by exact_mod_cast (gridScale_pos k).ne'
  rw [Nat.cast_mul, gridStep_eq]
  generalize (unitsPerOne : ℚ) = u
  field_simp

/-- The grid from which the search goes down. -/
def firstGrid (code : Nat) : Int :=
  (((magnitude code).log2 : Int) - 1074 + 1) * 30103 / 100000 + 2

theorem shortest_eq (code : Nat) :
    shortest code = (interval code).coarsest 22 (firstGrid code) := rfl

/-- The last grid that is tried is fine enough. -/
theorem gridStep_lt {code : Nat} (hcode : 0 < magnitude code) (hfinite : code < 2047 * 2 ^ 52) :
    gridStep (firstGrid code - 21) < 2 * 2 ^ shift code * gridScale (firstGrid code - 21) := by
  have hlog : (magnitude code).log2 ≤ 52 + shift code := by
    refine Nat.le_of_lt_succ ((Nat.log2_lt hcode.ne').2 ?_)
    calc magnitude code < 2 ^ 53 * 2 ^ shift code :=
          Nat.mul_lt_mul_of_pos_right (significand_lt code) (Nat.two_pow_pos _)
      _ = 2 ^ (52 + shift code + 1) := by
          rw [← Nat.pow_add]
          congr 1
          omega
  have hshift : shift code ≤ 2045 := by
    unfold shift
    omega
  -- `a` is the power of ten for the binary exponent `n`, and the search ends nineteen below it
  obtain ⟨n, hn⟩ : ∃ n : Int, n = ((magnitude code).log2 : Int) - 1074 + 1 := ⟨_, rfl⟩
  obtain ⟨a, ha⟩ : ∃ a : Int, a = n * 30103 / 100000 := ⟨_, rfl⟩
  have hlast : firstGrid code - 21 = a - 19 := by
    rw [firstGrid, ← hn, ← ha]
    ring
  have hten : (10 : ℚ) ^ a ≤ 2 ^ (n + 1) := ten_zpow_le_two_zpow (by omega) (by omega)
  have hscale : (0 : ℚ) < gridScale (a - 19) := by exact_mod_cast gridScale_pos _
  have hstep : (4 * unitsPerOne * 10 ^ (a - 19) : ℚ) < 2 * 2 ^ shift code := by
    have hexponent : n + 1077 ≤ (shift code : Int) + 56 := by omega
    calc (4 * unitsPerOne * 10 ^ (a - 19) : ℚ)
        = 2 ^ (1076 : Int) * 10 ^ a / 10 ^ (19 : Int) := by
          rw [four_mul_unitsPerOne, zpow_sub₀ (by norm_num), mul_div_assoc]
      _ ≤ 2 ^ (1076 : Int) * 2 ^ (n + 1) / 10 ^ (19 : Int) := by gcongr
      _ = 2 ^ (n + 1077) / 10 ^ (19 : Int) := by
          rw [← zpow_add₀ (by norm_num)]
          congr 2
          ring
      _ ≤ 2 ^ ((shift code : Int) + 56) / 10 ^ (19 : Int) := by
          have hpower : (2 : ℚ) ^ (n + 1077) ≤ 2 ^ ((shift code : Int) + 56) :=
            zpow_le_zpow_right₀ (by norm_num) hexponent
          gcongr
      _ = 2 ^ shift code * (2 ^ 56 / 10 ^ 19) := by
          rw [zpow_add₀ (by norm_num), zpow_natCast, mul_div_assoc]
          norm_num
      _ < 2 ^ shift code * 2 := by
          gcongr
          norm_num
      _ = 2 * 2 ^ shift code := mul_comm _ _
  rw [hlast]
  have hcast : (gridStep (a - 19) : ℚ) < 2 * 2 ^ shift code * gridScale (a - 19) := by
    rw [gridStep_eq]
    exact mul_lt_mul_of_pos_right hstep hscale
  exact_mod_cast hcast

/-- **The digits that are printed are rounded to the number.** -/
theorem rounds_shortest {code : Nat} (hcode : code ≠ 0) (hfinite : code < 2047 * 2 ^ 52) :
    Rounds ((shortest code).1 * 10 ^ (shortest code).2 * unitsPerOne) code := by
  have hpos : 0 < magnitude code := by
    rw [← magnitude_zero]
    exact strictMono_magnitude (Nat.pos_of_ne_zero hcode)
  have hfound : (interval code).gridPoint? (shortest code).2 = some (shortest code).1 := by
    rw [shortest_eq]
    exact Interval.gridPoint?_coarsest (by norm_num)
      (isSome_gridPoint? (gridStep_lt hpos hfinite) hpos)
  obtain ⟨c, rfl⟩ := Nat.exists_eq_succ_of_ne_zero hcode
  have hrounds := Interval.rounds_of_holds (gridScale_pos _) (Interval.holds_of_gridPoint? hfound)
  rwa [gridPoint_eq] at hrounds

end Dataflow.Binary64
