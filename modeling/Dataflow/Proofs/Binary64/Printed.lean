import Dataflow.Proofs.Binary64.Numeral
import Dataflow.Proofs.Binary64.Shortest

set_option autoImplicit false

/-! # Printed numbers read back

The text of a floating-point number is that of a numeral (`exists_numeral_toChars`), with a point
or a power of ten, so that nobody takes it for an integer. However the digits are laid out, the
numeral stands for what the digits and their exponent say (`Lays`), and that is rounded to the
number, whatever it is.
-/

namespace Dataflow

/-! ## Digits -/

namespace Decimal

theorem isDigit_of_mem_repr {n : Nat} {c : Char} (h : c ∈ (Nat.repr n).toList) :
    isDigit c = true := by
  rw [Nat.toList_repr] at h
  have hdigit := Nat.isDigit_of_mem_toDigits (by norm_num) (by norm_num) h
  rw [Char.isDigit, Bool.and_eq_true, decide_eq_true_iff, decide_eq_true_iff] at hdigit
  rw [isDigit, decide_eq_true_iff]
  exact hdigit

/-- The digits of a number. -/
def digitsOf (n : Nat) : Digits := ⟨(Nat.repr n).toList, fun _ h => isDigit_of_mem_repr h⟩

theorem digitsOf_ne_nil (n : Nat) : (digitsOf n).1 ≠ [] := by
  show (Nat.repr n).toList ≠ []
  rw [Nat.toList_repr]
  exact Nat.toDigits_ne_nil

@[simp] theorem valueOf_digitsOf (n : Nat) : valueOf (digitsOf n).1 = n := by
  rw [valueOf_eq]
  show Nat.ofDigitChars 10 (Nat.repr n).toList 0 = n
  rw [Nat.toList_repr, Nat.ofDigitChars_ten_toDigits]

/-- Zeros, as many as one likes. -/
def zeros (n : Nat) : Digits :=
  ⟨List.replicate n '0', fun c hc => by rw [List.eq_of_mem_replicate hc]; decide⟩

@[simp] theorem valueOf_zeros (n : Nat) : valueOf (zeros n).1 = 0 := by
  rw [valueOf_eq]
  show Nat.ofDigitChars 10 (List.replicate n '0') 0 = 0
  rw [Nat.ofDigitChars_replicate_zero, Nat.mul_zero]

end Decimal

/-- Digits one after the other. -/
def Digits.append (ds ds' : Digits) : Digits :=
  ⟨ds.1 ++ ds'.1, fun c hc => (List.mem_append.1 hc).elim (ds.2 c) (ds'.2 c)⟩

namespace Numeral

open Decimal

/-- What an unsigned numeral stands for, as it is read. -/
theorem value_of_absent {t : Numeral} (h : t.sign = .absent) :
    t.value = valueOf (t.whole.1 ++ digitsOf t.fraction) *
      10 ^ (exponentOf t.power - (digitsOf t.fraction).length) := by
  rw [← t.value_decimal, Decimal.value, decimal, h]
  rfl

end Numeral

namespace Binary64

open Decimal

/-! ## Layouts -/

/-- A text is that of an unsigned numeral with a point or a power of ten, and stands for a
number. -/
structure Lays (cs : List Char) (u : ℚ) (t : Numeral) : Prop where
  chars : t.chars = cs
  unsigned : t.sign = .absent
  notInteger : ¬ t.IsInteger
  letter : ∀ p, t.power = some p → p.letter = 'e'
  value : t.value = u

/-- Digits with a point among them. -/
theorem exists_lays_point (whole : Digits) (h : whole.1 ≠ []) (fraction : Digits) :
    ∃ t, Lays (whole.1 ++ '.' :: fraction.1)
      (valueOf (whole.1 ++ fraction.1) * 10 ^ (-(fraction.1.length : Int))) t := by
  refine ⟨⟨.absent, whole, some fraction, none, .inl h⟩, ?_, rfl, ?_, ?_, ?_⟩
  · show whole.1 ++ ('.' :: fraction.1 ++ []) = _
    rw [List.append_nil]
  · rintro ⟨hfraction, -⟩
    cases hfraction
  · rintro p ⟨⟩
  · rw [Numeral.value_of_absent rfl]
    show (valueOf (whole.1 ++ fraction.1) * 10 ^ (0 - (fraction.1.length : Int)) : ℚ) = _
    rw [zero_sub]

/-- Digits in front of a power of ten, with or without a point among them. -/
theorem exists_lays_power (whole : Digits) (h : whole.1 ≠ []) (fraction : Option Digits)
    (sign : Sign) (n : Nat) :
    ∃ t, Lays (whole.1 ++ (Numeral.pointChars fraction ++
        'e' :: (sign.chars ++ (Decimal.digitsOf n).1)))
      (valueOf (whole.1 ++ Numeral.digitsOf fraction) *
        10 ^ (sign.apply n - (Numeral.digitsOf fraction).length)) t := by
  let p : PowerOfTen := ⟨'e', sign, Decimal.digitsOf n, .inl rfl, digitsOf_ne_nil n⟩
  have hexponent : p.exponent = sign.apply n := by
    rw [PowerOfTen.exponent]
    show sign.apply (valueOf (Decimal.digitsOf n).1) = sign.apply n
    rw [valueOf_digitsOf]
  refine ⟨⟨.absent, whole, fraction, some p, .inl h⟩, rfl, rfl, ?_, ?_, ?_⟩
  · rintro ⟨-, hpower⟩
    cases hpower
  · rintro _ ⟨⟩
    rfl
  · rw [Numeral.value_of_absent rfl, ← hexponent]
    rfl

theorem valueOf_append_zeros (ds : Digits) (n : Nat) :
    valueOf (ds.1 ++ (zeros n).1) = valueOf ds.1 * 10 ^ n := by
  rw [valueOf_append, valueOf_zeros, Nat.add_zero]
  show valueOf ds.1 * 10 ^ (List.replicate n '0').length = _
  rw [List.length_replicate]

theorem valueOf_zeros_append (n : Nat) (ds : List Char) :
    valueOf ((zeros n).1 ++ ds) = valueOf ds := by
  rw [valueOf_append, valueOf_zeros, Nat.zero_mul, Nat.zero_add]

theorem exists_lays_positional {ds : Digits} (hds : ds.1 ≠ []) (e : Int) :
    ∃ t, Lays (positional ds.1 e) (valueOf ds.1 * 10 ^ (e + 1 - ds.1.length)) t := by
  have hlength : 0 < ds.1.length := List.length_pos_iff.2 hds
  rw [positional]
  by_cases hneg : e < 0
  · -- zeros stand between the point and the digits
    obtain ⟨t, ht⟩ := exists_lays_point (zeros 1) (by simp [zeros])
      ((zeros ((-e).toNat - 1)).append ds)
    rw [if_pos hneg]
    refine ⟨t, ht.chars, ht.unsigned, ht.notInteger, ht.letter, ?_⟩
    have hdigits : valueOf ((zeros 1).1 ++ ((zeros ((-e).toNat - 1)).append ds).1) =
        valueOf ds.1 := by
      rw [valueOf_zeros_append]
      exact valueOf_zeros_append _ ds.1
    have hexponent : -((((zeros ((-e).toNat - 1)).append ds).1.length : Nat) : Int) =
        e + 1 - ds.1.length := by
      have hcount : ((zeros ((-e).toNat - 1)).append ds).1.length =
          (-e).toNat - 1 + ds.1.length := by
        show (List.replicate _ '0' ++ ds.1).length = _
        rw [List.length_append, List.length_replicate]
      omega
    rw [ht.value, hdigits, hexponent]
  · rw [if_neg hneg]
    dsimp only
    by_cases hshort : ds.1.length ≤ e.toNat + 1
    · -- zeros stand between the digits and the point
      rw [if_pos hshort]
      obtain ⟨t, ht⟩ := exists_lays_point (ds.append (zeros (e.toNat + 1 - ds.1.length)))
        (fun hnil => hds (List.append_eq_nil_iff.1 hnil).1) (zeros 1)
      refine ⟨t, ht.chars, ht.unsigned, ht.notInteger, ht.letter, ?_⟩
      have hdigits : valueOf ((ds.append (zeros (e.toNat + 1 - ds.1.length))).1 ++ (zeros 1).1) =
          valueOf ds.1 * 10 ^ (e.toNat + 1 - ds.1.length + 1) := by
        generalize e.toNat + 1 - ds.1.length = n
        calc valueOf ((ds.append (zeros n)).1 ++ (zeros 1).1)
            = valueOf (ds.append (zeros n)).1 * 10 ^ 1 := valueOf_append_zeros _ 1
          _ = valueOf ds.1 * 10 ^ n * 10 ^ 1 := congrArg (· * 10 ^ 1) (valueOf_append_zeros ds n)
          _ = valueOf ds.1 * 10 ^ (n + 1) := by rw [Nat.mul_assoc, ← Nat.pow_add]
      have hexponent : ((e.toNat + 1 - ds.1.length + 1 : Nat) : Int) +
          -(((zeros 1).1.length : Nat) : Int) = e + 1 - ds.1.length := by
        show ((e.toNat + 1 - ds.1.length + 1 : Nat) : Int) + -1 = _
        omega
      rw [ht.value, hdigits, ← hexponent, zpow_add₀ (by norm_num), zpow_natCast]
      push_cast
      ring
    · -- the point stands among the digits
      rw [if_neg hshort]
      obtain ⟨t, ht⟩ := exists_lays_point
        ⟨ds.1.take (e.toNat + 1), fun c hc => ds.2 c (List.mem_of_mem_take hc)⟩
        (by simp [hds])
        ⟨ds.1.drop (e.toNat + 1), fun c hc => ds.2 c (List.mem_of_mem_drop hc)⟩
      refine ⟨t, ht.chars, ht.unsigned, ht.notInteger, ht.letter, ?_⟩
      have hexponent : -(((ds.1.drop (e.toNat + 1)).length : Nat) : Int) =
          e + 1 - ds.1.length := by
        rw [List.length_drop]
        omega
      rw [ht.value, List.take_append_drop, hexponent]

theorem exists_lays_scientific {ds : Digits} (hds : ds.1 ≠ []) (e : Int) :
    ∃ t, Lays (scientific ds.1 e) (valueOf ds.1 * 10 ^ (e + 1 - ds.1.length)) t := by
  obtain ⟨sign, hsign, happly⟩ : ∃ sign : Sign,
      sign.chars = [if e < 0 then '-' else '+'] ∧ sign.apply e.natAbs = e := by
    by_cases hneg : e < 0
    · exact ⟨.minus, by rw [if_pos hneg]; rfl, by show -(e.natAbs : Int) = e; omega⟩
    · exact ⟨.plus, by rw [if_neg hneg]; rfl, by show (e.natAbs : Int) = e; omega⟩
  have hpower : sign.chars ++ (Decimal.digitsOf e.natAbs).1 =
      (if e < 0 then '-' else '+') :: (Nat.repr e.natAbs).toList := by
    rw [hsign]
    rfl
  obtain ⟨ds, hdigits⟩ := ds
  cases ds with
  | nil => exact absurd rfl hds
  | cons d rest =>
      have hd : ∀ c ∈ [d], isDigit c = true := fun c hc =>
        hdigits c (List.mem_cons.2 (.inl (List.mem_singleton.1 hc)))
      have hrest : ∀ c ∈ rest, isDigit c = true := fun c hc =>
        hdigits c (List.mem_cons_of_mem d hc)
      cases rest with
      | nil =>
          obtain ⟨t, ht⟩ := exists_lays_power ⟨[d], hd⟩ (by simp) none sign e.natAbs
          refine ⟨t, ?_, ht.unsigned, ht.notInteger, ht.letter, ?_⟩
          · rw [ht.chars, hpower]
            rfl
          · rw [ht.value, happly]
            show (valueOf [d] * 10 ^ (e - (0 : Nat)) : ℚ) = valueOf [d] * 10 ^ (e + 1 - (1 : Nat))
            congr 2
            omega
      | cons d' rest =>
          obtain ⟨t, ht⟩ := exists_lays_power ⟨[d], hd⟩ (by simp)
            (some ⟨d' :: rest, hrest⟩) sign e.natAbs
          refine ⟨t, ?_, ht.unsigned, ht.notInteger, ht.letter, ?_⟩
          · rw [ht.chars, hpower]
            rfl
          · rw [ht.value, happly]
            show (valueOf (d :: d' :: rest) * 10 ^ (e - ((d' :: rest).length : Int)) : ℚ) =
              valueOf (d :: d' :: rest) * 10 ^ (e + 1 - ((d :: d' :: rest).length : Int))
            congr 2
            rw [List.length_cons (a := d)]
            push_cast
            ring

/-! ## Numbers -/

/-- The text of a number without its sign. -/
def magnitudeChars (code : Nat) : List Char :=
  if code = 0 then ['0', '.', '0']
  else
    let (d, k) := shortest code
    let ds := (Nat.repr d).toList
    let e := k + ds.length - 1
    if -5 ≤ e ∧ e < 16 then positional ds e else scientific ds e

theorem toChars_eq (x : Binary64) :
    x.toChars = if x.negative then '-' :: magnitudeChars x.code else magnitudeChars x.code := rfl

/-- The text of a magnitude is that of a numeral that is rounded to it. -/
theorem exists_lays_magnitudeChars {code : Nat} (hfinite : code < 2047 * 2 ^ 52) :
    ∃ u t, Lays (magnitudeChars code) u t ∧ Rounds (u * unitsPerOne) code := by
  rw [magnitudeChars]
  by_cases hcode : code = 0
  · obtain ⟨t, ht⟩ := exists_lays_point (zeros 1) (by simp [zeros]) (zeros 1)
    rw [if_pos hcode]
    refine ⟨_, t, ht, ?_⟩
    rw [valueOf_zeros_append, valueOf_zeros, hcode, Nat.cast_zero, zero_mul, zero_mul]
    exact rounds_zero_of_lt (by norm_num)
  · have hrounds := rounds_shortest hcode hfinite
    rw [if_neg hcode]
    generalize shortest code = found at hrounds
    obtain ⟨d, k⟩ := found
    dsimp only at hrounds ⊢
    let ds := Decimal.digitsOf d
    have hexponent : k + (ds.1.length : Int) - 1 + 1 - ds.1.length = k := by ring
    have hlays : ∃ t, Lays (if -5 ≤ k + (ds.1.length : Int) - 1 ∧ k + (ds.1.length : Int) - 1 < 16
        then positional ds.1 (k + ds.1.length - 1) else scientific ds.1 (k + ds.1.length - 1))
        (valueOf ds.1 * 10 ^ (k + (ds.1.length : Int) - 1 + 1 - ds.1.length)) t := by
      split
      · exact exists_lays_positional (digitsOf_ne_nil d) _
      · exact exists_lays_scientific (digitsOf_ne_nil d) _
    rw [hexponent, valueOf_digitsOf] at hlays
    obtain ⟨t, ht⟩ := hlays
    exact ⟨_, t, ht, hrounds⟩

/-- **The text of a number is that of a numeral, not of an integer, that is read as the number.** -/
theorem exists_numeral_toChars (x : Binary64) :
    ∃ t : Numeral, x.toChars = t.chars ∧ ¬ t.IsInteger ∧
      (∀ p, t.power = some p → p.letter = 'e') ∧ ofDecimalText? t.decimal = some x := by
  obtain ⟨u, t, ht, hrounds⟩ := exists_lays_magnitudeChars x.finite
  have hmagnitude : (t.decimal.digits * 10 ^ t.decimal.exponent : ℚ) = u := by
    rw [← ht.value, ← t.value_decimal, Decimal.value, Numeral.decimal, ht.unsigned]
    rfl
  have hread : ∀ sign : Sign, sign.isMinus = x.negative →
      ofDecimalText? { t with sign := sign }.decimal = some x := by
    intro sign hsign
    refine ofDecimal?_eq_some_iff.2 ⟨hsign.symm, ?_⟩
    show Rounds (t.decimal.digits * 10 ^ t.decimal.exponent * unitsPerOne) x.code
    rw [hmagnitude]
    exact hrounds
  rw [toChars_eq]
  cases hnegative : x.negative with
  | false =>
      refine ⟨{ t with sign := .absent }, ?_, ht.notInteger, ht.letter, hread .absent ?_⟩
      · rw [if_neg Bool.false_ne_true, ← ht.chars, Numeral.chars, ht.unsigned]
        rfl
      · exact hnegative.symm
  | true =>
      refine ⟨{ t with sign := .minus }, ?_, ht.notInteger, ht.letter, hread .minus ?_⟩
      · rw [if_pos rfl, ← ht.chars, Numeral.chars, ht.unsigned]
        rfl
      · exact hnegative.symm

end Binary64

end Dataflow
