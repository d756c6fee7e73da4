import Dataflow.Proofs.Binary64.Nearest
import Mathlib.Data.List.TakeWhile

set_option autoImplicit false

/-! # The texts that write numbers

A `Numeral` is a decimal text taken apart: a sign, the digits before and behind a point, and a
power of ten, any of which may be missing as long as there is a digit beside the point. It stands
for a rational number, its `value`. The reader of decimals accepts the texts of numerals and no
other, and reads each as what it stands for (`Decimal.ofChars?_eq_some_iff`); the reader of
integers accepts those that have neither a point nor a power (`Decimal.integer?_eq_some_iff`).
-/

namespace Dataflow

/-- Digits, as many as one likes. -/
abbrev Digits := { ds : List Char // ∀ c ∈ ds, Decimal.isDigit c = true }

/-- The sign before a number, if there is one. -/
inductive Sign where
  | absent | plus | minus
  deriving DecidableEq

namespace Sign

/-- How a sign is written. -/
def chars : Sign → List Char
  | absent => []
  | plus => ['+']
  | minus => ['-']

/-- Whether a sign makes a number negative. -/
def isMinus : Sign → Bool
  | minus => true
  | _ => false

/-- The integer with a sign and a magnitude. -/
def apply (s : Sign) (n : Nat) : Int := if s.isMinus then -n else n

end Sign

/-- The power of ten at the end of a number. -/
structure PowerOfTen where
  letter : Char
  sign : Sign
  digits : Digits
  isLetter : letter = 'e' ∨ letter = 'E'
  nonempty : digits.1 ≠ []

namespace PowerOfTen

/-- How a power of ten is written. -/
def chars (p : PowerOfTen) : List Char := p.letter :: (p.sign.chars ++ p.digits.1)

/-- The exponent of a power of ten. -/
def exponent (p : PowerOfTen) : Int := p.sign.apply (Decimal.valueOf p.digits.1)

end PowerOfTen

/-- A number as a decimal text writes it. -/
structure Numeral where
  sign : Sign
  /-- The digits before the point. -/
  whole : Digits
  /-- The digits behind the point, if there is one. -/
  fraction : Option Digits
  power : Option PowerOfTen
  nonempty : whole.1 ≠ [] ∨ ∃ ds, fraction = some ds ∧ ds.1 ≠ []

namespace Numeral

/-- The digits behind a point; without a point there are none. -/
def digitsOf (fraction : Option Digits) : List Char := (fraction.map (·.1)).getD []

/-- How a point with the digits behind it is written. -/
def pointChars (fraction : Option Digits) : List Char := (fraction.map ('.' :: ·.1)).getD []

/-- How a power of ten is written, if there is one. -/
def powerChars (power : Option PowerOfTen) : List Char := (power.map (·.chars)).getD []

/-- The exponent of a power of ten; without one it is zero. -/
def exponentOf (power : Option PowerOfTen) : Int := (power.map (·.exponent)).getD 0

/-- How a numeral is written. -/
def chars (t : Numeral) : List Char :=
  t.sign.chars ++ (t.whole.1 ++ (pointChars t.fraction ++ powerChars t.power))

/-- The rational number that a numeral stands for. -/
def value (t : Numeral) : ℚ :=
  signed t.sign.isMinus
    ((Decimal.valueOf t.whole.1 +
      Decimal.valueOf (digitsOf t.fraction) / 10 ^ (digitsOf t.fraction).length) *
        10 ^ exponentOf t.power)

/-- A numeral is written as an integer: without a point and without a power of ten. -/
def IsInteger (t : Numeral) : Prop := t.fraction = none ∧ t.power = none

/-- What the reader of decimals makes of a numeral. -/
def decimal (t : Numeral) : Decimal :=
  ⟨t.sign.isMinus, Decimal.valueOf (t.whole.1 ++ digitsOf t.fraction),
    exponentOf t.power - (digitsOf t.fraction).length⟩

theorem chars_of_isInteger {t : Numeral} (h : t.IsInteger) : t.chars = t.sign.chars ++ t.whole.1 := by
  rw [chars, h.1, h.2]
  simp [pointChars, powerChars]

theorem value_of_isInteger {t : Numeral} (h : t.IsInteger) :
    t.value = t.sign.apply (Decimal.valueOf t.whole.1) := by
  rw [value, h.1, h.2, Sign.apply]
  cases t.sign.isMinus <;> simp [digitsOf, exponentOf, Decimal.valueOf]

theorem whole_ne_nil_of_isInteger {t : Numeral} (h : t.IsInteger) : t.whole.1 ≠ [] := by
  rcases t.nonempty with hwhole | ⟨ds, hfraction, -⟩
  · exact hwhole
  · rw [h.1] at hfraction
    cases hfraction

end Numeral

/-! ## Digits -/

namespace Decimal

theorem valueOf_eq (ds : List Char) : valueOf ds = Nat.ofDigitChars 10 ds 0 :=
  Nat.ofDigitChars_eq_foldl.symm

theorem valueOf_append (ds ds' : List Char) :
    valueOf (ds ++ ds') = valueOf ds * 10 ^ ds'.length + valueOf ds' := by
  rw [valueOf_eq, valueOf_eq, valueOf_eq, Nat.ofDigitChars_append,
    Nat.ofDigitChars_eq_ofDigitChars_zero, Nat.mul_comm]

/-- A list goes on without a digit. -/
def NoDigitAhead (cs : List Char) : Prop := ∀ c, cs.head? = some c → isDigit c = false

/-- A list goes on without a sign. -/
def NoSignAhead (cs : List Char) : Prop := ∀ c, cs.head? = some c → c ≠ '-' ∧ c ≠ '+'

theorem takeWhile_digits (ds : Digits) {rest : List Char} (h : NoDigitAhead rest) :
    (ds.1 ++ rest).takeWhile isDigit = ds.1 := by
  rw [List.takeWhile_append_of_pos ds.2]
  cases rest with
  | nil => simp
  | cons c rest => simp [h c rfl]

theorem dropWhile_digits (ds : Digits) {rest : List Char} (h : NoDigitAhead rest) :
    (ds.1 ++ rest).dropWhile isDigit = rest := by
  rw [List.dropWhile_append_of_pos ds.2]
  cases rest with
  | nil => rfl
  | cons c rest => simp [h c rfl]

theorem noSignAhead_digits {ds : Digits} (h : ds.1 ≠ []) (rest : List Char) :
    NoSignAhead (ds.1 ++ rest) := by
  obtain ⟨ds, hds⟩ := ds
  cases ds with
  | nil => exact absurd rfl h
  | cons d ds =>
      rintro c ⟨⟩
      have hd := hds d List.mem_cons_self
      constructor
      · rintro rfl
        exact absurd hd (by decide)
      · rintro rfl
        exact absurd hd (by decide)

/-! ## Signs -/

theorem splitSign_chars (s : Sign) {rest : List Char} (h : NoSignAhead rest) :
    splitSign (s.chars ++ rest) = (s.isMinus, rest) := by
  cases s with
  | plus => rfl
  | minus => rfl
  | absent =>
      cases rest with
      | nil => rfl
      | cons c rest =>
          obtain ⟨hminus, hplus⟩ := h c rfl
          show splitSign (c :: rest) = (false, c :: rest)
          unfold splitSign
          split
          · rename_i heq
            exact absurd (List.cons.inj heq).1 hminus
          · rename_i heq
            exact absurd (List.cons.inj heq).1 hplus
          · rfl

theorem exists_sign (cs : List Char) :
    ∃ s : Sign, cs = s.chars ++ (splitSign cs).2 ∧ (splitSign cs).1 = s.isMinus := by
  unfold splitSign
  split
  · exact ⟨.minus, rfl, rfl⟩
  · exact ⟨.plus, rfl, rfl⟩
  · exact ⟨.absent, rfl, rfl⟩

/-! ## Integers -/

theorem integer?_chars (s : Sign) {ds : Digits} (h : ds.1 ≠ []) :
    integer? (s.chars ++ ds.1) = some (s.apply (valueOf ds.1)) := by
  have hsplit : splitSign (s.chars ++ ds.1) = (s.isMinus, ds.1) := by
    have hahead := noSignAhead_digits h []
    rw [List.append_nil] at hahead
    exact splitSign_chars s hahead
  have hall : ds.1.all isDigit = true := List.all_eq_true.2 ds.2
  have hempty : ds.1.isEmpty = false := List.isEmpty_eq_false_iff.2 h
  rw [integer?, hsplit]
  simp [hall, hempty, Sign.apply]

theorem exists_of_integer? {cs : List Char} {n : Int} (h : integer? cs = some n) :
    ∃ (s : Sign) (ds : Digits), ds.1 ≠ [] ∧ cs = s.chars ++ ds.1 ∧
      n = s.apply (valueOf ds.1) := by
  obtain ⟨s, hcs, hsign⟩ := exists_sign cs
  rw [integer?] at h
  generalize splitSign cs = split at hcs hsign h
  obtain ⟨negative, ds⟩ := split
  dsimp only at hcs hsign h
  by_cases hds : ds.isEmpty = true ∨ ¬ ds.all isDigit = true
  · rw [if_pos hds] at h
    cases h
  · rw [if_neg hds] at h
    obtain ⟨hne, hall⟩ := not_or.1 hds
    refine ⟨s, ⟨ds, List.all_eq_true.1 (not_not.1 hall)⟩, fun hnil => hne ?_, hcs, ?_⟩
    · rw [List.isEmpty_iff]
      exact hnil
    · rw [← Option.some.inj h, hsign]
      rfl

/-- **The integers that a text writes are those of the numerals without point and power.** -/
theorem integer?_eq_some_iff {cs : List Char} {n : Int} :
    integer? cs = some n ↔ ∃ t : Numeral, t.IsInteger ∧ cs = t.chars ∧ t.value = n := by
  constructor
  · intro h
    obtain ⟨s, ds, hds, hcs, hn⟩ := exists_of_integer? h
    let t : Numeral := ⟨s, ds, none, none, .inl hds⟩
    have ht : t.IsInteger := ⟨rfl, rfl⟩
    refine ⟨t, ht, ?_, ?_⟩
    · rw [Numeral.chars_of_isInteger ht, hcs]
    · rw [Numeral.value_of_isInteger ht, hn]
  · rintro ⟨t, ht, hcs, hvalue⟩
    rw [Numeral.value_of_isInteger ht] at hvalue
    rw [hcs, Numeral.chars_of_isInteger ht,
      integer?_chars t.sign (Numeral.whole_ne_nil_of_isInteger ht), Int.cast_injective hvalue]

/-! ## Powers of ten -/

theorem exponent?_chars (p : Option PowerOfTen) :
    exponent? (Numeral.powerChars p) = some (Numeral.exponentOf p) := by
  cases p with
  | none => rfl
  | some p =>
      show exponent? p.chars = some p.exponent
      rw [PowerOfTen.chars, exponent?, if_pos p.isLetter, integer?_chars p.sign p.nonempty]
      rfl

theorem exists_of_exponent? {cs : List Char} {e : Int} (h : exponent? cs = some e) :
    ∃ p : Option PowerOfTen, cs = Numeral.powerChars p ∧ e = Numeral.exponentOf p := by
  cases cs with
  | nil => exact ⟨none, rfl, (Option.some.inj h).symm⟩
  | cons c cs =>
      rw [exponent?] at h
      by_cases hc : c = 'e' ∨ c = 'E'
      · rw [if_pos hc] at h
        obtain ⟨s, ds, hds, hcs, he⟩ := exists_of_integer? h
        refine ⟨some ⟨c, s, ds, hc, hds⟩, ?_, he⟩
        rw [hcs]
        rfl
      · rw [if_neg hc] at h
        cases h

/-- Neither a digit nor a point begins a power of ten. -/
theorem powerChars_head? {p : Option PowerOfTen} {c : Char}
    (h : (Numeral.powerChars p).head? = some c) : isDigit c = false ∧ c ≠ '.' := by
  cases p with
  | none => cases h
  | some p =>
      have hc : p.letter = c := Option.some.inj h
      rw [← hc]
      rcases p.isLetter with hletter | hletter
      · rw [hletter]
        decide
      · rw [hletter]
        decide

/-! ## Fractions -/

/-- The digits behind the point that a list may begin with, and what follows them. -/
def splitFraction (cs : List Char) : List Char × List Char :=
  match cs with
  | '.' :: more => (more.takeWhile isDigit, more.dropWhile isDigit)
  | _ => ([], cs)

theorem splitFraction_of_ne {cs : List Char} (h : ∀ c, cs.head? = some c → c ≠ '.') :
    splitFraction cs = ([], cs) := by
  unfold splitFraction
  split
  · exact absurd rfl (h '.' rfl)
  · rfl

theorem splitFraction_chars (fraction : Option Digits) (p : Option PowerOfTen) :
    splitFraction (Numeral.pointChars fraction ++ Numeral.powerChars p) =
      (Numeral.digitsOf fraction, Numeral.powerChars p) := by
  have hahead : NoDigitAhead (Numeral.powerChars p) := fun c hc => (powerChars_head? hc).1
  cases fraction with
  | none => exact splitFraction_of_ne fun c hc => (powerChars_head? hc).2
  | some ds =>
      show splitFraction ('.' :: (ds.1 ++ Numeral.powerChars p)) = (ds.1, Numeral.powerChars p)
      rw [splitFraction, takeWhile_digits ds hahead, dropWhile_digits ds hahead]

theorem exists_fraction (cs : List Char) :
    ∃ fraction : Option Digits, cs = Numeral.pointChars fraction ++ (splitFraction cs).2 ∧
      (splitFraction cs).1 = Numeral.digitsOf fraction := by
  unfold splitFraction
  split
  · rename_i more
    refine ⟨some ⟨more.takeWhile isDigit, fun c hc => List.mem_takeWhile_imp hc⟩, ?_, rfl⟩
    show '.' :: more = '.' :: (more.takeWhile isDigit ++ more.dropWhile isDigit)
    rw [List.takeWhile_append_dropWhile]
  · exact ⟨none, rfl, rfl⟩

/-! ## Decimals -/

/-- The reader of decimals, step by step. -/
theorem ofChars?_eq (cs : List Char) :
    ofChars? cs =
      if ((splitSign cs).2.takeWhile isDigit).isEmpty ∧
          (splitFraction ((splitSign cs).2.dropWhile isDigit)).1.isEmpty then none
      else (exponent? (splitFraction ((splitSign cs).2.dropWhile isDigit)).2).map fun e =>
        ⟨(splitSign cs).1, valueOf ((splitSign cs).2.takeWhile isDigit ++
          (splitFraction ((splitSign cs).2.dropWhile isDigit)).1),
          e - ((splitFraction ((splitSign cs).2.dropWhile isDigit)).1.length : Int)⟩ :=
  rfl

end Decimal

namespace Numeral

open Decimal

/-- Neither digits nor a sign begin what stands behind the whole part. -/
theorem pointChars_head? {fraction : Option Digits} {p : Option PowerOfTen} {c : Char}
    (h : (pointChars fraction ++ powerChars p).head? = some c) : isDigit c = false := by
  cases fraction with
  | none => exact (powerChars_head? h).1
  | some ds =>
      have hc : '.' = c := Option.some.inj h
      rw [← hc]
      decide

theorem noSignAhead (t : Numeral) :
    NoSignAhead (t.whole.1 ++ (pointChars t.fraction ++ powerChars t.power)) := by
  by_cases hwhole : t.whole.1 = []
  · obtain hne | ⟨ds, hfraction, -⟩ := t.nonempty
    · exact absurd hwhole hne
    · rw [hwhole, hfraction]
      rintro c ⟨⟩
      decide
  · exact noSignAhead_digits hwhole _

theorem digits_nonempty (t : Numeral) :
    ¬ (t.whole.1.isEmpty = true ∧ (digitsOf t.fraction).isEmpty = true) := by
  rintro ⟨hwhole, hdigits⟩
  rcases t.nonempty with hne | ⟨ds, hfraction, hne⟩
  · exact hne (List.isEmpty_iff.1 hwhole)
  · rw [hfraction] at hdigits
    exact hne (List.isEmpty_iff.1 hdigits)

theorem ofChars?_chars (t : Numeral) : ofChars? t.chars = some t.decimal := by
  have hsign : splitSign t.chars =
      (t.sign.isMinus, t.whole.1 ++ (pointChars t.fraction ++ powerChars t.power)) :=
    splitSign_chars t.sign t.noSignAhead
  have hahead : NoDigitAhead (pointChars t.fraction ++ powerChars t.power) :=
    fun c hc => pointChars_head? hc
  rw [ofChars?_eq, hsign]
  dsimp only
  rw [takeWhile_digits t.whole hahead, dropWhile_digits t.whole hahead, splitFraction_chars,
    if_neg t.digits_nonempty, exponent?_chars]
  rfl

end Numeral

namespace Decimal

/-- **The reader of decimals accepts the texts of numerals and no other.** -/
theorem ofChars?_eq_some_iff {cs : List Char} {d : Decimal} :
    ofChars? cs = some d ↔ ∃ t : Numeral, cs = t.chars ∧ d = t.decimal := by
  constructor
  · intro h
    rw [ofChars?_eq] at h
    obtain ⟨s, hcs, hsign⟩ := exists_sign cs
    obtain ⟨fraction, hafter, hdigits⟩ := exists_fraction ((splitSign cs).2.dropWhile isDigit)
    have hwhole := List.takeWhile_append_dropWhile (p := isDigit) (l := (splitSign cs).2)
    rw [hsign] at h
    generalize (splitSign cs).2 = rest at hcs hafter hdigits hwhole h
    rw [hdigits] at h
    generalize (splitFraction (rest.dropWhile isDigit)).2 = tail at hafter h
    by_cases hempty : (rest.takeWhile isDigit).isEmpty ∧ (Numeral.digitsOf fraction).isEmpty
    · rw [if_pos hempty] at h
      cases h
    · rw [if_neg hempty] at h
      obtain ⟨e, he, hd⟩ := Option.map_eq_some_iff.1 h
      obtain ⟨p, htail, hp⟩ := exists_of_exponent? he
      have hnonempty : rest.takeWhile isDigit ≠ [] ∨ ∃ ds, fraction = some ds ∧ ds.1 ≠ [] := by
        rcases not_and_or.1 hempty with hw | hf
        · exact .inl fun hnil => hw (List.isEmpty_iff.2 hnil)
        · cases fraction with
          | none => exact absurd rfl hf
          | some ds => exact .inr ⟨ds, rfl, fun hnil => hf (List.isEmpty_iff.2 hnil)⟩
      refine ⟨⟨s, ⟨rest.takeWhile isDigit, fun c hc => List.mem_takeWhile_imp hc⟩, fraction, p,
        hnonempty⟩, ?_, ?_⟩
      · rw [Numeral.chars, ← htail, ← hafter, hwhole]
        exact hcs
      · rw [← hd, hp]
        rfl
  · rintro ⟨t, rfl, rfl⟩
    exact t.ofChars?_chars

end Decimal

namespace Numeral

open Decimal

/-- The reader of decimals keeps the value. -/
theorem value_decimal (t : Numeral) : t.decimal.value = t.value := by
  have hten : (10 : ℚ) ≠ 0 := by norm_num
  rw [Decimal.value, value, decimal]
  dsimp only
  rw [Decimal.valueOf_append, zpow_sub₀ hten, zpow_natCast]
  congr 1
  push_cast
  field_simp

/-! ## Characters -/

theorem mem_sign_chars {s : Sign} {c : Char} (h : c ∈ s.chars) : c = '+' ∨ c = '-' := by
  cases s with
  | absent => cases h
  | plus => exact .inl (List.mem_singleton.1 h)
  | minus => exact .inr (List.mem_singleton.1 h)

/-- A numeral consists of digits, signs, a point and the letter of its power of ten. -/
theorem mem_chars {t : Numeral} {c : Char} (h : c ∈ t.chars) :
    isDigit c = true ∨ c = '+' ∨ c = '-' ∨ c = '.' ∨ ∃ p, t.power = some p ∧ c = p.letter := by
  have hsigns : ∀ {s : Sign}, c ∈ s.chars → isDigit c = true ∨ c = '+' ∨ c = '-' ∨ c = '.' ∨
      ∃ p, t.power = some p ∧ c = p.letter := by
    intro s hs
    rcases mem_sign_chars hs with hplus | hminus
    · exact .inr (.inl hplus)
    · exact .inr (.inr (.inl hminus))
  rw [chars, List.mem_append, List.mem_append, List.mem_append] at h
  rcases h with hsign | hwhole | hfraction | hpower
  · exact hsigns hsign
  · exact .inl (t.whole.2 c hwhole)
  · cases hds : t.fraction with
    | none =>
        rw [hds] at hfraction
        cases hfraction
    | some ds =>
        rw [hds] at hfraction
        rcases List.mem_cons.1 hfraction with hpoint | hdigit
        · exact .inr (.inr (.inr (.inl hpoint)))
        · exact .inl (ds.2 c hdigit)
  · cases hp : t.power with
    | none =>
        rw [hp] at hpower
        cases hpower
    | some p =>
        rw [hp] at hpower
        rcases List.mem_cons.1 hpower with hletter | hrest
        · exact .inr (.inr (.inr (.inr ⟨p, rfl, hletter⟩)))
        · rcases List.mem_append.1 hrest with hsign | hdigit
          · rw [hp] at hsigns
            exact hsigns hsign
          · exact .inl (p.digits.2 c hdigit)

/-- A numeral that is not an integer has a point or a letter. -/
theorem exists_mark {t : Numeral} (h : ¬ t.IsInteger) :
    ∃ c ∈ t.chars, c = '.' ∨ c = 'e' ∨ c = 'E' := by
  have hmem : ∀ {c : Char}, c ∈ pointChars t.fraction ++ powerChars t.power → c ∈ t.chars :=
    fun hc => List.mem_append_right _ (List.mem_append_right _ hc)
  cases hfraction : t.fraction with
  | some ds =>
      refine ⟨'.', hmem (List.mem_append_left _ ?_), .inl rfl⟩
      rw [hfraction]
      exact List.mem_cons_self
  | none =>
      cases hpower : t.power with
      | none => exact absurd ⟨hfraction, hpower⟩ h
      | some p =>
          refine ⟨p.letter, hmem (List.mem_append_right _ ?_), .inr p.isLetter⟩
          rw [hpower]
          exact List.mem_cons_self

/-- Only integers are read as integers. -/
theorem integer?_chars_eq_none {t : Numeral} (h : ¬ t.IsInteger) : integer? t.chars = none := by
  rw [Option.eq_none_iff_forall_ne_some]
  intro n hn
  obtain ⟨c, hc, hmark⟩ := exists_mark h
  obtain ⟨s, ds, -, hchars, -⟩ := exists_of_integer? hn
  rw [hchars, List.mem_append] at hc
  rcases hc with hsign | hdigit
  · rcases mem_sign_chars hsign with rfl | rfl <;> exact absurd hmark (by decide)
  · have hdigit := ds.2 c hdigit
    rcases hmark with rfl | rfl | rfl <;> exact absurd hdigit (by decide)

end Numeral

end Dataflow
