import Dataflow.Proofs.Binary64.Integer
import Dataflow.Proofs.Binary64.Numeral
import Dataflow.Proofs.Coercion

set_option autoImplicit false

/-! # Coercion to an integer

Numbers, and texts that write a number, denote rational numbers (`Json.Denotes`). An integer that
is written as one is kept; everything else goes through a floating-point number, which has to be
an integer of magnitude less than `2 ^ 63`. Hence a text with a point or a power of ten may become
a neighbour of what it denotes, and the integers next to the ends of the signed words are refused
unless they are written as integers (`coerce_int_denotes`).
-/

namespace Dataflow

/-- A value denotes a rational number: a number denotes itself, and a text, without the blanks at
its ends, what the numeral denotes that it is. -/
inductive Json.Denotes : Json → ℚ → Prop where
  | integer (n : WordInt) : Denotes (.number (.integer n)) n.value
  | float (x : Binary64) : Denotes (.number (.float x)) x.value
  | text {s : String} {t : Numeral} (h : Text.trimChars s.toList = t.chars) :
      Denotes (.text s) t.value

/-- A value writes an integer as one: without a point and without a power of ten. -/
def Json.WritesInteger : Json → Prop
  | .number (.integer _) => True
  | .text s => ∃ t : Numeral, t.IsInteger ∧ Text.trimChars s.toList = t.chars
  | _ => False

namespace Coercion

open Binary64

theorem ofInt?_eq_some_iff {n : Int} {w : WordInt} : WordInt.ofInt? n = some w ↔ w.value = n := by
  obtain ⟨value, hfits⟩ := w
  rw [WordInt.ofInt?]
  by_cases h : -2 ^ 63 ≤ n ∧ n < 2 ^ 64
  · rw [dif_pos h, Option.some.injEq, WordInt.mk.injEq]
    exact eq_comm
  · rw [dif_neg h]
    constructor
    · intro hnone
      cases hnone
    · rintro rfl
      exact absurd hfits h

/-- **A float becomes the integer that it is, if its magnitude is less than `2 ^ 63`.** -/
theorem integral?_eq_some_iff {x : Binary64} {w : WordInt} :
    integral? x = some w ↔ x.value = w.value ∧ |x.value| < 2 ^ 63 := by
  rw [integral?, Option.bind_eq_some_iff]
  constructor
  · rintro ⟨n, hn, hw⟩
    rw [toInt?_eq_some_iff] at hn
    by_cases hlt : n.natAbs < 2 ^ 63
    · rw [if_pos hlt, ofInt?_eq_some_iff] at hw
      refine ⟨by rw [hw, hn], ?_⟩
      rw [abs_value_of_eq hn]
      exact_mod_cast hlt
    · rw [if_neg hlt] at hw
      cases hw
  · rintro ⟨hvalue, hlt⟩
    rw [abs_value_of_eq hvalue] at hlt
    refine ⟨w.value, toInt?_eq_some_iff.2 hvalue, ?_⟩
    rw [if_pos (by exact_mod_cast hlt), ofInt?_eq_some_iff]

theorem isNearest_value (x : Binary64) : IsNearest x.value x := by
  constructor
  · intro y
    rw [sub_self, abs_zero]
    exact abs_nonneg _
  · intro y htie hne
    rw [sub_self, abs_zero, abs_eq_zero, sub_eq_zero] at htie
    exact absurd htie hne

/-- An integer is rounded to `2 ^ 63` or more from halfway between that and the number before it
on. -/
theorem lt_limitCode_iff_of_rounds {m : Int} {code : Nat}
    (h : Rounds (m.natAbs * unitsPerOne) code) : code < limitCode ↔ |m| < 2 ^ 63 - 512 := by
  rw [h.lt_limitCode_iff, mul_lt_mul_iff_left₀ unitsPerOne_pos, Nat.cast_natAbs]
  norm_cast

/-- What an integer is rounded to becomes an integer if it is less than `2 ^ 63`. -/
theorem exists_integral?_iff {x : Binary64} {m : Int}
    (h : Rounds (m.natAbs * unitsPerOne) x.code) :
    (∃ w, integral? x = some w) ↔ |m| < 2 ^ 63 - 512 := by
  rw [← lt_limitCode_iff_of_rounds h, ← abs_value_lt_iff]
  constructor
  · rintro ⟨w, hw⟩
    exact (integral?_eq_some_iff.1 hw).2
  · -- rounding makes an integer into an integer, so that its size alone decides
    intro hlt
    obtain ⟨k, hk⟩ := dvd_magnitude_of_rounds h
    have hvalue : x.value = signed x.negative k :=
      value_of_magnitude_eq (hk.trans (Nat.mul_comm _ _))
    have hk63 : k < 2 ^ 63 := by
      rw [hvalue, abs_signed (Nat.cast_nonneg k)] at hlt
      exact_mod_cast hlt
    let n : Int := if x.negative then -(k : Int) else k
    have hn : (n : ℚ) = x.value := by
      rw [hvalue]
      cases hneg : x.negative <;> simp [n, hneg]
    have hfits : -2 ^ 63 ≤ n ∧ n < 2 ^ 64 := by
      cases hneg : x.negative <;> simp only [n, hneg, if_true, if_false, Bool.false_eq_true] <;> omega
    exact ⟨⟨n, hfits⟩, integral?_eq_some_iff.2 ⟨hn.symm, hlt⟩⟩

/-! ## Texts -/

/-- The integer that a text writes as one, if a signed word of 64 bits holds it. -/
def writtenInteger? (cs : List Char) : Option WordInt :=
  (Decimal.integer? cs).bind fun n =>
    if -2 ^ 63 ≤ n ∧ n < 2 ^ 63 then WordInt.ofInt? n else none

/-- The integer that the number nearest to a text is. -/
def roundedInteger? (cs : List Char) : Option WordInt :=
  ((Decimal.ofChars? cs).bind ofDecimalText?).bind integral?

theorem integerOfText?_eq (s : String) :
    integerOfText? s =
      (writtenInteger? (Text.trimChars s.toList)).or
        (roundedInteger? (Text.trimChars s.toList)) := by
  rw [integerOfText?, ← writtenInteger?]
  cases writtenInteger? (Text.trimChars s.toList) <;> rfl

theorem writtenInteger?_eq_some_iff {cs : List Char} {w : WordInt} :
    writtenInteger? cs = some w ↔
      w.value < 2 ^ 63 ∧ ∃ t : Numeral, t.IsInteger ∧ cs = t.chars ∧ t.value = w.value := by
  rw [writtenInteger?, Option.bind_eq_some_iff]
  constructor
  · rintro ⟨n, hn, hw⟩
    by_cases hfits : -2 ^ 63 ≤ n ∧ n < 2 ^ 63
    · rw [if_pos hfits, ofInt?_eq_some_iff] at hw
      rw [hw]
      exact ⟨hfits.2, Decimal.integer?_eq_some_iff.1 hn⟩
    · rw [if_neg hfits] at hw
      cases hw
  · rintro ⟨hlt, hwritten⟩
    refine ⟨w.value, Decimal.integer?_eq_some_iff.2 hwritten, ?_⟩
    rw [if_pos ⟨w.fits.1, hlt⟩, ofInt?_eq_some_iff]

/-- Two numerals with the same text denote the same number. -/
theorem value_eq_of_chars_eq {t t' : Numeral} (h : t.chars = t'.chars) : t.value = t'.value := by
  have hread := t.ofChars?_chars
  rw [h, t'.ofChars?_chars, Option.some.injEq] at hread
  rw [← t.value_decimal, ← hread, t'.value_decimal]

theorem roundedInteger?_chars (t : Numeral) :
    roundedInteger? t.chars = (ofDecimalText? t.decimal).bind integral? := by
  rw [roundedInteger?, t.ofChars?_chars, Option.bind_some]

theorem exists_isNearest_of_roundedInteger? {t : Numeral} {w : WordInt}
    (h : roundedInteger? t.chars = some w) :
    ∃ x : Binary64, IsNearest t.value x ∧ x.value = w.value := by
  rw [roundedInteger?_chars, Option.bind_eq_some_iff] at h
  obtain ⟨x, hx, hw⟩ := h
  have hnearest := isNearest_of_ofDecimalText? hx
  rw [t.value_decimal] at hnearest
  exact ⟨x, hnearest, (integral?_eq_some_iff.1 hw).1⟩

theorem exists_roundedInteger?_iff {t : Numeral} {m : Int} (h : t.value = m) :
    (∃ w, roundedInteger? t.chars = some w) ↔ |m| < 2 ^ 63 - 512 := by
  have hmagnitude : (t.decimal.digits * 10 ^ t.decimal.exponent : ℚ) = m.natAbs := by
    rw [Nat.cast_natAbs, Int.cast_abs, ← h, ← t.value_decimal, Decimal.value,
      abs_signed (by positivity)]
  rw [roundedInteger?_chars]
  constructor
  · rintro ⟨w, hw⟩
    obtain ⟨x, hx, hw⟩ := Option.bind_eq_some_iff.1 hw
    have hrounds := (ofDecimal?_eq_some_iff.1 hx).2
    rw [hmagnitude] at hrounds
    exact (exists_integral?_iff hrounds).1 ⟨w, hw⟩
  · intro hlt
    have hrounds := rounds_nearestCode m.natAbs Nat.one_pos
    rw [Nat.cast_one, div_one] at hrounds
    generalize nearestCode m.natAbs 1 = code at hrounds
    have hcode : code < limitCode := (lt_limitCode_iff_of_rounds hrounds).2 hlt
    let x : Binary64 := ⟨t.decimal.negative, code, hcode.trans (by decide)⟩
    obtain ⟨w, hw⟩ := (exists_integral?_iff (x := x) hrounds).2 hlt
    rw [← hmagnitude] at hrounds
    have hx : ofDecimalText? t.decimal = some x := ofDecimal?_eq_some_iff.2 ⟨rfl, hrounds⟩
    exact ⟨w, by rw [hx, Option.bind_some, hw]⟩

/-! ## Values -/

theorem map_orFault_eq_ok_iff {α : Type} {o : Option α} {fault : CoercionFault} {f : α → Json}
    {w : Json} : (orFault o fault).map f = .ok w ↔ ∃ a, o = some a ∧ w = f a := by
  cases o with
  | none =>
      constructor
      · intro h
        cases h
      · rintro ⟨a, ha, -⟩
        cases ha
  | some a =>
      constructor
      · intro h
        exact ⟨a, rfl, (Except.ok.inj h).symm⟩
      · rintro ⟨b, hb, rfl⟩
        cases hb
        rfl

theorem toInteger_float_eq_ok_iff {x : Binary64} {w : Json} :
    toInteger (.number (.float x)) = .ok w ↔ ∃ n, integral? x = some n ∧ w = integer n := by
  rw [toInteger]
  exact map_orFault_eq_ok_iff

theorem toInteger_text_eq_ok_iff {s : String} {w : Json} :
    toInteger (.text s) = .ok w ↔ ∃ n,
      (writtenInteger? (Text.trimChars s.toList) = some n ∨
        writtenInteger? (Text.trimChars s.toList) = none ∧
          roundedInteger? (Text.trimChars s.toList) = some n) ∧ w = integer n := by
  rw [toInteger, map_orFault_eq_ok_iff, integerOfText?_eq]
  simp only [Option.or_eq_some_iff]

/-- A number or text that became an integer, and what it denotes. -/
structure Converts (v : Json) (q : ℚ) (n : WordInt) : Prop where
  /-- An integer that is written as one is kept. -/
  written : v.WritesInteger → n.value = q
  /-- Anything else becomes the integer that the nearest floating-point number is. -/
  nearest : ¬ v.WritesInteger → ∃ x : Binary64, IsNearest q x ∧ x.value = n.value

/-- The result is what is denoted if that is written as an integer or is a floating-point number,
and in no other case. -/
theorem Converts.exact_iff {v : Json} {q : ℚ} {n : WordInt} (h : Converts v q n) :
    (n.value : ℚ) = q ↔ v.WritesInteger ∨ ∃ x : Binary64, x.value = q := by
  constructor
  · intro hexact
    by_cases hwrites : v.WritesInteger
    · exact .inl hwrites
    · obtain ⟨x, -, hx⟩ := h.nearest hwrites
      exact .inr ⟨x, hx.trans hexact⟩
  · intro hcase
    by_cases hwrites : v.WritesInteger
    · exact h.written hwrites
    · -- nothing is nearer to a number of the format than the number itself
      obtain ⟨y, hy⟩ := hcase.resolve_left hwrites
      obtain ⟨x, hnearest, hx⟩ := h.nearest hwrites
      have hle := hnearest.nearest y
      rw [hy, sub_self, abs_zero] at hle
      have hzero : x.value - q = 0 := abs_eq_zero.1 (le_antisymm hle (abs_nonneg _))
      rw [← hx]
      exact sub_eq_zero.1 hzero

theorem not_writesInteger_float (x : Binary64) : ¬ (Json.number (.float x)).WritesInteger := id

theorem converts_float {x : Binary64} {n : WordInt} (h : integral? x = some n) :
    Converts (.number (.float x)) x.value n where
  written hwrites := absurd hwrites (not_writesInteger_float x)
  nearest _ := ⟨x, isNearest_value x, (integral?_eq_some_iff.1 h).1⟩

theorem writesInteger_of_writtenInteger? {s : String} {n : WordInt}
    (h : writtenInteger? (Text.trimChars s.toList) = some n) : (Json.text s).WritesInteger := by
  obtain ⟨-, t, ht, hchars, -⟩ := writtenInteger?_eq_some_iff.1 h
  exact ⟨t, ht, hchars⟩

/-- The integer that a text writes is an integer, and it is read as written if a signed word of 64
bits holds it. -/
theorem exists_of_writesInteger {s : String} {t : Numeral}
    (hchars : Text.trimChars s.toList = t.chars) (h : (Json.text s).WritesInteger) :
    ∃ m : Int, t.value = m ∧
      ∀ hfits : -2 ^ 63 ≤ m ∧ m < 2 ^ 63, writtenInteger? (Text.trimChars s.toList) =
        some ⟨m, hfits.1, hfits.2.trans (by decide)⟩ := by
  obtain ⟨t', hinteger, hchars'⟩ := h
  have hvalue : t.value = t'.value := value_eq_of_chars_eq (hchars.symm.trans hchars')
  refine ⟨t'.sign.apply (Decimal.valueOf t'.whole.1), ?_, ?_⟩
  · rw [hvalue, Numeral.value_of_isInteger hinteger]
  · intro hfits
    rw [writtenInteger?_eq_some_iff]
    exact ⟨hfits.2, t', hinteger, hchars', Numeral.value_of_isInteger hinteger⟩

theorem converts_text {s : String} {t : Numeral} {n : WordInt}
    (hchars : Text.trimChars s.toList = t.chars)
    (h : writtenInteger? (Text.trimChars s.toList) = some n ∨
      writtenInteger? (Text.trimChars s.toList) = none ∧
        roundedInteger? (Text.trimChars s.toList) = some n) :
    Converts (.text s) t.value n := by
  rcases h with hwritten | ⟨hnone, hrounded⟩
  · obtain ⟨-, t', -, hchars', hvalue⟩ := writtenInteger?_eq_some_iff.1 hwritten
    constructor
    · intro _
      rw [← hvalue]
      exact value_eq_of_chars_eq (hchars'.symm.trans hchars)
    · intro hnot
      exact absurd (writesInteger_of_writtenInteger? hwritten) hnot
  · rw [hchars] at hrounded
    constructor
    · -- an integer that no signed word holds is not rounded to one that is small enough
      intro hwrites
      obtain ⟨m, hm, hread⟩ := exists_of_writesInteger hchars hwrites
      have hsmall := (exists_roundedInteger?_iff hm).1 ⟨n, hrounded⟩
      rw [abs_lt] at hsmall
      rw [hread (by omega)] at hnone
      cases hnone
    · intro _
      exact exists_isNearest_of_roundedInteger? hrounded

/-- Which integers are accepted. -/
theorem exists_toInteger_text_iff {s : String} {t : Numeral} {m : Int}
    (hchars : Text.trimChars s.toList = t.chars) (hm : t.value = m)
    (hfits : -2 ^ 63 ≤ m ∧ m < 2 ^ 63) :
    (∃ w, toInteger (.text s) = .ok w) ↔ (Json.text s).WritesInteger ∨ |m| < 2 ^ 63 - 512 := by
  constructor
  · rintro ⟨w, hw⟩
    obtain ⟨n, hwritten | ⟨-, hrounded⟩, -⟩ := toInteger_text_eq_ok_iff.1 hw
    · exact .inl (writesInteger_of_writtenInteger? hwritten)
    · rw [hchars] at hrounded
      exact .inr ((exists_roundedInteger?_iff hm).1 ⟨n, hrounded⟩)
  · intro hcase
    cases hread : writtenInteger? (Text.trimChars s.toList) with
    | some n => exact ⟨_, toInteger_text_eq_ok_iff.2 ⟨n, .inl hread, rfl⟩⟩
    | none =>
        rcases hcase with hwrites | hsmall
        · -- what a signed word holds is read as it is written
          obtain ⟨m', hm', hread'⟩ := exists_of_writesInteger hchars hwrites
          obtain rfl : m = m' := Int.cast_injective (hm.symm.trans hm')
          rw [hread' hfits] at hread
          cases hread
        · obtain ⟨n, hn⟩ := (exists_roundedInteger?_iff hm).2 hsmall
          rw [← hchars] at hn
          exact ⟨_, toInteger_text_eq_ok_iff.2 ⟨n, .inr ⟨hread, hn⟩, rfl⟩⟩

theorem exists_toInteger_float_iff {x : Binary64} {m : Int} (hm : x.value = m) :
    (∃ w, toInteger (.number (.float x)) = .ok w) ↔ |m| < 2 ^ 63 - 512 := by
  have hrounds : Rounds (m.natAbs * unitsPerOne) x.code := by
    have hself := rounds_magnitude x.code
    rw [magnitude_eq_of_abs_value (abs_value_of_eq hm)] at hself
    rwa [Nat.cast_mul] at hself
  rw [← exists_integral?_iff hrounds]
  constructor
  · rintro ⟨w, hw⟩
    obtain ⟨n, hn, -⟩ := toInteger_float_eq_ok_iff.1 hw
    exact ⟨n, hn⟩
  · rintro ⟨n, hn⟩
    exact ⟨_, toInteger_float_eq_ok_iff.2 ⟨n, hn, rfl⟩⟩

/-- A text that the reader of decimals accepts denotes the decimal that is read. -/
theorem denotes_of_ofChars? {s : String} {d : Decimal}
    (h : Decimal.ofChars? (Text.trimChars s.toList) = some d) : (Json.text s).Denotes d.value := by
  obtain ⟨t, hchars, rfl⟩ := Decimal.ofChars?_eq_some_iff.1 h
  rw [t.value_decimal]
  exact .text hchars

/-- Only what denotes a number is accepted. -/
theorem exists_denotes_of_toInteger {v w : Json} (h : toInteger v = .ok w) : ∃ q, v.Denotes q := by
  cases v with
  | number n =>
      cases n with
      | integer n => exact ⟨_, .integer n⟩
      | float x => exact ⟨_, .float x⟩
  | text s =>
      obtain ⟨n, hread, -⟩ := toInteger_text_eq_ok_iff.1 h
      rcases hread with hwritten | ⟨-, hrounded⟩
      · obtain ⟨-, t, -, hchars, -⟩ := writtenInteger?_eq_some_iff.1 hwritten
        exact ⟨_, .text hchars⟩
      · rw [roundedInteger?, Option.bind_assoc] at hrounded
        obtain ⟨d, hd, -⟩ := Option.bind_eq_some_iff.1 hrounded
        exact ⟨_, denotes_of_ofChars? hd⟩
  | _ => cases h

theorem exists_converts {v w : Json} {q : ℚ} (hv : v.Denotes q) (h : toInteger v = .ok w) :
    ∃ n, w = integer n ∧ Converts v q n := by
  cases hv with
  | integer n =>
      refine ⟨n, (Except.ok.inj h).symm, fun _ => rfl, fun hnot => ?_⟩
      exact absurd trivial hnot
  | float x =>
      obtain ⟨n, hn, hw⟩ := toInteger_float_eq_ok_iff.1 h
      exact ⟨n, hw, converts_float hn⟩
  | text hchars =>
      obtain ⟨n, hread, hw⟩ := toInteger_text_eq_ok_iff.1 h
      exact ⟨n, hw, converts_text hchars hread⟩

theorem exists_toInteger_iff {v : Json} {m : Int} (hv : v.Denotes m)
    (hfits : -2 ^ 63 ≤ m ∧ m < 2 ^ 63) :
    (∃ w, toInteger v = .ok w) ↔ v.WritesInteger ∨ |m| < 2 ^ 63 - 512 := by
  generalize hq : (m : ℚ) = q at hv
  cases hv with
  | integer n => exact ⟨fun _ => .inl trivial, fun _ => ⟨_, rfl⟩⟩
  | float x =>
      rw [exists_toInteger_float_iff hq.symm]
      exact ⟨.inr, fun h => h.resolve_left (not_writesInteger_float x)⟩
  | text hchars => exact exists_toInteger_text_iff hchars hq.symm hfits

end Coercion

open Coercion

/-- **Coercion to an integer.** Only what denotes a number is accepted. What is accepted becomes
the integer that it denotes if it is written as an integer or is a floating-point number, else the
integer that the nearest floating-point number is; and of the integers of a signed word of 64 bits
those are accepted that are written as integers, or that are less than `2 ^ 63 - 512` in
magnitude. -/
theorem coerce_int_denotes (v : Json) :
    (∀ w, coerce .int v = .ok w → ∃ q, v.Denotes q) ∧
    ∀ q, v.Denotes q →
      (∀ w, coerce .int v = .ok w → ∃ n : WordInt, w = integer n ∧
        ((n.value : ℚ) = q ↔ v.WritesInteger ∨ ∃ x : Binary64, x.value = q) ∧
        (¬ v.WritesInteger → ∃ x : Binary64, x.IsNearest q ∧ x.value = n.value)) ∧
      ∀ m : Int, q = m → -2 ^ 63 ≤ m → m < 2 ^ 63 →
        ((∃ w, coerce .int v = .ok w) ↔ v.WritesInteger ∨ |m| < 2 ^ 63 - 512) := by
  refine ⟨fun w hw => exists_denotes_of_toInteger hw, fun q hq => ⟨?_, ?_⟩⟩
  · intro w hw
    obtain ⟨n, hn, hconverts⟩ := exists_converts hq hw
    exact ⟨n, hn, hconverts.exact_iff, hconverts.nearest⟩
  · rintro m rfl hlow hhigh
    exact exists_toInteger_iff hq ⟨hlow, hhigh⟩

/-- A text with a point and a power of ten that writes `125`. -/
theorem coerce_int_denotes_sample :
    (Json.text " 12.5e1 ").Denotes (125 : Int) ∧
      ∃ n : WordInt, coerce .int (.text " 12.5e1 ") = .ok (integer n) ∧ (n.value : ℚ) = 125 := by
  have hdenotes : (Json.text " 12.5e1 ").Denotes (125 : Int) := by
    have hread := denotes_of_ofChars? (s := " 12.5e1 ") (d := ⟨false, 125, 0⟩) (by decide)
    norm_num [Decimal.value] at hread
    exact_mod_cast hread
  obtain ⟨x, hx⟩ : ∃ x : Binary64, x.value = 125 :=
    ⟨⟨false, 1029 * 2 ^ 52 + 61 * 2 ^ 46, by decide⟩,
      by exact_mod_cast Binary64.toInt?_eq_some_iff.1 (by decide +kernel)⟩
  obtain ⟨hresult, haccepted⟩ := (coerce_int_denotes (.text " 12.5e1 ")).2 _ hdenotes
  obtain ⟨w, hw⟩ := (haccepted 125 rfl (by decide) (by decide)).2 (.inr (by decide))
  obtain ⟨n, rfl, hexact, -⟩ := hresult w hw
  exact ⟨hdenotes, n, hw, by exact_mod_cast hexact.2 (.inr ⟨x, by exact_mod_cast hx⟩)⟩

/-- **A text may become a neighbour of what it denotes, and the least integer of a signed word is
refused as a float.** -/
theorem coerce_int_rounds_and_refuses :
    ((Json.text "9007199254740993.0").Denotes (9007199254740993 : Int) ∧
      ∃ n : WordInt, coerce .int (.text "9007199254740993.0") = .ok (integer n) ∧
        n.value = 9007199254740992) ∧
    ∃ x : Binary64, (Json.number (.float x)).Denotes (-2 ^ 63 : Int) ∧
      ¬ ∃ w, coerce .int (.number (.float x)) = .ok w := by
  constructor
  · constructor
    · have hread := denotes_of_ofChars? (s := "9007199254740993.0")
        (d := ⟨false, 90071992547409930, -1⟩) (by decide)
      norm_num [Decimal.value] at hread
      exact_mod_cast hread
    · have hread : integerOfText? "9007199254740993.0" = some ⟨9007199254740992, by decide⟩ := by
        decide +kernel
      refine ⟨⟨9007199254740992, by decide⟩, ?_, rfl⟩
      rw [coerce, toInteger, hread]
      rfl
  · have hvalue : (⟨true, Binary64.limitCode, by decide⟩ : Binary64).value = (-2 ^ 63 : Int) :=
      Binary64.toInt?_eq_some_iff.1 (by decide +kernel)
    refine ⟨⟨true, Binary64.limitCode, by decide⟩, ?_, ?_⟩
    · rw [← hvalue]
      exact .float _
    · intro haccepted
      have hsmall := (exists_toInteger_float_iff hvalue).1 haccepted
      exact absurd hsmall (by decide)

end Dataflow
