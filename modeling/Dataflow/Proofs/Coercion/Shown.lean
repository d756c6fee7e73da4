import Dataflow.Proofs.Binary64.Printed
import Dataflow.Proofs.Coercion.Exact
import Dataflow.Proofs.Dict

set_option autoImplicit false

/-! # Scalars as texts

Coercion to a text shows a number by its digits. Such a text is that of a numeral
(`ShownAs`), which has nothing that trimming or lower case would change, so that the readers of
texts see the numeral itself. What the other coercions make of the text is then what they make of
the number (`coerce_shown`), but for the integers that no signed word holds: as numbers they are
kept, as texts they are refused.
-/

namespace Dataflow

/-! ## Texts of numerals -/

theorem Text.trimChars_eq_self {cs : List Char} (h : ∀ c ∈ cs, isBlank c = false) :
    trimChars cs = cs := by
  have hkeep : ∀ {l : List Char}, (∀ c ∈ l, isBlank c = false) → l.dropWhile isBlank = l := by
    intro l hl
    cases l with
    | nil => rfl
    | cons c l => rw [List.dropWhile_cons_of_neg (by rw [hl c List.mem_cons_self]; decide)]
  rw [trimChars, hkeep h, hkeep fun c hc => h c (List.mem_reverse.1 hc), List.reverse_reverse]

/-- A text is that of a numeral with a small letter. -/
structure ShownAs (s : String) (t : Numeral) : Prop where
  chars : s.toList = t.chars
  letter : ∀ p, t.power = some p → p.letter = 'e'

namespace ShownAs

variable {s : String} {t : Numeral}

/-- No character of a numeral is a blank or a capital letter. -/
theorem plain (h : ShownAs s t) {c : Char} (hc : c ∈ t.chars) :
    Text.isBlank c = false ∧ c.toLower = c := by
  rcases Numeral.mem_chars hc with hdigit | rfl | rfl | rfl | ⟨p, hp, rfl⟩
  · rw [Decimal.isDigit, decide_eq_true_iff] at hdigit
    obtain ⟨hlow, hhigh⟩ := hdigit
    have hlow' : 48 ≤ c.toNat := hlow
    have hhigh' : c.toNat ≤ 57 := hhigh
    constructor
    · simp [Text.isBlank, Text.blankRanges]
      omega
    · refine dif_neg ?_
      rintro ⟨hcapital, -⟩
      have hcapital' : 65 ≤ c.toNat := hcapital
      omega
  · decide
  · decide
  · decide
  · rw [h.letter p hp]
    decide

theorem trimChars_eq (h : ShownAs s t) : Text.trimChars s.toList = t.chars := by
  rw [h.chars]
  exact Text.trimChars_eq_self fun c hc => (h.plain hc).1

theorem trim_eq (h : ShownAs s t) : Text.trim s = s := by
  rw [Text.trim, h.trimChars_eq, ← h.chars, String.ofList_toList]

theorem asciiLower_eq (h : ShownAs s t) : Text.asciiLower s = s := by
  have hmap : s.toList.map Char.toLower = s.toList := by
    rw [h.chars]
    exact map_eq_self_iff.2 fun c hc => (h.plain hc).2
  rw [Text.asciiLower, hmap, String.ofList_toList]

/-- The finite number that a text of a numeral writes. -/
theorem ofText?_eq (h : ShownAs s t) :
    Binary64.ofText? (Text.trim s) = Binary64.ofDecimalText? t.decimal := by
  rw [h.trim_eq, Binary64.ofText?, h.chars, t.ofChars?_chars, Option.bind_some]

/-- Of the words for truth values only the two digits are numerals. -/
theorem boolOfText?_eq (h : ShownAs s t) :
    Coercion.boolOfText? s =
      if s = "1" then some true else if s = "0" then some false else none := by
  have hnot : ∀ word : String, Decimal.ofChars? word.toList = none → s ≠ word := by
    rintro word hword rfl
    rw [h.chars, t.ofChars?_chars] at hword
    cases hword
  have htrue := hnot "true" (by decide)
  have hyes := hnot "yes" (by decide)
  have hon := hnot "on" (by decide)
  have hfalse := hnot "false" (by decide)
  have hno := hnot "no" (by decide)
  have hoff := hnot "off" (by decide)
  rw [Coercion.boolOfText?, h.trim_eq, h.asciiLower_eq]
  simp only [List.mem_cons, List.not_mem_nil, or_false, htrue, hyes, hon, hfalse, hno, hoff,
    false_or]

end ShownAs

/-! ## The text of a number -/

namespace Numeral

/-- The numeral of an integer. -/
def ofInt (n : Int) : Numeral :=
  ⟨if n < 0 then .minus else .absent, Decimal.digitsOf n.natAbs, none, none,
    .inl (Decimal.digitsOf_ne_nil _)⟩

theorem decimal_ofInt (n : Int) : (ofInt n).decimal = ⟨decide (n < 0), n.natAbs, 0⟩ := by
  have hsign : (ofInt n).sign.isMinus = decide (n < 0) := by
    show (if n < 0 then Sign.minus else Sign.absent).isMinus = decide (n < 0)
    by_cases hneg : n < 0
    · rw [if_pos hneg, decide_eq_true hneg]
      rfl
    · rw [if_neg hneg, decide_eq_false hneg]
      rfl
  rw [decimal, hsign]
  show Decimal.mk _ (Decimal.valueOf ((Decimal.digitsOf n.natAbs).1 ++ [])) _ = _
  rw [List.append_nil, Decimal.valueOf_digitsOf]
  rfl

theorem value_ofInt (n : Int) : (ofInt n).value = n := by
  rw [← value_decimal, decimal_ofInt, Decimal.value, zpow_zero, mul_one]
  by_cases hneg : n < 0
  · rw [decide_eq_true hneg, signed_true, Nat.cast_natAbs, abs_of_neg hneg]
    push_cast
    ring
  · rw [decide_eq_false hneg, signed_false, Nat.cast_natAbs, abs_of_nonneg (not_lt.1 hneg)]

theorem shownAs_ofInt (n : Int) : ShownAs (toString n) (ofInt n) := by
  refine ⟨?_, fun p hp => nomatch hp⟩
  rw [Int.toString_eq_repr, Int.repr_eq_if]
  by_cases hneg : n < 0
  · have habs : (-n).toNat = n.natAbs := by omega
    rw [if_neg (not_le.2 hneg), habs, String.toList_append, chars]
    show _ = (if n < 0 then Sign.minus else Sign.absent).chars ++ _
    rw [if_pos hneg]
    show '-' :: (Nat.repr n.natAbs).toList = '-' :: ((Nat.repr n.natAbs).toList ++ ([] ++ []))
    rw [List.append_nil, List.append_nil]
  · have habs : n.toNat = n.natAbs := by omega
    rw [if_pos (not_lt.1 hneg), habs, chars]
    show _ = (if n < 0 then Sign.minus else Sign.absent).chars ++ _
    rw [if_neg hneg]
    show (Nat.repr n.natAbs).toList = (Nat.repr n.natAbs).toList ++ ([] ++ [])
    rw [List.append_nil, List.append_nil]

end Numeral

/-- The text of a floating-point number is that of a numeral, not of an integer, that is read as
the number. -/
theorem Binary64.exists_shownAs (x : Binary64) :
    ∃ t, ShownAs (toString x) t ∧ ¬ t.IsInteger ∧ ofDecimalText? t.decimal = some x := by
  obtain ⟨t, hchars, hinteger, hletter, hread⟩ := exists_numeral_toChars x
  refine ⟨t, ⟨?_, hletter⟩, hinteger, hread⟩
  show (String.ofList x.toChars).toList = t.chars
  rw [String.toList_ofList, hchars]

namespace Coercion

theorem toOption_map_orFault {α : Type} (o : Option α) (fault : CoercionFault) (f : α → Json) :
    ((orFault o fault).map f).toOption = o.map f := by
  cases o <;> rfl

theorem toOption_toInteger_text (s : String) :
    (toInteger (.text s)).toOption = (integerOfText? s).map integer := by
  rw [toInteger, toOption_map_orFault]

theorem toOption_toFloat_text (s : String) :
    (toFloat (.text s)).toOption = (Binary64.ofText? (Text.trim s)).map float := by
  rw [toFloat, toOption_map_orFault]

theorem toOption_toBool_text (s : String) :
    (toBool (.text s)).toOption = (boolOfText? s).map .bool := by
  rw [toBool, toOption_map_orFault]

/-! ## Floating-point numbers -/

section Float

variable {x : Binary64} {s : String} {t : Numeral}

theorem integerOfText?_of_shownAs (h : ShownAs s t) (hinteger : ¬ t.IsInteger)
    (hread : Binary64.ofDecimalText? t.decimal = some x) : integerOfText? s = integral? x := by
  have hwritten : writtenInteger? t.chars = none := by
    rw [writtenInteger?, Numeral.integer?_chars_eq_none hinteger, Option.bind_none]
  rw [integerOfText?_eq, h.trimChars_eq, hwritten, Option.none_or, roundedInteger?_chars, hread,
    Option.bind_some]

/-- A text that writes no integer names no truth value. -/
theorem boolOfText?_of_shownAs (h : ShownAs s t) (hinteger : ¬ t.IsInteger) :
    boolOfText? s = none := by
  have hnot : ∀ (word : String) (n : Int), Decimal.integer? word.toList = some n → s ≠ word := by
    rintro word n hword rfl
    rw [h.chars, Numeral.integer?_chars_eq_none hinteger] at hword
    cases hword
  rw [h.boolOfText?_eq, if_neg (hnot "1" 1 (by decide)), if_neg (hnot "0" 0 (by decide))]

/-- Coercion does not tell a floating-point number from its text. -/
theorem toOption_coerce_float (x : Binary64) :
    (toInteger (.text (toString x))).toOption = (toInteger (.number (.float x))).toOption ∧
      (toFloat (.text (toString x))).toOption = (toFloat (.number (.float x))).toOption ∧
      (toBool (.text (toString x))).toOption = (toBool (.number (.float x))).toOption := by
  obtain ⟨t, h, hinteger, hread⟩ := x.exists_shownAs
  refine ⟨?_, ?_, ?_⟩
  · rw [toOption_toInteger_text, integerOfText?_of_shownAs h hinteger hread, toInteger,
      toOption_map_orFault]
  · rw [toOption_toFloat_text, h.ofText?_eq, hread]
    rfl
  · rw [toOption_toBool_text, boolOfText?_of_shownAs h hinteger]
    rfl

end Float

/-! ## Integers -/

/-- A text of digits is read as an integer if a signed word holds it. -/
theorem integerOfText?_toString (n : WordInt) :
    integerOfText? (toString n.value) = if n.value < 2 ^ 63 then some n else none := by
  have hshown := Numeral.shownAs_ofInt n.value
  have hvalue := Numeral.value_ofInt n.value
  have hinteger : (Numeral.ofInt n.value).IsInteger := ⟨rfl, rfl⟩
  rw [integerOfText?_eq, hshown.trimChars_eq]
  by_cases hlt : n.value < 2 ^ 63
  · have hwritten : writtenInteger? (Numeral.ofInt n.value).chars = some n :=
      writtenInteger?_eq_some_iff.2 ⟨hlt, _, hinteger, rfl, hvalue⟩
    rw [if_pos hlt, hwritten, Option.some_or]
  · -- what no signed word holds is not read, and not small enough as a floating-point number
    have hwritten : writtenInteger? (Numeral.ofInt n.value).chars = none := by
      rw [Option.eq_none_iff_forall_ne_some]
      intro w hw
      obtain ⟨hsmall, t, -, hchars, ht⟩ := writtenInteger?_eq_some_iff.1 hw
      have hsame : (n.value : ℚ) = w.value := by
        rw [← hvalue, ← ht]
        exact value_eq_of_chars_eq hchars
      rw [Int.cast_injective hsame] at hlt
      exact hlt hsmall
    have hrounded : roundedInteger? (Numeral.ofInt n.value).chars = none := by
      rw [Option.eq_none_iff_forall_ne_some]
      intro w hw
      have hsmall := (exists_roundedInteger?_iff hvalue).1 ⟨w, hw⟩
      rw [abs_lt] at hsmall
      omega
    rw [if_neg hlt, hwritten, hrounded, Option.none_or]

/-- The nearest number to an integer does not depend on how it is read. -/
theorem ofDecimalText?_ofInt (n : Int) :
    Binary64.ofDecimalText? (Numeral.ofInt n).decimal = Binary64.ofInt? n := by
  refine Option.ext fun x => ?_
  rw [Numeral.decimal_ofInt, Binary64.ofDecimalText?, Binary64.ofInt?,
    Binary64.ofDecimal?_eq_some_iff, Binary64.ofRatio?_eq_some_iff Nat.one_pos, zpow_zero, mul_one,
    Nat.cast_one, div_one]

theorem toString_eq_iff {n k : Int} : toString n = toString k ↔ n = k := by
  constructor
  · intro h
    have hn := (Numeral.shownAs_ofInt n).chars
    rw [h, (Numeral.shownAs_ofInt k).chars] at hn
    have hvalue := value_eq_of_chars_eq hn
    rw [Numeral.value_ofInt, Numeral.value_ofInt] at hvalue
    exact (Int.cast_injective hvalue).symm
  · exact congrArg _

theorem boolOfText?_toString (n : Int) :
    boolOfText? (toString n) = if n = 1 then some true else if n = 0 then some false else none := by
  have hone : toString n = "1" ↔ n = 1 := toString_eq_iff (k := 1)
  have hzero : toString n = "0" ↔ n = 0 := toString_eq_iff (k := 0)
  rw [(Numeral.shownAs_ofInt n).boolOfText?_eq]
  simp only [hone, hzero]

theorem toOption_toBool_integer (n : WordInt) :
    (toBool (.number (.integer n))).toOption =
      (if n.value = 1 then some true else if n.value = 0 then some false else none).map .bool := by
  rw [toBool, JsonNumber.signed?]
  by_cases hone : n.value = 1
  · rw [hone]
    rfl
  · by_cases hzero : n.value = 0
    · rw [hzero]
      rfl
    · rw [if_neg hone, if_neg hzero]
      by_cases hlt : n.value < 2 ^ 63
      · rw [if_pos hlt, if_neg fun h => hzero (Option.some.inj h),
          if_neg fun h => hone (Option.some.inj h)]
        rfl
      · rw [if_neg hlt]
        rfl

/-- Coercion tells an integer from its text only if no signed word holds it. -/
theorem toOption_coerce_integer (n : WordInt) :
    (toInteger (.text (toString n.value))).toOption =
        (if n.value < 2 ^ 63 then some (integer n) else none) ∧
      (toFloat (.text (toString n.value))).toOption =
        (toFloat (.number (.integer n))).toOption ∧
      (toBool (.text (toString n.value))).toOption = (toBool (.number (.integer n))).toOption := by
  have hshown := Numeral.shownAs_ofInt n.value
  refine ⟨?_, ?_, ?_⟩
  · rw [toOption_toInteger_text, integerOfText?_toString]
    split <;> rfl
  · rw [toOption_toFloat_text, hshown.ofText?_eq, ofDecimalText?_ofInt, toFloat,
      toOption_map_orFault]
    rfl
  · rw [toOption_toBool_text, boolOfText?_toString, toOption_toBool_integer]

end Coercion

/-! ## Scalars -/

/-- Numbers and truth values. -/
inductive Json.IsScalar : Json → Prop where
  | number (n : JsonNumber) : IsScalar (.number n)
  | bool (b : Bool) : IsScalar (.bool b)

/-- An integer that no signed word of 64 bits holds. -/
def Json.ExceedsSigned (v : Json) : Prop := ∃ n, v = Coercion.integer n ∧ 2 ^ 63 ≤ n.value

open Coercion

/-- Coercion to a type does not tell a text from a value: it succeeds for both or for none, and
with the same result. -/
def Agrees (s : String) (v : Json) (t : DataType) : Prop :=
  (coerce t (.text s)).toOption = (coerce t v).toOption

theorem not_exceedsSigned_of_lt {n : WordInt} (h : n.value < 2 ^ 63) :
    ¬ (integer n).ExceedsSigned := by
  rintro ⟨m, hm, hle⟩
  cases hm
  exact absurd h hle.not_gt

theorem not_exceedsSigned_float (x : Binary64) : ¬ (float x).ExceedsSigned := by
  rintro ⟨n, hn, -⟩
  cases hn

theorem not_exceedsSigned_bool (b : Bool) : ¬ (Json.bool b).ExceedsSigned := by
  rintro ⟨n, hn, -⟩
  cases hn

theorem agrees_bool (b : Bool) {t : DataType} (ht : t = .int ∨ t = .float ∨ t = .boolean) :
    Agrees (if b then "true" else "false") (.bool b) t := by
  cases b
  · rcases ht with rfl | rfl | rfl <;> rfl
  · rcases ht with rfl | rfl | rfl <;> rfl

theorem agrees_float (x : Binary64) {t : DataType} (ht : t = .int ∨ t = .float ∨ t = .boolean) :
    Agrees (toString x) (float x) t := by
  obtain ⟨hint, hfloat, hbool⟩ := toOption_coerce_float x
  rcases ht with rfl | rfl | rfl
  · exact hint
  · exact hfloat
  · exact hbool

theorem agrees_integer_iff (n : WordInt) {t : DataType}
    (ht : t = .int ∨ t = .float ∨ t = .boolean) :
    Agrees (toString n.value) (integer n) t ↔ ¬ (t = .int ∧ (integer n).ExceedsSigned) := by
  obtain ⟨hint, hfloat, hbool⟩ := toOption_coerce_integer n
  rcases ht with rfl | rfl | rfl
  · have hagrees : Agrees (toString n.value) (integer n) .int ↔
        (if n.value < 2 ^ 63 then some (integer n) else none) = some (integer n) := by
      rw [← hint]
      exact Iff.rfl
    rw [hagrees]
    by_cases hlt : n.value < 2 ^ 63
    · rw [if_pos hlt]
      exact ⟨fun _ h => not_exceedsSigned_of_lt hlt h.2, fun _ => rfl⟩
    · rw [if_neg hlt]
      constructor
      · intro h
        cases h
      · intro h
        exact absurd ⟨rfl, n, rfl, not_lt.1 hlt⟩ h
  · exact ⟨fun _ h => (nomatch h.1), fun _ => hfloat⟩
  · exact ⟨fun _ h => (nomatch h.1), fun _ => hbool⟩

/-- **A scalar means the same as a text, but for the largest integers.** Each number and each truth
value has a text, and coercion of the text to an integer, a float or a truth value succeeds as
coercion of the scalar does, and with the same result. The one exception are the integers that no
signed word of 64 bits holds: as such they are integers, and their texts are none. -/
theorem coerce_shown {v : Json} (hv : v.IsScalar) :
    ∃ s, coerce .string v = .ok (.text s) ∧
      (∀ t, t = .int ∨ t = .float ∨ t = .boolean →
        (Agrees s v t ↔ ¬ (t = .int ∧ v.ExceedsSigned))) ∧
      (v.ExceedsSigned →
        coerce .int v = .ok v ∧ ∃ fault, coerce .int (.text s) = .error fault) := by
  cases hv with
  | bool b =>
      have hnot := not_exceedsSigned_bool b
      exact ⟨_, rfl, fun t ht => ⟨fun _ h => hnot h.2, fun _ => agrees_bool b ht⟩,
        fun h => absurd h hnot⟩
  | number n =>
      cases n with
      | float x =>
          have hnot := not_exceedsSigned_float x
          exact ⟨_, rfl, fun t ht => ⟨fun _ h => hnot h.2, fun _ => agrees_float x ht⟩,
            fun h => absurd h hnot⟩
      | integer n =>
          refine ⟨_, rfl, fun t ht => agrees_integer_iff n ht, fun hexceeds => ⟨rfl, ?_⟩⟩
          have hlarge : ¬ n.value < 2 ^ 63 := fun hlt => not_exceedsSigned_of_lt hlt hexceeds
          have hread := (toOption_coerce_integer n).1
          rw [if_neg hlarge] at hread
          cases hresult : toInteger (.text (toString n.value)) with
          | error fault => exact ⟨fault, hresult⟩
          | ok w =>
              rw [hresult] at hread
              cases hread

/-- A negative power of two, of which the text has a point and a power of ten. -/
theorem coerce_shown_power :
    let x : Binary64 := ⟨true, 1093 * 2 ^ 52, by decide⟩
    (float x).IsScalar ∧
      coerce .string (float x) = .ok (.text "-1.1805916207174113e+21") ∧
      Agrees "-1.1805916207174113e+21" (float x) .int ∧
      Agrees "-1.1805916207174113e+21" (float x) .float ∧
      Agrees "-1.1805916207174113e+21" (float x) .boolean := by
  intro x
  have htext : toString x = "-1.1805916207174113e+21" := by decide +kernel
  obtain ⟨s, hs, hagrees, -⟩ := coerce_shown (.number (.float x))
  have hsame : toString x = s := Json.text.inj (Except.ok.inj hs)
  rw [← hsame, htext] at hs hagrees
  have hnot : ∀ t : DataType, ¬ (t = .int ∧ (float x).ExceedsSigned) :=
    fun t h => not_exceedsSigned_float x h.2
  exact ⟨.number _, hs, (hagrees .int (.inl rfl)).2 (hnot _),
    (hagrees .float (.inr (.inl rfl))).2 (hnot _), (hagrees .boolean (.inr (.inr rfl))).2 (hnot _)⟩

/-- **The text of an integer that no signed word holds is refused, the integer is not.** -/
theorem text_of_large_integer_refused :
    ∃ n : WordInt, coerce .string (integer n) = .ok (.text "9223372036854775808") ∧
      coerce .int (integer n) = .ok (integer n) ∧
      ∃ fault, coerce .int (.text "9223372036854775808") = .error fault := by
  refine ⟨⟨9223372036854775808, by decide⟩, rfl, rfl, ?_⟩
  have hread : integerOfText? "9223372036854775808" = none := by decide +kernel
  exact ⟨_, by rw [coerce, toInteger, hread]; rfl⟩

end Dataflow
