import Mathlib.Data.List.Infix
import Dataflow.Text.Lower

set_option autoImplicit false

/-! # Lower case within a longer text

The lower case of a text is not put together from the lower cases of its characters: a capital
sigma looks at its neighbours. So a part of a text need not have the same lower case as the part
has on its own, and the lower case of the part may not occur in that of the text. What a
character becomes depends on the rest of the text only through the next character on either side
that is not passed over (`lowerWithin_congr`), and only sigmas can see beyond the ends of a part.
`openSigma_iff` says which parts have a sigma that does: those that some text hides.
-/

namespace Dataflow.Text

/-! ## Occurrences -/

theorem containsChars_iff {part cs : List Char} : containsChars part cs = true ↔ part <:+: cs := by
  induction cs with
  | nil => rw [containsChars, List.isEmpty_iff, List.infix_nil]
  | cons c cs ih =>
      rw [containsChars, Bool.or_eq_true, List.isPrefixOf_iff_prefix, ih, List.infix_cons_iff]

theorem contains_iff {s part : String} : contains s part = true ↔ part.toList <:+: s.toList :=
  containsChars_iff

/-! ## The next character that is not passed over -/

variable {c : Char} {cs xs ys before before' behind behind' : List Char}

/-- Whether all characters are passed over. -/
def PassedOver (cs : List Char) : Prop := ∀ c ∈ cs, isCaseIgnorable c = true

theorem nextIsCased_cons (c : Char) (cs : List Char) :
    nextIsCased (c :: cs) = if isCaseIgnorable c then nextIsCased cs else isCased c := by
  by_cases hignorable : isCaseIgnorable c = true
  · rw [nextIsCased, List.dropWhile_cons_of_pos hignorable, if_pos hignorable, nextIsCased]
  · rw [nextIsCased, List.dropWhile_cons_of_neg hignorable, if_neg hignorable]

theorem nextIsCased_cons_of_not (h : isCaseIgnorable c = false) :
    nextIsCased (c :: cs) = isCased c := by
  rw [nextIsCased_cons, h, if_neg Bool.false_ne_true]

theorem nextIsCased_append_of_passedOver (h : PassedOver xs) :
    nextIsCased (xs ++ ys) = nextIsCased ys := by
  rw [nextIsCased, List.dropWhile_append_of_pos h, nextIsCased]

/-- A run of characters that are not all passed over hides what comes behind it. -/
theorem nextIsCased_append_of_not (h : ¬ PassedOver xs) :
    nextIsCased (xs ++ ys) = nextIsCased xs := by
  -- the induction ends at the first character that is not passed over
  induction xs with
  | nil => exact absurd (List.forall_mem_nil _) h
  | cons x xs ih =>
      rw [List.cons_append, nextIsCased_cons, nextIsCased_cons]
      split
      · rename_i hx
        exact ih fun hxs => h (List.forall_mem_cons.2 ⟨hx, hxs⟩)
      · rfl

theorem nextIsCased_append_congr (h : nextIsCased before = nextIsCased before') :
    nextIsCased (xs ++ before) = nextIsCased (xs ++ before') := by
  by_cases hxs : PassedOver xs
  · rw [nextIsCased_append_of_passedOver hxs, nextIsCased_append_of_passedOver hxs, h]
  · rw [nextIsCased_append_of_not hxs, nextIsCased_append_of_not hxs]

theorem nextIsCased_eq_false_of_passedOver (h : PassedOver xs) : nextIsCased xs = false := by
  rw [← List.append_nil xs, nextIsCased_append_of_passedOver h]
  rfl

/-! ## Lower case in its place -/

/-- Whether a sigma between two runs of characters ends a word. The characters before it are given
from the last one on. -/
def endsWord (before behind : List Char) : Bool := nextIsCased before && !nextIsCased behind

/-- The lower case of a character in its place. -/
def loweredAt (before : List Char) (c : Char) (behind : List Char) : List Char :=
  if c = capitalSigma then [if endsWord before behind then finalSigma else smallSigma]
  else lowerChar c

/-- The lower case of a run of characters in its place, given the characters before it from the
last one on and the characters behind it. -/
def lowerWithin : List Char → List Char → List Char → List Char
  | _, [], _ => []
  | before, c :: cs, behind =>
      loweredAt before c (cs ++ behind) ++ lowerWithin (c :: before) cs behind

theorem loweredAt_of_ne (h : c ≠ capitalSigma) : loweredAt before c behind = lowerChar c := if_neg h

theorem loweredAt_congr (hbefore : nextIsCased before = nextIsCased before')
    (hbehind : nextIsCased behind = nextIsCased behind') :
    loweredAt before c behind = loweredAt before' c behind' := by
  rw [loweredAt, loweredAt, endsWord, endsWord, hbefore, hbehind]

theorem lowerAfter_append :
    lowerAfter before (xs ++ ys) =
      lowerWithin before xs ys ++ lowerAfter (xs.reverse ++ before) ys := by
  induction xs generalizing before with
  | nil => rfl
  | cons x xs ih =>
      calc lowerAfter before (x :: (xs ++ ys))
          = loweredAt before x (xs ++ ys) ++ lowerAfter (x :: before) (xs ++ ys) := rfl
        _ = loweredAt before x (xs ++ ys) ++
              (lowerWithin (x :: before) xs ys ++ lowerAfter (xs.reverse ++ x :: before) ys) := by
            rw [ih]
        _ = _ := by rw [lowerWithin, List.reverse_cons, List.append_assoc, List.append_assoc,
              List.singleton_append]

theorem toList_lower (s : String) : (lower s).toList = lowerWithin [] s.toList [] := by
  rw [lower, String.toList_ofList, ← List.append_nil s.toList, lowerAfter_append, lowerAfter,
    List.append_nil, List.append_nil]

theorem lowerWithin_append :
    lowerWithin before (xs ++ ys) behind =
      lowerWithin before xs (ys ++ behind) ++ lowerWithin (xs.reverse ++ before) ys behind := by
  induction xs generalizing before with
  | nil => rfl
  | cons x xs ih =>
      rw [List.cons_append, lowerWithin, lowerWithin, ih, List.reverse_cons, List.append_assoc,
        List.append_assoc, List.append_assoc, List.singleton_append]

/-- **Only what single characters become counts**: two places give a run the same lower case if
they do so for each of its characters. -/
theorem lowerWithin_eq_of_splits
    (h : ∀ xs c ys, cs = xs ++ c :: ys →
      loweredAt (xs.reverse ++ before) c (ys ++ behind) =
        loweredAt (xs.reverse ++ before') c (ys ++ behind')) :
    lowerWithin before cs behind = lowerWithin before' cs behind' := by
  induction cs generalizing before before' with
  | nil => rfl
  | cons c cs ih =>
      have hhead : loweredAt before c (cs ++ behind) = loweredAt before' c (cs ++ behind') :=
        h [] c cs rfl
      have htail : lowerWithin (c :: before) cs behind = lowerWithin (c :: before') cs behind' := by
        refine ih fun xs d ys hsplit => ?_
        have hd := h (c :: xs) d ys (congrArg (c :: ·) hsplit)
        rwa [List.reverse_cons, List.append_assoc, List.append_assoc] at hd
      rw [lowerWithin, lowerWithin, hhead, htail]

/-- **The lower case of a run depends on its place only through the next character on either side
that is not passed over.** -/
theorem lowerWithin_congr (hbefore : nextIsCased before = nextIsCased before')
    (hbehind : nextIsCased behind = nextIsCased behind') :
    lowerWithin before cs behind = lowerWithin before' cs behind' :=
  lowerWithin_eq_of_splits fun _ _ _ _ =>
    loweredAt_congr (nextIsCased_append_congr hbefore) (nextIsCased_append_congr hbehind)

/-- Without a sigma the place does not matter. -/
theorem lowerWithin_of_notMem (h : capitalSigma ∉ cs) :
    lowerWithin before cs behind = cs.flatMap lowerChar := by
  induction cs generalizing before with
  | nil => rfl
  | cons c cs ih =>
      rw [List.mem_cons, not_or] at h
      rw [lowerWithin, loweredAt_of_ne (Ne.symm h.1), ih h.2, List.flatMap_cons]

/-! ## Facts of the tables -/

/-- A table is read character by character. A literal is known to be such a list, so that what is
read of it can be evaluated. -/
theorem CodeSet.ofText_ofList (cs : List Char) :
    CodeSet.ofText (String.ofList cs) = CodeSet.ofChars cs := by
  rw [CodeSet.ofText, String.toList_ofList]

set_option maxRecDepth 20000 in
/-- What is passed over among a sigma, a letter and a blank: nothing. -/
theorem isCaseIgnorable_eq_false {c : Char} (h : c ∈ [capitalSigma, 'A', ' ']) :
    isCaseIgnorable c = false := by
  have htable : caseIgnorableSet = CodeSet.ofChars _ := CodeSet.ofText_ofList _
  -- one pass over the table for all three characters
  have hnone : ([capitalSigma, 'A', ' '].any fun c => caseIgnorableSet.contains c) = false := by
    rw [htable]
    decide +kernel
  exact Bool.eq_false_iff.2 (List.any_eq_false.1 hnone c h)

set_option maxRecDepth 20000 in
/-- A letter has a case, and a blank has none. -/
theorem isCased_letter_and_blank : isCased 'A' = true ∧ isCased ' ' = false := by
  have htable : casedSet = CodeSet.ofChars _ := CodeSet.ofText_ofList _
  rw [isCased, isCased, htable]
  decide +kernel

theorem nextIsCased_letter : nextIsCased ('A' :: cs) = true := by
  rw [nextIsCased_cons_of_not (isCaseIgnorable_eq_false (by decide))]
  exact isCased_letter_and_blank.1

theorem nextIsCased_blank : nextIsCased (' ' :: cs) = false := by
  rw [nextIsCased_cons_of_not (isCaseIgnorable_eq_false (by decide))]
  exact isCased_letter_and_blank.2

/-- Nothing is seen across a sigma. -/
theorem nextIsCased_sigma :
    nextIsCased (capitalSigma :: xs) = nextIsCased (capitalSigma :: ys) := by
  have hsigma : isCaseIgnorable capitalSigma = false := isCaseIgnorable_eq_false (by decide)
  rw [nextIsCased_cons_of_not hsigma, nextIsCased_cons_of_not hsigma]

theorem capitalSigma_notMem_of_passedOver (h : PassedOver cs) : capitalSigma ∉ cs := by
  intro hmem
  have hignorable := h capitalSigma hmem
  rw [isCaseIgnorable_eq_false (by decide)] at hignorable
  cases hignorable

/-! ## Parts of a text -/

/-- A capital sigma that could be seen to end a word, or not to, from beyond the ends of a text:
it has nothing before it but characters that are passed over, and no cased character behind it;
or there is a cased character before it, and nothing behind it but characters that are passed
over. -/
def OpenSigma (cs : List Char) : Prop :=
  ∃ xs ys, cs = xs ++ capitalSigma :: ys ∧
    ((PassedOver xs ∧ nextIsCased ys = false) ∨ (nextIsCased xs.reverse = true ∧ PassedOver ys))

/-- A text without a capital sigma has no open one. -/
theorem not_openSigma_of_notMem (h : capitalSigma ∉ cs) : ¬ OpenSigma cs := by
  rintro ⟨xs, ys, rfl, -⟩
  exact h (List.mem_append_right xs (List.mem_cons_self ..))

/-- Without an open sigma, the ends of a word are seen from within. -/
theorem endsWord_of_not_openSigma (h : ¬ OpenSigma (xs ++ capitalSigma :: ys)) :
    endsWord (xs.reverse ++ before) (ys ++ behind) = endsWord xs.reverse ys := by
  rw [endsWord, endsWord]
  by_cases hxs : PassedOver xs
  · -- nothing before the sigma decides, so a cased character behind it must
    have hys : nextIsCased ys = true := by
      by_contra hfalse
      exact h ⟨xs, ys, rfl, .inl ⟨hxs, Bool.eq_false_iff.2 hfalse⟩⟩
    have hnot : ¬ PassedOver ys := by
      intro hpassed
      rw [nextIsCased_eq_false_of_passedOver hpassed] at hys
      cases hys
    rw [nextIsCased_append_of_not hnot, hys, Bool.not_true, Bool.and_false, Bool.and_false]
  · have hrev : ¬ PassedOver xs.reverse := fun hpassed =>
      hxs fun c hc => hpassed c (List.mem_reverse.2 hc)
    rw [nextIsCased_append_of_not hrev]
    cases hcased : nextIsCased xs.reverse with
    | false => rfl
    | true =>
        have hnot : ¬ PassedOver ys := fun hpassed =>
          h ⟨xs, ys, rfl, .inr ⟨hcased, hpassed⟩⟩
        rw [nextIsCased_append_of_not hnot]

/-- **Without an open sigma a part has the same lower case everywhere.** -/
theorem lowerWithin_of_not_openSigma (h : ¬ OpenSigma cs) (before behind : List Char) :
    lowerWithin before cs behind = lowerWithin [] cs [] := by
  refine lowerWithin_eq_of_splits fun xs c ys hsplit => ?_
  rw [List.append_nil, List.append_nil]
  by_cases hc : c = capitalSigma
  · subst hc hsplit
    rw [loweredAt, loweredAt, endsWord_of_not_openSigma h]
  · rw [loweredAt_of_ne hc, loweredAt_of_ne hc]

/-- **Such a part is found again in lower case.** -/
theorem contains_lower_of_not_openSigma {s part : String} (hopen : ¬ OpenSigma part.toList)
    (h : contains s part = true) : contains (lower s) (lower part) = true := by
  obtain ⟨xs, ys, hs⟩ := contains_iff.1 h
  rw [contains_iff, toList_lower, toList_lower, ← hs, lowerWithin_append, lowerWithin_append,
    lowerWithin_of_not_openSigma hopen (xs.reverse ++ [])]
  exact List.infix_append _ _ _

/-! ## Texts that hide a part -/

variable {p q : List Char}

/-- The small sigma that ends a word or does not. -/
def sigmaOf (ends : Bool) : Char := if ends then finalSigma else smallSigma

theorem sigmaOf_ne {ends ends' : Bool} (h : ends ≠ ends') : sigmaOf ends ≠ sigmaOf ends' := by
  revert ends ends'
  decide

/-- Characters without a sigma whose lower case has none either. -/
structure SigmaFree (cs : List Char) : Prop where
  capital : capitalSigma ∉ cs
  small : smallSigma ∉ cs.flatMap lowerChar
  final : finalSigma ∉ cs.flatMap lowerChar

theorem SigmaFree.append (hxs : SigmaFree xs) (hys : SigmaFree ys) : SigmaFree (xs ++ ys) := by
  constructor <;> simp only [List.flatMap_append, List.mem_append, not_or]
  · exact ⟨hxs.capital, hys.capital⟩
  · exact ⟨hxs.small, hys.small⟩
  · exact ⟨hxs.final, hys.final⟩

theorem SigmaFree.count_lowerWithin (h : SigmaFree cs) (ends : Bool) :
    (lowerWithin before cs behind).count (sigmaOf ends) = 0 := by
  rw [lowerWithin_of_notMem h.capital, List.count_eq_zero]
  cases ends with
  | false => exact h.small
  | true => exact h.final

theorem lowerWithin_sigma :
    lowerWithin before (xs ++ capitalSigma :: ys) behind =
      lowerWithin before xs (capitalSigma :: ys ++ behind) ++
        ([sigmaOf (endsWord (xs.reverse ++ before) (ys ++ behind))] ++
          lowerWithin (capitalSigma :: (xs.reverse ++ before)) ys behind) := by
  rw [lowerWithin_append, lowerWithin, loweredAt, if_pos rfl, sigmaOf]

/-- **A text hides a part if one sigma of the part becomes another one in it**, the rest of the
part does not change, and there are no sigmas around the part: the lower case of the part has
one more of this form of the letter than that of the text. -/
theorem not_infix_of_endsWord_ne (hp : SigmaFree p) (hq : SigmaFree q)
    (hxs : lowerWithin p.reverse xs (capitalSigma :: ys ++ q) =
      lowerWithin [] xs (capitalSigma :: ys))
    (hys : lowerWithin (capitalSigma :: (xs.reverse ++ p.reverse)) ys q =
      lowerWithin (capitalSigma :: xs.reverse) ys [])
    (hends : endsWord (xs.reverse ++ p.reverse) (ys ++ q) ≠ endsWord xs.reverse ys) :
    ¬ lowerWithin [] (xs ++ capitalSigma :: ys) [] <:+:
      lowerWithin [] (p ++ (xs ++ capitalSigma :: ys) ++ q) [] := by
  intro hoccurs
  -- the form that the sigma has in the part alone
  let sigma := sigmaOf (endsWord xs.reverse ys)
  have hpart : (lowerWithin [] (xs ++ capitalSigma :: ys) []).count sigma =
      (lowerWithin [] xs (capitalSigma :: ys)).count sigma + 1 +
        (lowerWithin (capitalSigma :: xs.reverse) ys []).count sigma := by
    rw [lowerWithin_sigma, List.append_nil, List.append_nil, List.append_nil, List.count_append,
      List.count_append, List.count_singleton_self, Nat.add_assoc]
  have htext : (lowerWithin [] (p ++ (xs ++ capitalSigma :: ys) ++ q) []).count sigma =
      (lowerWithin [] xs (capitalSigma :: ys)).count sigma +
        (lowerWithin (capitalSigma :: xs.reverse) ys []).count sigma := by
    rw [lowerWithin_append, lowerWithin_append, List.append_nil, List.append_nil,
      lowerWithin_sigma, hxs, hys, List.count_append, List.count_append, List.count_append,
      List.count_append, hp.count_lowerWithin, hq.count_lowerWithin,
      List.count_eq_zero.2 (List.mem_singleton.not.2 (sigmaOf_ne hends.symm))]
    omega
  have hle := hoccurs.sublist.count_le sigma
  rw [hpart, htext] at hle
  omega

/-- A part that begins with an open sigma is hidden behind a letter, if a blank follows. -/
theorem not_infix_behind_letter (hxs : PassedOver xs) (hys : nextIsCased ys = false)
    (hq : SigmaFree (' ' :: q)) :
    ¬ lowerWithin [] (xs ++ capitalSigma :: ys) [] <:+:
      lowerWithin [] (['A'] ++ (xs ++ capitalSigma :: ys) ++ ' ' :: q) [] := by
  have hnone : capitalSigma ∉ xs := capitalSigma_notMem_of_passedOver hxs
  have hrev : PassedOver xs.reverse := fun c hc => hxs c (List.mem_reverse.1 hc)
  refine not_infix_of_endsWord_ne ⟨by decide, by decide, by decide⟩ hq ?_ ?_ ?_
  · rw [lowerWithin_of_notMem hnone, lowerWithin_of_notMem hnone]
  · exact lowerWithin_congr nextIsCased_sigma nextIsCased_blank
  · -- the sigma has a cased character before it only where the letter is
    have hends : endsWord xs.reverse ys = false := by
      rw [endsWord, nextIsCased_eq_false_of_passedOver hrev, Bool.false_and]
    have hblank : nextIsCased (' ' :: q) = nextIsCased [] := nextIsCased_blank
    have hends' : endsWord (xs.reverse ++ ['A'].reverse) (ys ++ ' ' :: q) = true := by
      rw [endsWord, nextIsCased_append_of_passedOver hrev, List.reverse_singleton,
        nextIsCased_letter, nextIsCased_append_congr hblank, List.append_nil, hys]
      rfl
    rw [hends, hends']
    decide

/-- A part that ends with an open sigma is hidden before a letter. -/
theorem not_infix_before_letter (hxs : nextIsCased xs.reverse = true) (hys : PassedOver ys)
    (hq : SigmaFree ('A' :: q)) :
    ¬ lowerWithin [] (xs ++ capitalSigma :: ys) [] <:+:
      lowerWithin [] ((xs ++ capitalSigma :: ys) ++ 'A' :: q) [] := by
  have hnone : capitalSigma ∉ ys := capitalSigma_notMem_of_passedOver hys
  refine not_infix_of_endsWord_ne (p := []) ⟨by decide, by decide, by decide⟩ hq ?_ ?_ ?_
  · exact lowerWithin_congr rfl nextIsCased_sigma
  · rw [lowerWithin_of_notMem hnone, lowerWithin_of_notMem hnone]
  · -- the sigma has no cased character behind it only where the letter is not
    have hends : endsWord xs.reverse ys = true := by
      rw [endsWord, hxs, nextIsCased_eq_false_of_passedOver hys]
      rfl
    have hends' : endsWord (xs.reverse ++ [].reverse) (ys ++ 'A' :: q) = false := by
      rw [endsWord, nextIsCased_append_of_passedOver hys, nextIsCased_letter, Bool.not_true,
        Bool.and_false]
    rw [hends, hends']
    decide

/-- **A part with an open sigma is hidden in some text**, with a letter before it or behind it,
whatever comes after a blank. -/
theorem OpenSigma.exists_hidden (h : OpenSigma cs) (hq : SigmaFree (' ' :: q)) :
    ∃ p p', ¬ lowerWithin [] cs [] <:+: lowerWithin [] (p ++ cs ++ p' ++ ' ' :: q) [] := by
  obtain ⟨xs, ys, rfl, ⟨hxs, hys⟩ | ⟨hxs, hys⟩⟩ := h
  · refine ⟨['A'], [], ?_⟩
    rw [List.append_nil]
    exact not_infix_behind_letter hxs hys hq
  · have hletter : SigmaFree ['A'] := ⟨by decide, by decide, by decide⟩
    refine ⟨[], ['A'], ?_⟩
    rw [List.nil_append, List.append_assoc _ ['A']]
    exact not_infix_before_letter hxs hys (hletter.append hq)

end Dataflow.Text
