import Dataflow.ModelError
import Dataflow.Proofs.Except

set_option autoImplicit false

/-! # What coercion yields

Coercion brings a value into the form of a type: an integer, a finite float, a text or a truth
value for the four types that have a form of their own, and any value for the others
(`DataType.Represents`). A value that came of it is not changed by coercing it again
(`canonical_of_coerce`). `coerceAs_canonical` says so of coercion as it is reported, with the type
named by every error.
-/

namespace Dataflow

/-- A value has the form of a type. A float is finite, for all of `Binary64` is. -/
def DataType.Represents : DataType → Json → Prop
  | .int, v => ∃ n, v = Coercion.integer n
  | .float, v => ∃ x, v = Coercion.float x
  | .string, v => ∃ s, v = .text s
  | .boolean, v => ∃ b, v = .bool b
  | _, _ => True

/-- A value is in the representation of a type: it has its form, and coercion leaves it as it
is. -/
structure Canonical (t : DataType) (v : Json) : Prop where
  represents : t.Represents v
  unchanged : coerce t v = .ok v

namespace Coercion

variable {v w : Json}

theorem eq_of_map_orFault {α : Type} {o : Option α} {fault : CoercionFault} {f : α → Json}
    (h : (orFault o fault).map f = .ok w) : ∃ a, w = f a := by
  cases o with
  | none => cases h
  | some a => exact ⟨a, (Except.ok.inj h).symm⟩

theorem exists_of_toInteger (h : toInteger v = .ok w) : ∃ n, w = integer n := by
  cases v with
  | number n =>
      cases n with
      | integer n => exact ⟨n, (Except.ok.inj h).symm⟩
      | float x =>
          rw [toInteger] at h
          exact eq_of_map_orFault h
  | text s =>
      rw [toInteger] at h
      exact eq_of_map_orFault h
  | _ => cases h

theorem exists_of_toFloat (h : toFloat v = .ok w) : ∃ x, w = float x := by
  cases v with
  | number n =>
      rw [toFloat] at h
      exact eq_of_map_orFault h
  | text s =>
      rw [toFloat] at h
      exact eq_of_map_orFault h
  | _ => cases h

theorem exists_of_toText (h : toText v = .ok w) : ∃ s, w = .text s := by
  cases v with
  | text s => exact ⟨s, (Except.ok.inj h).symm⟩
  | number n => exact ⟨_, (Except.ok.inj h).symm⟩
  | bool b => exact ⟨_, (Except.ok.inj h).symm⟩
  | _ => cases h

theorem exists_of_toBool (h : toBool v = .ok w) : ∃ b, w = .bool b := by
  cases v with
  | bool b => exact ⟨b, (Except.ok.inj h).symm⟩
  | number n =>
      rw [toBool] at h
      split at h
      · exact ⟨false, (Except.ok.inj h).symm⟩
      · split at h
        · exact ⟨true, (Except.ok.inj h).symm⟩
        · cases h
  | text s =>
      rw [toBool] at h
      exact eq_of_map_orFault h
  | _ => cases h

end Coercion

/-- **What coercion yields is in the representation of the type.** -/
theorem canonical_of_coerce {t : DataType} {v w : Json} (h : coerce t v = .ok w) :
    Canonical t w := by
  cases t with
  | int =>
      obtain ⟨n, rfl⟩ := Coercion.exists_of_toInteger h
      exact ⟨⟨n, rfl⟩, rfl⟩
  | float =>
      obtain ⟨x, rfl⟩ := Coercion.exists_of_toFloat h
      exact ⟨⟨x, rfl⟩, rfl⟩
  | string =>
      obtain ⟨s, rfl⟩ := Coercion.exists_of_toText h
      exact ⟨⟨s, rfl⟩, rfl⟩
  | boolean =>
      obtain ⟨b, rfl⟩ := Coercion.exists_of_toBool h
      exact ⟨⟨b, rfl⟩, rfl⟩
  | _ => exact ⟨trivial, rfl⟩

/-! ## Coercion as it is reported -/

/-- The types that have a form of their own. -/
inductive DataType.HasForm : DataType → Prop
  | int : HasForm .int
  | float : HasForm .float
  | string : HasForm .string
  | boolean : HasForm .boolean

/-- Values of the other types pass through. -/
theorem coerce_of_not_hasForm {t : DataType} (h : ¬ t.HasForm) (v : Json) : coerce t v = .ok v := by
  cases t with
  | int => exact absurd .int h
  | float => exact absurd .float h
  | string => exact absurd .string h
  | boolean => exact absurd .boolean h
  | _ => rfl

theorem coerceAs_eq_ok_iff {t : DataType} {v w : Json} :
    coerceAs t v = .ok w ↔ coerce t v = .ok w := mapError_eq_ok

theorem coerceAs_eq_error_iff {t : DataType} {v : Json} {e : ModelError} :
    coerceAs t v = .error e ↔ ∃ fault, coerce t v = .error fault ∧ e = .coercion t fault := by
  rw [coerceAs]
  cases coerce t v <;> simp [Except.mapError, eq_comm]

/-- **Coercion yields values in the representation of the type, which it leaves as they are.** They
have the form of the type, and for a type without one they are the values that went in. Every error
names the type, which then has a form. -/
theorem coerceAs_canonical (t : DataType) (v : Json) :
    (∀ w, coerceAs t v = .ok w →
      t.Represents w ∧ (¬ t.HasForm → w = v) ∧ coerceAs t w = .ok w) ∧
      ∀ e, coerceAs t v = .error e → t.HasForm ∧ ∃ fault, e = .coercion t fault ∧
        e.message = "cannot parse value as " ++ t.name ++ ": " ++ fault.message := by
  refine ⟨fun w hw => ?_, fun e he => ?_⟩
  · have hcoerce := coerceAs_eq_ok_iff.1 hw
    have hcanonical := canonical_of_coerce hcoerce
    refine ⟨hcanonical.represents, fun hform => ?_, coerceAs_eq_ok_iff.2 hcanonical.unchanged⟩
    rw [coerce_of_not_hasForm hform, Except.ok.injEq] at hcoerce
    exact hcoerce.symm
  · obtain ⟨fault, hfault, rfl⟩ := coerceAs_eq_error_iff.1 he
    refine ⟨?_, fault, rfl, rfl⟩
    by_contra hform
    rw [coerce_of_not_hasForm hform] at hfault
    cases hfault

/-- A text that writes the largest integer of a signed word, and a value that is no float. -/
theorem coerceAs_canonical_sample :
    let n : WordInt := ⟨2 ^ 63 - 1, by decide⟩
    coerceAs .int (.text " 9223372036854775807 ") = .ok (Coercion.integer n) ∧
      coerceAs .int (Coercion.integer n) = .ok (Coercion.integer n) ∧
      ∃ e fault, coerceAs .float .null = .error e ∧ e = .coercion .float fault := by
  intro n
  have hok : coerceAs .int (.text " 9223372036854775807 ") = .ok (Coercion.integer n) := rfl
  have herror : coerceAs .float .null = .error (.coercion .float (.unexpected "a float" .null)) :=
    rfl
  obtain ⟨-, -, hagain⟩ := (coerceAs_canonical .int _).1 _ hok
  obtain ⟨-, fault, hfault, -⟩ := (coerceAs_canonical .float .null).2 _ herror
  exact ⟨hok, hagain, _, fault, herror, hfault⟩

end Dataflow
