import Dataflow.Journal.Traced
import Mathlib.Tactic

set_option autoImplicit false

/-! # The laws of traced computations

A computation after another leaves its entries behind those of the other, and is not begun if
the other failed (`Traced.bind_of_ok`, `Traced.bind_of_error`). `Traced.bind_eq_ok` takes a
computation that succeeded apart.
-/

namespace Dataflow

namespace Traced

variable {ε ε' α β : Type}

@[simp] theorem entries_ofExcept (r : Except ε α) : (ofExcept r).entries = [] := rfl

@[simp] theorem result_ofExcept (r : Except ε α) : (ofExcept r).result = r := rfl

@[simp] theorem result_mapError (f : ε → ε') (t : Traced ε α) :
    (t.mapError f).result = t.result.mapError f := rfl

theorem bind_of_ok {t : Traced ε α} {a : α} (h : t.result = .ok a) (f : α → Traced ε β) :
    t >>= f = ⟨t.entries ++ (f a).entries, (f a).result⟩ := by
  show Traced.bind t f = _
  simp only [Traced.bind, h]

theorem bind_of_error {t : Traced ε α} {e : ε} (h : t.result = .error e) (f : α → Traced ε β) :
    t >>= f = ⟨t.entries, .error e⟩ := by
  show Traced.bind t f = _
  simp only [Traced.bind, h]

@[simp] theorem ofExcept_ok_bind (a : α) (f : α → Traced ε β) : ofExcept (.ok a) >>= f = f a := by
  rw [bind_of_ok (result_ofExcept _) f, entries_ofExcept, List.nil_append]

@[simp] theorem ofExcept_error_bind (e : ε) (f : α → Traced ε β) :
    ofExcept (.error e) >>= f = fail e :=
  bind_of_error (result_ofExcept _) f

/-- Where computations are grouped does not matter. -/
theorem bind_bind {γ : Type} (t : Traced ε α) (f : α → Traced ε β) (g : β → Traced ε γ) :
    t >>= f >>= g = t >>= fun a => f a >>= g := by
  cases h : t.result with
  | error e =>
      rw [bind_of_error h, bind_of_error h]
      exact bind_of_error rfl g
  | ok a =>
      rw [bind_of_ok h, bind_of_ok h]
      cases h' : (f a).result with
      | error e =>
          rw [bind_of_error h']
          exact bind_of_error rfl g
      | ok b =>
          rw [bind_of_ok h', bind_of_ok rfl, List.append_assoc]

instance : LawfulMonad (Traced ε) :=
  LawfulMonad.mk' (Traced ε)
    (fun t => by
      show t >>= pure = t
      cases h : t.result with
      | ok a =>
          rw [bind_of_ok h]
          show Traced.mk (t.entries ++ []) (.ok a) = t
          rw [List.append_nil, ← h]
      | error e => rw [bind_of_error h, ← h])
    (fun _ f => bind_of_ok rfl f) bind_bind

/-- What comes after a computation matters for the value that it yields only. -/
theorem bind_congr_of_ok {t : Traced ε α} {f g : α → Traced ε β}
    (h : ∀ a, t.result = .ok a → f a = g a) : t >>= f = t >>= g := by
  cases hresult : t.result with
  | ok a => rw [bind_of_ok hresult, bind_of_ok hresult, h a hresult]
  | error e => rw [bind_of_error hresult, bind_of_error hresult]

/-- The results of computations one after another. -/
theorem result_bind (t : Traced ε α) (f : α → Traced ε β) :
    (t >>= f).result = t.result >>= fun a => (f a).result := by
  cases h : t.result with
  | ok a =>
      rw [bind_of_ok h]
      rfl
  | error e =>
      rw [bind_of_error h]
      rfl

/-- A computation after another succeeds if the other does and then it does. -/
theorem bind_eq_ok {t : Traced ε α} {f : α → Traced ε β} {b : β} :
    (t >>= f).result = .ok b ↔ ∃ a, t.result = .ok a ∧ (f a).result = .ok b := by
  cases h : t.result with
  | ok a =>
      rw [bind_of_ok h]
      simp
  | error e =>
      rw [bind_of_error h]
      simp

end Traced

end Dataflow
