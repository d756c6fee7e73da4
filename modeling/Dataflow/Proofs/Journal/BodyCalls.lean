import Dataflow.Proofs.Journal.Run
import Dataflow.Proofs.Journal.Traced

set_option autoImplicit false

/-! # Calls of bodies

A journal keeps everything that an observer can see. `bodyCalls` looks at the calls of component
bodies alone: log events do not show in it, and a course adds the calls of its acts, one after
another (`Journal.Course.bodyCalls_eq`).
-/

namespace Dataflow

/-- The call of a body: module, function and inputs. -/
def Entry.bodyCall? : Entry → Option (Uuid × String × Values)
  | bodyCalled codeModule function inputs => some (codeModule, function, inputs)
  | _ => none

/-- The calls of bodies among entries. -/
def bodyCalls (l : List Entry) : List (Uuid × String × Values) := l.filterMap Entry.bodyCall?

@[simp] theorem bodyCalls_append (l l' : List Entry) :
    bodyCalls (l ++ l') = bodyCalls l ++ bodyCalls l' :=
  List.filterMap_append

@[simp] theorem bodyCalls_event (e : Event) : bodyCalls [.event e] = [] := rfl

/-! ## Traced computations -/

namespace Traced

variable {ε α β : Type}

/-- No body is called. -/
def Silent (t : Traced ε α) : Prop := bodyCalls t.entries = []

theorem silent_pure (a : α) : (pure a : Traced ε α).Silent := rfl

theorem silent_ofExcept (r : Except ε α) : (ofExcept r).Silent := rfl

theorem silent_log (e : Event) : (log e : Traced ε Unit).Silent := rfl

theorem Silent.bind {t : Traced ε α} {f : α → Traced ε β} (h : t.Silent)
    (hf : ∀ a, (f a).Silent) : (t >>= f).Silent := by
  cases hresult : t.result with
  | ok a =>
      rw [Silent, bind_of_ok hresult, bodyCalls_append]
      exact List.append_eq_nil_iff.2 ⟨h, hf a⟩
  | error e =>
      rw [Silent, bind_of_error hresult]
      exact h

/-- A log event at the end of a computation changes neither its result nor its calls. -/
theorem result_then_log (t : Traced ε α) (e : Event) :
    (do let a ← t; Traced.log e; return a : Traced ε α).result = t.result := by
  cases h : t.result with
  | ok a => rw [bind_of_ok h]; rfl
  | error f => rw [bind_of_error h]

theorem bodyCalls_then_log (t : Traced ε α) (e : Event) :
    bodyCalls (do let a ← t; Traced.log e; return a : Traced ε α).entries =
      bodyCalls t.entries := by
  cases h : t.result with
  | ok a =>
      rw [bind_of_ok h, bodyCalls_append]
      exact List.append_nil _
  | error f => rw [bind_of_error h]

end Traced

/-! ## Journals -/

namespace Journal

/-- The calls of bodies that a journal has seen. -/
def bodyCalls (j : Journal) : List (Uuid × String × Values) :=
  Dataflow.bodyCalls j.entries.toList

@[simp] theorem bodyCalls_tick (j : Journal) : j.tick.bodyCalls = j.bodyCalls := rfl

@[simp] theorem bodyCalls_push_event (j : Journal) (e : Event) :
    (j.push (.event e)).bodyCalls = j.bodyCalls := by
  simp [bodyCalls, push]

@[simp] theorem bodyCalls_append (j : Journal) (l : List Entry) :
    (j.append l).bodyCalls = j.bodyCalls ++ Dataflow.bodyCalls l := by
  simp [bodyCalls, append]

/-- A course adds the calls of its acts. -/
theorem Course.bodyCalls_eq {ι : Type} {act : ι → Journal → Journal} {l : List ι}
    {j j' : Journal} (h : Course act l j j') (own : ι → List (Uuid × String × Values))
    (hown : ∀ i ∈ l, ∀ j, (act i j).bodyCalls = j.bodyCalls ++ own i) :
    j'.bodyCalls = j.bodyCalls ++ l.flatMap own := by
  induction h with
  | here j => rw [List.flatMap_nil, List.append_nil]
  | reading _ ih => rw [ih hown, bodyCalls_tick]
  | event e _ ih => rw [ih hown, bodyCalls_push_event]
  | acts i _ ih =>
      rw [ih fun i hi => hown i (List.mem_cons_of_mem _ hi), hown i List.mem_cons_self,
        List.flatMap_cons, List.append_assoc]

end Journal

end Dataflow
