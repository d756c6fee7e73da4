import Dataflow.Proofs.Dict
import Dataflow.Store.Closure

set_option autoImplicit false

/-! # What the closure of a revision holds

`Revision.Reaches` follows a closure from a revision: from a workflow it goes on to what the
closure holds for the operators of the workflow. The collection of a closure keeps an
invariant (`Collecting`): every revision that the closure holds comes from the store and is
reached along the closure itself, and so is every workflow that waits. So a closure that has
been collected holds nothing else (`reaches_of_nestedClosure`).
-/

namespace Dataflow

/-! ## Look-ups in a memory store -/

namespace MemoryStore

theorem get_eq_ok_iff {s : MemoryStore} {id : Uuid} {r : Revision} :
    s.get id = .ok r ↔ s.revisions.get? id = some r := by
  rw [get]
  cases s.revisions.get? id <;> simp

/-- A memory store fails to find a revision, and in no other way. -/
theorem get_eq_error_iff {s : MemoryStore} {id : Uuid} {cause : ModelError} :
    s.get id = .error cause ↔ cause = .notFound id ∧ ∀ r, s.get id ≠ .ok r := by
  rw [get]
  cases s.revisions.get? id <;> simp [eq_comm]

/-- A revision is stored under its identifier. -/
theorem id_of_get {s : MemoryStore} {id : Uuid} {r : Revision} (h : s.get id = .ok r) :
    r.id = id :=
  s.keyed (id, r) ((Dict.mem_entries_iff _ _ _).2 (get_eq_ok_iff.1 h))

end MemoryStore

/-! ## Following a closure -/

namespace Revision

theorem workflow?_eq_some {r : Revision} {content : WorkflowContent} :
    r.workflow? = some content ↔ r.content = .workflow content := by
  rw [workflow?]
  cases r.content <;> simp [RevisionContent.workflow?]

theorem code?_eq_some {r : Revision} {code : CodeContent} :
    r.code? = some code ↔ r.content = .code code := by
  rw [code?]
  cases r.content <;> simp [RevisionContent.code?]

/-- A revision reaches itself, and what a closure holds for the operators of a workflow that it
reaches. -/
inductive Reaches (root : Revision) (closure : Closure) : Revision → Prop
  | root : Reaches root closure root
  | nested {r nested : Revision} {content : WorkflowContent} {o : Operator}
      (hr : Reaches root closure r) (hcontent : r.content = .workflow content)
      (ho : o ∈ content.operators) (hget : closure.get? o.id = some nested) :
      Reaches root closure nested

/-- A larger closure leads at least as far. -/
theorem Reaches.mono {root r : Revision} {closure closure' : Closure}
    (h : root.Reaches closure r)
    (hle : ∀ id x, closure.get? id = some x → closure'.get? id = some x) :
    root.Reaches closure' r := by
  induction h with
  | root => exact .root
  | nested _ hcontent ho hget ih => exact .nested ih hcontent ho (hle _ _ hget)

end Revision

/-! ## Collecting a closure -/

namespace RevisionStore

/-- The collection of a closure on the way: what the closure holds comes from the store and is
reached, and what waits is reached. -/
structure Collecting (s : RevisionStore) (root : Revision) (closure : Closure)
    (pending : List Revision) : Prop where
  stored : ∀ id r, closure.get? id = some r → ∃ id', s.get id' = .ok r
  reached : ∀ id r, closure.get? id = some r → root.Reaches closure r
  waiting : ∀ r ∈ pending, root.Reaches closure r

section Collecting

variable {s : RevisionStore} {root : Revision} {closure closure' : Closure}
  {pending pending' : List Revision}

/-- The revision of a new operator of a workflow that is reached joins the closure. -/
theorem Collecting.join (h : Collecting s root closure pending) {r nested : Revision}
    {content : WorkflowContent} {o : Operator} (hr : root.Reaches closure r)
    (hcontent : r.content = .workflow content) (ho : o ∈ content.operators)
    (hnew : closure.get? o.id = none) (hget : s.get o.revision = .ok nested) :
    (∀ id x, closure.get? id = some x → (closure.insert o.id nested).get? id = some x) ∧
      Collecting s root (closure.insert o.id nested)
        (if nested.workflow?.isSome then nested :: pending else pending) := by
  have hgrow : ∀ id x, closure.get? id = some x →
      (closure.insert o.id nested).get? id = some x := by
    intro id x hx
    have hne : id ≠ o.id := by
      rintro rfl
      rw [hnew] at hx
      cases hx
    rw [Dict.get?_insert_of_ne _ _ hne, hx]
  have hnested : root.Reaches (closure.insert o.id nested) nested :=
    .nested (hr.mono hgrow) hcontent ho (Dict.get?_insert_self _ _ _)
  -- what the new closure holds is the new revision, or what the old one held
  have hcases : ∀ id x, (closure.insert o.id nested).get? id = some x →
      x = nested ∨ closure.get? id = some x := by
    intro id x hx
    rw [Dict.get?_insert] at hx
    by_cases hid : id = o.id
    · rw [if_pos hid, Option.some.injEq] at hx
      exact .inl hx.symm
    · rw [if_neg hid] at hx
      exact .inr hx
  refine ⟨hgrow, fun id x hx => ?_, fun id x hx => ?_, fun x hx => ?_⟩
  · rcases hcases id x hx with rfl | hold
    · exact ⟨_, hget⟩
    · exact h.stored id x hold
  · rcases hcases id x hx with rfl | hold
    · exact hnested
    · exact (h.reached id x hold).mono hgrow
  · split at hx
    · rcases List.mem_cons.1 hx with rfl | hx
      · exact hnested
      · exact (h.waiting x hx).mono hgrow
    · exact (h.waiting x hx).mono hgrow

theorem Collecting.operators (h : Collecting s root closure pending) {r : Revision}
    {content : WorkflowContent} (hr : root.Reaches closure r)
    (hcontent : r.content = .workflow content) {l : List Operator}
    (hl : ∀ o ∈ l, o ∈ content.operators)
    (hfound : s.collectOperators l (closure, pending) = .ok (closure', pending')) :
    Collecting s root closure' pending' := by
  induction l generalizing closure pending with
  | nil =>
      rw [collectOperators, Except.ok.injEq, Prod.mk.injEq] at hfound
      obtain ⟨rfl, rfl⟩ := hfound
      exact h
  | cons o rest ih =>
      obtain ⟨ho, hrest⟩ := List.forall_mem_cons.1 hl
      rw [collectOperators] at hfound
      by_cases hold : closure.contains o.id
      · rw [if_pos hold] at hfound
        exact ih h hr hrest hfound
      · rw [if_neg hold] at hfound
        have hnew : closure.get? o.id = none := by
          refine Option.eq_none_iff_forall_not_mem.2 fun x hx => ?_
          exact hold ((closure.contains_iff o.id).2 ⟨x, hx⟩)
        cases hget : s.get o.revision with
        | error e =>
            rw [hget] at hfound
            cases hfound
        | ok nested =>
            rw [hget] at hfound
            obtain ⟨hgrow, hjoined⟩ := h.join hr hcontent ho hnew hget
            exact ih hjoined (hr.mono hgrow) hrest hfound

theorem Collecting.collect (h : Collecting s root closure pending) {fuel : Nat}
    (hresult : s.collect fuel (closure, pending) = .ok closure') :
    Collecting s root closure' [] := by
  induction fuel generalizing closure pending with
  | zero =>
      have hsame : closure = closure' := by
        cases pending <;> exact Except.ok.inj hresult
      rw [← hsame]
      exact ⟨h.stored, h.reached, fun r hr => absurd hr List.not_mem_nil⟩
  | succ fuel ih =>
      cases pending with
      | nil =>
          rw [RevisionStore.collect, Except.ok.injEq] at hresult
          rw [← hresult]
          exact h
      | cons r rest =>
          rw [RevisionStore.collect] at hresult
          -- without the workflow that is taken the invariant holds all the more
          have hrest : Collecting s root closure rest :=
            ⟨h.stored, h.reached, fun x hx => h.waiting x (List.mem_cons_of_mem _ hx)⟩
          cases hfound : s.collectOperators ((r.workflow?.map (·.operators)).getD [])
              (closure, rest) with
          | error e =>
              rw [hfound] at hresult
              cases hresult
          | ok found =>
              obtain ⟨closure₁, pending₁⟩ := found
              rw [hfound] at hresult
              refine ih ?_ hresult
              cases hcontent : r.workflow? with
              | none =>
                  rw [hcontent] at hfound
                  cases hfound
                  exact hrest
              | some content =>
                  rw [hcontent] at hfound
                  exact hrest.operators (h.waiting r List.mem_cons_self)
                    (Revision.workflow?_eq_some.1 hcontent) (fun o ho => ho) hfound

end Collecting

/-- **A closure holds only what it reaches**, and only revisions of the store. -/
theorem reaches_of_nestedClosure {s : RevisionStore} {root : Revision} {closure : Closure}
    (h : s.nestedClosure root = .ok closure) {id : OperatorId} {r : Revision}
    (hget : closure.get? id = some r) : (∃ id', s.get id' = .ok r) ∧ root.Reaches closure r := by
  have hstart : Collecting s root .empty [root] := by
    refine ⟨fun id r hr => ?_, fun id r hr => ?_, fun r hr => ?_⟩
    · cases hr
    · cases hr
    · rw [List.mem_singleton.1 hr]
      exact .root
  have hend := hstart.collect h
  exact ⟨hend.stored id r hget, hend.reached id r hget⟩

end RevisionStore

end Dataflow
