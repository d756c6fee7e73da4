import Dataflow.Proofs.Node.Flatten
import Dataflow.Proofs.Store.Nesting

set_option autoImplicit false

/-! # Why a revision does not unfold

An unfolding goes down from the root, operator by operator, as long as the closure may be
followed (`Revision.Descent`). The workflows that it has come through are all different and all at
hand, so they are no more than the closure has entries, and the fuel lasts: an unfolding that
fails fails at an operator (`exists_of_flatten_eq_error`). One that succeeds has followed
everything that the root nests in the store (`reaches_of_below`), and each step down has cost fuel,
so that nothing was nested inside itself (`not_clashing_and_not_selfNesting`).
-/

namespace Dataflow

namespace Revision

/-! ## Going down -/

/-- What an unfolding of the root comes to, with the workflows that it has come through. -/
inductive Descent (closure : Closure) (root : Revision) : Revision → List Uuid → Prop
  | root : Descent closure root root []
  | nested {r nested : Revision} {ancestors : List Uuid} {content : WorkflowContent} {o : Operator}
      (hr : Descent closure root r ancestors) (hcontent : r.content = .workflow content)
      (ho : o ∈ content.operators)
      (hnested : nestedAt closure r.id (r.id :: ancestors) o = .ok nested) :
      Descent closure root nested (r.id :: ancestors)

section Descent

variable {closure : Closure} {root r : Revision} {ancestors : List Uuid}

theorem Descent.supplied (h : Descent closure root r ancestors) : closure.Supplies root r := by
  cases h with
  | root => exact .inl rfl
  | nested _ _ _ hnested => exact .inr ⟨_, (nestedAt_eq_ok_iff.1 hnested).1⟩

/-- The workflows on the way are different, and a workflow at the end is none of them. -/
theorem Descent.nodup (h : Descent closure root r ancestors) :
    ancestors.Nodup ∧ (r.workflow?.isSome → r.id ∉ ancestors) := by
  induction h with
  | root => exact ⟨.nil, fun _ => List.not_mem_nil⟩
  | nested _ hcontent _ hnested ih =>
      obtain ⟨-, -, hnew⟩ := nestedAt_eq_ok_iff.1 hnested
      have hworkflow := ih.2 (by rw [workflow?_eq_some.2 hcontent]; rfl)
      exact ⟨List.nodup_cons.2 ⟨hworkflow, ih.1⟩, fun h hmem => hnew ⟨h, hmem⟩⟩

theorem mem_ids_of_supplied (h : closure.Supplies root r) :
    r.id ∈ root.id :: closure.values.map (·.id) := by
  rcases h with rfl | ⟨id, hid⟩
  · exact List.mem_cons_self
  · refine List.mem_cons_of_mem _ (List.mem_map_of_mem ?_)
    exact (Dict.mem_values_iff _ _).2 ⟨id, hid⟩

theorem Descent.subset (h : Descent closure root r ancestors) :
    ancestors ⊆ root.id :: closure.values.map (·.id) := by
  induction h with
  | root => exact List.nil_subset _
  | nested hr _ _ _ ih => exact List.cons_subset.2 ⟨mem_ids_of_supplied hr.supplied, ih⟩

/-- A workflow never has as many ancestors as the closure has entries, and one more. -/
theorem Descent.length_le (h : Descent closure root r ancestors) (hr : r.workflow?.isSome) :
    ancestors.length ≤ closure.size := by
  obtain ⟨hnodup, hnew⟩ := h.nodup
  have hall : (r.id :: ancestors).Nodup := List.nodup_cons.2 ⟨hnew hr, hnodup⟩
  have hsub : r.id :: ancestors ⊆ root.id :: closure.values.map (·.id) :=
    List.cons_subset.2 ⟨mem_ids_of_supplied h.supplied, h.subset⟩
  have hlength := (List.subperm_of_subset hall hsub).length_le
  rw [List.length_cons, List.length_cons, List.length_map, Dict.values, List.length_map] at hlength
  rw [Dict.size]
  omega

/-! ## An unfolding that fails -/

theorem nestedAt_eq_error {revision : Uuid} {o : Operator} {fault : IntegrityFault}
    (h : nestedAt closure revision ancestors o = .error fault) :
    (closure.get? o.id = none ∧ fault = .unlisted o.id revision) ∨
      ∃ nested, closure.get? o.id = some nested ∧
        ((nested.id ≠ o.revision ∧ fault = .mismatched o.id revision o.revision nested.id) ∨
          (nested.id = o.revision ∧ nested.workflow?.isSome ∧ nested.id ∈ ancestors ∧
            fault = .selfNested o.id revision nested.id)) := by
  rw [nestedAt] at h
  cases hget : closure.get? o.id with
  | none =>
      rw [hget] at h
      cases h
      exact .inl ⟨rfl, rfl⟩
  | some nested =>
      rw [hget] at h
      dsimp only at h
      refine .inr ⟨nested, rfl, ?_⟩
      by_cases hid : nested.id = o.revision
      · rw [if_neg (not_not_intro hid)] at h
        by_cases hself : nested.workflow?.isSome ∧ nested.id ∈ ancestors
        · rw [if_pos hself] at h
          cases h
          exact .inr ⟨hid, hself.1, hself.2, rfl⟩
        · rw [if_neg hself] at h
          cases h
      · rw [if_pos hid] at h
        cases h
        exact .inl ⟨hid, rfl⟩

/-- An operator at which the closure may not be followed. -/
structure StopsAt (closure : Closure) (root : Revision) (fault : IntegrityFault) (r : Revision)
    (ancestors : List Uuid) (content : WorkflowContent) (o : Operator) : Prop where
  descent : Descent closure root r ancestors
  isWorkflow : r.content = .workflow content
  mem : o ∈ content.operators
  stopped : nestedAt closure r.id (r.id :: ancestors) o = .error fault

/-- The fuel of an unfolding goes down as its ancestors grow, so it is never what fails. -/
theorem Descent.exists_stopsAt (h : Descent closure root r ancestors) {fuel : Nat}
    {id : OperatorId} {name : String} {fault : IntegrityFault}
    (hfuel : closure.size + 1 = fuel + ancestors.length)
    (hfail : unfold closure fuel id name r ancestors = .error fault) :
    ∃ r' ancestors' content o, StopsAt closure root fault r' ancestors' content o := by
  induction fuel generalizing id name r ancestors with
  | zero =>
      cases hcontent : r.content with
      | code code =>
          rw [unfold, hcontent] at hfail
          cases hfail
      | workflow content =>
          have hlength := h.length_le (by rw [workflow?_eq_some.2 hcontent]; rfl)
          omega
  | succ fuel ih =>
      cases hcontent : r.content with
      | code code =>
          rw [unfold, hcontent] at hfail
          cases hfail
      | workflow content =>
          rw [unfold, hcontent] at hfail
          have hbind : (content.operators.mapM (childAt closure fuel r.id (r.id :: ancestors)) >>=
              fun children => Except.ok (Node.workflow (r.frame content id name) children)) =
                .error fault := hfail
          cases hchildren : content.operators.mapM
              (childAt closure fuel r.id (r.id :: ancestors)) with
          | ok children =>
              rw [hchildren] at hbind
              cases hbind
          | error fault' =>
              rw [hchildren] at hbind
              cases hbind
              obtain ⟨o, ho, hchild⟩ := mapM_eq_error hchildren
              rw [childAt] at hchild
              cases hnested : nestedAt closure r.id (r.id :: ancestors) o with
              | error fault' =>
                  rw [hnested] at hchild
                  cases hchild
                  exact ⟨r, ancestors, content, o, h, hcontent, ho, hnested⟩
              | ok nested =>
                  rw [hnested] at hchild
                  refine ih (.nested h hcontent ho hnested) ?_ hchild
                  rw [List.length_cons]
                  omega

/-- **An unfolding that fails** has come to an operator at which the closure may not be
followed. -/
theorem exists_of_flatten_eq_error {fault : IntegrityFault}
    (h : root.flatten closure = .error fault) :
    ∃ r ancestors content o, StopsAt closure root fault r ancestors content o :=
  Descent.root.exists_stopsAt (by rw [List.length_nil, Nat.add_zero]) h

end Descent

/-- An unfolding that succeeds has followed the closure at each operator of a workflow, with less
fuel. -/
theorem exists_child_of_unfold {closure : Closure} {fuel : Nat} {id : OperatorId} {name : String}
    {r : Revision} {ancestors : List Uuid} {n : Node}
    (h : unfold closure fuel id name r ancestors = .ok n) {content : WorkflowContent}
    (hcontent : r.content = .workflow content) {o : Operator} (ho : o ∈ content.operators) :
    ∃ nested, nestedAt closure r.id (r.id :: ancestors) o = .ok nested ∧ ∃ fuel' < fuel, ∃ child,
      unfold closure fuel' o.id o.name nested (r.id :: ancestors) = .ok child := by
  rcases unfold_eq_ok_iff.1 h with
    ⟨code, hcode, -⟩ | ⟨content', fuel', children, hcontent', rfl, -, hchildren⟩
  · rw [hcontent] at hcode
    cases hcode
  · rw [hcontent, RevisionContent.workflow.injEq] at hcontent'
    subst hcontent'
    obtain ⟨child, -, hchild⟩ := (exists_of_forall₂ hchildren).1 o ho
    obtain ⟨nested, hnested, hunfold⟩ := childAt_eq_ok_iff.1 hchild
    exact ⟨nested, hnested, fuel', Nat.lt_succ_self _, child, hunfold⟩

/-! ## Unfolding what a store holds -/

section Store

variable {s : RevisionStore} {closure : Closure} {root r : Revision} {ancestors : List Uuid}

/-- What the closure gives for an operator, where it may be followed, is what the store holds
for it. -/
theorem get_of_nestedAt (hkeyed : s.Keyed) (h : s.Gathering root closure []) {revision : Uuid}
    {o : Operator} {nested : Revision}
    (hnested : nestedAt closure revision ancestors o = .ok nested) :
    s.get o.revision = .ok nested := by
  obtain ⟨hget, hid, -⟩ := nestedAt_eq_ok_iff.1 hnested
  rw [← hid]
  exact h.get_id hkeyed hget

/-- What is at hand is stored under its own identifier. -/
theorem get_of_supplied (hkeyed : s.Keyed) (h : s.Gathering root closure [])
    (hroot : s.get root.id = .ok root) (hr : closure.Supplies root r) : s.get r.id = .ok r := by
  rcases hr with rfl | ⟨id, hid⟩
  · exact hroot
  · exact h.get_id hkeyed hid

/-- Each workflow on the way is stored, and nests what the way leads to. -/
theorem Descent.nests (hkeyed : s.Keyed) (h : s.Gathering root closure [])
    (hroot : s.get root.id = .ok root) (hr : Descent closure root r ancestors) :
    s.Below root r ∧ ∀ a ∈ r.id :: ancestors, ∃ x, s.get a = .ok x ∧ s.Below x r := by
  induction hr with
  | root =>
      refine ⟨.refl, fun a ha => ?_⟩
      rw [List.mem_singleton.1 ha]
      exact ⟨root, hroot, .refl⟩
  | @nested r nested ancestors content o hr hcontent ho hnested ih =>
      have hnests : s.Nests r nested := ⟨content, o, hcontent, ho, get_of_nestedAt hkeyed h hnested⟩
      have hstored : s.get nested.id = .ok nested :=
        get_of_supplied hkeyed h hroot (Descent.nested hr hcontent ho hnested).supplied
      refine ⟨ih.1.tail hnests, fun a ha => ?_⟩
      rcases List.mem_cons.1 ha with rfl | ha
      · exact ⟨nested, hstored, .refl⟩
      · obtain ⟨x, hx, hbelow⟩ := ih.2 a ha
        exact ⟨x, hx, hbelow.tail hnests⟩

/-- A collected closure has an entry for every operator that an unfolding comes to. -/
theorem StopsAt.get?_ne_none (h : s.Gathering root closure []) {fault : IntegrityFault}
    {content : WorkflowContent} {o : Operator}
    (hstop : StopsAt closure root fault r ancestors content o) : closure.get? o.id ≠ none := by
  obtain ⟨x, hx⟩ := h.lists hstop.descent.supplied content hstop.isWorkflow o hstop.mem
  rw [hx]
  exact Option.some_ne_none x

/-- **An unfolding along a collected closure fails** over operators that clash, or over a workflow
that is nested inside itself. -/
theorem clashing_or_selfNesting_of_flatten (hkeyed : s.Keyed) (h : s.Gathering root closure [])
    (hroot : s.get root.id = .ok root) {fault : IntegrityFault}
    (hfail : root.flatten closure = .error fault) : s.Clashing root ∨ s.SelfNesting root := by
  obtain ⟨r, ancestors, content, o, hstop⟩ := exists_of_flatten_eq_error hfail
  obtain ⟨hbelow, habove⟩ := hstop.descent.nests hkeyed h hroot
  have ho : s.HasOperator root o := ⟨r, content, hbelow, hstop.isWorkflow, hstop.mem⟩
  rcases nestedAt_eq_error hstop.stopped with
    ⟨hnone, -⟩ | ⟨nested, hget, ⟨hother, -⟩ | ⟨hid, -, hmem, -⟩⟩
  · exact absurd hnone (hstop.get?_ne_none h)
  · -- the entry was made for another operator of the same identity
    obtain ⟨o', ho', hsame, hget'⟩ := h.held o.id nested hget
    refine .inl ⟨o, o', ho, ho', hsame.symm, fun heq => hother ?_⟩
    rw [heq]
    exact hkeyed _ _ hget'
  · -- the operator leads back to a workflow on the way
    have hstored : s.get nested.id = .ok nested := h.get_id hkeyed hget
    have hnests : s.Nests r nested := ⟨content, o, hstop.isWorkflow, hstop.mem, hid ▸ hstored⟩
    obtain ⟨x, hx, htrans⟩ := habove _ hmem
    rw [hstored, Except.ok.injEq] at hx
    subst hx
    exact .inr ⟨nested, hbelow.tail hnests, .tail' htrans hnests⟩

/-- An unfolding that succeeds has unfolded what each workflow nests, with less fuel. -/
theorem exists_unfold_of_nests (hkeyed : s.Keyed) (h : s.Gathering root closure [])
    {fuel : Nat} {id : OperatorId} {name : String} {n : Node}
    (hunfold : unfold closure fuel id name r ancestors = .ok n) {nested : Revision}
    (hnests : s.Nests r nested) :
    ∃ fuel' < fuel, ∃ id' name' ancestors' n',
      unfold closure fuel' id' name' nested ancestors' = .ok n' := by
  obtain ⟨content, o, hcontent, ho, hget⟩ := hnests
  obtain ⟨nested', hnested, fuel', hlt, n', hunfold'⟩ := exists_child_of_unfold hunfold hcontent ho
  have hsame := get_of_nestedAt hkeyed h hnested
  rw [hget, Except.ok.injEq] at hsame
  subst hsame
  exact ⟨fuel', hlt, _, _, _, _, hunfold'⟩

/-- Nothing that has been unfolded is nested inside itself. -/
theorem not_transGen_of_unfold (hkeyed : s.Keyed) (h : s.Gathering root closure [])
    {fuel : Nat} {id : OperatorId} {name : String} {n : Node}
    (hunfold : unfold closure fuel id name r ancestors = .ok n) :
    ¬ Relation.TransGen s.Nests r r := by
  have hdown : ∀ {x y : Revision}, Relation.TransGen s.Nests x y → ∀ {fuel id name ancestors n},
      unfold closure fuel id name x ancestors = .ok n → ∃ fuel' < fuel, ∃ id' name' ancestors' n',
        unfold closure fuel' id' name' y ancestors' = .ok n' := by
    intro x y hxy
    induction hxy with
    | single hnests => exact fun hx => exists_unfold_of_nests hkeyed h hx hnests
    | tail _ hnests ih =>
        intro fuel id name ancestors n hx
        obtain ⟨fuel₁, hlt, _, _, _, _, hy⟩ := ih hx
        obtain ⟨fuel₂, hlt', hz⟩ := exists_unfold_of_nests hkeyed h hy hnests
        exact ⟨fuel₂, hlt'.trans hlt, hz⟩
  intro hself
  induction fuel using Nat.strong_induction_on generalizing id name ancestors n with
  | _ fuel ih =>
      obtain ⟨fuel', hlt, _, _, _, _, hagain⟩ := hdown hself hunfold
      exact ih fuel' hlt hagain

/-- An unfolding that succeeds has followed everything that the root nests in the store. -/
theorem reaches_of_below (hkeyed : s.Keyed) (h : s.Gathering root closure []) {tree : Node}
    (hflatten : root.flatten closure = .ok tree) (hr : s.Below root r) :
    root.Reaches closure r := by
  induction hr with
  | refl => exact .root
  | @tail r nested _ hnests ih =>
      obtain ⟨content, o, hcontent, ho, hget⟩ := hnests
      obtain ⟨fuel, id, name, ancestors, n, hunfold, -⟩ := exists_unfolded_of_reaches hflatten ih
      obtain ⟨nested', hnested, -⟩ := exists_child_of_unfold hunfold hcontent ho
      have hsame := get_of_nestedAt hkeyed h hnested
      rw [hget, Except.ok.injEq] at hsame
      subst hsame
      exact .nested ih hcontent ho (nestedAt_eq_ok_iff.1 hnested).1

/-- **Where an unfolding succeeds** no operators clash and no workflow is nested inside itself. -/
theorem not_clashing_and_not_selfNesting (hkeyed : s.Keyed) (h : s.Gathering root closure [])
    {tree : Node} (hflatten : root.flatten closure = .ok tree) :
    ¬ (s.Clashing root ∨ s.SelfNesting root) := by
  rintro (⟨o, o', ho, ho', hid, hne⟩ | ⟨r, hr, hself⟩)
  · -- one entry of the closure would have to be the revision of both operators
    have hentry : ∀ o, s.HasOperator root o →
        ∃ nested, closure.get? o.id = some nested ∧ nested.id = o.revision := by
      rintro o ⟨r, content, hr, hcontent, ho⟩
      have hreached := reaches_of_below hkeyed h hflatten hr
      obtain ⟨fuel, id, name, ancestors, n, hunfold, -⟩ :=
        exists_unfolded_of_reaches hflatten hreached
      obtain ⟨nested, hnested, -⟩ := exists_child_of_unfold hunfold hcontent ho
      obtain ⟨hget, hid, -⟩ := nestedAt_eq_ok_iff.1 hnested
      exact ⟨nested, hget, hid⟩
    obtain ⟨nested, hget, hrevision⟩ := hentry o ho
    obtain ⟨nested', hget', hrevision'⟩ := hentry o' ho'
    rw [← hid, hget, Option.some.injEq] at hget'
    rw [← hget', hrevision] at hrevision'
    exact hne hrevision'
  · have hreached := reaches_of_below hkeyed h hflatten hr
    obtain ⟨fuel, id, name, ancestors, n, hunfold, -⟩ :=
      exists_unfolded_of_reaches hflatten hreached
    exact not_transGen_of_unfold hkeyed h hunfold hself

end Store

end Revision

end Dataflow
