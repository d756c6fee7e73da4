import Dataflow.Proofs.Node.Nesting

set_option autoImplicit false

/-! # Unfolding with one set of open workflows

`unfold` hands each operator the workflows around it, and counts fuel down. A `Traversal` has
neither: one set of open workflows serves all of it, a workflow is opened before its operators and
closed after them, and nothing bounds how far it goes. A traversal that never ended would have no
derivation, and one that left a workflow open would stop at the next operator beside it.

`traversal_iff` says that every traversal ends, with the result of `flatten` and with no workflow
left open: at each step the set is the way from the root (`Descent.traversal`).
-/

namespace Dataflow

namespace Revision

mutual

/-- What the traversal of a revision comes to, under an identity and a name: a fault, or a node
and the workflows that are open after it. -/
inductive Traversal (closure : Closure) :
    OperatorId → String → Revision → List Uuid → Except IntegrityFault (Node × List Uuid) → Prop
  | code {id : OperatorId} {name : String} {r : Revision} {opened : List Uuid} {code : CodeContent}
      (hcontent : r.content = .code code) :
      Traversal closure id name r opened (.ok (.component (r.leaf code id name), opened))
  | workflow {id : OperatorId} {name : String} {r : Revision} {opened : List Uuid}
      {content : WorkflowContent} {outcome : Except IntegrityFault (List Node × List Uuid)}
      (hcontent : r.content = .workflow content)
      (hoperators :
        OperatorTraversal closure r.id content.operators (opened.insert r.id) outcome) :
      Traversal closure id name r opened (outcome.map fun made =>
        (.workflow (r.frame content id name) made.1, made.2.erase r.id))

/-- What the traversal of operators of one workflow comes to, the first of them first. -/
inductive OperatorTraversal (closure : Closure) :
    Uuid → List Operator → List Uuid → Except IntegrityFault (List Node × List Uuid) → Prop
  | nil {revision : Uuid} {opened : List Uuid} :
      OperatorTraversal closure revision [] opened (.ok ([], opened))
  | stopped {revision : Uuid} {o : Operator} {rest : List Operator} {opened : List Uuid}
      {fault : IntegrityFault} (hstopped : nestedAt closure revision opened o = .error fault) :
      OperatorTraversal closure revision (o :: rest) opened (.error fault)
  | failed {revision : Uuid} {o : Operator} {rest : List Operator} {opened : List Uuid}
      {nested : Revision} {fault : IntegrityFault}
      (hnested : nestedAt closure revision opened o = .ok nested)
      (hchild : Traversal closure o.id o.name nested opened (.error fault)) :
      OperatorTraversal closure revision (o :: rest) opened (.error fault)
  | passed {revision : Uuid} {o : Operator} {rest : List Operator} {opened opened' : List Uuid}
      {nested : Revision} {child : Node}
      {outcome : Except IntegrityFault (List Node × List Uuid)}
      (hnested : nestedAt closure revision opened o = .ok nested)
      (hchild : Traversal closure o.id o.name nested opened (.ok (child, opened')))
      (hrest : OperatorTraversal closure revision rest opened' outcome) :
      OperatorTraversal closure revision (o :: rest) opened
        (outcome.map fun made => (child :: made.1, made.2))

end

section

variable {closure : Closure} {root r : Revision} {id : OperatorId} {name : String}
  {ancestors opened : List Uuid} {fuel : Nat}

/-! ## There is no second outcome -/

/-- What the traversal of operators does at one that may be followed. -/
theorem OperatorTraversal.of_nestedAt {revision : Uuid} {o : Operator} {rest : List Operator}
    {nested : Revision} {outcome : Except IntegrityFault (List Node × List Uuid)}
    (hnested : nestedAt closure revision opened o = .ok nested)
    (h : OperatorTraversal closure revision (o :: rest) opened outcome) :
    (∃ fault, Traversal closure o.id o.name nested opened (.error fault) ∧
        outcome = .error fault) ∨
      ∃ child opened' outcome', Traversal closure o.id o.name nested opened (.ok (child, opened')) ∧
        OperatorTraversal closure revision rest opened' outcome' ∧
        outcome = outcome'.map fun made => (child :: made.1, made.2) := by
  cases h with
  | stopped hstopped =>
      rw [hnested] at hstopped
      cases hstopped
  | failed hnested' hchild =>
      rw [hnested, Except.ok.injEq] at hnested'
      subst hnested'
      exact .inl ⟨_, hchild, rfl⟩
  | passed hnested' hchild hrest =>
      rw [hnested, Except.ok.injEq] at hnested'
      subst hnested'
      exact .inr ⟨_, _, _, hchild, hrest, rfl⟩

theorem Traversal.unique {outcome outcome' : Except IntegrityFault (Node × List Uuid)}
    (h : Traversal closure id name r opened outcome)
    (h' : Traversal closure id name r opened outcome') : outcome = outcome' := by
  -- the two relations refer to each other, so there is a motive for each
  refine @Traversal.rec closure
    (fun id name r opened outcome _ =>
      ∀ outcome', Traversal closure id name r opened outcome' → outcome = outcome')
    (fun revision l opened outcome _ =>
      ∀ outcome', OperatorTraversal closure revision l opened outcome' → outcome = outcome')
    ?code ?workflow ?nil ?stopped ?failed ?passed id name r opened outcome h outcome' h'
  case code =>
    intro id name r opened code hcontent outcome' h'
    cases h' with
    | code hcode =>
        rw [hcontent, RevisionContent.code.injEq] at hcode
        rw [hcode]
    | workflow hworkflow =>
        rw [hcontent] at hworkflow
        cases hworkflow
  case workflow =>
    intro id name r opened content outcome hcontent _ ih outcome' h'
    cases h' with
    | code hcode =>
        rw [hcontent] at hcode
        cases hcode
    | workflow hworkflow hoperators =>
        rw [hcontent, RevisionContent.workflow.injEq] at hworkflow
        subst hworkflow
        rw [ih _ hoperators]
  case nil =>
    intro revision opened outcome' h'
    cases h'
    rfl
  case stopped =>
    intro revision o rest opened fault hstopped outcome' h'
    cases h' with
    | stopped hstopped' =>
        rw [hstopped] at hstopped'
        cases hstopped'
        rfl
    | failed hnested | passed hnested =>
        rw [hstopped] at hnested
        cases hnested
  case failed =>
    intro revision o rest opened nested fault hnested _ ih outcome' h'
    rcases h'.of_nestedAt hnested with ⟨fault', hchild, rfl⟩ | ⟨_, _, _, hchild, -⟩
    · cases ih _ hchild
      rfl
    · cases ih _ hchild
  case passed =>
    intro revision o rest opened opened' nested child outcome hnested _ _ ih ihrest outcome' h'
    rcases h'.of_nestedAt hnested with ⟨fault, hchild, -⟩ | ⟨_, _, _, hchild, hrest, rfl⟩
    · cases ih _ hchild
    · cases ih _ hchild
      rw [ihrest _ hrest]

/-! ## Every traversal ends -/

theorem childAt_of_nestedAt {revision : Uuid} {o : Operator} {nested : Revision}
    (h : nestedAt closure revision ancestors o = .ok nested) (fuel : Nat) :
    childAt closure fuel revision ancestors o =
      unfold closure fuel o.id o.name nested ancestors := by
  rw [childAt, h]
  rfl

/-- Operators are traversed if their revisions are, each of which leaves the set as it was. -/
theorem operatorTraversal_of_children {revision : Uuid} {l : List Operator}
    (h : ∀ o ∈ l, ∀ nested, nestedAt closure revision opened o = .ok nested →
      Traversal closure o.id o.name nested opened
        ((unfold closure fuel o.id o.name nested opened).map fun n => (n, opened))) :
    OperatorTraversal closure revision l opened
      ((l.mapM (childAt closure fuel revision opened)).map fun children =>
        (children, opened)) := by
  induction l with
  | nil => exact .nil
  | cons o rest ih =>
      obtain ⟨ho, hrest⟩ := List.forall_mem_cons.1 h
      cases hnested : nestedAt closure revision opened o with
      | error fault =>
          have hchild : childAt closure fuel revision opened o = .error fault := by
            rw [childAt, hnested]
            rfl
          rw [mapM_cons_error hchild]
          exact .stopped hnested
      | ok nested =>
          have htraversed := ho nested hnested
          have hchild := childAt_of_nestedAt hnested fuel
          cases hunfold : unfold closure fuel o.id o.name nested opened with
          | error fault =>
              rw [hunfold] at htraversed hchild
              rw [mapM_cons_error hchild]
              exact .failed hnested htraversed
          | ok child =>
              rw [hunfold] at htraversed hchild
              have hpassed := OperatorTraversal.passed hnested htraversed (ih hrest)
              rw [mapM_cons_ok hchild]
              cases hmade : rest.mapM (childAt closure fuel revision opened) with
              | error fault =>
                  rw [hmade] at hpassed
                  exact hpassed
              | ok children =>
                  rw [hmade] at hpassed
                  exact hpassed

theorem unfold_workflow {content : WorkflowContent} (hcontent : r.content = .workflow content) :
    unfold closure (fuel + 1) id name r ancestors =
      (content.operators.mapM (childAt closure fuel r.id (r.id :: ancestors))).map fun children =>
        .workflow (r.frame content id name) children := by
  rw [unfold, hcontent]
  show content.operators.mapM (childAt closure fuel r.id (r.id :: ancestors)) >>= _ = _
  cases content.operators.mapM (childAt closure fuel r.id (r.id :: ancestors)) <;> rfl

/-- **The set of open workflows is the way from the root.** A traversal from there ends with it,
whatever fuel there is beyond one unit for each workflow that can still be opened. -/
theorem Descent.traversal (h : Descent closure root r ancestors)
    (hfuel : closure.size + 1 ≤ fuel + ancestors.length) :
    Traversal closure id name r ancestors
      ((unfold closure fuel id name r ancestors).map fun n => (n, ancestors)) := by
  induction fuel generalizing id name r ancestors with
  | zero =>
      cases hcontent : r.content with
      | code code =>
          rw [unfold, hcontent]
          exact .code hcontent
      | workflow content =>
          -- no fuel is left only where the way is longer than the closure has entries
          have hlength := h.length_le (by rw [workflow?_eq_some.2 hcontent]; rfl)
          omega
  | succ fuel ih =>
      cases hcontent : r.content with
      | code code =>
          rw [unfold, hcontent]
          exact .code hcontent
      | workflow content =>
          have hnew : r.id ∉ ancestors :=
            h.nodup.2 (by rw [workflow?_eq_some.2 hcontent]; rfl)
          -- opening it puts it in front of the way, and closing it takes it from there
          have hopen : ancestors.insert r.id = r.id :: ancestors := List.insert_of_not_mem hnew
          have hoperators : OperatorTraversal closure r.id content.operators
              (ancestors.insert r.id)
              ((content.operators.mapM (childAt closure fuel r.id (r.id :: ancestors))).map
                fun children => (children, r.id :: ancestors)) := by
            rw [hopen]
            refine operatorTraversal_of_children fun o ho nested hnested => ?_
            refine ih (.nested h hcontent ho hnested) ?_
            rw [List.length_cons]
            omega
          have hclosed : Traversal closure id name r ancestors _ := .workflow hcontent hoperators
          rw [unfold_workflow hcontent]
          cases hmade : content.operators.mapM (childAt closure fuel r.id (r.id :: ancestors)) with
          | error fault =>
              rw [hmade] at hclosed
              exact hclosed
          | ok children =>
              rw [hmade] at hclosed
              simp only [Except.map, List.erase_cons_head] at hclosed
              exact hclosed

/-- **A traversal of the root ends, and as `flatten` says.** -/
theorem traversal_iff {outcome : Except IntegrityFault (Node × List Uuid)} :
    Traversal closure root.id root.name root [] outcome ↔
      outcome = (root.flatten closure).map fun n => (n, []) := by
  have hend : Traversal closure root.id root.name root []
      ((root.flatten closure).map fun n => (n, [])) :=
    Descent.root.traversal (Nat.le_add_right _ _)
  constructor
  · exact fun h => h.unique hend
  · rintro rfl
    exact hend

end

end Revision

end Dataflow
