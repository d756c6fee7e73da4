import Dataflow.Proofs.Execution.Payload
import Dataflow.Proofs.Node.Traversal

set_option autoImplicit false

/-! # Chains of operators

A chain starts in the content of the root and goes on, operator by operator, into what the closure
holds for each. Chains know nothing of an unfolding: where a closure is cyclic they are of any
length. `flatten_decided` says what an unfolding is in their terms. It always ends. It succeeds
exactly if every chain can be followed, each operator to the revision that it references, and comes
to no workflow that it has come through before. So a workflow that stands in two places fails
nothing as long as neither place is inside the other.
-/

namespace Dataflow

namespace Revision

/-- A chain of operators from the root to a revision, with the workflows that it has come through,
the innermost first. -/
inductive Chain (closure : Closure) (root : Revision) : List Revision → Revision → Prop
  | root : Chain closure root [] root
  | into {enclosing : List Revision} {r nested : Revision} {content : WorkflowContent}
      {o : Operator} (hr : Chain closure root enclosing r)
      (hcontent : r.content = .workflow content)
      (ho : o ∈ content.operators) (hget : closure.get? o.id = some nested) :
      Chain closure root (r :: enclosing) nested

/-- Every chain can be followed: each operator has an entry, which is the revision that the operator
references, and no entry that is a workflow is one that encloses it. -/
def SoundAlong (root : Revision) (closure : Closure) : Prop :=
  ∀ enclosing r content o, Chain closure root enclosing r → r.content = .workflow content →
    o ∈ content.operators → ∃ nested, closure.get? o.id = some nested ∧
      nested.id = o.revision ∧ (nested.workflow?.isSome → ∀ w ∈ r :: enclosing, w.id ≠ nested.id)

/-- The operator of a chain at which it cannot be followed, and what is wrong there. -/
inductive BreaksAt (root : Revision) (closure : Closure) : IntegrityFault → Prop
  | unlisted {enclosing : List Revision} {r : Revision} {content : WorkflowContent} {o : Operator}
      (hr : Chain closure root enclosing r) (hcontent : r.content = .workflow content)
      (ho : o ∈ content.operators) (hnone : closure.get? o.id = none) :
      BreaksAt root closure (.unlisted o.id r.id)
  | mismatched {enclosing : List Revision} {r nested : Revision} {content : WorkflowContent}
      {o : Operator} (hr : Chain closure root enclosing r)
      (hcontent : r.content = .workflow content)
      (ho : o ∈ content.operators) (hget : closure.get? o.id = some nested)
      (hother : nested.id ≠ o.revision) :
      BreaksAt root closure (.mismatched o.id r.id o.revision nested.id)
  | selfNested {enclosing : List Revision} {r nested w : Revision} {content : WorkflowContent}
      {o : Operator} (hr : Chain closure root enclosing r)
      (hcontent : r.content = .workflow content)
      (ho : o ∈ content.operators) (hget : closure.get? o.id = some nested)
      (hworkflow : nested.workflow?.isSome) (hw : w ∈ r :: enclosing) (hsame : w.id = nested.id) :
      BreaksAt root closure (.selfNested o.id r.id nested.id)

/-- A second closure holds the same for every operator that the root reaches along the first. -/
def AgreesBelow (root : Revision) (closure closure' : Closure) : Prop :=
  ∀ r content o, root.Reaches closure r → r.content = .workflow content → o ∈ content.operators →
    closure'.get? o.id = closure.get? o.id

section

variable {closure closure' : Closure} {root r : Revision} {enclosing : List Revision}
  {ancestors : List Uuid} {fault : IntegrityFault}

/-! ## What chains depend on -/

theorem Chain.reaches (h : Chain closure root enclosing r) : root.Reaches closure r := by
  induction h with
  | root => exact .root
  | into _ hcontent ho hget ih => exact .nested ih hcontent ho hget

/-- Nothing but the entries of what is reached decides where chains go. -/
theorem AgreesBelow.chain_iff (h : root.AgreesBelow closure closure') :
    Chain closure' root enclosing r ↔ Chain closure root enclosing r := by
  constructor
  · intro hr
    induction hr with
    | root => exact .root
    | @into _ r _ content o _ hcontent ho hget ih =>
        exact .into ih hcontent ho ((h r content o ih.reaches hcontent ho).symm.trans hget)
  · intro hr
    induction hr with
    | root => exact .root
    | @into _ r _ content o hr hcontent ho hget ih =>
        exact .into ih hcontent ho ((h r content o hr.reaches hcontent ho).trans hget)

/-- Nothing but the entries of what is reached decides whether chains are sound. -/
theorem AgreesBelow.soundAlong (h : root.AgreesBelow closure closure')
    (hsound : root.SoundAlong closure) : root.SoundAlong closure' := by
  intro enclosing r content o hr hcontent ho
  have hr' := h.chain_iff.1 hr
  rw [h r content o hr'.reaches hcontent ho]
  exact hsound enclosing r content o hr' hcontent ho

/-! ## Chains and descents -/

/-- A descent is a chain; its ancestors are the workflows of the chain. -/
theorem Descent.exists_chain (h : Descent closure root r ancestors) :
    ∃ enclosing, Chain closure root enclosing r ∧ enclosing.map (·.id) = ancestors := by
  induction h with
  | root => exact ⟨[], .root, rfl⟩
  | @nested r _ _ content o _ hcontent ho hnested ih =>
      obtain ⟨enclosing, hchain, hids⟩ := ih
      refine ⟨r :: enclosing, .into hchain hcontent ho (nestedAt_eq_ok_iff.1 hnested).1, ?_⟩
      rw [List.map_cons, hids]

/-- What an operator stands for, said of the workflows of the chain. -/
theorem nestedAt_map_eq_ok_iff {o : Operator} {nested : Revision} :
    nestedAt closure r.id (r.id :: enclosing.map (·.id)) o = .ok nested ↔
      closure.get? o.id = some nested ∧ nested.id = o.revision ∧
        (nested.workflow?.isSome → ∀ w ∈ r :: enclosing, w.id ≠ nested.id) := by
  rw [nestedAt_eq_ok_iff, ← List.map_cons, not_and]
  refine and_congr_right fun _ => and_congr_right fun _ => imp_congr_right fun _ => ?_
  simp only [List.mem_map, not_exists, not_and]

/-- What sound chains say of the entry of an operator. -/
theorem SoundAlong.of_entry (hsound : root.SoundAlong closure)
    (hr : Chain closure root enclosing r) {content : WorkflowContent}
    (hcontent : r.content = .workflow content) {o : Operator} (ho : o ∈ content.operators)
    {nested : Revision} (hget : closure.get? o.id = some nested) :
    nested.id = o.revision ∧
      (nested.workflow?.isSome → ∀ w ∈ r :: enclosing, w.id ≠ nested.id) := by
  obtain ⟨nested', hget', hfits⟩ := hsound enclosing r content o hr hcontent ho
  rw [hget, Option.some.injEq] at hget'
  subst hget'
  exact hfits

/-- Along sound chains a workflow is none of those that enclose it. -/
theorem SoundAlong.id_ne (hsound : root.SoundAlong closure) (h : Chain closure root enclosing r)
    (hworkflow : r.workflow?.isSome) {w : Revision} (hw : w ∈ enclosing) : w.id ≠ r.id := by
  cases h with
  | root => cases hw
  | into hr hcontent ho hget => exact (hsound.of_entry hr hcontent ho hget).2 hworkflow w hw

/-! ## When an unfolding succeeds -/

/-- An unfolding that succeeds has unfolded what every chain comes to. -/
theorem Chain.exists_unfold {tree : Node} (h : root.flatten closure = .ok tree)
    (hr : Chain closure root enclosing r) :
    ∃ fuel id name n, unfold closure fuel id name r (enclosing.map (·.id)) = .ok n := by
  induction hr with
  | root => exact ⟨_, _, _, tree, h⟩
  | @into enclosing r nested content o _ hcontent ho hget ih =>
      obtain ⟨fuel, id, name, n, hunfold⟩ := ih
      obtain ⟨nested', hnested, fuel', -, child, hchild⟩ :=
        exists_child_of_unfold hunfold hcontent ho
      obtain ⟨hget', -, -⟩ := nestedAt_eq_ok_iff.1 hnested
      rw [hget, Option.some.injEq] at hget'
      subst hget'
      exact ⟨fuel', _, _, child, hchild⟩

theorem soundAlong_of_flatten {tree : Node} (h : root.flatten closure = .ok tree) :
    root.SoundAlong closure := by
  intro enclosing r content o hr hcontent ho
  obtain ⟨fuel, id, name, n, hunfold⟩ := hr.exists_unfold h
  obtain ⟨nested, hnested, -⟩ := exists_child_of_unfold hunfold hcontent ho
  exact ⟨nested, nestedAt_map_eq_ok_iff.1 hnested⟩

/-- An unfolding that fails has come to the end of a chain. -/
theorem breaksAt_of_flatten (h : root.flatten closure = .error fault) :
    root.BreaksAt closure fault := by
  obtain ⟨r, ancestors, content, o, hstop⟩ := exists_of_flatten_eq_error h
  obtain ⟨enclosing, hchain, rfl⟩ := hstop.descent.exists_chain
  rcases nestedAt_eq_error hstop.stopped with
    ⟨hnone, rfl⟩ | ⟨nested, hget, ⟨hother, rfl⟩ | ⟨hid, hworkflow, hmem, rfl⟩⟩
  · exact .unlisted hchain hstop.isWorkflow hstop.mem hnone
  · exact .mismatched hchain hstop.isWorkflow hstop.mem hget hother
  · rw [← List.map_cons] at hmem
    obtain ⟨w, hw, hsame⟩ := List.mem_map.1 hmem
    exact .selfNested hchain hstop.isWorkflow hstop.mem hget hworkflow hw hsame

/-- Where a chain breaks, the chains are not sound. -/
theorem BreaksAt.not_soundAlong (h : root.BreaksAt closure fault) : ¬ root.SoundAlong closure := by
  intro hsound
  cases h with
  | unlisted hr hcontent ho hnone =>
      obtain ⟨nested, hget, -⟩ := hsound _ _ _ _ hr hcontent ho
      rw [hnone] at hget
      cases hget
  | mismatched hr hcontent ho hget hother =>
      exact hother (hsound.of_entry hr hcontent ho hget).1
  | selfNested hr hcontent ho hget hworkflow hw hsame =>
      exact (hsound.of_entry hr hcontent ho hget).2 hworkflow _ hw hsame

/-- **A revision unfolds exactly along sound chains.** -/
theorem exists_tree_iff : (∃ tree, root.flatten closure = .ok tree) ↔ root.SoundAlong closure := by
  constructor
  · rintro ⟨tree, htree⟩
    exact soundAlong_of_flatten htree
  · intro hsound
    cases hflatten : root.flatten closure with
    | ok tree => exact ⟨tree, rfl⟩
    | error fault => exact absurd hsound (breaksAt_of_flatten hflatten).not_soundAlong

end

/-- **What an unfolding comes to.** A traversal with one set of open workflows, which nothing
bounds, ends with the outcome of the unfolding and with no workflow open. It succeeds exactly if
all chains are sound, and fails over nothing but the integrity of the root: at an operator of a
chain that has no entry, or the entry of another revision, or a workflow that encloses it on this
chain. -/
theorem flatten_decided (root : Revision) (closure : Closure) :
    (∀ outcome, Traversal closure root.id root.name root [] outcome ↔
        outcome = (root.flatten closure).map fun n => (n, [])) ∧
      ((∃ tree, (root.flattenLogged closure).result = .ok tree) ↔ root.SoundAlong closure) ∧
      (∀ tree, (root.flattenLogged closure).result = .ok tree ↔ root.flatten closure = .ok tree) ∧
      ∀ e, (root.flattenLogged closure).result = .error e →
        ∃ fault, e = .integrity fault ∧ root.flatten closure = .error fault ∧
          root.BreaksAt closure fault := by
  have hlogged : ∀ tree, (root.flattenLogged closure).result = .ok tree ↔
      root.flatten closure = .ok tree := by
    intro tree
    rw [result_flattenLogged, mapError_eq_ok]
  refine ⟨fun outcome => traversal_iff, ?_, hlogged, fun e he => ?_⟩
  · simp only [hlogged]
    exact exists_tree_iff
  · rw [result_flattenLogged] at he
    cases hflatten : root.flatten closure with
    | ok tree =>
        rw [hflatten] at he
        cases he
    | error fault =>
        rw [hflatten] at he
        exact ⟨fault, (Except.error.inj he).symm, rfl, breaksAt_of_flatten hflatten⟩

/-! A workflow that stands at two depths, and one that is nested inside itself. -/

/-- A workflow around one instance of `sampleWorkflow`. -/
def sampleBox : Revision :=
  .workflow (.ofNat 11) (.ofNat 7) "box" "nests" .empty
    { WorkflowContent.empty with operators := [⟨.ofNat 12, .ofNat 6, "boxed"⟩] }

/-- A workflow around one instance of `sampleWorkflow` and one of the box. -/
def sampleNest : Revision :=
  .workflow (.ofNat 13) (.ofNat 7) "nest" "nests" .empty
    { WorkflowContent.empty with
      operators := [⟨.ofNat 14, .ofNat 6, "open"⟩, ⟨.ofNat 15, .ofNat 11, "closed"⟩] }

/-- What the operators of the nest stand for. -/
def nestClosure : Closure :=
  .ofList [(.ofNat 14, Engine.sampleWorkflow), (.ofNat 15, sampleBox),
    (.ofNat 12, Engine.sampleWorkflow), (.ofNat 8, Engine.sampleStep),
    (.ofNat 9, Engine.sampleStep)]

example : (sampleNest.flatten nestClosure).map Node.descendantCount = .ok 7 := rfl

example : (sampleBox.flatten (.ofList [(.ofNat 12, { sampleBox with id := .ofNat 6 })])).map
    Node.descendantCount = .error (.selfNested (.ofNat 12) (.ofNat 6) (.ofNat 6)) := rfl

end Revision

end Dataflow
