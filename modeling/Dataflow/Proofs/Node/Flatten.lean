import Dataflow.Node.Flatten
import Dataflow.Proofs.Except
import Dataflow.Proofs.Node.Tree
import Dataflow.Proofs.Store.Closure

set_option autoImplicit false

/-! # What the tree of a revision contains

`unfold_eq_ok_iff` says once what it means that a revision unfolds: code becomes a leaf, and a
workflow becomes a node whose children go with its operators one by one. From it follows, by
induction on the fuel and on `Revision.Reaches`, that the component nodes of a tree are leaves
of code that the root reaches along the closure (`exists_leaf_of_inside`), and that no code it
reaches is left out (`exists_inside_of_reaches`).
-/

namespace Dataflow

namespace Revision

theorem nestedAt_eq_ok_iff {closure : Closure} {revision : Uuid} {ancestors : List Uuid}
    {o : Operator} {nested : Revision} :
    nestedAt closure revision ancestors o = .ok nested ↔
      closure.get? o.id = some nested ∧ nested.id = o.revision ∧
        ¬ (nested.workflow?.isSome ∧ nested.id ∈ ancestors) := by
  rw [nestedAt]
  cases hget : closure.get? o.id with
  | none => simp
  | some found =>
      dsimp only
      rw [Option.some.injEq]
      by_cases hid : found.id = o.revision
      · rw [if_neg (not_not_intro hid)]
        by_cases hself : found.workflow?.isSome ∧ found.id ∈ ancestors
        · rw [if_pos hself]
          constructor
          · intro h
            cases h
          · rintro ⟨rfl, -, hnot⟩
            exact absurd hself hnot
        · rw [if_neg hself, Except.ok.injEq]
          constructor
          · rintro rfl
            exact ⟨rfl, hid, hself⟩
          · exact fun h => h.1
      · rw [if_pos hid]
        constructor
        · intro h
          cases h
        · rintro ⟨rfl, hid', -⟩
          exact absurd hid' hid

/-- The child of an operator. -/
def childAt (closure : Closure) (fuel : Nat) (revision : Uuid) (ancestors : List Uuid)
    (o : Operator) : Except IntegrityFault Node := do
  let nested ← nestedAt closure revision ancestors o
  unfold closure fuel o.id o.name nested ancestors

theorem childAt_eq_ok_iff {closure : Closure} {fuel : Nat} {revision : Uuid}
    {ancestors : List Uuid} {o : Operator} {n : Node} :
    childAt closure fuel revision ancestors o = .ok n ↔
      ∃ nested, nestedAt closure revision ancestors o = .ok nested ∧
        unfold closure fuel o.id o.name nested ancestors = .ok n :=
  bind_eq_ok

/-- **What it means to unfold.** -/
theorem unfold_eq_ok_iff {closure : Closure} {fuel : Nat} {id : OperatorId} {name : String}
    {r : Revision} {ancestors : List Uuid} {n : Node} :
    unfold closure fuel id name r ancestors = .ok n ↔
      (∃ code, r.content = .code code ∧ n = .component (r.leaf code id name)) ∨
        ∃ content fuel' children, r.content = .workflow content ∧ fuel = fuel' + 1 ∧
          n = .workflow (r.frame content id name) children ∧
          List.Forall₂ (fun o child => childAt closure fuel' r.id (r.id :: ancestors) o = .ok child)
            content.operators children := by
  cases hcontent : r.content with
  | code code =>
      rw [unfold, hcontent]
      simp [eq_comm]
  | workflow content =>
      cases fuel with
      | zero =>
          rw [unfold, hcontent]
          simp
      | succ fuel =>
          rw [unfold, hcontent]
          show (content.operators.mapM (childAt closure fuel r.id (r.id :: ancestors)) >>=
            fun children => Except.ok (Node.workflow (r.frame content id name) children)) = _ ↔ _
          rw [bind_eq_ok]
          simp only [mapM_eq_ok_iff]
          constructor
          · rintro ⟨children, hchildren, hn⟩
            cases hn
            exact .inr ⟨content, fuel, children, rfl, rfl, rfl, hchildren⟩
          · rintro (⟨code, hcode, -⟩ | ⟨content', fuel', children, hsame, hfuel, rfl, hchildren⟩)
            · cases hcode
            · cases hsame
              cases hfuel
              exact ⟨children, hchildren, rfl⟩

/-! ## The leaves of a tree -/

variable {root : Revision} {closure : Closure}

/-- A component node of an unfolded revision is the leaf of code that is reached. -/
theorem exists_leaf_of_inside {fuel : Nat} {id : OperatorId} {name : String} {r : Revision}
    {ancestors : List Uuid} {n : Node} (hr : root.Reaches closure r)
    (h : unfold closure fuel id name r ancestors = .ok n) {c : ComponentNode}
    (hc : Node.Inside (.component c) n) :
    ∃ r' code id' name', root.Reaches closure r' ∧ r'.content = .code code ∧
      c = r'.leaf code id' name' := by
  induction fuel generalizing id name r ancestors n with
  | zero =>
      rcases unfold_eq_ok_iff.1 h with ⟨code, hcode, rfl⟩ | ⟨_, _, _, _, hfuel, -⟩
      · cases hc
        exact ⟨r, code, id, name, hr, hcode, rfl⟩
      · cases hfuel
  | succ fuel ih =>
      rcases unfold_eq_ok_iff.1 h with
        ⟨code, hcode, rfl⟩ | ⟨content, fuel', children, hcontent, hfuel, rfl, hchildren⟩
      · cases hc
        exact ⟨r, code, id, name, hr, hcode, rfl⟩
      · cases hfuel
        cases hc with
        | deeper hn hinside =>
            obtain ⟨o, ho, hchild⟩ := (exists_of_forall₂ hchildren).2 _ hn
            obtain ⟨nested, hnested, hunfold⟩ := childAt_eq_ok_iff.1 hchild
            obtain ⟨hget, -, -⟩ := nestedAt_eq_ok_iff.1 hnested
            exact ih (.nested hr hcontent ho hget) hunfold hinside

/-- Every revision that the root reaches is unfolded somewhere in the tree of the root. -/
theorem exists_unfolded_of_reaches {tree : Node} (h : root.flatten closure = .ok tree)
    {r : Revision} (hr : root.Reaches closure r) :
    ∃ fuel id name ancestors n, unfold closure fuel id name r ancestors = .ok n ∧
      Node.Inside n tree := by
  induction hr with
  | root => exact ⟨_, _, _, _, tree, h, .here⟩
  | @nested r nested content o _ hcontent ho hget ih =>
      obtain ⟨fuel, id, name, ancestors, n, hunfold, hinside⟩ := ih
      rcases unfold_eq_ok_iff.1 hunfold with
        ⟨code, hcode, -⟩ | ⟨content', fuel', children, hcontent', -, rfl, hchildren⟩
      · rw [hcontent] at hcode
        cases hcode
      · rw [hcontent] at hcontent'
        cases hcontent'
        obtain ⟨child, hchild, hat⟩ := (exists_of_forall₂ hchildren).1 o ho
        obtain ⟨nested', hnested, hunfold'⟩ := childAt_eq_ok_iff.1 hat
        obtain ⟨hget', -, -⟩ := nestedAt_eq_ok_iff.1 hnested
        -- the closure holds one revision for the operator: the child was made from it
        rw [hget, Option.some.injEq] at hget'
        subst hget'
        have hbelow : Node.Inside child (.workflow (r.frame content id name) children) :=
          .deeper hchild .here
        exact ⟨_, _, _, _, child, hunfold', hbelow.trans hinside⟩

/-- **No code is left out**: code that the root reaches has a component node in the tree. -/
theorem exists_inside_of_reaches {tree : Node} (h : root.flatten closure = .ok tree)
    {r : Revision} (hr : root.Reaches closure r) {code : CodeContent}
    (hcode : r.content = .code code) :
    ∃ c, Node.Inside (.component c) tree ∧ c.component = r.id := by
  obtain ⟨fuel, id, name, ancestors, n, hunfold, hinside⟩ := exists_unfolded_of_reaches h hr
  rcases unfold_eq_ok_iff.1 hunfold with ⟨code', -, rfl⟩ | ⟨content, _, _, hcontent, -⟩
  · exact ⟨r.leaf code' id name, hinside, rfl⟩
  · rw [hcode] at hcontent
    cases hcontent

end Revision

end Dataflow
