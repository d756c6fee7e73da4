import Dataflow.Proofs.Node.Chains

set_option autoImplicit false

/-! # The tree of a revision, operator by operator

`Revision.Unfolding` says field by field what a tree has to be like to stand for a revision under an
identity and a name: identities and names come from operators, all else from revisions, and a
workflow has one child for each operator of its content, in their order. A revision that is
instanced twice stands there twice, so the tree may be far larger than the closure.

`flatten_unfolds` says that a tree is the only one that stands for its root. Its nodes below the
root are counted by the places of operators (`Occurs`): a place is the way down to an operator,
given by positions in the contents, so that an operator listed twice has two places. No workflow
stands inside another node of its revision, and entries of the closure that the root does not reach
do not matter.
-/

namespace Dataflow

/-- Partners stand at the same positions. -/
theorem getElem?_of_forall₂ {α β : Type} {R : α → β → Prop} {l : List α} {ys : List β}
    (h : List.Forall₂ R l ys) (i : Nat) :
    (∀ a, l[i]? = some a → ∃ b, ys[i]? = some b ∧ R a b) ∧
      ∀ b, ys[i]? = some b → ∃ a, l[i]? = some a ∧ R a b := by
  induction h generalizing i with
  | nil => simp
  | cons hab _ ih =>
      cases i with
      | zero => simpa using hab
      | succ i => simpa using ih i

/-- Two lists of partners are equal if partners of the same element are. -/
theorem eq_of_forall₂ {α β : Type} {R S : α → β → Prop} {l : List α} {ys zs : List β}
    (h : List.Forall₂ R l ys) (h' : List.Forall₂ S l zs)
    (heq : ∀ y ∈ ys, ∀ a z, R a y → S a z → y = z) : ys = zs := by
  induction h generalizing zs with
  | nil =>
      cases h'
      rfl
  | cons hab _ ih =>
      cases h' with
      | cons hab' hrest' =>
          rw [heq _ List.mem_cons_self _ _ hab hab',
            ih hrest' fun y hy => heq y (List.mem_cons_of_mem _ hy)]

/-- Partners may be replaced one by one. -/
theorem forall₂_of_mem {α β : Type} {R S : α → β → Prop} {l : List α} {ys : List β}
    (h : List.Forall₂ R l ys) (himp : ∀ a ∈ l, ∀ b ∈ ys, R a b → S a b) : List.Forall₂ S l ys := by
  induction h with
  | nil => exact .nil
  | cons hab _ ih =>
      exact .cons (himp _ List.mem_cons_self _ List.mem_cons_self hab)
        (ih fun a ha b hb => himp a (List.mem_cons_of_mem _ ha) b (List.mem_cons_of_mem _ hb))

namespace Node

/-! ## Places in a tree -/

mutual

/-- The places of the nodes below a node, given by positions among the children on the way. -/
def positions : Node → List (List Nat)
  | component _ => []
  | workflow _ children => positionsFrom 0 children

/-- The places of the nodes in and below several children, the first of which has the given
position. -/
def positionsFrom : Nat → List Node → List (List Nat)
  | _, [] => []
  | i, n :: ns => ([i] :: (positions n).map (i :: ·)) ++ positionsFrom (i + 1) ns

end

theorem positionsFrom_cons (i : Nat) (n : Node) (ns : List Node) :
    positionsFrom i (n :: ns) =
      ([] :: n.positions).map (i :: ·) ++ positionsFrom (i + 1) ns := rfl

mutual

theorem length_positions : (n : Node) → n.positions.length = n.descendantCount
  | component _ => by rw [positions, descendantCount, List.length_nil]
  | workflow _ children => by rw [positions, descendantCount, length_positionsFrom]

theorem length_positionsFrom (i : Nat) :
    (l : List Node) → (positionsFrom i l).length = nodeCount l
  | [] => by rw [positionsFrom, nodeCount, List.length_nil]
  | n :: ns => by
      rw [positionsFrom, nodeCount, List.length_append, List.length_cons, List.length_map,
        length_positions n, length_positionsFrom (i + 1) ns]
      omega

end

theorem mem_positionsFrom_iff {i : Nat} {l : List Node} {p : List Nat} :
    p ∈ positionsFrom i l ↔
      ∃ j n q, l[j]? = some n ∧ p = (i + j) :: q ∧ (q = [] ∨ q ∈ n.positions) := by
  induction l generalizing i with
  | nil => simp [positionsFrom]
  | cons n rest ih =>
      have hhere : p ∈ [i] :: n.positions.map (i :: ·) ↔
          ∃ q, p = i :: q ∧ (q = [] ∨ q ∈ n.positions) := by
        rw [List.mem_cons, List.mem_map]
        constructor
        · rintro (rfl | ⟨q, hq, rfl⟩)
          · exact ⟨[], rfl, .inl rfl⟩
          · exact ⟨q, rfl, .inr hq⟩
        · rintro ⟨q, rfl, rfl | hq⟩
          · exact .inl rfl
          · exact .inr ⟨q, hq, rfl⟩
      rw [positionsFrom, List.mem_append, hhere, ih]
      constructor
      · rintro (⟨q, rfl, hq⟩ | ⟨j, m, q, hm, rfl, hq⟩)
        · exact ⟨0, n, q, rfl, rfl, hq⟩
        · exact ⟨j + 1, m, q, hm, by rw [Nat.add_right_comm, Nat.add_assoc], hq⟩
      · rintro ⟨j, m, q, hm, rfl, hq⟩
        cases j with
        | zero =>
            cases hm
            exact .inl ⟨q, rfl, hq⟩
        | succ j =>
            exact .inr ⟨j, m, q, hm, by rw [Nat.add_right_comm, Nat.add_assoc], hq⟩

theorem nil_notMem_positions (n : Node) : [] ∉ n.positions := by
  cases n with
  | component c => exact List.not_mem_nil
  | workflow w children =>
      intro h
      rw [positions] at h
      obtain ⟨_, _, _, -, hnil, -⟩ := mem_positionsFrom_iff.1 h
      cases hnil

/-- Behind the empty place an ascending list of places goes on. -/
theorem pairwise_nil_cons {places : List (List Nat)} (h : places.Pairwise (· < ·))
    (hnil : [] ∉ places) : ([] :: places).Pairwise (· < ·) := by
  refine List.pairwise_cons.2 ⟨?_, h⟩
  intro p hp
  cases p with
  | nil => exact absurd hp hnil
  | cons i q => exact List.nil_lt_cons i q

theorem pairwise_positionsFrom {l : List Node} (h : ∀ n ∈ l, n.positions.Pairwise (· < ·))
    (i : Nat) : (positionsFrom i l).Pairwise (· < ·) := by
  induction l generalizing i with
  | nil => exact .nil
  | cons n rest ih =>
      obtain ⟨hn, hrest⟩ := List.forall_mem_cons.1 h
      have hbelow : (([] :: n.positions).map (i :: ·)).Pairwise (· < ·) := by
        refine List.pairwise_map.2 ((pairwise_nil_cons hn (nil_notMem_positions n)).imp ?_)
        intro p q hpq
        exact List.cons_lt_cons_iff.2 (.inr ⟨rfl, hpq⟩)
      rw [positionsFrom_cons]
      refine List.pairwise_append.2 ⟨hbelow, ih hrest (i + 1), ?_⟩
      -- a place below a later child begins with a larger position
      intro p hp p' hp'
      obtain ⟨q, -, rfl⟩ := List.mem_map.1 hp
      obtain ⟨j, m, q', -, rfl, -⟩ := mem_positionsFrom_iff.1 hp'
      have hlt : i < i + 1 + j := by omega
      exact List.cons_lt_cons_iff.2 (.inl hlt)

/-- **The places are listed in lexicographic order**, each before those below it. -/
theorem pairwise_positions (n : Node) : n.positions.Pairwise (· < ·) := by
  induction n using Node.induction with
  | component c => exact .nil
  | workflow w children ih =>
      rw [positions]
      exact pairwise_positionsFrom ih 0

/-- No place is listed twice. -/
theorem nodup_positions (n : Node) : n.positions.Nodup :=
  n.pairwise_positions.imp fun h => ne_of_lt h

end Node

namespace Revision

/-! ## What a tree has to be like -/

mutual

/-- A node stands for a revision under an identity and a name. -/
inductive Unfolding (closure : Closure) : OperatorId → String → Revision → Node → Prop
  | component {id : OperatorId} {name : String} {r : Revision} {code : CodeContent}
      (hcontent : r.content = .code code) :
      Unfolding closure id name r (.component
        { id := id, name := name, component := r.id, codeModule := code.codeModule,
          function := code.function, interface := r.interface })
  | workflow {id : OperatorId} {name : String} {r : Revision} {content : WorkflowContent}
      {children : List Node} (hcontent : r.content = .workflow content)
      (hchildren : OperatorUnfolding closure content.operators children) :
      Unfolding closure id name r (.workflow
        { id := id, name := name, workflow := r.id, interface := r.interface,
          connections := content.connections, inputs := content.inputs,
          outputs := content.outputs } children)

/-- Nodes stand for operators, one for each and in their order: each under the identity and the
name of its operator, for the revision that the operator references. -/
inductive OperatorUnfolding (closure : Closure) : List Operator → List Node → Prop
  | nil : OperatorUnfolding closure [] []
  | cons {o : Operator} {rest : List Operator} {nested : Revision} {n : Node} {ns : List Node}
      (hget : closure.get? o.id = some nested) (hid : nested.id = o.revision)
      (hn : Unfolding closure o.id o.name nested n) (hrest : OperatorUnfolding closure rest ns) :
      OperatorUnfolding closure (o :: rest) (n :: ns)

end

/-- The place of an operator that a revision reaches: its position in the content, or the position
of another operator there and a place below that one. -/
inductive Occurs (closure : Closure) : Revision → List Nat → Operator → Prop
  | here {r : Revision} {content : WorkflowContent} {i : Nat} {o : Operator}
      (hcontent : r.content = .workflow content) (ho : content.operators[i]? = some o) :
      Occurs closure r [i] o
  | inside {r nested : Revision} {content : WorkflowContent} {i : Nat} {o o' : Operator}
      {p : List Nat} (hcontent : r.content = .workflow content)
      (ho : content.operators[i]? = some o) (hget : closure.get? o.id = some nested)
      (hp : Occurs closure nested p o') : Occurs closure r (i :: p) o'

section

variable {closure closure' : Closure} {root r : Revision} {id : OperatorId} {name : String}
  {ancestors : List Uuid} {enclosing : List Revision} {n tree : Node}

/-- A node stands for an operator if it stands for what the closure holds for it. -/
def StandsFor (closure : Closure) (o : Operator) (n : Node) : Prop :=
  ∃ nested, closure.get? o.id = some nested ∧ nested.id = o.revision ∧
    Unfolding closure o.id o.name nested n

theorem StandsFor.unfolding {o : Operator} (h : StandsFor closure o n)
    (hget : closure.get? o.id = some r) : Unfolding closure o.id o.name r n := by
  obtain ⟨nested, hget', -, hunfolding⟩ := h
  rw [hget, Option.some.injEq] at hget'
  subst hget'
  exact hunfolding

theorem operatorUnfolding_iff {l : List Operator} {ns : List Node} :
    OperatorUnfolding closure l ns ↔ List.Forall₂ (StandsFor closure) l ns := by
  constructor
  · intro h
    induction l generalizing ns with
    | nil =>
        cases h
        exact .nil
    | cons o rest ih =>
        cases h with
        | cons hget hid hn hrest => exact .cons ⟨_, hget, hid, hn⟩ (ih hrest)
  · intro h
    induction h with
    | nil => exact .nil
    | cons hn _ ih =>
        obtain ⟨nested, hget, hid, hn⟩ := hn
        exact .cons hget hid hn ih

/-! ## There is one tree -/

theorem unfolding_of_unfold {fuel : Nat} (h : unfold closure fuel id name r ancestors = .ok n) :
    Unfolding closure id name r n := by
  induction fuel generalizing id name r ancestors n with
  | zero =>
      rcases unfold_eq_ok_iff.1 h with ⟨code, hcode, rfl⟩ | ⟨_, _, _, _, hfuel, -⟩
      · exact .component hcode
      · cases hfuel
  | succ fuel ih =>
      rcases unfold_eq_ok_iff.1 h with
        ⟨code, hcode, rfl⟩ | ⟨content, fuel', children, hcontent, hfuel, rfl, hchildren⟩
      · exact .component hcode
      · cases hfuel
        refine .workflow hcontent (operatorUnfolding_iff.2 (hchildren.imp fun o child hchild => ?_))
        obtain ⟨nested, hnested, hunfold⟩ := childAt_eq_ok_iff.1 hchild
        obtain ⟨hget, hid, -⟩ := nestedAt_eq_ok_iff.1 hnested
        exact ⟨nested, hget, hid, ih hunfold⟩

/-- Only one node stands for a revision. -/
theorem Unfolding.unique {n' : Node} (h : Unfolding closure id name r n)
    (h' : Unfolding closure id name r n') : n = n' := by
  induction n using Node.induction generalizing id name r n' with
  | component c =>
      cases h with
      | component hcode =>
          cases h' with
          | component hcode' =>
              rw [hcode, RevisionContent.code.injEq] at hcode'
              rw [hcode']
          | workflow hcontent =>
              rw [hcode] at hcontent
              cases hcontent
  | workflow w children ih =>
      cases h with
      | workflow hcontent hchildren =>
          cases h' with
          | component hcode =>
              rw [hcontent] at hcode
              cases hcode
          | @workflow _ _ _ _ children' hcontent' hchildren' =>
              rw [hcontent, RevisionContent.workflow.injEq] at hcontent'
              subst hcontent'
              have hsame : children = children' := by
                refine eq_of_forall₂ (operatorUnfolding_iff.1 hchildren)
                  (operatorUnfolding_iff.1 hchildren') ?_
                rintro n hn o n' ⟨nested, hget, -, hunfolding⟩ hn'
                exact ih n hn hunfolding (hn'.unfolding hget)
              rw [hsame]

theorem unfolding_iff (h : root.flatten closure = .ok tree) :
    Unfolding closure root.id root.name root n ↔ n = tree := by
  have htree : Unfolding closure root.id root.name root tree := unfolding_of_unfold h
  constructor
  · exact fun hn => hn.unique htree
  · rintro rfl
    exact htree

/-! ## The places of its nodes -/

/-- **The nodes below a node have the places of the operators** that its revision reaches. -/
theorem Unfolding.mem_positions_iff (h : Unfolding closure id name r n) {p : List Nat} :
    p ∈ n.positions ↔ ∃ o, Occurs closure r p o := by
  induction n using Node.induction generalizing id name r p with
  | component c =>
      cases h with
      | component hcode =>
          rw [Node.positions]
          refine iff_of_false List.not_mem_nil ?_
          rintro ⟨o, hcontent | hcontent⟩
          all_goals
            rw [hcode] at hcontent
            cases hcontent
  | workflow w children ih =>
      cases h with
      | @workflow _ _ _ content _ hcontent hchildren =>
          -- a child and its operator have the same position
          have hpartners := operatorUnfolding_iff.1 hchildren
          rw [Node.positions, Node.mem_positionsFrom_iff]
          constructor
          · rintro ⟨j, child, q, hchild, rfl, hq⟩
            rw [Nat.zero_add]
            obtain ⟨o, ho, nested, hget, -, hunfolding⟩ :=
              (getElem?_of_forall₂ hpartners j).2 child hchild
            rcases hq with rfl | hq
            · exact ⟨o, .here hcontent ho⟩
            · obtain ⟨o', ho'⟩ := (ih child (List.mem_of_getElem? hchild) hunfolding).1 hq
              exact ⟨o', .inside hcontent ho hget ho'⟩
          · have hat : ∀ {content' : WorkflowContent} {j : Nat} {o : Operator},
                r.content = .workflow content' → content'.operators[j]? = some o →
                  ∃ child, children[j]? = some child ∧ StandsFor closure o child := by
              intro content' j o hcontent' ho
              rw [hcontent, RevisionContent.workflow.injEq] at hcontent'
              subst hcontent'
              exact (getElem?_of_forall₂ hpartners j).1 o ho
            rintro ⟨o', hoccurs⟩
            cases hoccurs with
            | @here _ _ j _ hcontent' ho =>
                obtain ⟨child, hchild, -⟩ := hat hcontent' ho
                exact ⟨j, child, [], hchild, by rw [Nat.zero_add], .inl rfl⟩
            | @inside _ nested _ j o _ q hcontent' ho hget hq =>
                obtain ⟨child, hchild, hstands⟩ := hat hcontent' ho
                have hmem := (ih child (List.mem_of_getElem? hchild)
                  (hstands.unfolding hget)).2 ⟨o', hq⟩
                exact ⟨j, child, q, hchild, by rw [Nat.zero_add], .inr hmem⟩

/-! ## Workflows on the way to a node -/

/-- A node inside stands for what a longer chain comes to. -/
theorem Unfolding.exists_chain {m : Node} (hm : Node.Inside m n)
    (h : Unfolding closure id name r n) (hr : Chain closure root enclosing r) :
    ∃ way id' name' r', Chain closure root (way ++ enclosing) r' ∧
      Unfolding closure id' name' r' m := by
  induction hm generalizing id name r enclosing with
  | here => exact ⟨[], id, name, r, hr, h⟩
  | deeper hn _ ih =>
      cases h with
      | workflow hcontent hchildren =>
          obtain ⟨o, ho, nested, hget, -, hunfolding⟩ :=
            (exists_of_forall₂ (operatorUnfolding_iff.1 hchildren)).2 _ hn
          obtain ⟨way, id', name', r', hchain, hunfolding'⟩ :=
            ih hunfolding (.into hr hcontent ho hget)
          exact ⟨way ++ [r], id', name', r', by rwa [List.append_assoc], hunfolding'⟩

/-- What stands for a revision as a workflow node carries its identifier, and has children for its
operators. -/
theorem Unfolding.of_workflow {w : WorkflowFrame} {children : List Node}
    (h : Unfolding closure id name r (.workflow w children)) :
    w.workflow = r.id ∧ ∃ content, r.content = .workflow content ∧
      List.Forall₂ (StandsFor closure) content.operators children := by
  cases h with
  | workflow hcontent hchildren => exact ⟨rfl, _, hcontent, operatorUnfolding_iff.1 hchildren⟩

/-- No workflow stands inside another node of its revision. -/
theorem workflow_ne_of_inside (h : root.flatten closure = .ok tree) {w w' : WorkflowFrame}
    {children children' : List Node} (hw : Node.Inside (.workflow w children) tree)
    (hn : n ∈ children) (hw' : Node.Inside (.workflow w' children') n) :
    w'.workflow ≠ w.workflow := by
  obtain ⟨way, _, _, r, hr, hunfolding⟩ :=
    (unfolding_of_unfold h).exists_chain hw (.root : Chain closure root [] root)
  obtain ⟨hwr, content, hcontent, hchildren⟩ := hunfolding.of_workflow
  obtain ⟨o, ho, nested, hget, -, hnested⟩ := (exists_of_forall₂ hchildren).2 n hn
  obtain ⟨way', _, _, r', hr', hunfolding'⟩ := hnested.exists_chain hw' (.into hr hcontent ho hget)
  obtain ⟨hwr', content', hcontent', -⟩ := hunfolding'.of_workflow
  -- the inner node stands for the end of a chain that has come through the outer one
  have henclosing : r ∈ way' ++ r :: (way ++ []) :=
    List.mem_append_right way' List.mem_cons_self
  have hworkflow : r'.workflow?.isSome := by
    rw [workflow?_eq_some.2 hcontent']
    rfl
  rw [hwr, hwr']
  exact ((soundAlong_of_flatten h).id_ne hr' hworkflow henclosing).symm

/-! ## What the closure holds besides -/

/-- A tree of one closure is a tree of every closure that agrees below. -/
theorem Unfolding.of_agreesBelow (h : Unfolding closure id name r n)
    (hagrees : root.AgreesBelow closure closure') (hr : root.Reaches closure r) :
    Unfolding closure' id name r n := by
  induction n using Node.induction generalizing id name r with
  | component c =>
      cases h with
      | component hcode => exact .component hcode
  | workflow w children ih =>
      cases h with
      | @workflow _ _ _ content _ hcontent hchildren =>
          refine .workflow hcontent (operatorUnfolding_iff.2 ?_)
          refine forall₂_of_mem (operatorUnfolding_iff.1 hchildren) ?_
          rintro o ho child hchild ⟨nested, hget, hid, hunfolding⟩
          refine ⟨nested, ?_, hid, ih child hchild hunfolding (.nested hr hcontent ho hget)⟩
          rw [hagrees r content o hr hcontent ho]
          exact hget

/-- **Entries that the root does not reach do not matter.** -/
theorem flatten_of_agreesBelow (h : root.flatten closure = .ok tree)
    (hagrees : root.AgreesBelow closure closure') : root.flatten closure' = .ok tree := by
  obtain ⟨tree', htree'⟩ := exists_tree_iff.2 (hagrees.soundAlong (soundAlong_of_flatten h))
  have hunfolding : Unfolding closure' root.id root.name root tree :=
    (unfolding_of_unfold h).of_agreesBelow hagrees .root
  rw [htree', hunfolding.unique (unfolding_of_unfold htree')]

theorem Unfolding.id_name (h : Unfolding closure id name r n) : n.id = id ∧ n.name = name := by
  cases h with
  | component => exact ⟨rfl, rfl⟩
  | workflow => exact ⟨rfl, rfl⟩

end

/-- **A tree is the exact unfolding of its root.** It bears the identifier and the name of the root,
and is the only tree that stands for it. There are as many nodes below the root as places of
operators. A workflow that stands inside another one has another revision. And the tree depends on
nothing but the entries that the root reaches. -/
theorem flatten_unfolds {closure : Closure} {root : Revision} {tree : Node}
    (h : root.flatten closure = .ok tree) :
    tree.id = root.id ∧ tree.name = root.name ∧
      (∀ n, Unfolding closure root.id root.name root n ↔ n = tree) ∧
      (∃ places : List (List Nat), places.Nodup ∧
        (∀ p, p ∈ places ↔ ∃ o, Occurs closure root p o) ∧
        tree.descendantCount = places.length) ∧
      (∀ w w' children children' n, Node.Inside (.workflow w children) tree → n ∈ children →
        Node.Inside (.workflow w' children') n → w'.workflow ≠ w.workflow) ∧
      ∀ closure', root.AgreesBelow closure closure' → root.flatten closure' = .ok tree := by
  have htree : Unfolding closure root.id root.name root tree := unfolding_of_unfold h
  refine ⟨htree.id_name.1, htree.id_name.2, fun n => unfolding_iff h,
    ⟨tree.positions, tree.nodup_positions, fun p => htree.mem_positions_iff,
      tree.length_positions.symm⟩,
    fun w w' children children' n => workflow_ne_of_inside h,
    fun closure' => flatten_of_agreesBelow h⟩

/-- The instances of one workflow at two depths are two nodes, with their own children. -/
theorem flatten_unfolds_nest :
    ∃ tree, sampleNest.flatten nestClosure = .ok tree ∧ tree.id = .ofNat 13 ∧
      (∀ n, Unfolding nestClosure (.ofNat 13) "nest" sampleNest n ↔ n = tree) ∧
      ∃ places : List (List Nat), places.Nodup ∧ places.length = 7 ∧
        ∀ p, p ∈ places ↔ ∃ o, Occurs nestClosure sampleNest p o := by
  cases hflatten : sampleNest.flatten nestClosure with
  | error fault =>
      have hsize : (sampleNest.flatten nestClosure).map Node.descendantCount = .ok 7 := rfl
      rw [hflatten] at hsize
      cases hsize
  | ok tree =>
      have hsize : (sampleNest.flatten nestClosure).map Node.descendantCount = .ok 7 := rfl
      rw [hflatten] at hsize
      obtain ⟨hid, -, hunique, ⟨places, hnodup, hplaces, hlength⟩, -⟩ := flatten_unfolds hflatten
      exact ⟨tree, rfl, hid, hunique, places, hnodup, hlength ▸ Except.ok.inj hsize, hplaces⟩

end Revision

end Dataflow
