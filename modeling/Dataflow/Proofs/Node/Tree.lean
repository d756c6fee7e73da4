import Dataflow.Node.Basic
import Mathlib.Tactic

set_option autoImplicit false

/-! # Nodes inside trees

`Inside m n` says that the node `m` stands somewhere in the tree `n`. `Node.leaves` lists the
component nodes of a tree by recursion on it. `Node.componentNodes` walks through the tree
with a list of nodes that wait and with fuel; `collectComponents_eq` says that it lists the
leaves, because one unit of fuel for each node is enough.
-/

namespace Dataflow

namespace Node

/-- A node stands in a tree: it is the tree, or it stands in one of the children. -/
inductive Inside (m : Node) : Node → Prop
  | here : Inside m m
  | deeper {w : WorkflowFrame} {children : List Node} {n : Node} (hn : n ∈ children)
      (h : Inside m n) : Inside m (workflow w children)

theorem Inside.trans {m n t : Node} (h : Inside m n) (h' : Inside n t) : Inside m t := by
  induction h' with
  | here => exact h
  | deeper hn _ ih => exact .deeper hn ih

/-! ## Induction on trees -/

/-- What holds of every component, and of a workflow if it holds of its children, holds of every
tree. -/
@[elab_as_elim]
theorem induction {motive : Node → Prop} (component : ∀ c, motive (component c))
    (workflow : ∀ w children, (∀ n ∈ children, motive n) → motive (workflow w children))
    (n : Node) : motive n :=
  @Node.rec motive (fun l => ∀ n ∈ l, motive n) component workflow (fun _ h => nomatch h)
    (fun _ _ hn hrest => List.forall_mem_cons.2 ⟨hn, hrest⟩) n

/-! ## The leaves of a tree -/

mutual

/-- The component nodes of a tree, from left to right. -/
def leaves : Node → List ComponentNode
  | component c => [c]
  | workflow _ children => leavesAll children

/-- The component nodes of several trees. -/
def leavesAll : List Node → List ComponentNode
  | [] => []
  | n :: ns => leaves n ++ leavesAll ns

end

theorem leavesAll_append (l l' : List Node) :
    leavesAll (l ++ l') = leavesAll l ++ leavesAll l' := by
  induction l with
  | nil => rfl
  | cons n rest ih => rw [List.cons_append, leavesAll, ih, leavesAll, List.append_assoc]

theorem nodeCount_append (l l' : List Node) : nodeCount (l ++ l') = nodeCount l + nodeCount l' := by
  induction l with
  | nil => rw [List.nil_append, nodeCount, Nat.zero_add]
  | cons n rest ih =>
      rw [List.cons_append, nodeCount, ih, nodeCount]
      omega

/-- **A walk with fuel for every node lists the leaves.** A workflow that is taken is replaced by
its children, which are one node less. -/
theorem collectComponents_eq {fuel : Nat} {pending : List Node} (h : nodeCount pending ≤ fuel) :
    collectComponents fuel pending = leavesAll pending := by
  induction fuel generalizing pending with
  | zero =>
      cases pending with
      | nil => rfl
      | cons n rest =>
          rw [nodeCount] at h
          omega
  | succ fuel ih =>
      cases pending with
      | nil => rfl
      | cons n rest =>
          rw [nodeCount] at h
          cases n with
          | component c =>
              rw [descendantCount] at h
              rw [collectComponents, leavesAll, leaves, ih (by omega), List.singleton_append]
          | workflow w children =>
              -- the workflow itself is the node that pays for this step
              have hfuel : nodeCount (children ++ rest) ≤ fuel := by
                rw [descendantCount] at h
                rw [nodeCount_append]
                omega
              calc collectComponents (fuel + 1) (workflow w children :: rest)
                  = collectComponents fuel (children ++ rest) := by rw [collectComponents]
                _ = leavesAll (children ++ rest) := ih hfuel
                _ = leavesAll (workflow w children :: rest) := by
                    rw [leavesAll_append, leavesAll, leaves]

theorem mem_leavesAll_of_mem {l : List Node} {n : Node} {c : ComponentNode} (hn : n ∈ l)
    (hc : c ∈ n.leaves) : c ∈ leavesAll l := by
  induction l with
  | nil => cases hn
  | cons m rest ih =>
      rw [leavesAll, List.mem_append]
      rcases List.mem_cons.1 hn with rfl | hmem
      · exact .inl hc
      · exact .inr (ih hmem)

theorem mem_leaves_of_inside {c : ComponentNode} {n : Node} (h : Inside (component c) n) :
    c ∈ n.leaves := by
  induction h with
  | here => exact List.mem_singleton_self c
  | deeper hn _ ih =>
      rw [leaves]
      exact mem_leavesAll_of_mem hn ih

mutual

theorem inside_of_mem_leaves {c : ComponentNode} :
    (n : Node) → c ∈ n.leaves → Inside (component c) n
  | component c', h => by
      rw [leaves, List.mem_singleton] at h
      rw [h]
      exact .here
  | workflow w children, h => by
      rw [leaves] at h
      obtain ⟨n, hn, hinside⟩ := exists_inside_of_mem_leavesAll children h
      exact .deeper hn hinside

theorem exists_inside_of_mem_leavesAll {c : ComponentNode} :
    (l : List Node) → c ∈ leavesAll l → ∃ n ∈ l, Inside (component c) n
  | [], h => by
      rw [leavesAll] at h
      cases h
  | n :: rest, h => by
      rw [leavesAll, List.mem_append] at h
      rcases h with h | h
      · exact ⟨n, List.mem_cons_self, inside_of_mem_leaves n h⟩
      · obtain ⟨m, hm, hinside⟩ := exists_inside_of_mem_leavesAll rest h
        exact ⟨m, List.mem_cons_of_mem _ hm, hinside⟩

end

theorem componentNodes_eq_leaves (n : Node) : n.componentNodes = n.leaves := by
  have hfuel : nodeCount [n] ≤ n.descendantCount + 1 := by
    rw [nodeCount, nodeCount]
    omega
  rw [componentNodes, collectComponents_eq hfuel, leavesAll, leavesAll, List.append_nil]

/-- The component nodes that are listed are those that stand in the tree. -/
theorem mem_componentNodes_iff {n : Node} {c : ComponentNode} :
    c ∈ n.componentNodes ↔ Inside (component c) n := by
  rw [componentNodes_eq_leaves]
  exact ⟨inside_of_mem_leaves n, mem_leaves_of_inside⟩

end Node

end Dataflow
