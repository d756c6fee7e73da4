import Dataflow.Graph.Evaluate
import Dataflow.Proofs.Except
import Dataflow.Proofs.Graph.Order

set_option autoImplicit false

/-! # The order in which children run

A workflow whose children have different identities is looked at through its operators: which
one `Feeds` which, whether that goes in a circle (`Cyclic`), and whether a connection or a
mapping of an input names none of them (`Dangling`). `WorkflowFrame.order` lists positions of
children; the main statements translate it back: `order` fails exactly on an unknown operator
of a connection and on a cycle, and otherwise the children in its order (`inOrder`) are all the
children, each behind those that feed it.
-/

namespace Dataflow

open Relation

namespace WorkflowFrame

/-- A connection leads from an operator `a` to an operator `b`. -/
def Feeds (w : WorkflowFrame) (a b : OperatorId) : Prop :=
  ∃ c ∈ w.connections, c.source.operator = a ∧ c.target.operator = b

/-- Some operator feeds itself, directly or through others. -/
def Cyclic (w : WorkflowFrame) : Prop := ∃ a, TransGen w.Feeds a a

/-- The connections join operators of the list only. -/
def Joined (w : WorkflowFrame) (ids : List OperatorId) : Prop :=
  ∀ c ∈ w.connections, c.source.operator ∈ ids ∧ c.target.operator ∈ ids

/-- A connection or a mapping of an input names an operator that is not in the list. -/
def Dangling (w : WorkflowFrame) (ids : List OperatorId) : Prop :=
  ¬ w.Joined ids ∨ ∃ m ∈ w.inputs, m.endpoint.operator ∉ ids

/-! ## Positions of operators -/

section Position

variable {w : WorkflowFrame} {ids : List OperatorId} {a : OperatorId}

theorem getElem?_of_position {p : Nat} (h : w.position ids a = .ok p) : ids[p]? = some a := by
  unfold position at h
  split at h
  · rename_i q hq
    cases h
    obtain ⟨⟨b, i⟩, hfind, rfl⟩ := Option.map_eq_some_iff.1 hq
    have hb : b = a := by simpa using List.find?_some hfind
    have hmem := List.mem_of_find?_eq_some hfind
    rw [List.mem_reverse, List.mem_zipIdx_iff_getElem?] at hmem
    rw [← hb]
    exact hmem
  · cases h

theorem exists_position_of_mem (ha : a ∈ ids) : ∃ p, w.position ids a = .ok p := by
  cases h : w.position ids a with
  | ok p => exact ⟨p, rfl⟩
  | error e =>
      exfalso
      unfold position at h
      split at h
      · cases h
      · rename_i hnone
        rw [Option.map_eq_none_iff, List.find?_eq_none] at hnone
        obtain ⟨i, hi⟩ := List.mem_iff_getElem?.1 ha
        have hmem : (a, i) ∈ ids.zipIdx.reverse := by
          rw [List.mem_reverse, List.mem_zipIdx_iff_getElem?]
          exact hi
        exact hnone _ hmem (beq_self_eq_true a)

theorem position_of_mem (hids : ids.Nodup) (ha : a ∈ ids) :
    w.position ids a = .ok (ids.idxOf a) := by
  obtain ⟨p, h⟩ := exists_position_of_mem (w := w) ha
  obtain ⟨hlt, hget⟩ := List.getElem?_eq_some_iff.1 (getElem?_of_position h)
  rw [h, ← hget, hids.idxOf_getElem p hlt]

theorem position_of_notMem (ha : a ∉ ids) :
    w.position ids a = .error (.unknownOperator w.label a) := by
  cases h : w.position ids a with
  | ok p => exact absurd (List.mem_of_getElem? (getElem?_of_position h)) ha
  | error e =>
      unfold position at h
      split at h
      · cases h
      · rw [← h]

/-- Only an operator that is not in the list has no position. -/
theorem position_eq_error_iff {f : NodeFailure} :
    w.position ids a = .error f ↔ a ∉ ids ∧ f = .unknownOperator w.label a := by
  by_cases ha : a ∈ ids
  · obtain ⟨p, hp⟩ := exists_position_of_mem (w := w) ha
    simp [hp, ha]
  · simp [position_of_notMem, ha, eq_comm]

end Position

/-! ## Connections as edges -/

/-- A connection as an edge between the positions of its operators. -/
def edgeOf (ids : List OperatorId) (c : Connection) : Graph.Edge :=
  (ids.idxOf c.source.operator, ids.idxOf c.target.operator)

section Edges

variable {w : WorkflowFrame} {ids : List OperatorId}

/-- The failure of an operator that is not in the list. -/
def IsUnknown (w : WorkflowFrame) (ids : List OperatorId) (f : NodeFailure) : Prop :=
  ∃ a, a ∉ ids ∧ f = .unknownOperator w.label a

/-- One connection as an edge. -/
def edge (w : WorkflowFrame) (ids : List OperatorId) (c : Connection) :
    Except NodeFailure Graph.Edge := do
  let source ← w.position ids c.source.operator
  let target ← w.position ids c.target.operator
  return (source, target)

theorem edges_eq (w : WorkflowFrame) (ids : List OperatorId) :
    w.edges ids = w.connections.mapM (w.edge ids) := rfl

theorem edge_of_known {c : Connection} (hids : ids.Nodup)
    (h : c.source.operator ∈ ids ∧ c.target.operator ∈ ids) :
    w.edge ids c = .ok (edgeOf ids c) := by
  unfold edge
  rw [position_of_mem hids h.1, position_of_mem hids h.2]
  rfl

theorem edge_of_unknown {c : Connection} (hids : ids.Nodup)
    (h : ¬ (c.source.operator ∈ ids ∧ c.target.operator ∈ ids)) :
    ∃ f, w.edge ids c = .error f ∧ w.IsUnknown ids f := by
  unfold edge
  by_cases hs : c.source.operator ∈ ids
  · have ht : c.target.operator ∉ ids := fun ht => h ⟨hs, ht⟩
    rw [position_of_mem hids hs, position_of_notMem ht]
    exact ⟨_, rfl, _, ht, rfl⟩
  · rw [position_of_notMem hs]
    exact ⟨_, rfl, _, hs, rfl⟩

theorem edges_of_joined (hids : ids.Nodup) (h : w.Joined ids) :
    w.edges ids = .ok (w.connections.map (edgeOf ids)) := by
  rw [edges_eq, mapM_eq_ok_iff, List.forall₂_map_right_iff, List.forall₂_same]
  exact fun c hc => edge_of_known hids (h c hc)

theorem edges_of_not_joined (hids : ids.Nodup) (h : ¬ w.Joined ids) :
    ∃ f, w.edges ids = .error f ∧ w.IsUnknown ids f := by
  rw [edges_eq]
  simp only [Joined, not_forall] at h
  obtain ⟨c, hc, hunknown⟩ := h
  obtain ⟨f, hf, -⟩ := edge_of_unknown (w := w) hids hunknown
  -- the failure may come from another connection that stands before `c`
  obtain ⟨f', hf'⟩ := exists_mapM_eq_error hc hf
  refine ⟨f', hf', ?_⟩
  obtain ⟨c', -, hfail⟩ := mapM_eq_error hf'
  have hunknown' : ¬ (c'.source.operator ∈ ids ∧ c'.target.operator ∈ ids) := by
    intro hknown
    rw [edge_of_known hids hknown] at hfail
    cases hfail
  obtain ⟨f'', hf'', hcause⟩ := edge_of_unknown (w := w) hids hunknown'
  rw [hfail] at hf''
  cases hf''
  exact hcause

theorem within_of_joined (h : w.Joined ids) :
    Graph.Within ids.length (w.connections.map (edgeOf ids)) := by
  intro e he
  obtain ⟨c, hc, rfl⟩ := List.mem_map.1 he
  exact ⟨List.idxOf_lt_length_of_mem (h c hc).1, List.idxOf_lt_length_of_mem (h c hc).2⟩

theorem leads_idxOf_iff (h : w.Joined ids) {a b : OperatorId} :
    Graph.Leads (w.connections.map (edgeOf ids)) (ids.idxOf a) (ids.idxOf b) ↔ w.Feeds a b := by
  simp only [Graph.Leads, List.mem_map, edgeOf, Prod.mk.injEq, Feeds]
  refine exists_congr fun c => and_congr_right fun hc => ?_
  rw [List.idxOf_inj (h c hc).1, List.idxOf_inj (h c hc).2]

/-- **Cycles of positions are cycles of operators.** -/
theorem acyclic_iff (h : w.Joined ids) :
    Graph.Acyclic (w.connections.map (edgeOf ids)) ↔ ¬ w.Cyclic := by
  constructor
  · rintro hacyclic ⟨a, hcycle⟩
    refine hacyclic (ids.idxOf a) (hcycle.lift ids.idxOf fun b b' hb => ?_)
    obtain ⟨c, hc, rfl, rfl⟩ := hb
    exact (leads_idxOf_iff h).2 ⟨c, hc, rfl, rfl⟩
  · intro hcyclic p hcycle
    refine hcyclic ⟨ids.getD p .nil, hcycle.lift (fun q => ids.getD q .nil) fun q q' hq => ?_⟩
    -- an edge is that of a connection, whose operators stand at its two positions
    obtain ⟨c, hc, heq⟩ := List.mem_map.1 hq
    obtain ⟨rfl, rfl⟩ := Prod.mk.inj heq
    have hget : ∀ a ∈ ids, ids.getD (ids.idxOf a) .nil = a := by
      intro a ha
      rw [List.getD_eq_getElem?_getD, List.getElem?_idxOf ha, Option.getD_some]
    exact ⟨c, hc, (hget _ (h c hc).1).symm, (hget _ (h c hc).2).symm⟩

theorem order_of_not_joined (hids : ids.Nodup) (h : ¬ w.Joined ids) :
    ∃ f, w.order ids = .error f ∧ w.IsUnknown ids f := by
  obtain ⟨f, hf, hunknown⟩ := edges_of_not_joined hids h
  refine ⟨f, ?_, hunknown⟩
  unfold order
  rw [hf]
  rfl

theorem order_of_cyclic (hids : ids.Nodup) (h : w.Joined ids) (hcyclic : w.Cyclic) :
    w.order ids = .error (.cycle w.label) := by
  have hnone := Graph.topologicalOrder?_of_cyclic (n := ids.length)
    (fun hacyclic => (acyclic_iff h).1 hacyclic hcyclic)
  unfold order
  rw [edges_of_joined hids h]
  simp only [bind, Except.bind, hnone]

theorem order_of_acyclic (hids : ids.Nodup) (h : w.Joined ids) (hacyclic : ¬ w.Cyclic) :
    ∃ order, w.order ids = .ok order ∧ order.Perm (List.range ids.length) ∧
      ∀ c ∈ w.connections,
        order.idxOf (ids.idxOf c.source.operator) < order.idxOf (ids.idxOf c.target.operator) := by
  obtain ⟨order, hsome, hperm, hforward⟩ :=
    Graph.topologicalOrder?_of_acyclic ((acyclic_iff h).2 hacyclic) (within_of_joined h)
  refine ⟨order, ?_, hperm, fun c hc => hforward _ (List.mem_map_of_mem hc)⟩
  unfold WorkflowFrame.order
  rw [edges_of_joined hids h]
  simp only [bind, Except.bind, hsome]

end Edges

/-! ## Children in order -/

/-- The children at the positions of a list. -/
def inOrder (children : List Child) (order : List Nat) : List Child :=
  order.filterMap (children[·]?)

/-- Every child of the list stands behind all those that feed it. -/
def FedInOrder (w : WorkflowFrame) (l : List Child) : Prop :=
  ∀ before child after, l = before ++ child :: after →
    ∀ c ∈ w.connections, c.target.operator = child.id →
      ∃ s ∈ before, s.id = c.source.operator

theorem inOrder_range (children : List Child) :
    inOrder children (List.range children.length) = children := by
  induction children with
  | nil => rfl
  | cons child rest ih =>
      rw [inOrder, List.length_cons, List.range_succ_eq_map, List.filterMap_cons,
        List.filterMap_map]
      simp only [List.getElem?_cons_zero, Function.comp_def, List.getElem?_cons_succ]
      rw [← inOrder, ih]

/-- **The children in the order of a workflow** are all its children, each behind those that
feed it. -/
theorem inOrder_spec {w : WorkflowFrame} {children : List Child}
    (hids : (children.map (·.id)).Nodup) (h : w.Joined (children.map (·.id)))
    (hacyclic : ¬ w.Cyclic) :
    ∃ order, w.order (children.map (·.id)) = .ok order ∧
      (inOrder children order).Perm children ∧ w.FedInOrder (inOrder children order) := by
  obtain ⟨order, horder, hperm, hforward⟩ := order_of_acyclic hids h hacyclic
  rw [List.length_map] at hperm
  refine ⟨order, horder, ?_, ?_⟩
  · have hall := hperm.filterMap (children[·]?)
    rw [← inOrder, ← inOrder, inOrder_range] at hall
    exact hall
  · intro before child after hsplit c hc htarget
    -- the place of `child` in the list is the place of its position in the order
    obtain ⟨front, tail, rfl, hfront, htail⟩ := List.filterMap_eq_append_iff.1 hsplit
    obtain ⟨skipped, p, back, rfl, hskipped, hp, -⟩ := List.filterMap_eq_cons_iff.1 htail
    have hat : ∀ {q : Nat} {k : Child}, children[q]? = some k →
        (children.map (·.id)).idxOf k.id = q := by
      intro q k hk
      have hq : (children.map (·.id))[q]? = some k.id := by
        rw [List.getElem?_map, hk, Option.map_some]
      obtain ⟨hlt, hget⟩ := List.getElem?_eq_some_iff.1 hq
      rw [← hget, hids.idxOf_getElem q hlt]
    obtain ⟨s, hs, hsource⟩ := List.mem_map.1 (h c hc).1
    obtain ⟨q, hq⟩ := List.mem_iff_getElem?.1 hs
    have hlt := hforward c hc
    rw [htarget, ← hsource, hat hp, hat hq, ← List.append_assoc] at hlt
    -- the source stands before it, and positions that were skipped hold no child
    rcases List.mem_append.1 (Graph.mem_of_idxOf_lt hlt) with hmem | hmem
    · refine ⟨s, ?_, hsource⟩
      rw [← hfront, List.mem_filterMap]
      exact ⟨q, hmem, hq⟩
    · have hnone := hskipped q hmem
      rw [hq] at hnone
      cases hnone

end WorkflowFrame

end Dataflow
