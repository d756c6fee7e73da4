import Dataflow.Proofs.Component.Wrapping
import Dataflow.Proofs.Graph.Evaluation

set_option autoImplicit false

/-! # Runs over unknown operators

A run that fails over an unknown operator fails in one workflow of its tree, over a connection or a
mapping of an input that names an operator which is no child there. `Node.exists_of_unknownOperator`
finds that workflow. It asks nothing of the tree: children may share an identity.

What a workflow may fail over is said once, in the order of the run (`evaluate_eq_error`); the rest
is an induction on the tree, for a failure of a child is handed on as it is.
-/

namespace Dataflow

namespace WorkflowFrame

/-- A connection begins or ends at an operator. -/
def Connects (w : WorkflowFrame) (a : OperatorId) : Prop :=
  ∃ c ∈ w.connections, c.source.operator = a ∨ c.target.operator = a

variable {w : WorkflowFrame} {ids : List OperatorId} {f : NodeFailure}

/-! ## Connections -/

theorem edge_eq_error {c : Connection} (h : w.edge ids c = .error f) :
    ∃ a, (c.source.operator = a ∨ c.target.operator = a) ∧ a ∉ ids ∧
      f = .unknownOperator w.label a := by
  rcases bind_eq_error.1 h with hsource | ⟨source, -, h⟩
  · obtain ⟨ha, hf⟩ := position_eq_error_iff.1 hsource
    exact ⟨_, .inl rfl, ha, hf⟩
  · rcases bind_eq_error.1 h with htarget | ⟨target, -, h⟩
    · obtain ⟨ha, hf⟩ := position_eq_error_iff.1 htarget
      exact ⟨_, .inr rfl, ha, hf⟩
    · cases h

theorem edges_eq_error (h : w.edges ids = .error f) :
    ∃ a, w.Connects a ∧ a ∉ ids ∧ f = .unknownOperator w.label a := by
  rw [edges_eq] at h
  obtain ⟨c, hc, hfail⟩ := mapM_eq_error h
  obtain ⟨a, hends, ha, hf⟩ := edge_eq_error hfail
  exact ⟨a, ⟨c, hc, hends⟩, ha, hf⟩

/-- Connections that join operators of the list have edges, also where operators are listed more
than once. -/
theorem exists_edges_of_joined (h : w.Joined ids) : ∃ edges, w.edges ids = .ok edges := by
  cases hedges : w.edges ids with
  | ok edges => exact ⟨edges, rfl⟩
  | error f =>
      obtain ⟨a, ⟨c, hc, hends⟩, ha, -⟩ := edges_eq_error hedges
      obtain ⟨hsource, htarget⟩ := h c hc
      rcases hends with rfl | rfl
      · exact absurd hsource ha
      · exact absurd htarget ha

theorem not_connects_of_joined (h : w.Joined ids) {a : OperatorId} (ha : a ∉ ids) :
    ¬ w.Connects a := by
  rintro ⟨c, hc, rfl | rfl⟩
  · exact ha (h c hc).1
  · exact ha (h c hc).2

theorem order_eq_error (h : w.order ids = .error f) :
    f = .cycle w.label ∨ ∃ a, w.Connects a ∧ a ∉ ids ∧ f = .unknownOperator w.label a := by
  rcases bind_eq_error.1 h with hedges | ⟨edges, -, h⟩
  · exact .inr (edges_eq_error hedges)
  · cases horder : Graph.topologicalOrder? ids.length edges with
    | none =>
        rw [horder] at h
        cases h
        exact .inl rfl
    | some order =>
        rw [horder] at h
        cases h

/-! ## What a workflow fails over -/

theorem routeInputs_eq_error {l : List Mapping} {left : Values} {pending : OperatorValues}
    (h : w.routeInputs ids l left pending = .error f) :
    ∃ m ∈ l, m.endpoint.operator ∉ ids ∧ f = .unknownOperator w.label m.endpoint.operator := by
  induction l generalizing left pending with
  | nil => cases h
  | cons m rest ih =>
      rw [routeInputs] at h
      cases hposition : w.position ids m.endpoint.operator with
      | error e =>
          rw [hposition] at h
          cases h
          exact ⟨m, List.mem_cons_self, position_eq_error_iff.1 hposition⟩
      | ok p =>
          rw [hposition] at h
          obtain ⟨m', hm', hunknown⟩ := ih h
          exact ⟨m', List.mem_cons_of_mem _ hm', hunknown⟩

theorem runChildren_eq_error {l : List Child} {pending produced : OperatorValues}
    (h : (w.runChildren l pending produced).result = .error f) :
    (∃ k ∈ w.connections, f = missingAlong k) ∨
      ∃ child ∈ l, ∃ inputs, (child.evaluate inputs).result = .error f := by
  induction l generalizing pending produced with
  | nil => cases h
  | cons child rest ih =>
      rcases w.runChildren_step child rest pending produced with
        ⟨k, hk, -, hrun, -⟩ | ⟨inputs, -, ⟨f', hfail, hrun, -⟩ | ⟨outputs, -, hrun, -⟩⟩
      · rw [hrun] at h
        cases h
        exact .inl ⟨k, List.mem_of_mem_filter hk, rfl⟩
      · rw [hrun] at h
        cases h
        exact .inr ⟨child, List.mem_cons_self, inputs, hfail⟩
      · rw [hrun] at h
        exact (ih h).imp_right fun ⟨child', hmem, hfail⟩ =>
          ⟨child', List.mem_cons_of_mem _ hmem, hfail⟩

/-- **What a workflow fails over**, in the order in which it may: its connections, a mapping of an
input, an output that has not been produced, or a child. -/
theorem evaluate_eq_error {children : List Child} {provided : Values}
    (h : (w.evaluate children provided).result = .error f) :
    w.order (children.map (·.id)) = .error f ∨
      (∃ m ∈ w.inputs, m.endpoint.operator ∉ children.map (·.id) ∧
        f = .unknownOperator w.label m.endpoint.operator) ∨
      (∃ node output, f = .missingOutput node output) ∨
      ∃ child ∈ children, ∃ inputs, (child.evaluate inputs).result = .error f := by
  rw [evaluate_eq, Traced.result_bind, Traced.result_ofExcept] at h
  rcases bind_eq_error.1 h with horder | ⟨order, -, h⟩
  · exact .inl horder
  rw [Traced.result_bind, Traced.result_ofExcept] at h
  rcases bind_eq_error.1 h with hroute | ⟨start, -, h⟩
  · exact .inr (.inl (routeInputs_eq_error hroute))
  rw [Traced.result_bind] at h
  rcases bind_eq_error.1 h with hrun | ⟨produced, -, h⟩
  · rcases runChildren_eq_error hrun with ⟨k, -, rfl⟩ | ⟨child, hchild, hfail⟩
    · exact .inr (.inr (.inl ⟨_, _, rfl⟩))
    · obtain ⟨p, -, hp⟩ := List.mem_filterMap.1 hchild
      exact .inr (.inr (.inr ⟨child, List.mem_of_getElem? hp, hfail⟩))
  · rw [result_conclude, exposeOutputs_eq_layOver] at h
    obtain ⟨m, -, rfl, -⟩ := layOver_eq_error _ _ _ _ h
    exact .inr (.inr (.inl ⟨_, _, rfl⟩))

end WorkflowFrame

/-- A component knows no operators. -/
theorem ComponentNode.evaluate_ne_unknownOperator (c : ComponentNode) (bodies : Bodies)
    (plots : Bool) (provided : Values) {label : String} {a : OperatorId} :
    (c.evaluate bodies plots provided).result ≠ .error (.unknownOperator label a) := by
  intro h
  rcases evaluate_eq_error h with hinputs | hbody | ⟨message, hbody⟩ | ⟨o, -, houtput⟩
  · obtain ⟨i, -, hmissing | ⟨cause, hinvalid⟩⟩ := takeInputs_eq_error hinputs
    · cases hmissing
    · cases hinvalid
  · cases hbody
  · cases hbody
  · cases houtput

/-! ## Trees -/

/-- **A run that fails over an unknown operator** does so in a workflow of the tree, whose label it
gives. The operator is no child there, and a connection or a mapping of an input names it. -/
theorem Node.exists_of_unknownOperator {bodies : Bodies} {plots : Bool} {label : String}
    {a : OperatorId} {n : Node} {provided : Values}
    (h : (n.evaluate bodies plots provided).result = .error (.unknownOperator label a)) :
    ∃ w children, Inside (.workflow w children) n ∧ w.label = label ∧ a ∉ children.map Node.id ∧
      (w.Connects a ∨ ∃ m ∈ w.inputs, m.endpoint.operator = a) := by
  induction n using Node.induction generalizing provided with
  | component c =>
      rw [evaluate] at h
      exact absurd h (c.evaluate_ne_unknownOperator bodies plots provided)
  | workflow w children ih =>
      rw [evaluate_workflow_eq] at h
      rcases WorkflowFrame.evaluate_eq_error h with
        horder | ⟨m, hm, hunknown, hf⟩ | ⟨node, output, hf⟩ | ⟨child, hchild, inputs, hfail⟩
      · rw [map_id_evaluateAll] at horder
        rcases WorkflowFrame.order_eq_error horder with hf | ⟨a', hconnects, hunknown, hf⟩
        · cases hf
        · cases hf
          exact ⟨w, children, .here, rfl, hunknown, .inl hconnects⟩
      · rw [map_id_evaluateAll] at hunknown
        cases hf
        exact ⟨w, children, .here, rfl, hunknown, .inr ⟨m, hm, rfl⟩⟩
      · cases hf
      · rw [evaluateAll_eq, List.mem_map] at hchild
        obtain ⟨n, hn, rfl⟩ := hchild
        obtain ⟨w', children', hinside, hrest⟩ := ih n hn hfail
        exact ⟨w', children', .deeper hn hinside, hrest⟩

end Dataflow
