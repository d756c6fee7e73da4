import Dataflow.Graph.Evaluate
import Dataflow.Proofs.Dict
import Dataflow.Proofs.Except
import Dataflow.Proofs.Journal.Traced
import Dataflow.Proofs.Node.Flatten

set_option autoImplicit false

/-! # A component as a workflow

A component is wrapped into a workflow of one operator before it is run on its own. This file
unfolds and evaluates that workflow: its tree has one leaf (`Revision.flatten_wrapped`), and its
run is the run of that leaf between the two lists of mappings (`WorkflowFrame.result_evaluate`).
The identity of the operator gets into the texts of failures and nowhere else
(`Node.toOption_evaluate_wrapped_eq`).
-/

namespace Dataflow

/-! ## The tree -/

namespace Revision

/-- The workflow of one operator that instances a component. -/
def wrapped (r : Revision) (operator : OperatorId) : Revision :=
  { r with kind := .workflow, content := .workflow (r.wrapping operator) }

/-- The tree of that workflow. -/
def wrappedTree (r : Revision) (code : CodeContent) (operator : OperatorId) : Node :=
  .workflow ((r.wrapped operator).frame (r.wrapping operator) r.id r.name)
    [.component (r.leaf code operator r.name)]

variable {r : Revision} {code : CodeContent}

theorem wrap_of_component (h : r.kind = .component) (operator : OperatorId) :
    r.wrap operator = .ok (r.wrapped operator) := by
  rw [wrap, h]
  rfl

theorem flatten_wrapped (h : r.content = .code code) (operator : OperatorId) :
    (r.wrapped operator).flatten (.singleton operator r) = .ok (r.wrappedTree code operator) := by
  have hget : (Dict.singleton operator r).get? operator = some r := by
    rw [Dict.get?_singleton, if_pos rfl]
  have hworkflow : r.workflow? = none := by
    rw [workflow?, h]
    rfl
  have hnested : nestedAt (.singleton operator r) r.id [r.id] ⟨operator, r.id, r.name⟩ = .ok r :=
    nestedAt_eq_ok_iff.2 ⟨hget, rfl, fun hmem => by simp [hworkflow] at hmem⟩
  have hleaf : unfold (.singleton operator r) 1 operator r.name r [r.id] =
      .ok (.component (r.leaf code operator r.name)) := unfold_eq_ok_iff.2 (.inl ⟨code, h, rfl⟩)
  exact unfold_eq_ok_iff.2 (.inr ⟨r.wrapping operator, _, _, rfl, rfl, rfl,
    .cons (childAt_eq_ok_iff.2 ⟨r, hnested, hleaf⟩) .nil⟩)

end Revision

/-! ## The run of a workflow with one child -/

namespace WorkflowFrame

variable {w : WorkflowFrame}

theorem order_of_single (h : w.connections = []) (operator : OperatorId) :
    w.order [operator] = .ok [0] := by
  rw [order, edges, h]
  rfl

/-- Without connections, the run of one child is a run on the mapped inputs. -/
theorem result_evaluate (h : w.connections = []) (child : Child) (provided : Values) :
    (w.evaluate [child] provided).result = (do
      let pending ← w.routeInputs [child.id] w.inputs provided .empty
      let outputs ← (child.evaluate ((pending.get? child.id).getD .empty)).result
      w.exposeOutputs (.singleton child.id outputs) w.outputs .empty) := by
  have hcarry : w.connections.filter (·.target.operator == child.id) = [] := by
    rw [h]
    rfl
  have hrun : ∀ pending, (w.runChildren [child] pending .empty).result =
      (child.evaluate ((pending.get? child.id).getD .empty)).result >>=
        fun outputs => .ok (.singleton child.id outputs) := by
    intro pending
    rw [runChildren, hcarry]
    simp only [carry, Traced.ofExcept_ok_bind, Traced.result_bind]
    rfl
  unfold evaluate
  simp only [List.map_cons, List.map_nil, order_of_single h, Traced.ofExcept_ok_bind,
    Traced.result_bind, Traced.result_ofExcept]
  refine bind_congr fun pending => ?_
  rw [show List.filterMap (fun p => [child][p]?) [0] = [child] from rfl, hrun, bind_assoc]
  refine bind_congr fun outputs => ?_
  show (w.exposeOutputs (.singleton child.id outputs) w.outputs .empty >>= fun a => .ok a) = _
  cases w.exposeOutputs (.singleton child.id outputs) w.outputs .empty <;> rfl

end WorkflowFrame

/-! ## Inputs and outputs carried through -/

/-- The values that inputs of a workflow hand on under their own names, laid over others. Each
provided value serves one of them. -/
def Interface.handed (i : Interface) : List String → Values → Values → Values
  | [], _, taken => taken
  | name :: rest, provided, taken =>
      let taken :=
        match (provided.get? name).or ((i.input? name).bind Input.default?) with
        | some v => taken.insert name v
        | none => taken
      i.handed rest (provided.erase name) taken

/-- The values of the given names, if all are there, laid over others. -/
def Values.exposed (produced : Values) : List String → Values → Option Values
  | [], outputs => some outputs
  | name :: rest, outputs =>
      match produced.get? name with
      | none => none
      | some v => produced.exposed rest (outputs.insert name v)

namespace WorkflowFrame

variable {w : WorkflowFrame} {operator : OperatorId}

theorem position_single : w.position [operator] operator = .ok 0 := by
  simp [position]

/-- Mappings of inputs to the connectors of their names reach one operator. -/
theorem routeInputs_wrapping (w : WorkflowFrame) (operator : OperatorId) (names : List String)
    (provided : Values) (pending : OperatorValues) :
    ∃ pending', w.routeInputs [operator] (names.map fun n => ⟨n, operator, n⟩) provided pending =
        .ok pending' ∧
      (pending'.get? operator).getD .empty =
        w.interface.handed names provided ((pending.get? operator).getD .empty) := by
  induction names generalizing provided pending with
  | nil => exact ⟨pending, rfl, rfl⟩
  | cons name rest ih =>
      simp only [List.map_cons, routeInputs, position_single, Interface.handed]
      cases (provided.get? name).or ((w.interface.input? name).bind Input.default?) with
      | none => exact ih (provided.erase name) pending
      | some v =>
          obtain ⟨pending', hroute, hget⟩ :=
            ih (provided.erase name) (pending.put ⟨operator, name⟩ v)
          refine ⟨pending', hroute, ?_⟩
          rw [hget, OperatorValues.put, Dict.get?_insert, if_pos rfl, Option.getD_some]

/-- Mappings of outputs from the connectors of their names expose what one operator produced. -/
theorem toOption_exposeOutputs_wrapping (names : List String) (produced outputs : Values) :
    (w.exposeOutputs (.singleton operator produced) (names.map fun n => ⟨n, operator, n⟩)
      outputs).toOption = produced.exposed names outputs := by
  have hat : ∀ name, OperatorValues.at? (.singleton operator produced) ⟨operator, name⟩ =
      produced.get? name := by
    intro name
    rw [OperatorValues.at?, Dict.get?_singleton, if_pos rfl]
    rfl
  induction names generalizing outputs with
  | nil => rfl
  | cons name rest ih =>
      simp only [List.map_cons, exposeOutputs, hat, Values.exposed]
      cases produced.get? name with
      | none => rfl
      | some v => exact ih (outputs.insert name v)

end WorkflowFrame

/-! ## Labels -/

namespace ComponentNode

theorem toOption_takeInputs (label label' : String) (inputs : List Input)
    (provided taken : Values) :
    (takeInputs label inputs provided taken).toOption =
      (takeInputs label' inputs provided taken).toOption := by
  induction inputs generalizing provided taken with
  | nil => rfl
  | cons i rest ih =>
      simp only [takeInputs]
      cases (provided.get? i.name).or i.default? with
      | none => rfl
      | some v =>
          simp only
          cases coerceAs i.dataType v with
          | error e => rfl
          | ok v' => exact ih (provided.erase i.name) (taken.insert i.name v')

theorem toOption_takeOutputs (label label' : String) (outputs : List Output)
    (produced taken : Values) :
    (takeOutputs label outputs produced taken).toOption =
      (takeOutputs label' outputs produced taken).toOption := by
  induction outputs generalizing produced taken with
  | nil => rfl
  | cons o rest ih =>
      simp only [takeOutputs]
      cases produced.get? o.name with
      | none => rfl
      | some v => exact ih (produced.erase o.name) (taken.insert o.name v)

variable {bodies : Bodies} {plots : Bool}

/-- What a component that is skipped yields. -/
theorem result_evaluate_of_skipped (c : ComponentNode)
    (h : (!plots && c.interface.isPurePlot) = true) (provided : Values) :
    (c.evaluate bodies plots provided).result = .ok c.skippedOutputs := by
  unfold evaluate
  rw [h, if_pos rfl]
  rfl

/-- What a component that is run yields. -/
theorem result_evaluate (c : ComponentNode) (h : (!plots && c.interface.isPurePlot) = false)
    (provided : Values) :
    (c.evaluate bodies plots provided).result = (do
      let inputs ← takeInputs c.label c.interface.inputs provided .empty
      match bodies.get? c.codeModule c.function with
      | none => .error (.missingBody c.label c.codeModule c.function)
      | some body =>
          let produced ← (body c.interface inputs).mapError (.body c.label)
          takeOutputs c.label c.interface.outputs produced .empty) := by
  unfold evaluate
  rw [h, if_neg Bool.false_ne_true, Traced.result_bind, Traced.result_ofExcept]
  refine bind_congr fun inputs => ?_
  cases bodies.get? c.codeModule c.function with
  | none => rfl
  | some body =>
      simp only [Traced.result_bind, Traced.result_ofExcept]
      show (body c.interface inputs).mapError (NodeFailure.body c.label) >>= _ = _
      refine bind_congr fun produced => ?_
      show (takeOutputs c.label c.interface.outputs produced .empty >>= fun a => .ok a) = _
      cases takeOutputs c.label c.interface.outputs produced .empty <;> rfl

theorem takeInputs_eq_error {label : String} {l : List Input} {provided taken : Values}
    {f : NodeFailure} (h : takeInputs label l provided taken = .error f) :
    ∃ i ∈ l, f = .missingInput label i.name ∨ ∃ cause, f = .invalidInput label i.name cause := by
  induction l generalizing provided taken with
  | nil => cases h
  | cons i rest ih =>
      rw [takeInputs] at h
      cases hvalue : (provided.get? i.name).or i.default? with
      | none =>
          rw [hvalue] at h
          cases h
          exact ⟨i, List.mem_cons_self, .inl rfl⟩
      | some v =>
          simp only [hvalue] at h
          cases hcoerce : coerceAs i.dataType v with
          | error cause =>
              rw [hcoerce] at h
              cases h
              exact ⟨i, List.mem_cons_self, .inr ⟨cause, rfl⟩⟩
          | ok v' =>
              rw [hcoerce] at h
              obtain ⟨i', hi', hf⟩ := ih h
              exact ⟨i', List.mem_cons_of_mem _ hi', hf⟩

theorem takeOutputs_eq_error {label : String} {l : List Output} {produced taken : Values}
    {f : NodeFailure} (h : takeOutputs label l produced taken = .error f) :
    ∃ o ∈ l, f = .missingOutput label o.name := by
  induction l generalizing produced taken with
  | nil => cases h
  | cons o rest ih =>
      rw [takeOutputs] at h
      cases hvalue : produced.get? o.name with
      | none =>
          rw [hvalue] at h
          cases h
          exact ⟨o, List.mem_cons_self, rfl⟩
      | some v =>
          rw [hvalue] at h
          obtain ⟨o', ho', hf⟩ := ih h
          exact ⟨o', List.mem_cons_of_mem _ ho', hf⟩

/-- What a component fails over. -/
theorem evaluate_eq_error {c : ComponentNode} {provided : Values} {f : NodeFailure}
    (h : (c.evaluate bodies plots provided).result = .error f) :
    takeInputs c.label c.interface.inputs provided .empty = .error f ∨
      f = .missingBody c.label c.codeModule c.function ∨ (∃ message, f = .body c.label message) ∨
      ∃ o ∈ c.interface.outputs, f = .missingOutput c.label o.name := by
  cases hskip : !plots && c.interface.isPurePlot with
  | true =>
      rw [result_evaluate_of_skipped c hskip] at h
      cases h
  | false =>
      rw [result_evaluate c hskip] at h
      rcases bind_eq_error.1 h with hinputs | ⟨inputs, -, h⟩
      · exact .inl hinputs
      cases hbody : bodies.get? c.codeModule c.function with
      | none =>
          rw [hbody] at h
          cases h
          exact .inr (.inl rfl)
      | some body =>
          rw [hbody] at h
          rcases bind_eq_error.1 h with hfail | ⟨produced, -, houtputs⟩
          · cases hran : body c.interface inputs with
            | ok produced =>
                rw [hran] at hfail
                cases hfail
            | error message =>
                rw [hran] at hfail
                cases hfail
                exact .inr (.inr (.inl ⟨message, rfl⟩))
          · exact .inr (.inr (.inr (takeOutputs_eq_error houtputs)))

/-- The identity of a component node does not matter for what it yields. -/
theorem toOption_evaluate (c : ComponentNode) (id : OperatorId) (provided : Values) :
    ((ComponentNode.evaluate bodies plots { c with id } provided).result).toOption =
      ((c.evaluate bodies plots provided).result).toOption := by
  by_cases h : (!plots && c.interface.isPurePlot) = true
  · rw [result_evaluate_of_skipped c h, result_evaluate_of_skipped { c with id } h]
    rfl
  · rw [Bool.not_eq_true] at h
    rw [result_evaluate c h, result_evaluate { c with id } h, toOption_bind, toOption_bind,
      toOption_takeInputs _ c.label]
    refine congrArg _ (funext fun inputs => ?_)
    cases bodies.get? c.codeModule c.function with
    | none =>
        -- the texts of the two failures differ, so the failures themselves are not to be compared
        show (none : Option Values) = none
        rfl
    | some body =>
        simp only [toOption_bind, toOption_mapError]
        exact congrArg _ (funext fun produced => toOption_takeOutputs _ _ _ _ _)

end ComponentNode

/-! ## The run of a wrapped component -/

namespace Node

variable {bodies : Bodies} {plots : Bool} {r : Revision} {code : CodeContent}

/-- A wrapped component runs on the inputs that are handed on to it, and what it produces is
exposed. -/
theorem toOption_evaluate_wrapped (operator : OperatorId) (provided : Values) :
    ((r.wrappedTree code operator).evaluate bodies plots provided).result.toOption =
      ((r.leaf code operator r.name).evaluate bodies plots
          (r.interface.handed (r.interface.inputs.map (·.name)) provided
            .empty)).result.toOption.bind
        fun produced => produced.exposed (r.interface.outputs.map (·.name)) .empty := by
  have hinputs : (r.wrapping operator).inputs =
      (r.interface.inputs.map (·.name)).map fun n => ⟨n, operator, n⟩ := by
    rw [List.map_map]
    rfl
  have houtputs : (r.wrapping operator).outputs =
      (r.interface.outputs.map (·.name)).map fun n => ⟨n, operator, n⟩ := by
    rw [List.map_map]
    rfl
  obtain ⟨pending, hroute, hget⟩ := WorkflowFrame.routeInputs_wrapping
    ((r.wrapped operator).frame (r.wrapping operator) r.id r.name) operator
    (r.interface.inputs.map (·.name)) provided .empty
  rw [Revision.wrappedTree, evaluate, evaluateAll, evaluateAll, WorkflowFrame.result_evaluate rfl]
  show (((r.wrapped operator).frame (r.wrapping operator) r.id r.name).routeInputs [operator]
    (r.wrapping operator).inputs provided .empty >>= _).toOption = _
  rw [hinputs, hroute]
  show ((evaluate bodies plots (component (r.leaf code operator r.name))
    ((pending.get? operator).getD .empty)).result >>= _).toOption = _
  rw [hget, toOption_bind, evaluate]
  refine congrArg _ (funext fun produced => ?_)
  show (((r.wrapped operator).frame (r.wrapping operator) r.id r.name).exposeOutputs
    (.singleton operator produced) (r.wrapping operator).outputs .empty).toOption = _
  rw [houtputs, WorkflowFrame.toOption_exposeOutputs_wrapping]

/-- **What a wrapped component yields does not depend on the identity of its operator.** -/
theorem toOption_evaluate_wrapped_eq (operator operator' : OperatorId) (provided : Values) :
    ((r.wrappedTree code operator).evaluate bodies plots provided).result.toOption =
      ((r.wrappedTree code operator').evaluate bodies plots provided).result.toOption := by
  have hleaf : r.leaf code operator r.name =
      { r.leaf code operator' r.name with id := operator } := rfl
  rw [toOption_evaluate_wrapped, toOption_evaluate_wrapped, hleaf,
    ComponentNode.toOption_evaluate]

end Node

end Dataflow
