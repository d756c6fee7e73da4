import Dataflow.Proofs.Component.Bare

set_option autoImplicit false

/-! # Wrapping preserves meaning

A component that passes its check can be wrapped, the workflow unfolds, and a run of the tree is
a run of the component itself (`Revision.evaluate_wrap`). The check matters for two reasons: the
content is code, and the inputs have distinct names, so that the mappings around the component
hand on every value that the component would have taken.
-/

namespace Dataflow

/-! ## Revisions that pass their check -/

theorem firstRepeat_eq_none_iff {seen l : List String} :
    firstRepeat seen l = none ↔ l.Nodup ∧ ∀ name ∈ l, name ∉ seen := by
  induction l generalizing seen with
  | nil => simp [firstRepeat]
  | cons name rest ih =>
      rw [firstRepeat]
      by_cases hseen : name ∈ seen
      · simp [hseen]
      · have hcons := @nodup_unseen_cons_iff _ _ id seen name rest hseen
        simp only [List.map_id_fun, id] at hcons
        rw [if_neg hseen, ih, hcons]

/-- An interface has no defect exactly if names are distinct in both directions. -/
theorem Interface.defect?_eq_none_iff {i : Interface} :
    i.defect? = none ↔
      (i.inputs.map (·.name)).Nodup ∧ (i.outputs.map (·.name)).Nodup := by
  have hseen : ∀ l : List String, firstRepeat [] l = none ↔ l.Nodup := by
    intro l
    rw [firstRepeat_eq_none_iff]
    simp
  rw [← hseen, ← hseen, defect?]
  cases firstRepeat [] (i.inputs.map (·.name)) with
  | some name => simp
  | none => simp

namespace Revision

theorem check_eq_ok_iff {r : Revision} :
    r.check = .ok () ↔ r.interface.defect? = none ∧ r.contentMatches = true := by
  rw [check, defect?]
  cases r.interface.defect? with
  | some defect => simp
  | none => cases r.contentMatches <;> simp

/-- A component that passes its check holds code. -/
theorem exists_code_of_check {r : Revision} (hvalid : r.check = .ok ())
    (hkind : r.kind = .component) : ∃ code, r.content = .code code := by
  have hmatches : r.contentMatches = true := (check_eq_ok_iff.1 hvalid).2
  rw [contentMatches, hkind] at hmatches
  cases hcontent : r.content with
  | code code => exact ⟨code, rfl⟩
  | workflow content =>
      rw [hcontent] at hmatches
      cases hmatches

/-- The tree of a component is a leaf, whatever the closure holds. -/
theorem flatten_component {r : Revision} {code : CodeContent} (h : r.content = .code code)
    (closure : Closure) : r.flatten closure = .ok (.component (r.leaf code r.id r.name)) :=
  unfold_eq_ok_iff.2 (.inl ⟨code, h, rfl⟩)

end Revision

/-! ## The failures of a component -/

/-- A component puts its own label on its failures. -/
theorem ComponentNode.relabelled_of_evaluate {c : ComponentNode} {bodies : Bodies} {plots : Bool}
    {provided : Values} {failure : NodeFailure}
    (h : (c.evaluate bodies plots provided).result = .error failure) :
    failure.relabelled c.label = failure := by
  have hsame := @result_evaluate_relabelled bodies plots c c.id provided
  have hfailure : (.error failure : Except NodeFailure Values) =
      .error (failure.relabelled c.label) := by
    calc (.error failure : Except NodeFailure Values)
        = (c.evaluate bodies plots provided).result := h.symm
      _ = (c.evaluate bodies plots provided).result.mapError (·.relabelled c.label) := hsame
      _ = .error (failure.relabelled c.label) := by rw [h, Except.mapError]
  exact (Except.error.inj hfailure).symm

/-! ## Wrapping -/

namespace Revision

/-- **Wrapping preserves meaning.** A component that passes its check is wrapped into a workflow
that unfolds with the component under its operator. For all bodies, plots skipped or not, and all
provided values, the tree yields what the bare component yields, or fails with the failure of the
bare component, the identity in its label replaced by that of the operator. The bodies that are
called are the same. -/
theorem evaluate_wrap {r : Revision} (hvalid : r.check = .ok ()) (hkind : r.kind = .component)
    (operator : OperatorId) :
    ∃ workflow tree bare,
      r.wrap operator = .ok workflow ∧
      workflow.flatten (.singleton operator r) = .ok tree ∧
      (∀ closure, r.flatten closure = .ok bare) ∧
      ∀ bodies plots provided,
        let inside := tree.evaluate bodies plots provided
        let alone := bare.evaluate bodies plots provided
        inside.result = alone.result.mapError (·.relabelled (labelled r.name operator)) ∧
          (∀ failure, alone.result = .error failure →
            failure.relabelled (labelled r.name r.id) = failure) ∧
          bodyCalls inside.entries = bodyCalls alone.entries := by
  obtain ⟨code, hcode⟩ := exists_code_of_check hvalid hkind
  obtain ⟨hnames, -⟩ := Interface.defect?_eq_none_iff.1 (check_eq_ok_iff.1 hvalid).1
  refine ⟨r.wrapped operator, r.wrappedTree code operator, .component (r.leaf code r.id r.name),
    wrap_of_component hkind operator, flatten_wrapped hcode operator, flatten_component hcode,
    fun bodies plots provided => ?_⟩
  -- the leaf inside is the bare one under the identity of the operator
  let leaf := r.leaf code r.id r.name
  have hinside : (r.wrappedTree code operator).evaluate bodies plots provided = (do
      let outputs ← ComponentNode.evaluate bodies plots { leaf with id := operator } provided
      Traced.log (.workflowRan (labelled r.name r.id))
      return outputs) := Node.evaluate_wrapped_eq hnames operator provided
  refine ⟨?_, fun failure h => ComponentNode.relabelled_of_evaluate (c := leaf) h, ?_⟩
  · rw [hinside, Traced.result_then_log]
    exact leaf.result_evaluate_relabelled operator provided
  · rw [hinside, Traced.bodyCalls_then_log]
    exact leaf.bodyCalls_evaluate_relabelled operator provided

/-- A step that hands on one of its inputs; the other has a default value. -/
def handOn : Revision :=
  component (.ofNat 1) (.ofNat 2) "hand on" "steps"
    ⟨[.optional "x" .boolean (.text "yes")], [⟨"y", .any⟩]⟩ ⟨.ofNat 3, passThroughFunction, ""⟩

theorem evaluate_wrap_handOn :
    ∃ tree,
      (handOn.wrap (.ofNat 7)).toOption.map (·.flatten (.singleton (.ofNat 7) handOn)) =
        some (.ok tree) ∧
      (tree.evaluate .standard false .empty).result =
        .ok (.singleton "y" (.bool true)) ∧
      (tree.evaluate .standard false (.singleton "x" (.text "perhaps"))).result =
        .error (.invalidInput (labelled "hand on" (.ofNat 7)) "x"
          (.coercion .boolean (.notABoolean (Coercion.shown "perhaps")))) := by
  obtain ⟨workflow, tree, bare, hwrap, htree, hbare, heval⟩ :=
    evaluate_wrap (r := handOn) rfl rfl (.ofNat 7)
  obtain rfl : Node.component (handOn.leaf ⟨.ofNat 3, passThroughFunction, ""⟩ handOn.id
      handOn.name) = bare := Except.ok.inj (hbare .empty)
  refine ⟨tree, ?_, ?_, ?_⟩
  · rw [hwrap]
    exact congrArg some htree
  · rw [(heval _ _ _).1]
    rfl
  · rw [(heval _ _ _).1]
    rfl

end Revision

end Dataflow
