import Dataflow.Proofs.Graph.Evaluation

set_option autoImplicit false

/-! # What mappings of inputs bring to children

A provided value serves one mapping. The main statement `get?_inputs_of_mapping` says what the
child at the end of a mapping is called with, for a mapping whose connector no connection and
no later mapping ends at: the provided value for the first mapping of a name, and for every
further mapping of the name what is there without it, that is the default of the input or what
an earlier mapping has brought to the same connector (`WorkflowFrame.fallback`).

So an input that is mapped to two children reaches the first of them only
(`provided_value_serves_one_mapping`).
-/

namespace Dataflow

namespace WorkflowFrame

/-- What the connector of a mapping holds if an earlier mapping has used up the provided value:
the default of the input, and without one what the mappings `earlier` have brought there. -/
def fallback (w : WorkflowFrame) (provided : Values) (earlier : List Mapping) (m : Mapping) :
    Option Json :=
  ((w.interface.input? m.name).bind Input.default?).or
    (w.arriving provided m.endpoint earlier.reverse)

/-- Mappings to other connectors bring nothing. -/
theorem arriving_append_of_ne {w : WorkflowFrame} {provided : Values} {e : Endpoint}
    {l : List Mapping} (h : ∀ m ∈ l, m.endpoint ≠ e) (earlier : List Mapping) :
    w.arriving provided e (l ++ earlier) = w.arriving provided e earlier := by
  induction l with
  | nil => rfl
  | cons m rest ih =>
      obtain ⟨hm, hrest⟩ := List.forall_mem_cons.1 h
      rw [List.cons_append, arriving, if_neg hm, ih hrest]

/-- What arrives where no later mapping ends. -/
theorem arriving_of_last {w : WorkflowFrame} {provided : Values} {earlier later : List Mapping}
    {m : Mapping} {v : Json} (hsplit : w.inputs = earlier ++ m :: later)
    (hv : provided.get? m.name = some v) (hlater : ∀ m' ∈ later, m'.endpoint ≠ m.endpoint) :
    w.arriving provided m.endpoint w.inputs.reverse =
      if m.name ∈ earlier.map (·.name) then w.fallback provided earlier m else some v := by
  have hreverse : w.inputs.reverse = later.reverse ++ m :: earlier.reverse := by
    rw [hsplit, List.reverse_append, List.reverse_cons, List.append_assoc,
      List.singleton_append]
  have hother : ∀ m' ∈ later.reverse, m'.endpoint ≠ m.endpoint :=
    fun m' hm' => hlater m' (List.mem_reverse.1 hm')
  have hseen : m.name ∈ earlier.reverse.map (·.name) ↔ m.name ∈ earlier.map (·.name) := by
    rw [List.map_reverse, List.mem_reverse]
  calc w.arriving provided m.endpoint w.inputs.reverse
      = w.arriving provided m.endpoint (m :: earlier.reverse) := by
        rw [hreverse, arriving_append_of_ne hother]
    _ = (w.mappedValue provided earlier.reverse m).or
          (w.arriving provided m.endpoint earlier.reverse) := by
        rw [arriving, if_pos rfl]
    _ = if m.name ∈ earlier.map (·.name) then w.fallback provided earlier m else some v := by
        rw [mappedValue]
        by_cases hname : m.name ∈ earlier.map (·.name)
        · rw [if_pos (hseen.2 hname), if_pos hname, Option.none_or, fallback]
        · rw [if_neg (mt hseen.1 hname), if_neg hname, hv, Option.some_or, Option.some_or]

/-- At a connector where no connection ends, a child is called with what the mappings of the
inputs have brought. -/
theorem get?_inputs_of_mem_calls {w : WorkflowFrame} {children : List Child}
    (hids : (children.map (·.id)).Nodup) {provided : Values} {e : Endpoint}
    (hfree : ∀ k ∈ w.connections, k.target ≠ e) {c : Call}
    (hc : c ∈ w.calls children provided) (hid : c.child.id = e.operator) :
    c.inputs.get? e.connector = w.arriving provided e w.inputs.reverse := by
  rcases w.evaluate_cases hids provided with ⟨-, hnone, -⟩ | ⟨-, -, l, start, h⟩
  · rw [hnone] at hc
    cases hc
  · obtain ⟨before, after, hsplit⟩ := List.append_of_mem hc
    have hunconnected : w.ending e = none := by
      rw [ending, List.getLast?_eq_none_iff, List.filter_eq_nil_iff]
      intro k hk htarget
      exact hfree k hk (of_decide_eq_true htarget)
    have hinputs := (h.fedBy hids hsplit).inputs e.connector
    rw [hid] at hinputs
    rw [hinputs, hunconnected, Option.map_none, Option.getD_none]
    exact at?_of_routeInputs h.routed e

end WorkflowFrame

namespace Node

/-- **What the child at the end of a mapping is called with.** It is the provided value exactly
if no earlier mapping has the same name, or else if the fallback happens to be that value. -/
theorem get?_inputs_of_mapping (bodies : Bodies) (plots : Bool) {w : WorkflowFrame}
    {children : List Node} (hids : (children.map Node.id).Nodup) {provided : Values}
    {earlier later : List Mapping} {m : Mapping} {v : Json}
    (hsplit : w.inputs = earlier ++ m :: later) (hv : provided.get? m.name = some v)
    (hlater : ∀ m' ∈ later, m'.endpoint ≠ m.endpoint)
    (hfree : ∀ k ∈ w.connections, k.target ≠ m.endpoint) {c : Call}
    (hc : c ∈ w.calls (evaluateAll bodies plots children) provided)
    (hid : c.child.id = m.endpoint.operator) :
    c.inputs.get? m.endpoint.connector =
        (if m.name ∈ earlier.map (·.name) then w.fallback provided earlier m else some v) ∧
      (c.inputs.get? m.endpoint.connector = some v ↔
        m.name ∉ earlier.map (·.name) ∨ w.fallback provided earlier m = some v) := by
  have hkids : ((evaluateAll bodies plots children).map (·.id)).Nodup := by
    rwa [map_id_evaluateAll]
  have hinputs : c.inputs.get? m.endpoint.connector =
      if m.name ∈ earlier.map (·.name) then w.fallback provided earlier m else some v := by
    rw [WorkflowFrame.get?_inputs_of_mem_calls hkids hfree hc hid]
    exact WorkflowFrame.arriving_of_last hsplit hv hlater
  refine ⟨hinputs, ?_⟩
  rw [hinputs]
  by_cases hname : m.name ∈ earlier.map (·.name)
  · rw [if_pos hname]
    exact ⟨.inr, fun h => h.resolve_left (not_not_intro hname)⟩
  · rw [if_neg hname]
    exact ⟨fun _ => .inl hname, fun _ => rfl⟩

/-- A workflow that maps its one input to both of its children. -/
def fork : WorkflowFrame where
  id := .ofNat 0
  name := "fork"
  workflow := .ofNat 103
  interface := ⟨[.required "in" .any], []⟩
  connections := []
  inputs := [⟨"in", ⟨.ofNat 1, "x"⟩⟩, ⟨"in", ⟨.ofNat 2, "x"⟩⟩]
  outputs := [⟨"first", ⟨.ofNat 1, "y"⟩⟩, ⟨"second", ⟨.ofNat 2, "y"⟩⟩]

theorem get?_inputs_of_mapping_fork :
    ([passing 1, passing 2].map Node.id).Nodup ∧
      ∃ c ∈ fork.calls (evaluateAll .standard true [passing 1, passing 2])
          (.singleton "in" (.text "v")),
        c.child.id = .ofNat 2 ∧ c.inputs.get? "x" = none := by
  have hids : ([passing 1, passing 2].map Node.id).Nodup := by decide
  have hcalls : fork.calls (evaluateAll .standard true [passing 1, passing 2])
      (.singleton "in" (.text "v")) =
        [⟨⟨.ofNat 2, (passing 2).evaluate .standard true⟩, .empty⟩] := rfl
  have hmem : (⟨⟨.ofNat 2, (passing 2).evaluate .standard true⟩, .empty⟩ : Call) ∈
      fork.calls (evaluateAll .standard true [passing 1, passing 2])
        (.singleton "in" (.text "v")) := by
    rw [hcalls]
    exact List.mem_singleton_self _
  have hsplit : fork.inputs = [⟨"in", ⟨.ofNat 1, "x"⟩⟩] ++ ⟨"in", ⟨.ofNat 2, "x"⟩⟩ :: [] := rfl
  have hmapping := get?_inputs_of_mapping .standard true hids hsplit rfl
    (fun _ hm => absurd hm List.not_mem_nil) (fun _ hk => absurd hk List.not_mem_nil) hmem rfl
  exact ⟨hids, _, hmem, rfl, hmapping.1⟩

/-- An input that is mapped to two children does not reach both. -/
theorem provided_value_serves_one_mapping :
    ¬ ∀ (bodies : Bodies) (plots : Bool) (w : WorkflowFrame) (children : List Node)
        (provided : Values) (earlier later : List Mapping) (m : Mapping) (v : Json) (c : Call),
      (children.map Node.id).Nodup → w.inputs = earlier ++ m :: later →
      provided.get? m.name = some v → (∀ m' ∈ later, m'.endpoint ≠ m.endpoint) →
      (∀ k ∈ w.connections, k.target ≠ m.endpoint) →
      c ∈ w.calls (evaluateAll bodies plots children) provided →
      c.child.id = m.endpoint.operator → c.inputs.get? m.endpoint.connector = some v := by
  intro h
  have hall := h .standard true fork [passing 1, passing 2] (.singleton "in" (.text "v"))
    [⟨"in", ⟨.ofNat 1, "x"⟩⟩] [] ⟨"in", ⟨.ofNat 2, "x"⟩⟩ (.text "v")
    ⟨⟨.ofNat 2, (passing 2).evaluate .standard true⟩, .empty⟩ (by decide) rfl rfl
    (fun _ hm => absurd hm List.not_mem_nil) (fun _ hk => absurd hk List.not_mem_nil)
    List.mem_cons_self rfl
  cases hall

end Node

end Dataflow
