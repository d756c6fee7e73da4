import Dataflow.Execution.Executor
import Dataflow.Proofs.Node.Written
import Dataflow.Proofs.Wiring

set_option autoImplicit false

/-! # Execution inputs read back

An execution input that is written and read again is the same input but for the default values
that are `null`: these are read as no default value (`ExecutionInput.ofJson?_toJson`). An
executor that is handed what was read therefore does the same as one that is handed the input
itself, if no default value is `null` (`ExecutionInput.run_written`). With such a default it can
fail where the input itself does not (`ExecutionInput.null_default_is_lost`).
-/

namespace Dataflow

/-! ## The parts of an execution input -/

@[simp] theorem RevisionState.ofJson?_toJson (s : RevisionState) : ofJson? s.toJson = some s := by
  cases s <;> rfl

@[simp] theorem CodeModule.ofJson?_toJson (m : CodeModule) : ofJson? m.toJson = some m := by
  rw [ofJson?, toJson, Json.fields?_object (by simp)]
  simp [Json.required, List.lookup_cons]

@[simp] theorem Configuration.ofJson?_toJson (c : Configuration) :
    ofJson? c.toJson = some c := by
  rw [ofJson?, toJson, Json.fields?_object (by simp)]
  rfl

namespace ComponentRecord

/-- What is read of a written record. -/
def received (c : ComponentRecord) : ComponentRecord :=
  { c with interface := c.interface.received }

theorem ofJson?_toJson (c : ComponentRecord) : ofJson? c.toJson = some c.received := by
  have hinterface : Interface.ofJson? c.interface.toJson = some c.interface.received :=
    Interface.read?_toJson .direct c.interface
  rw [ofJson?, toJson, Json.fields?_object (by simp)]
  simp [Json.required, List.lookup_cons, hinterface, received]

theorem received_eq_self_iff {c : ComponentRecord} :
    c.received = c ↔ c.interface.received = c.interface := by
  obtain ⟨id, name, versionTag, category, state, interface, codeModule, function⟩ := c
  simp only [received, ComponentRecord.mk.injEq, true_and, and_true]

end ComponentRecord

namespace ExecutionInput

/-! ## Reading -/

/-- What is read of a written execution input. -/
def received (x : ExecutionInput) : ExecutionInput :=
  { x with
    components := x.components.map ComponentRecord.received
    workflow := x.workflow.received
    wiring := x.wiring.received }

/-- **An execution input is read from what it is written as**, up to the default values of the
inputs in it. -/
theorem ofJson?_toJson (x : ExecutionInput) : ofJson? x.toJson = some x.received := by
  have hmodules := Json.list?_ofList_self CodeModule.ofJson?_toJson x.codeModules
  have hcomponents : Json.list? ComponentRecord.ofJson?
      (.ofList ComponentRecord.toJson x.components) =
        some (x.components.map ComponentRecord.received) :=
    Json.list?_ofList fun c _ => ComponentRecord.ofJson?_toJson c
  have hwiring : Wiring.ofJson? x.wiring.toJson = some x.wiring.received :=
    Wiring.read?_toJson .direct x.wiring
  rw [ofJson?, toJson, Json.fields?_object (by simp)]
  simp [Json.required, List.lookup_cons, hmodules, hcomponents, hwiring, Node.ofJson?_toJson, received]

/-! ## What is read is as consistent as what was written -/

theorem nodeDefect?_received (components : List ComponentRecord) (n : ComponentNode) :
    nodeDefect? (components.map ComponentRecord.received) n.received =
      nodeDefect? components n := by
  have hfind : (components.map ComponentRecord.received).find? (·.id == n.received.component) =
      (components.find? (·.id == n.component)).map ComponentRecord.received :=
    List.find?_map
  rw [nodeDefect?, nodeDefect?, hfind]
  cases components.find? (·.id == n.component) <;> rfl

theorem componentDefect?_received (modules : List CodeModule) (seen : List Uuid)
    (components : List ComponentRecord) :
    componentDefect? modules seen (components.map ComponentRecord.received) =
      componentDefect? modules seen components := by
  induction components generalizing seen with
  | nil => rfl
  | cons c rest ih =>
      rw [List.map_cons, componentDefect?, componentDefect?, ih]
      rfl

/-- What is read has the same first defect as what was written. -/
theorem defect?_received (x : ExecutionInput) : x.received.defect? = x.defect? := by
  have hnodes : x.workflow.received.componentNodes.findSome?
      (nodeDefect? (x.components.map ComponentRecord.received)) =
        x.workflow.componentNodes.findSome? (nodeDefect? x.components) := by
    rw [Node.componentNodes_received, List.findSome?_map]
    exact congrArg (x.workflow.componentNodes.findSome? ·)
      (funext (nodeDefect?_received x.components))
  have hwiring : x.wiring.received.defect? x.workflow.received.interface =
      x.wiring.defect? x.workflow.interface := by
    rw [Node.interface_received, Wiring.defect?_received]
  rw [defect?, defect?, received, componentDefect?_received, hnodes, hwiring]

theorem check_received (x : ExecutionInput) : x.received.check = x.check := by
  rw [check, check, defect?_received]

/-! ## What is read as it is -/

/-- An input is declared by a node of the tree or by a record. -/
def Declares (x : ExecutionInput) (i : Input) : Prop :=
  (∃ n, Node.Inside n x.workflow ∧ i ∈ n.interface.inputs) ∨
    ∃ c ∈ x.components, i ∈ c.interface.inputs

/-- Every object in a value of the input holds its members as a map does: by name, and each
once. -/
structure Normal (x : ExecutionInput) : Prop where
  defaults : ∀ i, x.Declares i → ∀ v, i.value = some v → v.normalize = v
  filters : ∀ e ∈ x.wiring.inputs ++ x.wiring.outputs, ∀ key v,
    e.descriptor.filters.get? key = some v → v.normalize = v

/-- No default value is `null`. -/
def NullFree (x : ExecutionInput) : Prop := ∀ i, x.Declares i → i.value ≠ some .null

/-- What is read is the input exactly if each declared input and each descriptor is read as it
is. -/
theorem received_eq_self_iff {x : ExecutionInput} :
    x.received = x ↔ (∀ i, x.Declares i → i.received = i) ∧
      ∀ e ∈ x.wiring.inputs ++ x.wiring.outputs, e.descriptor.received = e.descriptor := by
  have hparts : x.received = x ↔ x.components.map ComponentRecord.received = x.components ∧
      x.workflow.received = x.workflow ∧ x.wiring.received = x.wiring := by
    obtain ⟨codeModules, components, workflow, configuration, wiring, jobId, rootId⟩ := x
    simp only [received, ExecutionInput.mk.injEq, true_and, and_true]
  have hdeclared : (∀ i, x.Declares i → i.received = i) ↔
      (∀ c ∈ x.components, ∀ i ∈ c.interface.inputs, i.received = i) ∧
        ∀ n, Node.Inside n x.workflow → ∀ i ∈ n.interface.inputs, i.received = i := by
    constructor
    · intro h
      exact ⟨fun c hc i hi => h i (.inr ⟨c, hc, hi⟩), fun n hn i hi => h i (.inl ⟨n, hn, hi⟩)⟩
    · rintro ⟨hrecords, hnodes⟩ i (⟨n, hn, hi⟩ | ⟨c, hc, hi⟩)
      · exact hnodes n hn i hi
      · exact hrecords c hc i hi
  simp only [hparts, hdeclared, map_eq_self_iff, ComponentRecord.received_eq_self_iff,
    Node.received_eq_self_iff, Interface.received_eq_self_iff, Wiring.received_eq_self_iff,
    and_assoc]

/-- An input whose values are in normal form is read as it is exactly if no default value is
`null`. -/
theorem Normal.received_eq_self_iff {x : ExecutionInput} (h : x.Normal) :
    x.received = x ↔ x.NullFree := by
  rw [ExecutionInput.received_eq_self_iff]
  constructor
  · rintro ⟨hinputs, -⟩ i hi hnull
    exact (Input.received_eq_self_iff.1 (hinputs i hi) .null hnull).1 rfl
  · intro hnull
    refine ⟨fun i hi => Input.received_eq_self_iff.2 fun v hv => ⟨?_, h.defaults i hi v hv⟩,
      fun e he => Descriptor.received_eq_self_iff.2 (h.filters e he)⟩
    rintro rfl
    exact hnull i hi hv

/-! ## Runs -/

/-- **A written execution input is read, is accepted exactly if the input itself is, and is the
input itself exactly if no default value is `null`.** Then every executor does with it what it
does with the input. -/
theorem run_written {x : ExecutionInput} (h : x.Normal) :
    ∃ y, ofJson? x.toJson = some y ∧ y.check = x.check ∧ (y = x ↔ x.NullFree) ∧
      (x.NullFree → ∀ e : Executor, e.run y = e.run x) := by
  refine ⟨x.received, ofJson?_toJson x, check_received x, h.received_eq_self_iff, ?_⟩
  intro hnull e
  rw [h.received_eq_self_iff.2 hnull]

/-- The interface of a step with an input that may be left out. -/
def stepInterface (default : Json) : Interface :=
  ⟨[.optional "x" .any default], [⟨"y", .any⟩]⟩

/-- One step that hands its input on. -/
def stepInput (default : Json) (wiring : Wiring) : ExecutionInput where
  codeModules := [⟨.ofNat 3, ""⟩]
  components := [
    { id := .ofNat 1, name := "step", versionTag := "1.0.0", category := "steps",
      state := .released, interface := stepInterface default, codeModule := .ofNat 3,
      function := passThroughFunction }]
  workflow := .component
    ⟨.ofNat 1, "step", .ofNat 1, .ofNat 3, passThroughFunction, stepInterface default⟩
  configuration := ⟨"run", false⟩
  wiring := wiring
  jobId := .ofNat 7
  rootId := .ofNat 1

theorem declares_stepInput {default : Json} {wiring : Wiring} {i : Input}
    (h : (stepInput default wiring).Declares i) : i = .optional "x" .any default := by
  rcases h with ⟨n, hn, hi⟩ | ⟨c, hc, hi⟩
  · cases hn
    exact List.mem_singleton.1 hi
  · obtain rfl := List.mem_singleton.1 hc
    exact List.mem_singleton.1 hi

theorem normal_stepInput {default : Json} {wiring : Wiring} (hdefault : default.normalize = default)
    (hfilters : ∀ e ∈ wiring.inputs ++ wiring.outputs, ∀ key v,
      e.descriptor.filters.get? key = some v → v.normalize = v) :
    (stepInput default wiring).Normal := by
  refine ⟨fun i hi v hv => ?_, hfilters⟩
  obtain rfl := declares_stepInput hi
  obtain rfl := Option.some.inj hv
  exact hdefault

/-- A value of `null` inside a default or in a wiring is no default of `null`. -/
theorem run_written_step :
    let x := stepInput (.object [("a", .null)]) ⟨[.direct "x" .null], []⟩
    x.Normal ∧ x.NullFree ∧ ∃ y, ofJson? x.toJson = some y ∧ y.check = .ok () ∧
      ∀ e : Executor, e.run y = e.run x := by
  intro x
  have hnormal : x.Normal := by
    refine normal_stepInput rfl fun e he key v hv => ?_
    obtain rfl := List.mem_singleton.1 he
    obtain ⟨-, rfl⟩ := Prod.mk.inj (List.mem_singleton.1 ((Dict.mem_entries_iff _ key v).2 hv))
    rfl
  have hnull : x.NullFree := by
    intro i hi hv
    obtain rfl := declares_stepInput hi
    cases hv
  obtain ⟨y, hread, hcheck, -, hrun⟩ := run_written hnormal
  exact ⟨hnormal, hnull, y, hread, hcheck, hrun hnull⟩

/-- A default value of `null` does not survive: the input itself runs, and what is read of it
when it is written lacks a value. -/
theorem null_default_is_lost :
    let x := stepInput .null .empty
    let e : Executor := ⟨.empty, .standard⟩
    x.Normal ∧ x.check = .ok () ∧ ∃ y, ofJson? x.toJson = some y ∧
      ∀ s : Supply,
        ((e.run x).outcome.start s).1.toOption.map (fun r => (r.status, r.error, r.outputs)) =
          some (.ok, none, .singleton "y" .null) ∧
        ((e.run y).outcome.start s).1.toOption.map (fun r => (r.status, r.error, r.outputs)) =
          some (.failure, some ("input 'x' of step (00000000-0000-0000-0000-000000000001) " ++
            "has no value"), .empty) := by
  intro x e
  have hnormal : x.Normal := normal_stepInput rfl fun e he => absurd he List.not_mem_nil
  exact ⟨hnormal, rfl, x.received, ofJson?_toJson x, fun s => ⟨rfl, rfl⟩⟩

end ExecutionInput

end Dataflow
