import Dataflow.Proofs.Component.Wrapping
import Dataflow.Proofs.Execution.Consistency
import Dataflow.Proofs.Journal.BodyCalls

set_option autoImplicit false

/-! # A wrapped component runs as the bare one

Wrapping puts two mappings around a component. The mapping of inputs hands on what is provided
and fills in defaults, and then the component does the same again; the mapping of outputs picks
what the component produced. `Node.evaluate_wrapped_eq` says that neither shows: the wrapped
component yields what the bare one yields and calls the same body, and what it adds is a log
event. The inputs must have distinct names, because each provided value serves one input only.

Under another identity a component does the same and fails alike, up to the label of the node
in the failure (`ComponentNode.result_evaluate_relabelled`).
-/

namespace Dataflow

/-! ## Values in and out of a component -/

namespace ComponentNode

/-- Inputs of distinct names see a provided value or their default, and nothing else. -/
theorem takeInputs_congr (label : String) {inputs : List Input}
    (hnames : (inputs.map (·.name)).Nodup) {provided provided' : Values}
    (h : ∀ i ∈ inputs, (provided.get? i.name).or i.default? =
      (provided'.get? i.name).or i.default?) (taken : Values) :
    takeInputs label inputs provided taken = takeInputs label inputs provided' taken := by
  induction inputs generalizing provided provided' taken with
  | nil => rfl
  | cons i rest ih =>
      obtain ⟨hnew, hnames⟩ := List.nodup_cons.1 (List.map_cons ▸ hnames)
      -- a value that is taken for this input is none of the values for the others
      have hrest : ∀ i' ∈ rest, ((provided.erase i.name).get? i'.name).or i'.default? =
          ((provided'.erase i.name).get? i'.name).or i'.default? := by
        intro i' hi'
        have hne : i'.name ≠ i.name := by
          intro hname
          exact hnew (hname ▸ List.mem_map_of_mem hi')
        rw [Dict.get?_erase, Dict.get?_erase, if_neg hne, if_neg hne]
        exact h i' (List.mem_cons_of_mem _ hi')
      simp only [takeInputs, h i List.mem_cons_self]
      cases (provided'.get? i.name).or i.default? with
      | none => rfl
      | some v =>
          dsimp only
          cases coerceAs i.dataType v with
          | error e => rfl
          | ok v' => exact ih hnames hrest _

/-- What is taken from a component are its declared outputs. -/
theorem isSome_get?_of_takeOutputs {label : String} {outputs : List Output}
    {produced taken result : Values} (h : takeOutputs label outputs produced taken = .ok result)
    (name : String) :
    (result.get? name).isSome ↔ name ∈ outputs.map (·.name) ∨ (taken.get? name).isSome := by
  induction outputs generalizing produced taken with
  | nil =>
      obtain rfl : taken = result := Except.ok.inj h
      simp
  | cons o rest ih =>
      rw [takeOutputs] at h
      cases hget : produced.get? o.name with
      | none =>
          rw [hget] at h
          cases h
      | some v =>
          rw [hget] at h
          rw [ih h, Dict.get?_insert, List.map_cons, List.mem_cons]
          by_cases hname : name = o.name
          · simp [hname]
          · simp [hname]

theorem isSome_get?_skippedOutputs (c : ComponentNode) (name : String) :
    (c.skippedOutputs.get? name).isSome ↔ name ∈ c.interface.outputs.map (·.name) := by
  rw [skippedOutputs, Dict.isSome_get?_ofList, List.map_map]
  rfl

variable {bodies : Bodies} {plots : Bool}

/-- **A component that succeeds yields its declared outputs.** -/
theorem isSome_get?_of_evaluate {c : ComponentNode} {provided outputs : Values}
    (h : (c.evaluate bodies plots provided).result = .ok outputs) (name : String) :
    (outputs.get? name).isSome ↔ name ∈ c.interface.outputs.map (·.name) := by
  by_cases hskipped : (!plots && c.interface.isPurePlot) = true
  · rw [result_evaluate_of_skipped c hskipped] at h
    obtain rfl : c.skippedOutputs = outputs := Except.ok.inj h
    exact isSome_get?_skippedOutputs c name
  · rw [Bool.not_eq_true] at hskipped
    rw [result_evaluate c hskipped] at h
    obtain ⟨inputs, -, h⟩ := bind_eq_ok.1 h
    cases hbody : bodies.get? c.codeModule c.function with
    | none =>
        rw [hbody] at h
        cases h
    | some body =>
        rw [hbody] at h
        obtain ⟨produced, -, h⟩ := bind_eq_ok.1 h
        rw [isSome_get?_of_takeOutputs h]
        simp

/-- A component that takes the same inputs does the same. -/
theorem evaluate_congr {c : ComponentNode} {provided provided' : Values}
    (h : takeInputs c.label c.interface.inputs provided .empty =
      takeInputs c.label c.interface.inputs provided' .empty) :
    c.evaluate bodies plots provided = c.evaluate bodies plots provided' := by
  unfold evaluate
  rw [h]

end ComponentNode

/-! ## The mappings around a component -/

/-- What is handed on is what is provided, or else the default. -/
theorem Interface.get?_handed (i : Interface) {names : List String} (hnames : names.Nodup)
    (provided taken : Values) (name : String) :
    (i.handed names provided taken).get? name =
      if name ∈ names then
        ((provided.get? name).or ((i.input? name).bind Input.default?)).or (taken.get? name)
      else taken.get? name := by
  induction names generalizing provided taken with
  | nil => simp [handed]
  | cons first rest ih =>
      obtain ⟨hnew, hrest⟩ := List.nodup_cons.1 hnames
      rw [handed, ih hrest]
      by_cases hname : name = first
      · subst hname
        rw [if_neg hnew, if_pos List.mem_cons_self]
        cases (provided.get? name).or ((i.input? name).bind Input.default?) with
        | none => rw [Option.none_or]
        | some v => rw [Dict.get?_insert_self, Option.some_or]
      · rw [Dict.get?_erase, if_neg hname]
        simp only [List.mem_cons, hname, false_or]
        cases (provided.get? first).or ((i.input? first).bind Input.default?) with
        | none => rfl
        | some v => rw [Dict.get?_insert_of_ne taken v hname]

/-- An input is the one of its name, if names are distinct. -/
theorem Interface.input?_of_mem {i : Interface} (hnames : (i.inputs.map (·.name)).Nodup)
    {input : Input} (hinput : input ∈ i.inputs) : i.input? input.name = some input :=
  (find?_key_eq_some_iff hnames fun _ => beq_iff_eq).2 ⟨hinput, rfl⟩

/-- Handing values on changes nothing for a component that takes them under the same names. -/
theorem ComponentNode.takeInputs_handed (label : String) {i : Interface}
    (hnames : (i.inputs.map (·.name)).Nodup) (provided : Values) :
    takeInputs label i.inputs (i.handed (i.inputs.map (·.name)) provided .empty) .empty =
      takeInputs label i.inputs provided .empty := by
  refine takeInputs_congr label hnames (fun input hinput => ?_) .empty
  rw [i.get?_handed hnames, if_pos (List.mem_map_of_mem hinput),
    i.input?_of_mem hnames hinput, Option.bind_some, Dict.get?_empty, Option.or_none,
    Option.or_assoc, Option.or_self]

/-- Values that are all there are exposed as they are. -/
theorem Values.exists_exposed (produced : Values) {names : List String} (outputs : Values)
    (h : ∀ name ∈ names, (produced.get? name).isSome) :
    ∃ exposed, produced.exposed names outputs = some exposed ∧
      ∀ name, exposed.get? name =
        if name ∈ names then produced.get? name else outputs.get? name := by
  induction names generalizing outputs with
  | nil => exact ⟨outputs, rfl, fun name => by simp⟩
  | cons first rest ih =>
      obtain ⟨v, hv⟩ := Option.isSome_iff_exists.1 (h first List.mem_cons_self)
      obtain ⟨exposed, hexposed, hget⟩ :=
        ih (outputs.insert first v) fun name hname => h name (List.mem_cons_of_mem _ hname)
      refine ⟨exposed, ?_, fun name => ?_⟩
      · simp only [Values.exposed, hv]
        exact hexposed
      · rw [hget]
        by_cases hfirst : name = first
        · subst hfirst
          rw [if_pos List.mem_cons_self, Dict.get?_insert_self, hv]
          exact ite_self _
        · rw [Dict.get?_insert_of_ne _ _ hfirst]
          simp only [List.mem_cons, hfirst, false_or]

/-- Exposing all values of a map gives the map. -/
theorem Values.exposed_self {produced : Values} {names : List String}
    (h : ∀ name, (produced.get? name).isSome ↔ name ∈ names) :
    produced.exposed names .empty = some produced := by
  obtain ⟨exposed, hexposed, hget⟩ :=
    Values.exists_exposed produced .empty fun name hname => (h name).2 hname
  rw [hexposed]
  refine congrArg some (Dict.ext_get? fun name => ?_)
  rw [hget]
  by_cases hname : name ∈ names
  · rw [if_pos hname]
  · rw [if_neg hname, Dict.get?_empty]
    exact (Option.not_isSome_iff_eq_none.1 fun hsome => hname ((h name).1 hsome)).symm

/-- The run of a workflow of one child without connections, with what it leaves. -/
theorem WorkflowFrame.evaluate_single {w : WorkflowFrame} (h : w.connections = []) (child : Child)
    (provided : Values) :
    w.evaluate [child] provided = (do
      let pending ← Traced.ofExcept (w.routeInputs [child.id] w.inputs provided .empty)
      let outputs ← child.evaluate ((pending.get? child.id).getD .empty)
      let exposed ← Traced.ofExcept
        (w.exposeOutputs (.singleton child.id outputs) w.outputs .empty)
      Traced.log (.workflowRan w.label)
      return exposed) := by
  have hcarry : w.connections.filter (·.target.operator == child.id) = [] := by
    rw [h]
    rfl
  unfold evaluate
  simp only [List.map_cons, List.map_nil, order_of_single h, Traced.ofExcept_ok_bind]
  refine bind_congr fun pending => ?_
  rw [show List.filterMap (fun p => [child][p]?) [0] = [child] from rfl, runChildren, hcarry]
  simp only [carry, Traced.ofExcept_ok_bind, bind_assoc]
  rfl

/-! ## The bare component -/

namespace Node

variable {bodies : Bodies} {plots : Bool} {r : Revision} {code : CodeContent}

/-- **A wrapped component runs as the bare one**, up to a log event. -/
theorem evaluate_wrapped_eq (hnames : (r.interface.inputs.map (·.name)).Nodup)
    (operator : OperatorId) (provided : Values) :
    (r.wrappedTree code operator).evaluate bodies plots provided = (do
      let outputs ← (r.leaf code operator r.name).evaluate bodies plots provided
      Traced.log (.workflowRan (labelled r.name r.id))
      return outputs) := by
  let w := (r.wrapped operator).frame (r.wrapping operator) r.id r.name
  let leaf := r.leaf code operator r.name
  have hinputs : w.inputs =
      (r.interface.inputs.map (·.name)).map fun n => ⟨n, operator, n⟩ := by
    show r.interface.inputs.map _ = _
    rw [List.map_map]
    rfl
  have houtputs : w.outputs =
      (r.interface.outputs.map (·.name)).map fun n => ⟨n, operator, n⟩ := by
    show r.interface.outputs.map _ = _
    rw [List.map_map]
    rfl
  obtain ⟨pending, hroute, hget⟩ := WorkflowFrame.routeInputs_wrapping w operator
    (r.interface.inputs.map (·.name)) provided .empty
  -- what is handed on makes no difference to the component
  have hleaf : leaf.evaluate bodies plots ((pending.get? operator).getD .empty) =
      leaf.evaluate bodies plots provided := by
    refine ComponentNode.evaluate_congr ?_
    rw [hget]
    exact ComponentNode.takeInputs_handed leaf.label hnames provided
  show w.evaluate [⟨operator, leaf.evaluate bodies plots⟩] provided = _
  rw [WorkflowFrame.evaluate_single rfl, hinputs, houtputs]
  dsimp only
  rw [hroute, Traced.ofExcept_ok_bind, hleaf]
  refine Traced.bind_congr_of_ok fun outputs hproduced => ?_
  have hexposed : w.exposeOutputs (.singleton operator outputs)
      ((r.interface.outputs.map (·.name)).map fun n => ⟨n, operator, n⟩) .empty =
        .ok outputs := by
    have hself : outputs.exposed (r.interface.outputs.map (·.name)) .empty = some outputs :=
      Values.exposed_self (ComponentNode.isSome_get?_of_evaluate hproduced)
    rw [← toOption_eq_some_iff, WorkflowFrame.toOption_exposeOutputs_wrapping]
    exact hself
  rw [hexposed, Traced.ofExcept_ok_bind]
  rfl

end Node

/-! ## Labels -/

/-- A failure with the label of another node in the place of its own. -/
def NodeFailure.relabelled (label : String) : NodeFailure → NodeFailure
  | missingInput _ input => .missingInput label input
  | invalidInput _ input cause => .invalidInput label input cause
  | missingBody _ codeModule function => .missingBody label codeModule function
  | body _ message => .body label message
  | missingOutput _ output => .missingOutput label output
  | cycle _ => .cycle label
  | unknownOperator _ operator => .unknownOperator label operator

namespace ComponentNode

theorem takeInputs_relabelled (label label' : String) (inputs : List Input)
    (provided taken : Values) :
    takeInputs label' inputs provided taken =
      (takeInputs label inputs provided taken).mapError (·.relabelled label') := by
  induction inputs generalizing provided taken with
  | nil => rfl
  | cons i rest ih =>
      simp only [takeInputs]
      cases (provided.get? i.name).or i.default? with
      | none => rfl
      | some v =>
          dsimp only
          cases coerceAs i.dataType v with
          | error e => rfl
          | ok v' => exact ih (provided.erase i.name) (taken.insert i.name v')

theorem takeOutputs_relabelled (label label' : String) (outputs : List Output)
    (produced taken : Values) :
    takeOutputs label' outputs produced taken =
      (takeOutputs label outputs produced taken).mapError (·.relabelled label') := by
  induction outputs generalizing produced taken with
  | nil => rfl
  | cons o rest ih =>
      simp only [takeOutputs]
      cases produced.get? o.name with
      | none => rfl
      | some v => exact ih (produced.erase o.name) (taken.insert o.name v)

variable {bodies : Bodies} {plots : Bool}

/-- **Under another identity a component does the same, and fails alike.** -/
theorem result_evaluate_relabelled (c : ComponentNode) (id : OperatorId) (provided : Values) :
    (evaluate bodies plots { c with id } provided).result =
      (c.evaluate bodies plots provided).result.mapError (·.relabelled (labelled c.name id)) := by
  by_cases hskipped : (!plots && c.interface.isPurePlot) = true
  · rw [result_evaluate_of_skipped c hskipped, result_evaluate_of_skipped { c with id } hskipped]
    rfl
  · rw [Bool.not_eq_true] at hskipped
    rw [result_evaluate c hskipped, result_evaluate { c with id } hskipped]
    show takeInputs (labelled c.name id) c.interface.inputs provided .empty >>= _ = _
    rw [takeInputs_relabelled c.label]
    cases takeInputs c.label c.interface.inputs provided .empty with
    | error failure => rfl
    | ok inputs =>
        simp only [Except.mapError, bind, Except.bind]
        cases bodies.get? c.codeModule c.function with
        | none => rfl
        | some body =>
            dsimp only
            cases body c.interface inputs with
            | error message => rfl
            | ok produced => exact takeOutputs_relabelled c.label _ _ _ _

end ComponentNode

/-! ## Calls of bodies -/

namespace ComponentNode

variable {bodies : Bodies} {plots : Bool}

/-- A component that takes its inputs and has a body calls it before anything else, and calls no
other. -/
theorem exists_entries_evaluate {c : ComponentNode} {provided inputs : Values} {body : Body}
    (hskipped : ¬ (!plots && c.interface.isPurePlot) = true)
    (htake : takeInputs c.label c.interface.inputs provided .empty = .ok inputs)
    (hbody : bodies.get? c.codeModule c.function = some body) :
    ∃ rest, bodyCalls rest = [] ∧ (c.evaluate bodies plots provided).entries =
      .bodyCalled c.codeModule c.function inputs :: rest := by
  have hrest : (do
      let produced ← Traced.ofExcept ((body c.interface inputs).mapError (.body c.label))
      let outputs ← Traced.ofExcept (takeOutputs c.label c.interface.outputs produced .empty)
      Traced.log (.componentRan c.label)
      return outputs : Traced NodeFailure Values).Silent := by
    refine (Traced.silent_ofExcept _).bind fun produced => ?_
    refine (Traced.silent_ofExcept _).bind fun outputs => ?_
    exact (Traced.silent_log _).bind fun _ => Traced.silent_pure _
  refine ⟨_, hrest, ?_⟩
  rw [evaluate, if_neg hskipped, htake, Traced.ofExcept_ok_bind, hbody]
  dsimp only
  rw [Traced.bind_of_ok (t := Traced.leave _) rfl]
  rfl

/-- **A component calls its body at most once**: on the inputs that it takes, if it takes them, is
not skipped and has a body. -/
theorem bodyCalls_evaluate (c : ComponentNode) (provided : Values) :
    bodyCalls (c.evaluate bodies plots provided).entries =
      if (!plots && c.interface.isPurePlot) = true then []
      else ((takeInputs c.label c.interface.inputs provided .empty).toOption.bind fun inputs =>
        (bodies.get? c.codeModule c.function).map fun _ =>
          (c.codeModule, c.function, inputs)).toList := by
  by_cases hskipped : (!plots && c.interface.isPurePlot) = true
  · rw [evaluate, if_pos hskipped, if_pos hskipped]
    rfl
  · rw [if_neg hskipped]
    cases htake : takeInputs c.label c.interface.inputs provided .empty with
    | error failure =>
        rw [evaluate, if_neg hskipped, htake]
        rfl
    | ok inputs =>
        cases hbody : bodies.get? c.codeModule c.function with
        | none =>
            rw [evaluate, if_neg hskipped, htake, Traced.ofExcept_ok_bind, hbody]
            rfl
        | some body =>
            obtain ⟨rest, hrest, hentries⟩ := exists_entries_evaluate hskipped htake hbody
            rw [hentries]
            show (c.codeModule, c.function, inputs) :: bodyCalls rest = _
            rw [hrest]
            rfl

theorem length_bodyCalls_evaluate (c : ComponentNode) (provided : Values) :
    (bodyCalls (c.evaluate bodies plots provided).entries).length ≤ 1 := by
  rw [bodyCalls_evaluate]
  split
  · exact Nat.zero_le _
  · exact Option.length_toList_le

/-- Under another identity a component calls the same body on the same inputs. -/
theorem bodyCalls_evaluate_relabelled (c : ComponentNode) (id : OperatorId) (provided : Values) :
    bodyCalls (evaluate bodies plots { c with id } provided).entries =
      bodyCalls (c.evaluate bodies plots provided).entries := by
  rw [bodyCalls_evaluate, bodyCalls_evaluate, toOption_takeInputs _ c.label]

end ComponentNode

end Dataflow
