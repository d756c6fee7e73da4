import Dataflow.Adapter.Component
import Dataflow.Proofs.Adapter.Steady
import Dataflow.Proofs.Component.Wrapping
import Dataflow.Proofs.Execution.Direct
import Dataflow.Proofs.Execution.Payload

set_option autoImplicit false

/-! # Components behind bindings

The component adapter makes every binding an execution of its own. This file says what that
execution is (`ComponentConfig.result_bindingExecution`) and what comes of it: it needs no
adapter, because its wiring provides all values (`ComponentRecord.provides_bindingWiring`), so
that the outcome of the binding is a function of the binding, of the bodies and of two generated
identities (`ComponentConfig.resume_runBinding`). The identities appear in the texts of failures
only (`ComponentConfig.toOption_answer`).
-/

namespace Dataflow

/-! ## The values of a binding -/

namespace ComponentRecord

/-- The values that a binding provides: its filters and the value that is sent. -/
def boundValues (filters : Dict String Json) (sent : Option Json) : List (String × Json) :=
  filters.toList.filter (fun f => !(sent.isSome && f.1 == sinkDataInput)) ++
    (sent.map fun v => (sinkDataInput, v)).toList

theorem provides_direct (name : String) (v : Json) : (WiringEntry.direct name v).Provides v :=
  ⟨rfl, Dict.get?_insert_self _ _ _⟩

theorem provides_withType {e : WiringEntry} {v : Json} (h : e.Provides v) (t : ExternalType) :
    (e.withType t).Provides v :=
  ⟨h.direct, h.value⟩

theorem provides_filterEntry {c : ComponentRecord} {key : String} {v : Json} {e : WiringEntry}
    (h : c.filterEntry key v = .ok e) : e.name = key ∧ e.Provides v := by
  unfold filterEntry at h
  cases hinput : c.interface.input? key with
  | none =>
      rw [hinput] at h
      cases h
  | some i =>
      rw [hinput] at h
      cases h
      exact ⟨rfl, provides_withType (provides_direct key v) _⟩

theorem provides_dataEntry (sent : SentValue) :
    (dataEntry sent).name = sinkDataInput ∧ (dataEntry sent).Provides sent.value := by
  unfold dataEntry
  cases sent.externalType with
  | none => exact ⟨rfl, provides_direct _ _⟩
  | some t => exact ⟨rfl, provides_withType (provides_direct _ _) t⟩

/-- The wiring of a binding provides the values of the binding, and wires no outputs. -/
theorem provides_bindingWiring {c : ComponentRecord} {filters : Dict String Json}
    {sent : Option Json} {type : Option ExternalType} {w : Wiring}
    (h : c.bindingWiring filters (sent.map fun v => ⟨v, type⟩) = .ok w) :
    w.Provides (boundValues filters sent) := by
  obtain ⟨entries, hentries, hw⟩ := bind_eq_ok.1 h
  obtain rfl := Except.ok.inj hw
  have hfilters := (mapM_eq_ok_iff.1 hentries).flip.imp fun e f he => provides_filterEntry he
  refine ⟨?_, rfl⟩
  cases sent with
  | none => exact List.rel_append hfilters .nil
  | some v => exact List.rel_append hfilters (.cons (provides_dataEntry ⟨v, type⟩) .nil)

end ComponentRecord

/-! ## The execution of a binding -/

theorem Assembly.assemble_eq (a : Assembly) (jobId : Uuid) (workflow : Node) :
    a.assemble jobId workflow = (a.build jobId workflow).check.map
      fun _ => a.build jobId workflow := by
  unfold assemble ExecutionInput.check
  simp only
  cases (a.build jobId workflow).defect? <;> rfl

namespace ComponentConfig

/-- The execution that runs a component, before it is checked. -/
def bindingInput (record : ComponentRecord) (m : CodeModule) (direction : Direction)
    (wiring : Wiring) (operatorId : OperatorId) (jobId : Uuid) : ExecutionInput where
  codeModules := [m]
  components := [record]
  workflow := (record.regenerate m).wrappedTree ⟨m.id, record.function, m.code⟩ operatorId
  configuration := ⟨record.displayName ++ " as component " ++ direction.usage, true⟩
  wiring := wiring
  jobId := jobId
  rootId := record.id

/-- **What the execution of a binding is.** -/
theorem result_bindingExecution (c : ComponentConfig) (artifacts : Artifacts)
    (direction : Direction) (d : Descriptor) (sent : Option Json) (operatorId : OperatorId)
    (jobId : Uuid) :
    (c.bindingExecution artifacts direction d sent operatorId jobId).result = (do
      let (record, m) ← c.referenced artifacts direction d
      let wiring ← (record.bindingWiring d.filters
        (sent.map fun v => ⟨v, d.externalType⟩)).mapError .unknownFilter
      let input := bindingInput record m direction wiring operatorId jobId
      (input.check.map fun _ => input).mapError
        fun fault => .execution (.inputValidation fault)) := by
  unfold bindingExecution
  rw [Traced.result_bind, Traced.result_ofExcept]
  refine bind_congr fun found => ?_
  obtain ⟨record, m⟩ := found
  have hwrap := Revision.wrap_of_component (r := record.regenerate m) rfl operatorId
  have hflatten := Revision.flatten_wrapped (r := record.regenerate m) rfl operatorId
  simp only [Traced.result_bind, Traced.result_mapError, Traced.result_ofExcept, hwrap]
  show (((record.regenerate m).wrapped operatorId).flattenLogged
    (.singleton operatorId (record.regenerate m))).result.mapError
      BindingFault.execution >>= _ = _
  rw [Revision.result_flattenLogged, hflatten]
  show (record.bindingWiring d.filters _).mapError BindingFault.unknownFilter >>= _ = _
  refine bind_congr fun wiring => ?_
  rw [Assembly.result_assembleLogged, Assembly.assemble_eq]
  show (((bindingInput record m direction wiring operatorId jobId).check.map
    fun _ => bindingInput record m direction wiring operatorId jobId).mapError
      ExecutionError.inputValidation).mapError BindingFault.execution = _
  cases (bindingInput record m direction wiring operatorId jobId).check <;> rfl

/-! ## The outcome of a binding -/

/-- What a binding gets from the outputs of its execution. -/
def served (direction : Direction) (d : Descriptor) (i : Interface) (outputs : Values) :
    Except BindingFailure Json :=
  match direction, i.outputs with
  | .load, o :: _ =>
      match outputs.get? o.name with
      | some v => .ok v
      | none => .error ⟨"component source produced no output '" ++ o.name ++ "'", some d⟩
  | _, _ => .ok .null

/-- What comes of a binding, given the identities of its operator and of its job. -/
def answer (c : ComponentConfig) (x : Executor) (artifacts : Artifacts) (direction : Direction)
    (d : Descriptor) (sent : Option Json) (operatorId : OperatorId) (jobId : Uuid) :
    Except BindingFailure Json := do
  let input ← (c.bindingExecution artifacts direction d sent operatorId jobId).result.mapError
    fun fault => ⟨fault.message, some d⟩
  let provided := Dict.ofList (ComponentRecord.boundValues d.filters sent)
  let outputs ← (x.evaluation input provided).result.mapError
    fun failure => ⟨failure.message, some d⟩
  served direction d input.workflow.interface outputs

variable {c : ComponentConfig} {x : Executor} {artifacts : Artifacts} {direction : Direction}
  {d : Descriptor} {sent : Option Json}
  {nested : ExecutionInput → Attempt ExecutionError ExecutionResult} {s : Supply} {j : Journal}

/-- The execution of a binding is consistent and provides its own values. -/
theorem provides_of_bindingExecution {operatorId : OperatorId} {jobId : Uuid}
    {input : ExecutionInput}
    (h : (c.bindingExecution artifacts direction d sent operatorId jobId).result = .ok input) :
    input.check = .ok () ∧
      input.wiring.Provides (ComponentRecord.boundValues d.filters sent) := by
  rw [result_bindingExecution] at h
  obtain ⟨⟨record, m⟩, -, h⟩ := bind_eq_ok.1 h
  obtain ⟨wiring, hwiring, h⟩ := bind_eq_ok.1 h
  rw [mapError_eq_ok] at hwiring h
  cases hcheck : (bindingInput record m direction wiring operatorId jobId).check with
  | error fault =>
      rw [hcheck] at h
      cases h
  | ok _ =>
      rw [hcheck] at h
      obtain rfl := Except.ok.inj h
      exact ⟨hcheck, ComponentRecord.provides_bindingWiring hwiring⟩

theorem resume_bindingValue (input : ExecutionInput) (r : ExecutionResult) :
    ((bindingValue direction d input r).resume s j).1 =
      match r.error with
      | some error => .error ⟨error, some d⟩
      | none => served direction d input.workflow.interface r.outputs := by
  unfold bindingValue served
  cases r.error with
  | some error => rfl
  | none =>
      cases direction with
      | send => rfl
      | load =>
          cases input.workflow.interface.outputs with
          | nil => rfl
          | cons o _ => cases h : r.outputs.get? o.name <;> simp [failBinding, h]

/-- **The outcome of a binding is a function of the binding, of the bodies and of the identities
of its operator and of its job.** -/
theorem resume_runBinding :
    ((c.runBinding ⟨artifacts, x.runWith nested⟩ direction d sent).resume s j).1 =
      c.answer x artifacts direction d sent (s.operatorId j.operatorIds)
        (s.randomId j.randomIds) := by
  unfold runBinding answer
  simp only [Attempt.resume_ofRun_bind, Run.resume_freshOperatorId, Run.resume_freshId]
  generalize s.operatorId j.operatorIds = operatorId
  generalize s.randomId j.randomIds = jobId
  have hstart : ∀ j, ((Attempt.ofTraced
      (c.bindingExecution artifacts direction d sent operatorId jobId)).mapError
        fun fault => (⟨fault.message, some d⟩ : BindingFailure)).resume s j =
      ((c.bindingExecution artifacts direction d sent operatorId jobId).result.mapError
        fun fault => ⟨fault.message, some d⟩,
      j.append (c.bindingExecution artifacts direction d sent operatorId jobId).entries) :=
    fun _ => rfl
  cases hresult : (c.bindingExecution artifacts direction d sent operatorId jobId).result with
  | error fault =>
      rw [hresult] at hstart
      rw [Attempt.resume_bind_of_error (hstart _)]
      rfl
  | ok input =>
      rw [hresult] at hstart
      rw [Attempt.resume_bind_of_ok (hstart _), Attempt.resume_log_bind]
      -- what the execution comes to does not depend on the journal it is started from
      generalize Journal.push _ _ = j'
      obtain ⟨hcheck, hprovides⟩ := provides_of_bindingExecution hresult
      obtain ⟨r, hr, hreports⟩ := Executor.runWith_of_provides x nested s j' hprovides
        hcheck
      have hexecute : ((x.runWith nested input).mapError
          fun error => (⟨error.message, some d⟩ : BindingFailure)).resume s j' =
          (.ok r, ((x.runWith nested input).resume s j').2) := by
        rw [Attempt.resume_mapError, hr]
        rfl
      rw [Attempt.resume_bind_of_ok hexecute, resume_bindingValue]
      show _ = ((x.evaluation input
        (.ofList (ComponentRecord.boundValues d.filters sent))).result.mapError _ >>= _)
      cases hgraph : (x.evaluation input
          (.ofList (ComponentRecord.boundValues d.filters sent))).result with
      | error failure =>
          rw [hgraph] at hreports
          rw [hreports.error]
          rfl
      | ok outputs =>
          rw [hgraph] at hreports
          rw [hreports.error, hreports.outputs]
          rfl

theorem isNone_findSome?_single {β : Type} (f : ComponentNode → Option β) (n : ComponentNode) :
    ([n].findSome? f).isNone = (f n).isNone := by
  rw [List.findSome?_cons]
  cases f n <;> rfl

/-- The identities do not matter for whether the execution of a binding is consistent. -/
theorem isNone_defect?_bindingInput (record : ComponentRecord) (m : CodeModule)
    (direction : Direction) (wiring : Wiring) (operatorId operatorId' : OperatorId)
    (jobId jobId' : Uuid) :
    (bindingInput record m direction wiring operatorId jobId).defect?.isNone =
      (bindingInput record m direction wiring operatorId' jobId').defect?.isNone := by
  have hnodes : ∀ o i,
      ((bindingInput record m direction wiring o i).workflow.componentNodes.findSome?
        (ExecutionInput.nodeDefect? [record])).isNone = decide (record.codeModule = m.id) := by
    intro o i
    -- the check reads the component and the code module of the only node, not its identity
    show (List.findSome? (ExecutionInput.nodeDefect? [record])
      [(record.regenerate m).leaf ⟨m.id, record.function, m.code⟩ o record.name]).isNone = _
    rw [isNone_findSome?_single, ExecutionInput.nodeDefect?,
      List.find?_cons_of_pos (by exact beq_self_eq_true record.id)]
    by_cases h : record.codeModule = m.id
    · simp [Revision.leaf, h]
    · simp [Revision.leaf, h]
  have hdefect : ∀ o i, (bindingInput record m direction wiring o i).defect?.isNone =
      ((ExecutionInput.moduleDefect? [] [m]).isNone &&
        ((ExecutionInput.componentDefect? [m] [] [record]).isNone &&
          (decide (record.codeModule = m.id) &&
            (wiring.defect? (record.regenerate m).interface).isNone))) := by
    intro o i
    rw [ExecutionInput.defect?, Option.isNone_or, Option.isNone_or, Option.isNone_or,
      Option.isNone_map]
    show (_ && (_ &&
      (((bindingInput record m direction wiring o i).workflow.componentNodes.findSome?
        (ExecutionInput.nodeDefect? [record])).isNone && _))) = _
    rw [hnodes]
    rfl
  rw [hdefect, hdefect]

theorem toOption_check (input : ExecutionInput) :
    input.check.toOption = if input.defect?.isNone then some () else none := by
  unfold ExecutionInput.check
  cases input.defect? <;> rfl

theorem toOption_evaluation_bindingInput (record : ComponentRecord) (m : CodeModule)
    (wiring : Wiring) (operatorId operatorId' : OperatorId) (jobId jobId' : Uuid)
    (provided : Values) :
    (x.evaluation (bindingInput record m direction wiring operatorId jobId)
        provided).result.toOption =
      (x.evaluation (bindingInput record m direction wiring operatorId' jobId')
        provided).result.toOption :=
  Node.toOption_evaluate_wrapped_eq operatorId operatorId' provided

/-- The value of an answer, from what it depends on. -/
theorem toOption_answer (operatorId : OperatorId) (jobId : Uuid) :
    (c.answer x artifacts direction d sent operatorId jobId).toOption =
      (c.referenced artifacts direction d).toOption.bind fun found =>
        (found.1.bindingWiring d.filters
            (sent.map fun v => ⟨v, d.externalType⟩)).toOption.bind fun wiring =>
          let input := bindingInput found.1 found.2 direction wiring operatorId jobId
          input.check.toOption.bind fun _ =>
            (x.evaluation input
                (.ofList (ComponentRecord.boundValues d.filters sent))).result.toOption.bind
              fun outputs =>
                (served direction d input.workflow.interface outputs).toOption := by
  rw [answer, toOption_bind, toOption_mapError, result_bindingExecution, toOption_bind]
  cases (c.referenced artifacts direction d).toOption with
  | none => rfl
  | some found =>
      obtain ⟨record, m⟩ := found
      simp only [Option.bind_some, toOption_bind, toOption_mapError]
      cases (record.bindingWiring d.filters
          (sent.map fun v => ⟨v, d.externalType⟩)).toOption with
      | none => rfl
      | some wiring =>
          simp only [Option.bind_some]
          cases (bindingInput record m direction wiring operatorId jobId).check <;> rfl

/-- **The value of a binding does not depend on the identities.** -/
theorem toOption_answer_eq (operatorId operatorId' : OperatorId) (jobId jobId' : Uuid) :
    (c.answer x artifacts direction d sent operatorId jobId).toOption =
      (c.answer x artifacts direction d sent operatorId' jobId').toOption := by
  rw [toOption_answer, toOption_answer]
  refine congrArg _ (funext fun found => congrArg _ (funext fun wiring => ?_))
  simp only
  rw [toOption_check, toOption_check,
    isNone_defect?_bindingInput found.1 found.2 direction wiring operatorId operatorId' jobId
      jobId',
    toOption_evaluation_bindingInput found.1 found.2 wiring operatorId operatorId' jobId jobId']
  rfl

/-- Serving a binding is steady. -/
theorem steady_runBinding :
    (c.runBinding ⟨artifacts, x.runWith nested⟩ direction d sent).Steady where
  value s j s' j' := by
    rw [resume_runBinding, resume_runBinding]
    exact toOption_answer_eq _ _ _ _
  failure s j s' j' h := by
    rw [resume_runBinding, resume_runBinding]
    have hoperator := h.operatorId 0
    have hjob := h.randomId 0
    rw [Nat.add_zero, Nat.add_zero] at hoperator hjob
    rw [hoperator, hjob]

end ComponentConfig

end Dataflow
