import Dataflow.Proofs.Component.Bare
import Dataflow.Proofs.Component.Execution

set_option autoImplicit false

/-! # Bindings refine plain runs

A value that a component is to serve travels a long way: the component is regenerated, wrapped,
unfolded, wired and checked, and a nested execution runs it. `ComponentConfig.runBinding_refines`
says that nothing of this shows. The binding has the outcome of a plain run of the regenerated
component on the values of the binding, and calls the body that this run calls.
-/

namespace Dataflow

namespace ComponentRecord

variable {filters : Dict String Json} {sent : Option Json}

/-- The values that a component is run on: the filters, and in place of a filter `data` what is
sent. -/
def providedValues (filters : Dict String Json) : Option Json → Values
  | none => filters
  | some v => filters.insert sinkDataInput v

theorem ofList_boundValues (filters : Dict String Json) (sent : Option Json) :
    Dict.ofList (boundValues filters sent) = providedValues filters sent := by
  have hmem : ∀ key v, (key, v) ∈ boundValues filters sent ↔
      (filters.get? key = some v ∧ ¬ (sent.isSome ∧ key = sinkDataInput)) ∨
        (key = sinkDataInput ∧ sent = some v) := by
    intro key v
    rw [boundValues, List.mem_append, mem_usedFilters]
    refine or_congr Iff.rfl ?_
    cases sent with
    | none => simp
    | some w => simp [eq_comm]
  -- no name is bound twice, so the order of the values does not matter
  refine Dict.ext_get? fun key => Option.ext fun v => ?_
  rw [Dict.get?_ofList_eq_some_iff (nodup_boundValues filters sent), hmem]
  cases sent with
  | none => simp [providedValues]
  | some w =>
      rw [providedValues, Dict.get?_insert]
      by_cases hkey : key = sinkDataInput
      · simp [hkey]
      · simp [hkey]

/-- The component node of a regenerated component. -/
def plainNode (c : ComponentRecord) (m : CodeModule) : ComponentNode :=
  (c.regenerate m).leaf ⟨m.id, c.function, m.code⟩ c.id c.name

end ComponentRecord

namespace ComponentConfig

variable {c : ComponentConfig} {x : Executor} {artifacts : Artifacts} {direction : Direction}
  {d : Descriptor} {sent : Option Json} {record : ComponentRecord} {m : CodeModule}
  {nested : ExecutionInput → Attempt ExecutionError ExecutionResult} {s : Supply} {j : Journal}

/-! ## The nested execution -/

/-- Making an execution out of a binding leaves log events only. -/
theorem leaves_bindingExecution {P : Entry → Prop} (hevent : ∀ e, P (.event e))
    (operatorId : OperatorId) (jobId : Uuid) :
    (c.bindingExecution artifacts direction d sent operatorId jobId).Leaves P := by
  unfold bindingExecution
  refine (Traced.leaves_ofExcept _).bind fun found _ => ?_
  refine ((Traced.leaves_ofExcept _).mapError _).bind fun workflow _ => ?_
  refine ((Revision.leaves_flattenLogged hevent _ _).mapError _).bind fun node _ => ?_
  refine ((Traced.leaves_ofExcept _).mapError _).bind fun wiring _ => ?_
  exact (Assembly.leaves_assembleLogged hevent _ _ _).mapError _

/-- Making an execution out of a binding calls no body. -/
theorem silent_bindingExecution (operatorId : OperatorId) (jobId : Uuid) :
    (c.bindingExecution artifacts direction d sent operatorId jobId).Silent :=
  (leaves_bindingExecution (fun _ => rfl) operatorId jobId).silent

/-- The evaluation of a binding is the run of the plain component under the identity of its
operator. -/
theorem evaluation_bindingInput (hnames : (record.interface.inputs.map (·.name)).Nodup)
    (wiring : Wiring) (operatorId : OperatorId) (jobId : Uuid) (provided : Values) :
    x.evaluation (bindingInput record m direction wiring operatorId jobId) provided = (do
      let outputs ← ComponentNode.evaluate x.bodies true
        { record.plainNode m with id := operatorId } provided
      Traced.log (.workflowRan (labelled record.name record.id))
      return outputs) := by
  have hregenerated : ((record.regenerate m).interface.inputs.map (·.name)).Nodup := by
    show ((record.interface.inputs.map ComponentRecord.settled).map (·.name)).Nodup
    rw [List.map_map]
    exact hnames
  exact Node.evaluate_wrapped_eq (r := record.regenerate m) hregenerated operatorId provided

theorem result_evaluation_bindingInput (hnames : (record.interface.inputs.map (·.name)).Nodup)
    (wiring : Wiring) (operatorId : OperatorId) (jobId : Uuid) (provided : Values) :
    (x.evaluation (bindingInput record m direction wiring operatorId jobId) provided).result =
      ((record.plainNode m).evaluate x.bodies true provided).result.mapError
        (·.relabelled (labelled record.name operatorId)) := by
  rw [evaluation_bindingInput hnames, Traced.result_then_log]
  exact ComponentNode.result_evaluate_relabelled (record.plainNode m) operatorId provided

theorem bodyCalls_evaluation_bindingInput (hnames : (record.interface.inputs.map (·.name)).Nodup)
    (wiring : Wiring) (operatorId : OperatorId) (jobId : Uuid) (provided : Values) :
    bodyCalls (x.evaluation (bindingInput record m direction wiring operatorId jobId)
        provided).entries =
      bodyCalls ((record.plainNode m).evaluate x.bodies true provided).entries := by
  rw [evaluation_bindingInput hnames, Traced.bodyCalls_then_log]
  exact ComponentNode.bodyCalls_evaluate_relabelled (record.plainNode m) operatorId provided

theorem eq_bindingInput_of_bindingExecution {operatorId : OperatorId} {jobId : Uuid}
    {input : ExecutionInput} (href : c.referenced artifacts direction d = .ok (record, m))
    (h : (c.bindingExecution artifacts direction d sent operatorId jobId).result = .ok input) :
    ∃ wiring, input = bindingInput record m direction wiring operatorId jobId := by
  rw [result_bindingExecution, href] at h
  obtain ⟨_, hfound, h⟩ := bind_eq_ok.1 h
  cases hfound
  obtain ⟨wiring, -, h⟩ := bind_eq_ok.1 h
  rw [mapError_eq_ok] at h
  refine ⟨wiring, ?_⟩
  cases hcheck : (bindingInput record m direction wiring operatorId jobId).check with
  | error fault =>
      rw [hcheck] at h
      cases h
  | ok _ =>
      rw [hcheck] at h
      exact (Except.ok.inj h).symm

/-- The module of an execution that is made is that of its record, for the execution was
checked. -/
theorem id_of_bindingExecution {operatorId : OperatorId} {jobId : Uuid} {input : ExecutionInput}
    (href : c.referenced artifacts direction d = .ok (record, m))
    (h : (c.bindingExecution artifacts direction d sent operatorId jobId).result = .ok input) :
    m.id = record.codeModule := by
  obtain ⟨wiring, rfl⟩ := eq_bindingInput_of_bindingExecution href h
  obtain ⟨hcheck, -⟩ := provides_of_bindingExecution h
  have hconsistent := ExecutionInput.check_eq_ok_iff.1 hcheck
  obtain ⟨m', hm', hid⟩ := hconsistent.module record (List.mem_singleton_self record)
  rw [← hid, List.mem_singleton.1 hm']

/-- An execution that is made for some identities is made for all. -/
theorem exists_wiring_of_bindingExecution {operatorId : OperatorId} {jobId : Uuid}
    {input : ExecutionInput} (hsent : sent.isSome → direction = .send)
    (href : c.referenced artifacts direction d = .ok (record, m))
    (h : (c.bindingExecution artifacts direction d sent operatorId jobId).result = .ok input) :
    ∃ wiring, ∀ operatorId jobId,
      (c.bindingExecution artifacts direction d sent operatorId jobId).result =
        .ok (bindingInput record m direction wiring operatorId jobId) := by
  have hmodule : m.id = record.codeModule := id_of_bindingExecution href h
  have hresult := fun operatorId jobId =>
    result_bindingExecution_of_referenced operatorId jobId href hmodule hsent
  cases hwiring : record.bindingWiring d.filters (sent.map fun v => ⟨v, d.externalType⟩) with
  | error u =>
      rw [hresult, hwiring] at h
      cases h
  | ok wiring =>
      refine ⟨wiring, fun operatorId jobId => ?_⟩
      rw [hresult, hwiring]
      rfl

/-! ## The run of a binding -/

theorem resume_bindingValue_snd (input : ExecutionInput) (r : ExecutionResult) :
    ((bindingValue direction d input r).resume s j).2 = j := by
  unfold bindingValue
  cases r.error with
  | some error => rfl
  | none =>
      cases direction with
      | send => rfl
      | load =>
          cases input.workflow.interface.outputs with
          | nil => rfl
          | cons o _ => cases h : r.outputs.get? o.name <;> simp [failBinding, h]

/-- The bodies that a binding calls are those of the evaluation of its execution. -/
theorem bodyCalls_runBinding {input : ExecutionInput}
    (h : (c.bindingExecution artifacts direction d sent (s.operatorId j.operatorIds)
      (s.randomId j.randomIds)).result = .ok input) :
    ((c.runBinding ⟨artifacts, x.runWith nested⟩ direction d sent).resume s j).2.bodyCalls =
      j.bodyCalls ++ bodyCalls (x.evaluation input
        (ComponentRecord.providedValues d.filters sent)).entries := by
  obtain ⟨hcheck, hprovides⟩ := provides_of_bindingExecution h
  have hsilent : (c.bindingExecution artifacts direction d sent (s.operatorId j.operatorIds)
      (s.randomId j.randomIds)).Silent := silent_bindingExecution _ _
  unfold runBinding
  simp only [Attempt.resume_ofRun_bind, Run.resume_freshOperatorId, Run.resume_freshId]
  generalize s.operatorId j.operatorIds = operatorId at h hsilent ⊢
  generalize s.randomId j.randomIds = jobId at h hsilent ⊢
  have hstart : ∀ j, ((Attempt.ofTraced
      (c.bindingExecution artifacts direction d sent operatorId jobId)).mapError
        fun fault => (⟨fault.message, some d⟩ : BindingFailure)).resume s j =
      (.ok input,
      j.append (c.bindingExecution artifacts direction d sent operatorId jobId).entries) := by
    intro j
    rw [Attempt.resume_mapError, Attempt.resume_ofTraced, h]
    rfl
  rw [Attempt.resume_bind_of_ok (hstart _), Attempt.resume_log_bind]
  -- from here on the nested execution runs; the journal it begins with has no further call
  generalize hj : Journal.push _ _ = j'
  have hcalls : j'.bodyCalls = j.bodyCalls := by
    rw [← hj, Journal.bodyCalls_push_event, Journal.bodyCalls_append,
      show bodyCalls _ = [] from hsilent, List.append_nil]
    rfl
  obtain ⟨r, hr, -⟩ := Executor.runWith_of_provides x nested s j' hprovides hcheck
  have hexecute : ((x.runWith nested input).mapError
      fun error => (⟨error.message, some d⟩ : BindingFailure)).resume s j' =
      (.ok r, ((x.runWith nested input).resume s j').2) := by
    rw [Attempt.resume_mapError, hr]
    rfl
  rw [Attempt.resume_bind_of_ok hexecute, resume_bindingValue_snd,
    Executor.bodyCalls_runWith_of_provides x nested s j' hprovides hcheck, hcalls,
    ComponentRecord.ofList_boundValues]

/-- The outcome of a binding that has an execution. -/
theorem resume_runBinding_of_execution {wiring : Wiring}
    (hnames : (record.interface.inputs.map (·.name)).Nodup)
    (h : ∀ operatorId jobId,
      (c.bindingExecution artifacts direction d sent operatorId jobId).result =
        .ok (bindingInput record m direction wiring operatorId jobId)) :
    ((c.runBinding ⟨artifacts, x.runWith nested⟩ direction d sent).resume s j).1 = (do
      let outputs ← ((record.plainNode m).evaluate x.bodies true
        (ComponentRecord.providedValues d.filters sent)).result.mapError fun failure =>
          ⟨(failure.relabelled (labelled record.name (s.operatorId j.operatorIds))).message, some d⟩
      served direction d record.interface outputs) := by
  rw [resume_runBinding, answer, h]
  show ((x.evaluation _ _).result.mapError _ >>= _) = _
  rw [ComponentRecord.ofList_boundValues, result_evaluation_bindingInput hnames]
  cases ((record.plainNode m).evaluate x.bodies true
    (ComponentRecord.providedValues d.filters sent)).result with
  | error failure => rfl
  | ok outputs => rfl

/-! ## What is served -/

section Served

variable {i : Interface} {run : Except NodeFailure Values} {reword : NodeFailure → BindingFailure}

/-- What a source yields is the value of its only output. -/
theorem served_load {o : Output} (houtput : i.outputs = [o]) {outputs : Values}
    (h : ∀ name, (outputs.get? name).isSome ↔ name ∈ i.outputs.map (·.name)) :
    ∃ v, outputs = .singleton o.name v ∧ served .load d i outputs = .ok v := by
  rw [houtput] at h
  obtain ⟨v, hv⟩ := Option.isSome_iff_exists.1 ((h o.name).2 (List.mem_singleton_self _))
  refine ⟨v, Dict.ext_get? fun name => ?_, ?_⟩
  · rw [Dict.get?_singleton]
    by_cases hname : name = o.name
    · rw [if_pos hname, hname, hv]
    · rw [if_neg hname]
      refine Option.not_isSome_iff_eq_none.1 fun hsome => hname ?_
      exact List.mem_singleton.1 ((h name).1 hsome)
  · simp only [served, houtput, hv]

theorem load_eq_ok_iff {o : Output} (houtput : i.outputs = [o])
    (hrun : ∀ outputs, run = .ok outputs →
      ∀ name, (outputs.get? name).isSome ↔ name ∈ i.outputs.map (·.name)) (v : Json) :
    run.mapError reword >>= served .load d i = .ok v ↔ run = .ok (.singleton o.name v) := by
  cases run with
  | error failure => simp [Except.mapError, bind, Except.bind]
  | ok outputs =>
      obtain ⟨w, rfl, hw⟩ := served_load (d := d) houtput (hrun outputs rfl)
      show served .load d i _ = .ok v ↔ _
      rw [hw]
      constructor
      · intro hv
        rw [Except.ok.inj hv]
      · intro hv
        have hget := congrArg (·.get? o.name) (Except.ok.inj hv)
        simpa using hget

theorem send_eq_ok_iff (houtputs : i.outputs = [])
    (hrun : ∀ outputs, run = .ok outputs →
      ∀ name, (outputs.get? name).isSome ↔ name ∈ i.outputs.map (·.name)) (v : Json) :
    run.mapError reword >>= served .send d i = .ok v ↔ v = .null ∧ run = .ok .empty := by
  cases run with
  | error failure => simp [Except.mapError, bind, Except.bind]
  | ok outputs =>
      have hempty : outputs = .empty := by
        refine Dict.ext_get? fun name => Option.not_isSome_iff_eq_none.1 fun hsome => ?_
        have hname := (hrun outputs rfl name).1 hsome
        rw [houtputs] at hname
        cases hname
      show Except.ok Json.null = .ok v ↔ _
      rw [hempty]
      simp [eq_comm]

/-- Nothing that a run yields fails to be served. -/
theorem serve_eq_error_iff
    (hserved : ∀ outputs, run = .ok outputs → ∃ v, served direction d i outputs = .ok v)
    (fault : BindingFailure) :
    run.mapError reword >>= served direction d i = .error fault ↔
      ∃ failure, run = .error failure ∧ fault = reword failure := by
  cases run with
  | error failure => simp [Except.mapError, bind, Except.bind, eq_comm]
  | ok outputs =>
      obtain ⟨v, hv⟩ := hserved outputs rfl
      show served direction d i outputs = .error fault ↔ _
      rw [hv]
      simp

end Served

/-- **A binding refines a plain run of its component.** If a binding has an execution and the
inputs of the component have distinct names, the binding has the outcome of a run of the
regenerated component on the values of the binding, plots included. A source has the value that
this run yields as its only output, a sink has `null`, and a failure is that of the run, up to
the label of the node. The bodies that are called are those that the run calls, one at most. -/
theorem runBinding_refines {operatorId : OperatorId} {jobId : Uuid} {input : ExecutionInput}
    (hsent : sent.isSome ↔ direction = .send)
    (href : c.referenced artifacts direction d = .ok (record, m))
    (hexecution :
      (c.bindingExecution artifacts direction d sent operatorId jobId).result = .ok input)
    (hnames : (record.interface.inputs.map (·.name)).Nodup) :
    let ran := (c.runBinding ⟨artifacts, x.runWith nested⟩ direction d sent).resume s j
    let plain := (record.plainNode m).evaluate x.bodies true
      (ComponentRecord.providedValues d.filters sent)
    let label := labelled record.name (s.operatorId j.operatorIds)
    (direction = .load → ∃ o, record.interface.outputs = [o] ∧
        ∀ v, ran.1 = .ok v ↔ plain.result = .ok (.singleton o.name v)) ∧
      (direction = .send → ∀ v, ran.1 = .ok v ↔ v = .null ∧ plain.result = .ok .empty) ∧
      (∀ fault, ran.1 = .error fault ↔ ∃ failure, plain.result = .error failure ∧
        fault = ⟨(failure.relabelled label).message, some d⟩) ∧
      ran.2.bodyCalls = j.bodyCalls ++ bodyCalls plain.entries ∧
      (bodyCalls plain.entries).length ≤ 1 := by
  intro ran plain label
  obtain ⟨wiring, hwiring⟩ := exists_wiring_of_bindingExecution hsent.1 href hexecution
  have houtcome : ran.1 = plain.result.mapError (fun failure =>
      (⟨(failure.relabelled label).message, some d⟩ : BindingFailure)) >>=
        served direction d record.interface :=
    resume_runBinding_of_execution hnames hwiring
  have hcalls : ran.2.bodyCalls = j.bodyCalls ++ bodyCalls plain.entries := by
    rw [show ran.2.bodyCalls = _ from bodyCalls_runBinding (hwiring _ _),
      bodyCalls_evaluation_bindingInput hnames]
  have hdeclared : ∀ outputs, plain.result = .ok outputs → ∀ name,
      (outputs.get? name).isSome ↔ name ∈ record.interface.outputs.map (·.name) :=
    fun _ houtputs => ComponentNode.isSome_get?_of_evaluate houtputs
  obtain ⟨-, -, -, -, haccept⟩ := referenced_eq_ok_iff.1 href
  refine ⟨?_, ?_, fun fault => ?_, hcalls, ComponentNode.length_bodyCalls_evaluate _ _⟩
  · rintro rfl
    obtain ⟨o, ho⟩ : ∃ o, record.interface.outputs = [o] := exists_output_of_accept haccept
    refine ⟨o, ho, fun v => ?_⟩
    rw [houtcome, load_eq_ok_iff ho hdeclared]
  · rintro rfl v
    have ho : record.interface.outputs = [] := outputs_of_accept haccept
    rw [houtcome, send_eq_ok_iff ho hdeclared]
  · rw [houtcome, serve_eq_error_iff fun outputs houtputs => ?_]
    cases direction with
    | send => exact ⟨.null, rfl⟩
    | load =>
        obtain ⟨o, ho⟩ := exists_output_of_accept haccept
        obtain ⟨v, -, hv⟩ := served_load ho (hdeclared outputs houtputs)
        exact ⟨v, hv⟩

/-! A source that hands on a filter. -/

/-- The code module of the source. -/
def relayModule : CodeModule := ⟨.ofNat 2, ""⟩

/-- The source, which calls the body that comes with the program. -/
def relayRecord : ComponentRecord where
  id := .ofNat 1
  name := "relay"
  versionTag := "1.0.0"
  category := "sources"
  state := .released
  interface := ⟨[.required "x" .any], [⟨"y", .any⟩]⟩
  codeModule := .ofNat 2
  function := passThroughFunction

/-- A binding that refers to the source. -/
def relayDescriptor : Descriptor :=
  { Descriptor.empty with
    refId := some "00000000-0000-0000-0000-000000000001"
    filters := .singleton "x" (.text "seven") }

theorem runBinding_refines_relay :
    let x : Executor := ⟨.empty, .standard⟩
    let ran := (standard.runBinding ⟨.ofLists [relayModule] [relayRecord],
      x.runWith (x.runNested 0)⟩ .load relayDescriptor none).resume Executor.countingSupply .empty
    ran.1 = .ok (.text "seven") ∧
      ran.2.bodyCalls = [(.ofNat 2, passThroughFunction, .singleton "x" (.text "seven"))] := by
  intro x ran
  have hinput : ∃ input, (standard.bindingExecution (.ofLists [relayModule] [relayRecord]) .load
      relayDescriptor none (.ofNat 7) (.ofNat 8)).result = .ok input := ⟨_, rfl⟩
  obtain ⟨input, hinput⟩ := hinput
  obtain ⟨hload, -, -, hcalls, -⟩ := @runBinding_refines standard x _ .load relayDescriptor none
    relayRecord relayModule (x.runNested 0) Executor.countingSupply .empty _ _ input (by decide)
    rfl hinput (List.nodup_singleton _)
  obtain ⟨o, ho, hvalue⟩ := hload rfl
  obtain rfl : (⟨"y", .any⟩ : Output) = o := (List.cons.inj ho).1
  exact ⟨(hvalue _).2 rfl, hcalls⟩

end ComponentConfig

end Dataflow
