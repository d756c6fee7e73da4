import Dataflow.Proofs.Component.Wrapped
import Dataflow.Proofs.Execution.Outputs
import Dataflow.Proofs.Execution.Payload
import Dataflow.Proofs.Graph.Evaluation
import Dataflow.Proofs.Journal.Leaves

set_option autoImplicit false

/-! # Declared outputs and computed outputs

The result of an execution tells the types of the outputs that the root declares, and the values
of those that were computed and not sent. `Engine.execute_exposes` says how the two go together.
A component computes what it declares. A workflow computes what its graph exposes: one value for
each name of a mapping of outputs, whether the interface has that name or not
(`WorkflowFrame.isSome_get?_of_evaluate`). Of the computed outputs each is either returned or
sent, so that the declared ones are accounted for exactly if the graph exposes them and no others.
-/

namespace Dataflow

/-! ## What a run computes -/

variable {bodies : Bodies} {plots : Bool}

/-- **A workflow that succeeds yields what its mappings of outputs name.** -/
theorem WorkflowFrame.isSome_get?_of_evaluate {w : WorkflowFrame} {children : List Child}
    {provided outputs : Values} (h : (w.evaluate children provided).result = .ok outputs)
    (name : String) : (outputs.get? name).isSome ↔ name ∈ w.outputs.map (·.name) := by
  rw [evaluate_eq] at h
  obtain ⟨order, -, h⟩ := Traced.bind_eq_ok.1 h
  obtain ⟨start, -, h⟩ := Traced.bind_eq_ok.1 h
  obtain ⟨produced, -, h⟩ := Traced.bind_eq_ok.1 h
  rw [result_conclude, exposeOutputs_eq_layOver, layOver_eq_ok_iff] at h
  obtain ⟨hproduced, hget⟩ := h
  rw [hget, List.mem_map]
  cases hlast : lastWith (·.name) w.outputs name with
  | some m =>
      obtain ⟨hm, hname⟩ := mem_of_lastWith _ hlast
      obtain ⟨v, hv⟩ := hproduced m hm
      have hsome : (some (produced.at? m.endpoint)).getD none = some v := hv
      simp only [Option.map_some, Dict.get?_empty, hsome, Option.isSome_some, true_iff]
      exact ⟨m, hm, hname⟩
  | none =>
      simp only [Option.map_none, Option.getD_none, Dict.get?_empty, Option.isSome_none,
        Bool.false_eq_true, false_iff]
      rintro ⟨m, hm, rfl⟩
      obtain ⟨m', hm'⟩ := exists_lastWith (·.name) hm
      rw [hlast] at hm'
      cases hm'

namespace Revision

/-- The names of the outputs that a run of a revision computes: those that a component declares,
and those that the graph of a workflow maps. -/
def exposedNames (r : Revision) : List String :=
  match r.content with
  | .code _ => r.interface.outputs.map (·.name)
  | .workflow content => content.outputs.map (·.name)

variable {root : Revision} {closure : Closure} {tree : Node}

theorem interface_of_flatten (h : root.flatten closure = .ok tree) :
    tree.interface = root.interface := by
  rcases unfold_eq_ok_iff.1 h with ⟨code, -, rfl⟩ | ⟨content, fuel, children, -, -, rfl, -⟩
  · rfl
  · rfl

/-- A tree that succeeds yields what its root exposes. -/
theorem isSome_get?_of_flatten (h : root.flatten closure = .ok tree) {provided outputs : Values}
    (houtputs : (tree.evaluate bodies plots provided).result = .ok outputs) (name : String) :
    (outputs.get? name).isSome ↔ name ∈ root.exposedNames := by
  rcases unfold_eq_ok_iff.1 h with
    ⟨code, hcode, rfl⟩ | ⟨content, fuel, children, hcontent, -, rfl, -⟩
  · rw [exposedNames, hcode]
    exact ComponentNode.isSome_get?_of_evaluate houtputs name
  · rw [exposedNames, hcontent]
    rw [Node.evaluate_workflow_eq] at houtputs
    exact WorkflowFrame.isSome_get?_of_evaluate houtputs name

/-- A component that passes its check exposes what it declares. -/
theorem exposedNames_of_component (hvalid : root.check = .ok ()) (hkind : root.kind = .component) :
    root.exposedNames = root.interface.outputs.map (·.name) := by
  obtain ⟨code, hcode⟩ := exists_code_of_check hvalid hkind
  rw [exposedNames, hcode]

end Revision

theorem Interface.isSome_get?_outputTypes (i : Interface) (name : String) :
    (i.outputTypes.get? name).isSome ↔ name ∈ i.outputs.map (·.name) := by
  rw [outputTypes, Dict.isSome_get?_ofList, List.map_map]
  rfl

/-! ## Sent or returned -/

namespace Executor

/-- Some act hands an adapter a value of a name. -/
def Sent (acts : List Act) (name : String) : Prop := ∃ act ∈ acts, act.sends name = true

theorem sent_iff_filter_ne_nil {acts : List Act} {name : String} :
    Sent acts name ↔ acts.filter (·.sends name) ≠ [] := by
  constructor
  · rintro ⟨act, hact, hsends⟩ hnil
    exact List.filter_eq_nil_iff.1 hnil act hact hsends
  · intro hne
    obtain ⟨act, hmem⟩ := List.exists_mem_of_ne_nil _ hne
    obtain ⟨hact, hsends⟩ := List.mem_filter.1 hmem
    exact ⟨act, hact, hsends⟩

variable {a : Adapters} {entries : List WiringEntry} {outputs returned : Values}
  {acts : List Act}

/-- Of a computed output there is one trace: it is sent, or else returned. -/
theorem Split.sent_or_returned (h : Split a entries outputs acts returned) {name : String}
    {v : Json} (hv : outputs.get? name = some v) :
    (Sent acts name ∧ returned.get? name = none) ∨
      (¬ Sent acts name ∧ returned.get? name = some v) := by
  simp only [sent_iff_filter_ne_nil]
  by_cases hwired : ∃ e ∈ entries, e.name = name ∧ e.isDirect = false
  · obtain ⟨e, he, rfl, hdirect⟩ := hwired
    obtain ⟨hnone, adapter, -, hcall⟩ := h.sent e he hdirect v hv
    exact .inl ⟨by rw [hcall]; exact List.cons_ne_nil _ _, hnone⟩
  · have hdirect : ∀ e ∈ entries, e.name = name → e.isDirect = true := by
      intro e he hname
      by_contra hindirect
      exact hwired ⟨e, he, hname, Bool.not_eq_true _ ▸ hindirect⟩
    obtain ⟨hreturned, hnocall⟩ := h.kept name v hv hdirect
    exact .inr ⟨fun hcall => hcall hnocall, hreturned⟩

/-- What is sent or returned is what was computed. -/
theorem Split.accounted_iff (h : Split a entries outputs acts returned) (name : String) :
    ((returned.get? name).isSome ∨ Sent acts name) ↔ (outputs.get? name).isSome := by
  constructor
  · rintro (hreturned | ⟨act, hact, hsends⟩)
    · obtain ⟨v, hv⟩ := Option.isSome_iff_exists.1 hreturned
      rw [h.returned name v hv, Option.isSome_some]
    · obtain ⟨v, hv⟩ := h.handed act hact name hsends
      rw [hv, Option.isSome_some]
  · intro hsome
    obtain ⟨v, hv⟩ := Option.isSome_iff_exists.1 hsome
    rcases h.sent_or_returned hv with ⟨hsent, -⟩ | ⟨-, hreturned⟩
    · exact .inr hsent
    · exact .inl (by rw [hreturned, Option.isSome_some])

/-- No output is both sent and returned. -/
theorem Split.not_both (h : Split a entries outputs acts returned) (name : String) :
    ¬ ((returned.get? name).isSome ∧ Sent acts name) := by
  rintro ⟨hreturned, hsent⟩
  obtain ⟨v, hv⟩ := Option.isSome_iff_exists.1 hreturned
  rcases h.sent_or_returned (h.returned name v hv) with ⟨-, hnone⟩ | ⟨hnot, -⟩
  · rw [hv] at hnone
    cases hnone
  · exact hnot hsent

end Executor

/-! ## Executions -/

namespace Engine

variable {e : Engine} {x : Executor} {r : ExecutionRequest} {s : Supply} {j : Journal}

/-- A preparation leaves log events only. -/
theorem leaves_prepare {P : Entry → Prop} (hevent : ∀ event, P (.event event)) (e : Engine)
    (r : ExecutionRequest) : (e.prepare r).Leaves P := by
  have hcomponents : ∀ w, (e.fetchComponents w).Leaves P := by
    intro w
    refine ((Traced.leaves_ofExcept _).mapError _).bind fun components _ => ?_
    split
    · exact (Traced.leaves_log (hevent _)).bind fun _ _ => Traced.leaves_pure _
    · exact Traced.leaves_pure _
  refine (Traced.leaves_ofExcept _).bind fun root _ => ?_
  refine ((e.store.leaves_fetchClosure hevent root).mapError _).bind fun closure _ => ?_
  refine (root.leaves_flattenLogged hevent closure).bind fun workflow _ => ?_
  refine (hcomponents _).bind fun components _ => ?_
  exact Assembly.leaves_assembleLogged hevent _ _ _

/-- A measured run in this process is the run, with a log event and readings of the clock around
it. -/
theorem exists_run_of_measured {input : ExecutionInput} {result : ExecutionResult}
    (h : ((ExecutionMode.run (.inProcess x) input).resume s j).1 = .ok result) {ι : Type}
    (act : ι → Journal → Journal) :
    ∃ ran timing j', (x.run input).resume s j.tick = (.ok ran, j') ∧
      result = ran.record .runExecutionInput timing ∧
      Journal.Course act [] j' ((ExecutionMode.run (.inProcess x) input).resume s j).2 := by
  unfold ExecutionMode.run at h ⊢
  rw [Attempt.resume_ofRun_bind] at h ⊢
  obtain ⟨ran, j', hrun, hrest⟩ := Attempt.exists_of_resume_bind h
  rw [hrest] at h ⊢
  obtain rfl := Except.ok.inj h
  exact ⟨ran, _, j', hrun, rfl, .reading (.event (.inputRan input.jobId false) (.here _))⟩

/-- An execution in this process that succeeds is the run of a prepared input, with log events and
readings of the clock around it. -/
theorem exists_run_of_execute (hmode : e.mode = .inProcess x) {result : ExecutionResult}
    (hresult : ((e.execute r).resume s j).1 = .ok result) {ι : Type}
    (act : ι → Journal → Journal) :
    ∃ input ran j₁ j₂, (e.prepare r).result = .ok input ∧
      Journal.Course act [] j j₁ ∧ (x.run input).resume s j₁ = (.ok ran, j₂) ∧
      Journal.Course act [] j₂ ((e.execute r).resume s j).2 ∧
      result.status = ran.status ∧ result.outputs = ran.outputs ∧
      result.outputTypes = input.workflow.interface.outputTypes := by
  unfold execute at hresult ⊢
  rw [Attempt.resume_log_bind, Attempt.resume_ofRun_bind, hmode] at hresult ⊢
  obtain ⟨input, j', hprepare, hrest⟩ := Attempt.exists_of_resume_bind hresult
  rw [hrest, Attempt.resume_ofRun_bind] at hresult ⊢
  obtain ⟨measured, j'', hmeasured, hrest⟩ := Attempt.exists_of_resume_bind hresult
  rw [hrest] at hresult ⊢
  obtain rfl := Except.ok.inj hresult
  rw [Attempt.resume_ofTraced, Prod.mk.injEq] at hprepare
  obtain ⟨hprepared, rfl⟩ := hprepare
  obtain ⟨ran, timing, j₂, hrun, rfl, hafter⟩ :=
    exists_run_of_measured (congrArg Prod.fst hmeasured) act
  rw [hmeasured] at hafter
  have hevents : (e.prepare r).Leaves fun entry => ∃ event, entry = .event event :=
    leaves_prepare (fun event => ⟨event, rfl⟩) e r
  -- the journal before the run has the start of the execution and what the preparation left
  have hbefore : Journal.Course act [] j
      (j.push (.event (.executionStarted r.revision r.jobId))).tick :=
    .event _ (.reading (.here _))
  have hready := (hbefore.append (Journal.course_append hevents _)).then_reading.then_reading
  have hdone := (hafter.then_reading).then_event
    (.executionFinished r.revision r.jobId ran.status)
  exact ⟨input, ran, _, j₂, hprepared, hready, hrun, hdone, rfl, rfl, rfl⟩

/-- **Computed outputs are accounted for.** In an execution in this process that ends with status
`ok`, the names whose types are reported are those that the root declares; an output is returned
or sent, and not both, exactly if the root exposes it. So the reported names are those of the
outputs that are returned or sent exactly if the root declares what it exposes, as a component
does. -/
theorem execute_exposes (hmode : e.mode = .inProcess x) {result : ExecutionResult}
    (hresult : ((e.execute r).resume s j).1 = .ok result) (hstatus : result.status = .ok) :
    ∃ root input acts,
      e.store.get r.revision = .ok root ∧ (e.prepare r).result = .ok input ∧
      Journal.Course (Executor.Act.perform x (Executor.context input (x.runNested 1)) input s)
        acts j ((e.execute r).resume s j).2 ∧
      (∀ name, (result.outputTypes.get? name).isSome ↔
        name ∈ root.interface.outputs.map (·.name)) ∧
      (∀ name, ¬ ((result.outputs.get? name).isSome ∧ Executor.Sent acts name)) ∧
      (∀ name, (result.outputs.get? name).isSome ∨ Executor.Sent acts name ↔
        name ∈ root.exposedNames) ∧
      ((∀ name, (result.outputs.get? name).isSome ∨ Executor.Sent acts name ↔
          (result.outputTypes.get? name).isSome) ↔
        ∀ name, name ∈ root.exposedNames ↔ name ∈ root.interface.outputs.map (·.name)) ∧
      (root.kind = .component →
        root.exposedNames = root.interface.outputs.map (·.name)) := by
  obtain ⟨root, closure, components, input, hprepare, hprepared⟩ :
      ∃ root closure components input, (e.prepare r).result = .ok input ∧
        e.Prepared r root closure components input := by
    obtain ⟨input, -, -, -, hprepare, -⟩ :=
      exists_run_of_execute hmode hresult fun (i : Empty) => i.elim
    obtain ⟨root, closure, components, hprepared⟩ := exists_prepared hprepare
    exact ⟨root, closure, components, input, hprepare, hprepared⟩
  obtain ⟨input', ran, j₁, j₂, hprepare', hbefore, hrun, hafter, hran, houtputs, htypes⟩ :=
    exists_run_of_execute hmode hresult
      (Executor.Act.perform x (Executor.context input (x.runNested 1)) input s)
  obtain rfl : input = input' := by
    rw [hprepare] at hprepare'
    exact Except.ok.inj hprepare'
  -- the run of the prepared input has gone through all its phases
  have hphased := Executor.phased_runWith x (x.runNested 1) input s j₁
  have hwith : (x.runWith (x.runNested 1) input).resume s j₁ = (.ok ran, j₂) := hrun
  rw [hwith] at hphased
  obtain ⟨hcheck, -, outputs, hgraph, hreturned, j₃, hsent, hfirst, hsends⟩ :=
    hphased.exists_of_ok rfl (hran ▸ hstatus)
  have hsplit := Executor.split_of_sent hcheck hsent
    (x.loading (Executor.context input (x.runNested 1)) input s j₁).values
  generalize hacts : x.acts input _ outputs = acts at hsplit
  have hcourse : Journal.Course
      (Executor.Act.perform x (Executor.context input (x.runNested 1)) input s) acts j
        ((e.execute r).resume s j).2 := by
    have hwhole := (hbefore.append (hfirst.append hsends)).append hafter
    rw [List.nil_append, List.append_nil] at hwhole
    rw [← hacts]
    exact hwhole
  rw [← hreturned, ← houtputs] at hsplit
  have hdeclared : ∀ name, (result.outputTypes.get? name).isSome ↔
      name ∈ root.interface.outputs.map (·.name) := by
    intro name
    rw [htypes, Revision.interface_of_flatten hprepared.flattened,
      Interface.isSome_get?_outputTypes]
  have hexposed : ∀ name, (result.outputs.get? name).isSome ∨ Executor.Sent acts name ↔
      name ∈ root.exposedNames := by
    intro name
    rw [hsplit.accounted_iff]
    exact Revision.isSome_get?_of_flatten hprepared.flattened hgraph name
  refine ⟨root, input, acts, hprepared.fetched, hprepare, hcourse, hdeclared, hsplit.not_both,
    hexposed, ?_, Revision.exposedNames_of_component hprepared.valid⟩
  exact forall_congr' fun name => by rw [hexposed, hdeclared]

/-! A workflow that declares two outputs, of which its graph exposes one. -/

/-- The workflow. -/
def halfExposed : Revision :=
  .workflow (.ofNat 6) (.ofNat 7) "flow" "steps"
    ⟨[.required "in" .any], [⟨"y", .any⟩, ⟨"z", .any⟩]⟩
    { operators := [⟨.ofNat 8, .ofNat 1, "step"⟩]
      connections := []
      inputs := [⟨"in", ⟨.ofNat 8, "x"⟩⟩]
      outputs := [⟨"y", ⟨.ofNat 8, "y"⟩⟩] }

/-- An engine over a store of it and of its step. -/
def halfExposedEngine : Engine :=
  .inProcess .standard .standard (MemoryStore.ofList [halfExposed, sampleStep]).toStore .standard

/-- A request to run it on a value. -/
def halfExposedRequest : ExecutionRequest where
  revision := .ofNat 6
  wiring := some
    { inputs := [(WiringEntry.bare "in" directProvisioning).withFilter valueFilter (.text "seven")]
      outputs := [] }
  jobId := .ofNat 10
  runPurePlots := none

/-- How its execution ends, and what it leaves. -/
def halfExposedRun : Except ExecutionError ExecutionResult × Journal :=
  (halfExposedEngine.execute halfExposedRequest).resume Executor.countingSupply .empty

theorem execute_exposes_half :
    ∃ result acts, halfExposedRun.1 = .ok result ∧ result.status = .ok ∧
      (∀ name, (result.outputTypes.get? name).isSome ↔ name ∈ ["y", "z"]) ∧
      ∀ name, (result.outputs.get? name).isSome ∨ Executor.Sent acts name ↔ name ∈ ["y"] := by
  have hstatus : halfExposedRun.1.toOption.map (·.status) = some .ok := rfl
  cases hresult : halfExposedRun.1 with
  | error cause =>
      rw [hresult] at hstatus
      cases hstatus
  | ok result =>
      rw [hresult] at hstatus
      obtain ⟨root, input, acts, hroot, -, -, hdeclared, -, hexposed, -⟩ :=
        execute_exposes rfl hresult (Option.some.inj hstatus)
      obtain rfl : halfExposed = root := Except.ok.inj hroot
      exact ⟨result, acts, rfl, Option.some.inj hstatus, hdeclared, hexposed⟩

/-- The declared output that is not exposed is reported with its type, and is neither returned nor
sent. -/
theorem execute_drops_declared :
    halfExposedRun.1.toOption.map (fun result =>
        (result.status, result.outputTypes.keys, result.outputs.keys)) =
      some (.ok, ["y", "z"], ["y"]) ∧
    ∀ adapter bindings values,
      .sendCalled adapter bindings values ∉ halfExposedRun.2.entries.toList := by
  let isSend : Entry → Bool := fun entry => entry matches .sendCalled ..
  have hnone : halfExposedRun.2.entries.toList.filter isSend = [] := rfl
  refine ⟨rfl, fun adapter bindings values hmem => ?_⟩
  have hsend : isSend (.sendCalled adapter bindings values) = true := rfl
  exact List.filter_eq_nil_iff.1 hnone _ hmem hsend

end Engine

end Dataflow
