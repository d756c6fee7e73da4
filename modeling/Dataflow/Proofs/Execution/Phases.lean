import Dataflow.Execution.Executor
import Dataflow.Proofs.Adapter.Fanout

set_option autoImplicit false

/-! # The phases of a run

An executor does three kinds of things that others can notice: it asks adapters for values,
evaluates the tree, and hands adapters values (`Executor.Act`). `Executor.Phased` lists how a
run can go. It is rejected before anything has happened, or ends after the calls that load, or
after the evaluation, or after the calls that send; each phase is begun only if the one before
it has succeeded. `Executor.phased_runWith` shows that every run goes in one of these ways,
whatever its adapters and bodies do.
-/

namespace Dataflow

namespace Executor

/-! ## Acts -/

/-- Something that an executor does besides logging and looking at the clock. -/
inductive Act where
  /-- An adapter is asked for values. -/
  | load (adapter : Adapter) (bindings : Bindings)
  /-- The tree is evaluated on provided values. -/
  | evaluate (provided : Values)
  /-- An adapter is handed values. -/
  | send (adapter : Adapter) (bindings : Bindings) (values : Values)

/-- The evaluation of the tree of an input on provided values. -/
def evaluation (x : Executor) (input : ExecutionInput) (provided : Values) :
    Traced NodeFailure Values :=
  input.workflow.evaluate x.bodies input.configuration.runPurePlots provided

/-- What an act does to a journal. A call is noted, and then follows whatever the adapter does. -/
def Act.perform (x : Executor) (ctx : AdapterContext) (input : ExecutionInput) (s : Supply) :
    Act → Journal → Journal
  | load a bindings, j =>
      ((a.load ctx bindings).resume s (j.push (.loadCalled a.id bindings))).2
  | evaluate provided, j => j.append (x.evaluation input provided).entries
  | send a bindings values, j =>
      ((a.send ctx bindings values).resume s (j.push (.sendCalled a.id bindings values))).2

end Executor

namespace Adapters

open Executor (Act)

/-- The call that loads the value of an entry. There is none if the value is in the entry itself,
or if the entry cannot be handed to an adapter. -/
def loadCall? (a : Adapters) (e : WiringEntry) : Option Act :=
  match e.resolve .load with
  | .ok (.adapter id d) => (a.get? id).map fun adapter => .load adapter (.singleton e.name d)
  | _ => none

/-- The call that sends the value of an entry, if there is a value and an adapter. -/
def sendCall? (a : Adapters) (values : Values) (e : WiringEntry) : Option Act :=
  match e.resolve .send, values.get? e.name with
  | .ok (.adapter id d), some v =>
      (a.get? id).map fun adapter => .send adapter (.singleton e.name d) (.singleton e.name v)
  | _, _ => none

/-- The calls that load the values of entries. -/
def loadCalls (a : Adapters) (entries : List WiringEntry) : List Act :=
  entries.filterMap a.loadCall?

/-- The calls that send the values of entries. -/
def sendCalls (a : Adapters) (values : Values) (entries : List WiringEntry) : List Act :=
  entries.filterMap (a.sendCall? values)

end Adapters

namespace Executor

variable {x : Executor} {ctx : AdapterContext} {input : ExecutionInput} {s : Supply} {j : Journal}

/-- Loading an entry is its call and nothing else. -/
theorem course_loadCall? (e : WiringEntry) :
    Journal.Course (Act.perform x ctx input s) (x.adapters.loadCall? e).toList j
      ((x.adapters.serve ctx .load e none).resume s j).2 := by
  unfold Adapters.serve Adapters.loadCall?
  cases e.resolve .load with
  | error fault => exact .here j
  | ok binding =>
      cases binding with
      | direct v => exact .here j
      | adapter id d =>
          simp only [Adapters.hand]
          cases x.adapters.get? id with
          | none => exact .here j
          | some a =>
              simp only [Adapter.resume_loadOne]
              exact .of_act (Act.load a (.singleton e.name d))

/-- Sending an entry is its call and nothing else. -/
theorem course_sendCall? (values : Values) (e : WiringEntry) :
    Journal.Course (Act.perform x ctx input s) (x.adapters.sendCall? values e).toList j
      ((x.adapters.serve ctx .send e (values.get? e.name)).resume s j).2 := by
  unfold Adapters.serve Adapters.sendCall?
  cases e.resolve .send with
  | error fault => exact .here j
  | ok binding =>
      cases binding with
      | direct v => exact .here j
      | adapter id d =>
          simp only [Adapters.hand]
          cases values.get? e.name with
          | none => cases x.adapters.get? id <;> exact .here j
          | some v =>
              simp only
              cases x.adapters.get? id with
              | none => exact .here j
              | some a =>
                  simp only [Adapter.resume_sendOne]
                  exact .of_act (Act.send a (.singleton e.name d) (.singleton e.name v))

theorem course_load {entries : List WiringEntry} {j' : Journal}
    (h : Journal.Course (Work.perform s) (x.adapters.loadUnits ctx entries) j j') :
    Journal.Course (Act.perform x ctx input s) (x.adapters.loadCalls entries) j j' := by
  rw [Adapters.loadCalls, List.filterMap_eq_flatMap_toList]
  exact h.flatMap fun e _ _ => course_loadCall? e

theorem course_send {entries : List WiringEntry} {values : Values} {j' : Journal}
    (h : Journal.Course (Work.perform s) (x.adapters.sendUnits ctx values entries) j j') :
    Journal.Course (Act.perform x ctx input s) (x.adapters.sendCalls values entries) j j' := by
  rw [Adapters.sendCalls, List.filterMap_eq_flatMap_toList]
  exact h.flatMap fun e _ _ => course_sendCall? values e

/-! ## One phase after another -/

/-- How the loading of the wired inputs ends in a run that carries on from a journal. -/
def loading (x : Executor) (ctx : AdapterContext) (input : ExecutionInput) (s : Supply)
    (j : Journal) : Outcomes :=
  Work.outcomes s j.tick (x.adapters.loadUnits ctx input.wiring.inputs)

/-- How the sending of values ends that carries on from a journal. -/
def sending (x : Executor) (ctx : AdapterContext) (input : ExecutionInput) (s : Supply)
    (j : Journal) (values : Values) : Outcomes :=
  Work.outcomes s j (x.adapters.sendUnits ctx values input.sentEntries)

/-- The values that are sent, and the values that are returned. -/
def shares (input : ExecutionInput) (outputs : Values) : Values × Values :=
  Values.separate (input.sentEntries.map (·.name)) outputs

/-- A result reports how an execution ended. -/
structure Reports (r : ExecutionResult) (status : ExecutionStatus) (error : Option String)
    (outputs : Values) : Prop where
  status : r.status = status
  error : r.error = error
  outputs : r.outputs = outputs

theorem Reports.record {r : ExecutionResult} {status : ExecutionStatus} {error : Option String}
    {outputs : Values} (h : Reports r status error outputs) (step : MeasuredStep)
    (timing : Timing) : Reports (r.record step timing) status error outputs :=
  ⟨h.status, h.error, h.outputs⟩

theorem finish_eq (x : Executor) (ctx : AdapterContext) (input : ExecutionInput)
    (outputs : Values) :
    x.finish ctx input outputs = (do
      let first ← Attempt.ofRun Run.now
      (x.adapters.send ctx input.sentEntries (shares input outputs).1).mapError .adapterHandling
      let timing ← Attempt.ofRun (Run.timingSince first)
      Attempt.log (.graphFinished input.jobId input.directCount input.sentEntries.length)
      return (ExecutionResult.success input.jobId (shares input outputs).2).record
        .sendOutputs timing) := rfl

/-- A send that fails ends the last phase. -/
theorem finish_of_unsent {outputs : Values}
    (h : (x.sending ctx input s j.tick (shares input outputs).1).failed ≠ []) :
    ∃ j', (x.finish ctx input outputs).resume s j =
        (.error (.adapterHandling (.gathered .send
          (x.sending ctx input s j.tick (shares input outputs).1).failures)), j') ∧
      Journal.Course (Act.perform x ctx input s)
        (x.adapters.sendCalls (shares input outputs).1 input.sentEntries) j.tick j' := by
  obtain ⟨j', hresume, hcourse⟩ := Adapters.exists_resume_send (s := s) (j := j.tick)
    x.adapters ctx input.sentEntries (shares input outputs).1
  refine ⟨j', ?_, course_send hcourse⟩
  have hsettled := Outcomes.settled_of_failed_ne_nil .send h
  unfold sending at hsettled h
  rw [hsettled] at hresume
  rw [finish_eq, Attempt.resume_ofRun_bind]
  refine Attempt.resume_bind_of_error ?_ _
  rw [Attempt.resume_mapError]
  simp only [Run.resume_now]
  rw [hresume]
  rfl

/-- When everything is sent, what is left is reported. -/
theorem finish_of_sent {outputs : Values}
    (h : (x.sending ctx input s j.tick (shares input outputs).1).failed = []) :
    ∃ r j', (x.finish ctx input outputs).resume s j = (.ok r, j') ∧
      Reports r .ok none (shares input outputs).2 ∧
      Journal.Course (Act.perform x ctx input s)
        (x.adapters.sendCalls (shares input outputs).1 input.sentEntries) j.tick j' := by
  obtain ⟨j', hresume, hcourse⟩ := Adapters.exists_resume_send (s := s) (j := j.tick)
    x.adapters ctx input.sentEntries (shares input outputs).1
  have hsettled := Outcomes.settled_of_failed_eq_nil .send h
  unfold sending at hsettled h
  rw [hsettled] at hresume
  have hsend : ((x.adapters.send ctx input.sentEntries (shares input outputs).1).mapError
      ExecutionError.adapterHandling).resume s j.tick = (.ok (), j') := by
    rw [Attempt.resume_mapError, hresume]
    rfl
  have hreports : Reports (.success input.jobId (shares input outputs).2) .ok none
      (shares input outputs).2 := ⟨rfl, rfl, rfl⟩
  have hsends : Journal.Course (Act.perform x ctx input s)
      (x.adapters.sendCalls (shares input outputs).1 input.sentEntries) j.tick j' :=
    course_send hcourse
  have hdone := hsends.then_reading.then_event
    (.graphFinished input.jobId input.directCount input.sentEntries.length)
  refine ⟨_, _, ?_, hreports.record .sendOutputs
    (.between (s.clock j.readings) (s.clock j'.readings)), hdone⟩
  rw [finish_eq, Attempt.resume_ofRun_bind]
  simp only [Run.resume_now]
  rw [Attempt.resume_bind_of_ok hsend]
  rfl

/-! ## The ways a run can go -/

section Run

variable {nested : ExecutionInput → Attempt ExecutionError ExecutionResult}

/-- What adapters see of a run. -/
def context (input : ExecutionInput)
    (nested : ExecutionInput → Attempt ExecutionError ExecutionResult) : AdapterContext :=
  ⟨.ofInput input, nested⟩

/-- The last steps of a run whose inputs are loaded and whose tree has been evaluated. -/
def conclude (x : Executor) (ctx : AdapterContext) (input : ExecutionInput)
    (loading running : Timing) (outcome : Except NodeFailure Values) :
    Attempt ExecutionError ExecutionResult := do
  let result ←
    match outcome with
    | .ok outputs => x.finish ctx input outputs
    | .error failure => do
        Attempt.log (.graphFailed input.jobId failure.message)
        pure (.failure input.jobId failure.message)
  return (result.record .runGraph running).record .loadInputs loading

theorem runWith_eq (x : Executor)
    (nested : ExecutionInput → Attempt ExecutionError ExecutionResult) (input : ExecutionInput) :
    x.runWith nested input = (do
      Attempt.ofExcept (input.check.mapError .inputValidation)
      let first ← Attempt.ofRun Run.now
      let values ← (x.adapters.load (context input nested) input.wiring.inputs).mapError
        .adapterHandling
      let loading ← Attempt.ofRun (Run.timingSince first)
      let first ← Attempt.ofRun Run.now
      let outcome ← Attempt.ofRun (x.evaluate input values)
      let running ← Attempt.ofRun (Run.timingSince first)
      x.conclude (context input nested) input loading running outcome) := rfl

/-- An input that is not consistent is rejected, and nothing happens. -/
theorem runWith_of_fault {fault : InputFault} (h : input.check = .error fault) :
    (x.runWith nested input).resume s j = (.error (.inputValidation fault), j) := by
  rw [runWith_eq, h]
  exact Attempt.resume_bind_of_error rfl _

theorem runWith_of_check (h : input.check = .ok ()) :
    (x.runWith nested input).resume s j =
      (do
        let values ← (x.adapters.load (context input nested) input.wiring.inputs).mapError
          .adapterHandling
        let loading ← Attempt.ofRun (Run.timingSince (s.clock j.readings))
        let first ← Attempt.ofRun Run.now
        let outcome ← Attempt.ofRun (x.evaluate input values)
        let running ← Attempt.ofRun (Run.timingSince first)
        x.conclude (context input nested) input loading running outcome :
          Attempt ExecutionError ExecutionResult).resume s j.tick := by
  rw [runWith_eq, h]
  rfl

/-- If an input is not loaded, nothing comes after the calls that load. -/
theorem runWith_of_unloaded (hcheck : input.check = .ok ())
    (hfailed : (x.loading (context input nested) input s j).failed ≠ []) :
    ∃ j', (x.runWith nested input).resume s j =
        (.error (.adapterHandling (.gathered .load
          (x.loading (context input nested) input s j).failures)), j') ∧
      Journal.Course (Act.perform x (context input nested) input s)
        (x.adapters.loadCalls input.wiring.inputs) j j' := by
  obtain ⟨j', hresume, hcourse⟩ := Adapters.exists_resume_load (s := s) (j := j.tick)
    x.adapters (context input nested) input.wiring.inputs
  refine ⟨j', ?_, .reading (course_load hcourse)⟩
  have hsettled := Outcomes.settled_of_failed_ne_nil .load hfailed
  unfold loading at hsettled ⊢
  rw [hsettled] at hresume
  rw [runWith_of_check hcheck]
  refine Attempt.resume_bind_of_error ?_ _
  rw [Attempt.resume_mapError, hresume]
  rfl

/-- If all inputs are loaded, the tree is evaluated on them. -/
theorem runWith_of_loaded (hcheck : input.check = .ok ())
    (hloaded : (x.loading (context input nested) input s j).failed = []) :
    ∃ j' loading running, (x.runWith nested input).resume s j =
        (x.conclude (context input nested) input loading running
          (x.evaluation input (x.loading (context input nested) input s j).values).result).resume
            s j' ∧
      Journal.Course (Act.perform x (context input nested) input s)
        (x.adapters.loadCalls input.wiring.inputs ++
          [.evaluate (x.loading (context input nested) input s j).values]) j j' := by
  obtain ⟨j₁, hresume, hcourse⟩ := Adapters.exists_resume_load (s := s) (j := j.tick)
    x.adapters (context input nested) input.wiring.inputs
  have hsettled := Outcomes.settled_of_failed_eq_nil .load hloaded
  unfold loading at hsettled ⊢
  rw [hsettled] at hresume
  generalize hvalues : (Work.outcomes s j.tick
    (x.adapters.loadUnits (context input nested) input.wiring.inputs)).values = values at *
  have hload : ((x.adapters.load (context input nested) input.wiring.inputs).mapError
      ExecutionError.adapterHandling).resume s j.tick = (.ok values, j₁) := by
    rw [Attempt.resume_mapError, hresume]
    rfl
  have hloads : Journal.Course (Act.perform x (context input nested) input s)
      (x.adapters.loadCalls input.wiring.inputs) j j₁.tick.tick :=
    (Journal.Course.reading (course_load hcourse)).then_reading.then_reading
  -- the clock is read after the loading, before the evaluation and after it
  have hgraph : Journal.Course (Act.perform x (context input nested) input s)
      (x.adapters.loadCalls input.wiring.inputs ++ [.evaluate values]) j
      (j₁.tick.tick.append (x.evaluation input values).entries).tick :=
    (hloads.append (.of_act (Act.evaluate values))).then_reading
  refine ⟨_, .between (s.clock j.readings) (s.clock j₁.readings), .between
    (s.clock j₁.tick.readings) (s.clock j₁.tick.tick.readings), ?_, hgraph⟩
  rw [runWith_of_check hcheck, Attempt.resume_bind_of_ok hload]
  rfl

/-- A failed evaluation is reported, and nothing is sent. -/
theorem conclude_of_failed (loading running : Timing) (failure : NodeFailure) :
    ∃ r, (x.conclude ctx input loading running (.error failure)).resume s j =
        (.ok r, j.push (.event (.graphFailed input.jobId failure.message))) ∧
      Reports r .failure (some failure.message) .empty := by
  have hreports : Reports (.failure input.jobId failure.message) .failure (some failure.message)
      .empty := ⟨rfl, rfl, rfl⟩
  exact ⟨_, rfl, (hreports.record .runGraph running).record .loadInputs loading⟩

theorem conclude_of_unsent (loading running : Timing) {outputs : Values}
    (h : (x.sending ctx input s j.tick (shares input outputs).1).failed ≠ []) :
    ∃ j', (x.conclude ctx input loading running (.ok outputs)).resume s j =
        (.error (.adapterHandling (.gathered .send
          (x.sending ctx input s j.tick (shares input outputs).1).failures)), j') ∧
      Journal.Course (Act.perform x ctx input s)
        (x.adapters.sendCalls (shares input outputs).1 input.sentEntries) j.tick j' := by
  obtain ⟨j', hresume, hcourse⟩ := finish_of_unsent h
  exact ⟨j', Attempt.resume_bind_of_error hresume _, hcourse⟩

theorem conclude_of_sent (loading running : Timing) {outputs : Values}
    (h : (x.sending ctx input s j.tick (shares input outputs).1).failed = []) :
    ∃ r j', (x.conclude ctx input loading running (.ok outputs)).resume s j = (.ok r, j') ∧
      Reports r .ok none (shares input outputs).2 ∧
      Journal.Course (Act.perform x ctx input s)
        (x.adapters.sendCalls (shares input outputs).1 input.sentEntries) j.tick j' := by
  obtain ⟨r, j', hresume, hreports, hcourse⟩ := finish_of_sent h
  refine ⟨_, j', ?_, (hreports.record .runGraph running).record .loadInputs loading, hcourse⟩
  exact Attempt.resume_bind_of_ok hresume _

/-- How a run goes that ends in a way: one phase after another, and the first one that fails is
the last one. -/
structure Phased (x : Executor) (ctx : AdapterContext) (input : ExecutionInput) (s : Supply)
    (j : Journal) (r : Except ExecutionError ExecutionResult × Journal) : Prop where
  /-- An input that is not consistent is rejected, and nothing happens. -/
  rejected : ∀ fault, input.check = .error fault → r = (.error (.inputValidation fault), j)
  /-- If an input is not loaded, nothing comes after the calls that load. -/
  unloaded : input.check = .ok () → (x.loading ctx input s j).failed ≠ [] →
    r.1 = .error (.adapterHandling (.gathered .load (x.loading ctx input s j).failures)) ∧
      Journal.Course (Act.perform x ctx input s) (x.adapters.loadCalls input.wiring.inputs) j r.2
  /-- If the evaluation fails, nothing comes after it, and the result tells its failure. -/
  failed : ∀ failure, input.check = .ok () → (x.loading ctx input s j).failed = [] →
    (x.evaluation input (x.loading ctx input s j).values).result = .error failure →
    (∃ result, r.1 = .ok result ∧ Reports result .failure (some failure.message) .empty) ∧
      Journal.Course (Act.perform x ctx input s)
        (x.adapters.loadCalls input.wiring.inputs ++
          [.evaluate (x.loading ctx input s j).values]) j r.2
  /-- If it succeeds, the wired outputs are sent last; the run succeeds if all are sent. -/
  evaluated : ∀ outputs, input.check = .ok () → (x.loading ctx input s j).failed = [] →
    (x.evaluation input (x.loading ctx input s j).values).result = .ok outputs →
    ∃ j₁, Journal.Course (Act.perform x ctx input s)
        (x.adapters.loadCalls input.wiring.inputs ++
          [.evaluate (x.loading ctx input s j).values]) j j₁ ∧
      Journal.Course (Act.perform x ctx input s)
        (x.adapters.sendCalls (shares input outputs).1 input.sentEntries) j₁ r.2 ∧
      ((x.sending ctx input s j₁ (shares input outputs).1).failed ≠ [] →
        r.1 = .error (.adapterHandling (.gathered .send
          (x.sending ctx input s j₁ (shares input outputs).1).failures))) ∧
      ((x.sending ctx input s j₁ (shares input outputs).1).failed = [] →
        ∃ result, r.1 = .ok result ∧ Reports result .ok none (shares input outputs).2)

theorem phased_runWith (x : Executor)
    (nested : ExecutionInput → Attempt ExecutionError ExecutionResult) (input : ExecutionInput)
    (s : Supply) (j : Journal) :
    Phased x (context input nested) input s j ((x.runWith nested input).resume s j) where
  rejected fault h := runWith_of_fault h
  unloaded hcheck hfailed := by
    obtain ⟨j', hresume, hcourse⟩ := runWith_of_unloaded hcheck hfailed
    rw [hresume]
    exact ⟨rfl, hcourse⟩
  failed failure hcheck hloaded hgraph := by
    obtain ⟨j', loading, running, hresume, hcourse⟩ := runWith_of_loaded hcheck hloaded
    obtain ⟨r, hconclude, hreports⟩ := conclude_of_failed loading running failure
    rw [hresume, hgraph, hconclude]
    exact ⟨⟨r, rfl, hreports⟩, hcourse.then_event _⟩
  evaluated outputs hcheck hloaded hgraph := by
    obtain ⟨j₁, loading, running, hresume, hcourse⟩ := runWith_of_loaded hcheck hloaded
    refine ⟨j₁.tick, hcourse.then_reading, ?_⟩
    rw [hresume, hgraph]
    by_cases hsent :
        (x.sending (context input nested) input s j₁.tick (shares input outputs).1).failed = []
    · obtain ⟨r, j', hconclude, hreports, hsends⟩ := conclude_of_sent loading running hsent
      rw [hconclude]
      exact ⟨hsends, fun h => absurd hsent h, fun _ => ⟨r, rfl, hreports⟩⟩
    · obtain ⟨j', hconclude, hsends⟩ := conclude_of_unsent loading running hsent
      rw [hconclude]
      exact ⟨hsends, fun _ => rfl, fun h => absurd h hsent⟩

/-- The four ways in which a run can end. -/
theorem Phased.ends {r : Except ExecutionError ExecutionResult × Journal}
    (h : Phased x ctx input s j r) :
    (∃ fault, r.1 = .error (.inputValidation fault)) ∨
      (∃ failures, r.1 = .error (.adapterHandling failures)) ∨
      (∃ result failure, r.1 = .ok result ∧ Reports result .failure (some failure) .empty) ∨
      input.check = .ok () ∧ (x.loading ctx input s j).failed = [] ∧
        ∃ outputs, (x.evaluation input (x.loading ctx input s j).values).result = .ok outputs ∧
          (∃ result, r.1 = .ok result ∧ Reports result .ok none (shares input outputs).2) ∧
          ∃ j₁, (x.sending ctx input s j₁ (shares input outputs).1).failed = [] ∧
            Journal.Course (Act.perform x ctx input s)
              (x.adapters.loadCalls input.wiring.inputs ++
                [.evaluate (x.loading ctx input s j).values]) j j₁ ∧
            Journal.Course (Act.perform x ctx input s)
              (x.adapters.sendCalls (shares input outputs).1 input.sentEntries) j₁ r.2 := by
  cases hcheck : input.check with
  | error fault => exact .inl ⟨fault, by rw [h.rejected fault hcheck]⟩
  | ok _ =>
      by_cases hloaded : (x.loading ctx input s j).failed = []
      · cases hgraph : (x.evaluation input (x.loading ctx input s j).values).result with
        | error failure =>
            obtain ⟨⟨result, hok, hreports⟩, -⟩ := h.failed failure hcheck hloaded hgraph
            exact .inr (.inr (.inl ⟨result, failure.message, hok, hreports⟩))
        | ok outputs =>
            obtain ⟨j₁, hfirst, hsends, hunsent, hsent⟩ :=
              h.evaluated outputs hcheck hloaded hgraph
            by_cases hfailed : (x.sending ctx input s j₁ (shares input outputs).1).failed = []
            · exact .inr (.inr (.inr ⟨rfl, hloaded, outputs, rfl, hsent hfailed, j₁, hfailed,
                hfirst, hsends⟩))
            · exact .inr (.inl ⟨_, hunsent hfailed⟩)
      · exact .inr (.inl ⟨_, (h.unloaded hcheck hloaded).1⟩)

/-- Only an input that is not consistent and a failed fan-out are errors. -/
theorem Phased.kind_of_error {r : Except ExecutionError ExecutionResult × Journal}
    (h : Phased x ctx input s j r) {e : ExecutionError} (he : r.1 = .error e) :
    e.kind = .inputValidation ∨ e.kind = .adapterHandling := by
  rcases h.ends with ⟨fault, hr⟩ | ⟨failures, hr⟩ | ⟨result, failure, hr, -⟩ |
    ⟨-, -, outputs, -, ⟨result, hr, -⟩, -⟩ <;> rw [hr] at he <;> cases he
  · exact .inl rfl
  · exact .inr rfl

/-- A run that succeeded has gone through every phase. -/
theorem Phased.exists_of_ok {r : Except ExecutionError ExecutionResult × Journal}
    (h : Phased x ctx input s j r) {result : ExecutionResult} (hr : r.1 = .ok result)
    (hstatus : result.status = .ok) :
    input.check = .ok () ∧ (x.loading ctx input s j).failed = [] ∧
      ∃ outputs, (x.evaluation input (x.loading ctx input s j).values).result = .ok outputs ∧
        result.outputs = (shares input outputs).2 ∧
        ∃ j₁, (x.sending ctx input s j₁ (shares input outputs).1).failed = [] ∧
          Journal.Course (Act.perform x ctx input s)
            (x.adapters.loadCalls input.wiring.inputs ++
              [.evaluate (x.loading ctx input s j).values]) j j₁ ∧
          Journal.Course (Act.perform x ctx input s)
            (x.adapters.sendCalls (shares input outputs).1 input.sentEntries) j₁ r.2 := by
  rcases h.ends with ⟨fault, hend⟩ | ⟨failures, hend⟩ | ⟨result', failure, hend, hreports⟩ |
    ⟨hcheck, hloaded, outputs, hgraph, ⟨result', hend, hreports⟩, hcourses⟩ <;>
    rw [hend] at hr <;> cases hr
  · rw [hreports.status] at hstatus
    cases hstatus
  · exact ⟨hcheck, hloaded, outputs, hgraph, hreports.outputs, hcourses⟩

/-- **A run goes through its phases in order, and the first one that fails is the last one.** It
is rejected before any act, or ends after the calls that load, after the evaluation of the tree,
or after the calls that send, and no other errors come of it. This holds whatever runs the
executions that adapters start. -/
theorem run_phased (x : Executor)
    (nested : ExecutionInput → Attempt ExecutionError ExecutionResult) (input : ExecutionInput)
    (s : Supply) (j : Journal) :
    x.run input = x.runWith (x.runNested 1) input ∧
      Phased x (context input nested) input s j ((x.runWith nested input).resume s j) ∧
      ∀ e, ((x.runWith nested input).resume s j).1 = .error e →
        e.kind = .inputValidation ∨ e.kind = .adapterHandling :=
  ⟨rfl, phased_runWith x nested input s j, fun _ he =>
    (phased_runWith x nested input s j).kind_of_error he⟩

end Run

/-! A step between two bindings of an adapter that gives names for values and takes anything. -/

/-- The adapter. -/
def echo : Adapter :=
  ⟨"echo", fun _ bindings => pure (bindings.map fun name _ => .text name),
    fun _ _ _ => pure .empty⟩

/-- What the bindings refer to. -/
def echoDescriptor : Descriptor := { Descriptor.empty with refId := some "anywhere" }

/-- The step, which has two outputs of which one is wired. -/
def echoInput : ExecutionInput :=
  let interface : Interface := ⟨[.required "x" .any], [⟨"y", .any⟩, ⟨"z", .any⟩]⟩
  { codeModules := [⟨.ofNat 1, ""⟩]
    components := [⟨.ofNat 2, "step", "1.0.0", "steps", .released, interface, .ofNat 1, "double"⟩]
    workflow := .component ⟨.ofNat 3, "step", .ofNat 2, .ofNat 1, "double", interface⟩
    configuration := ⟨"sample", false⟩
    wiring := ⟨[⟨"x", "echo", echoDescriptor⟩], [⟨"y", "echo", echoDescriptor⟩]⟩
    jobId := .ofNat 4
    rootId := .ofNat 2 }

/-- Surroundings in which everything counts up from zero. -/
def countingSupply : Supply := ⟨.ofNat, .ofNat, fun n => ⟨n⟩⟩

/-- Without a body the evaluation fails, and the output is not sent. -/
theorem run_phased_echo :
    let x : Executor := ⟨.ofList [echo], .empty⟩
    let run := (x.run echoInput).resume countingSupply .empty
    let failure := NodeFailure.missingBody (labelled "step" (.ofNat 3)) (.ofNat 1) "double"
    (∃ result, run.1 = .ok result ∧ Reports result .failure (some failure.message) .empty) ∧
      Journal.Course (Act.perform x (context echoInput (x.runNested 1)) echoInput countingSupply)
        [.load echo (.singleton "x" echoDescriptor), .evaluate (.singleton "x" (.text "x"))]
        .empty run.2 := by
  intro x run failure
  obtain ⟨-, hphased, -⟩ := run_phased x (x.runNested 1) echoInput countingSupply .empty
  exact hphased.failed failure rfl rfl rfl

end Executor

end Dataflow
