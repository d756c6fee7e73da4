import Dataflow.Proofs.Except
import Dataflow.Proofs.Execution.Phases
import Dataflow.Proofs.Journal.BodyCalls

set_option autoImplicit false

/-! # Runs without adapters

A wiring may provide all values itself and leave the outputs unwired (`Wiring.Provides`). A
consistent input with such a wiring needs no adapter: its run is the evaluation of its tree on
the provided values, and the result says how that ended (`Executor.runWith_of_provides`). The
bodies that it calls are those that the evaluation calls
(`Executor.bodyCalls_runWith_of_provides`).
-/

namespace Dataflow

/-- The entry holds the value that it provides. -/
structure WiringEntry.Provides (e : WiringEntry) (v : Json) : Prop where
  direct : e.isDirect = true
  value : e.descriptor.filters.get? valueFilter = some v

/-- The entries of the inputs hold named values, and the outputs are not wired. -/
structure Wiring.Provides (w : Wiring) (values : List (String × Json)) : Prop where
  inputs : List.Forall₂ (fun e v => e.name = v.1 ∧ e.Provides v.2) w.inputs values
  outputs : w.outputs = []

variable {a : Adapters} {ctx : AdapterContext} {s : Supply} {j : Journal}

theorem WiringEntry.Provides.resolve {e : WiringEntry} {v : Json} (h : e.Provides v) :
    e.resolve .load = .ok (.direct (some v)) := by
  unfold WiringEntry.resolve
  rw [if_pos h.direct, h.value]

theorem Adapters.serve_of_provides {e : WiringEntry} {v : Json} (h : e.Provides v) :
    a.serve ctx .load e none = pure v := by
  unfold serve
  rw [h.resolve]
  rfl

theorem outcomes_of_provides {entries : List WiringEntry} {values : List (String × Json)}
    (h : List.Forall₂ (fun e v => e.name = v.1 ∧ WiringEntry.Provides e v.2) entries values) :
    Work.outcomes s j (a.loadUnits ctx entries) = values.map fun v => (v.1, .ok v.2) := by
  induction h with
  | nil => rfl
  | @cons e v entries values hv _ ih =>
      obtain ⟨hname, hprovides⟩ := hv
      rw [Adapters.loadUnits, List.map_cons, List.map_cons, Work.outcomes_cons, hname,
        Adapters.serve_of_provides hprovides]
      exact congrArg _ ih

theorem failed_map_ok (values : List (String × Json)) :
    Outcomes.failed (values.map fun v => (v.1, .ok v.2)) = [] := by
  rw [Outcomes.failed_eq_nil_iff]
  intro o ho
  obtain ⟨v, -, rfl⟩ := List.mem_map.1 ho
  exact ⟨v.2, rfl⟩

theorem values_map_ok (values : List (String × Json)) :
    Outcomes.values (values.map fun v => (v.1, .ok v.2)) = .ofList values := by
  rw [Outcomes.values, List.filterMap_map]
  exact congrArg _ List.filterMap_some

namespace Executor

variable {x : Executor} {nested : ExecutionInput → Attempt ExecutionError ExecutionResult}
  {input : ExecutionInput} {values : List (String × Json)}

theorem loading_of_provides (h : input.wiring.Provides values) :
    x.loading ctx input s j = values.map fun v => (v.1, .ok v.2) :=
  outcomes_of_provides h.inputs

theorem shares_of_provides (h : input.wiring.Provides values) (outputs : Values) :
    shares input outputs = (.empty, outputs) := by
  rw [shares, ExecutionInput.sentEntries, h.outputs]
  rfl

theorem sending_of_provides (h : input.wiring.Provides values) (outputs : Values) :
    x.sending ctx input s j outputs = [] := by
  rw [sending, ExecutionInput.sentEntries, h.outputs]
  rfl

/-- **A run without adapters is the evaluation of its tree.** -/
theorem runWith_of_provides (x : Executor)
    (nested : ExecutionInput → Attempt ExecutionError ExecutionResult) (s : Supply) (j : Journal)
    (h : input.wiring.Provides values) (hcheck : input.check = .ok ()) :
    ∃ r, ((x.runWith nested input).resume s j).1 = .ok r ∧
      match (x.evaluation input (.ofList values)).result with
      | .error failure => Reports r .failure (some failure.message) .empty
      | .ok outputs => Reports r .ok none outputs := by
  have hphased := phased_runWith x nested input s j
  have hloading : x.loading (context input nested) input s j =
      values.map fun v => (v.1, .ok v.2) := loading_of_provides h
  have hloaded : (x.loading (context input nested) input s j).failed = [] := by
    rw [hloading, failed_map_ok]
  have hvalues : (x.loading (context input nested) input s j).values = .ofList values := by
    rw [hloading, values_map_ok]
  cases hgraph : (x.evaluation input (.ofList values)).result with
  | error failure =>
      obtain ⟨⟨r, hr, hreports⟩, -⟩ :=
        hphased.failed failure hcheck hloaded (by rw [hvalues, hgraph])
      exact ⟨r, hr, hreports⟩
  | ok outputs =>
      obtain ⟨j₁, -, -, -, hsent⟩ :=
        hphased.evaluated outputs hcheck hloaded (by rw [hvalues, hgraph])
      obtain ⟨r, hr, hreports⟩ := hsent (by rw [sending_of_provides h]; rfl)
      rw [shares_of_provides h] at hreports
      exact ⟨r, hr, hreports⟩

/-- An entry that holds its value is not a call. -/
theorem loadCalls_of_provides (h : input.wiring.Provides values) :
    x.adapters.loadCalls input.wiring.inputs = [] := by
  rw [Adapters.loadCalls, List.filterMap_eq_nil_iff]
  intro e he
  obtain ⟨v, -, -, hprovides⟩ := (exists_of_forall₂ h.inputs).1 e he
  rw [Adapters.loadCall?, hprovides.resolve]

theorem sendCalls_of_provides (h : input.wiring.Provides values) (outputs : Values) :
    x.adapters.sendCalls outputs input.sentEntries = [] := by
  rw [ExecutionInput.sentEntries, h.outputs]
  rfl

/-- **The only act of a run without adapters is its evaluation.** -/
theorem course_runWith_of_provides (x : Executor)
    (nested : ExecutionInput → Attempt ExecutionError ExecutionResult) (s : Supply) (j : Journal)
    (h : input.wiring.Provides values) (hcheck : input.check = .ok ()) :
    Journal.Course (Act.perform x (context input nested) input s) [.evaluate (.ofList values)] j
      ((x.runWith nested input).resume s j).2 := by
  have hphased := phased_runWith x nested input s j
  have hloading : x.loading (context input nested) input s j =
      values.map fun v => (v.1, .ok v.2) := loading_of_provides h
  have hloaded : (x.loading (context input nested) input s j).failed = [] := by
    rw [hloading, failed_map_ok]
  have hvalues : (x.loading (context input nested) input s j).values = .ofList values := by
    rw [hloading, values_map_ok]
  cases hgraph : (x.evaluation input (.ofList values)).result with
  | error failure =>
      obtain ⟨-, hcourse⟩ := hphased.failed failure hcheck hloaded (by rw [hvalues, hgraph])
      rwa [hvalues, loadCalls_of_provides h, List.nil_append] at hcourse
  | ok outputs =>
      obtain ⟨j₁, hcourse, hsends, -, -⟩ :=
        hphased.evaluated outputs hcheck hloaded (by rw [hvalues, hgraph])
      rw [hvalues, loadCalls_of_provides h, List.nil_append] at hcourse
      rw [sendCalls_of_provides h] at hsends
      simpa using hcourse.append hsends

/-- The bodies that a run without adapters calls. -/
theorem bodyCalls_runWith_of_provides (x : Executor)
    (nested : ExecutionInput → Attempt ExecutionError ExecutionResult) (s : Supply) (j : Journal)
    (h : input.wiring.Provides values) (hcheck : input.check = .ok ()) :
    ((x.runWith nested input).resume s j).2.bodyCalls =
      j.bodyCalls ++ bodyCalls (x.evaluation input (.ofList values)).entries := by
  have hcourse := course_runWith_of_provides x nested s j h hcheck
  rw [hcourse.bodyCalls_eq fun _ => bodyCalls (x.evaluation input (.ofList values)).entries,
    List.flatMap_singleton]
  intro act hact j'
  rw [List.mem_singleton.1 hact]
  exact Journal.bodyCalls_append _ _

end Executor

end Dataflow
