import Dataflow.Proofs.Execution.Typed

set_option autoImplicit false

/-! # How deep executions nest

The adapter of components starts executions from within an execution. The bound that `Executor.run`
sets on this is never reached: an execution that serves a binding holds all of its values, so
that it asks no adapter (`Executor.Unassisted`), and what would run an execution from within it
makes no difference. So it does not matter what is done below the first level of nesting, and a
run is the only solution of the equation by which it calls itself (`Executor.run_nests_once`).
-/

namespace Dataflow

/-! ## Adapters that start certain executions -/

/-- A way to run an execution. -/
abbrev Runner := ExecutionInput → Attempt ExecutionError ExecutionResult

/-- An adapter starts certain executions only: it is the same whatever runs any others. -/
structure Adapter.Confined (a : Adapter) (starts : ExecutionInput → Prop) : Prop where
  load : ∀ artifacts (f g : Runner), (∀ y, starts y → f y = g y) →
    a.load ⟨artifacts, f⟩ = a.load ⟨artifacts, g⟩
  send : ∀ artifacts (f g : Runner), (∀ y, starts y → f y = g y) →
    a.send ⟨artifacts, f⟩ = a.send ⟨artifacts, g⟩

theorem Adapter.Confined.mono {a : Adapter} {starts starts' : ExecutionInput → Prop}
    (h : a.Confined starts) (hmono : ∀ y, starts y → starts' y) : a.Confined starts' where
  load artifacts f g hagree := h.load artifacts f g fun y hy => hagree y (hmono y hy)
  send artifacts f g hagree := h.send artifacts f g fun y hy => hagree y (hmono y hy)

/-- An adapter that starts no executions. -/
def Adapter.StartsNone (a : Adapter) : Prop := a.Confined fun _ => False

/-- How a run ends depends on how its outputs are sent. -/
theorem Executor.conclude_congr {x x' : Executor} {ctx ctx' : AdapterContext}
    {input : ExecutionInput}
    (h : ∀ outputs, x.finish ctx input outputs = x'.finish ctx' input outputs) :
    x.conclude ctx input = x'.conclude ctx' input := by
  funext loading running outcome
  cases outcome with
  | error failure => rfl
  | ok outputs =>
      show (x.finish ctx input outputs >>= _) = x'.finish ctx' input outputs >>= _
      rw [h]

section Serving

variable {starts : ExecutionInput → Prop} {artifacts : Artifacts} {f g : Runner}
  (hagree : ∀ y, starts y → f y = g y)

include hagree

namespace Adapter

variable {a : Adapter} (hconfined : a.Confined starts)

include hconfined

theorem loadOne_agreeing (name : String) (d : Descriptor) :
    a.loadOne ⟨artifacts, f⟩ name d = a.loadOne ⟨artifacts, g⟩ name d := by
  unfold loadOne
  rw [hconfined.load artifacts f g hagree]

theorem sendOne_agreeing (name : String) (d : Descriptor) (v : Json) :
    a.sendOne ⟨artifacts, f⟩ name d v = a.sendOne ⟨artifacts, g⟩ name d v := by
  unfold sendOne
  rw [hconfined.send artifacts f g hagree]

end Adapter

namespace Adapters

variable {a : Adapters} (hadapters : ∀ id adapter, a.get? id = some adapter →
  adapter.Confined starts)

include hadapters

theorem serve_agreeing (direction : Direction) (e : WiringEntry) (value : Option Json) :
    a.serve ⟨artifacts, f⟩ direction e value = a.serve ⟨artifacts, g⟩ direction e value := by
  unfold serve
  cases e.resolve direction with
  | error fault => rfl
  | ok binding =>
      cases binding with
      | direct v => rfl
      | adapter id d =>
          show a.hand _ direction e.name id d value = a.hand _ direction e.name id d value
          unfold hand
          cases hget : a.get? id with
          | none => rfl
          | some adapter =>
              have hconfined := hadapters id adapter hget
              cases direction with
              | load => exact Adapter.loadOne_agreeing hagree hconfined e.name d
              | send =>
                  cases value with
                  | none => rfl
                  | some v => exact Adapter.sendOne_agreeing hagree hconfined e.name d v

theorem load_agreeing : a.load ⟨artifacts, f⟩ = a.load ⟨artifacts, g⟩ := by
  funext entries
  unfold load
  simp only [serve_agreeing hagree hadapters]

theorem send_agreeing : a.send ⟨artifacts, f⟩ = a.send ⟨artifacts, g⟩ := by
  funext entries values
  unfold send
  simp only [serve_agreeing hagree hadapters]

end Adapters

/-- A run is the same whatever runs executions that its adapters do not start. -/
theorem Executor.runWith_agreeing {x : Executor}
    (hadapters : ∀ id a, x.adapters.get? id = some a → a.Confined starts) :
    x.runWith f = x.runWith g := by
  funext input
  have hload : x.adapters.load (context input f) = x.adapters.load (context input g) :=
    Adapters.load_agreeing hagree hadapters
  have hsend : x.adapters.send (context input f) = x.adapters.send (context input g) :=
    Adapters.send_agreeing hagree hadapters
  have hconclude : x.conclude (context input f) input = x.conclude (context input g) input := by
    refine conclude_congr fun outputs => ?_
    rw [finish_eq, finish_eq, hsend]
  rw [runWith_eq, runWith_eq, hload, hconclude]

end Serving

/-! ## The adapter of components -/

namespace ComponentConfig

/-- The executions that serve a binding, whatever artifacts there are. -/
def Built (y : ExecutionInput) : Prop := ∃ artifacts, BuiltFrom artifacts y

variable {c : ComponentConfig} {artifacts : Artifacts} {f g : Runner}

theorem runBinding_agreeing (hagree : ∀ y, Built y → f y = g y) (direction : Direction)
    (d : Descriptor) (sent : Option Json) :
    c.runBinding ⟨artifacts, f⟩ direction d sent = c.runBinding ⟨artifacts, g⟩ direction d sent := by
  unfold runBinding
  refine bind_congr fun operatorId => bind_congr fun jobId => ?_
  refine Attempt.bind_congr_of_ok fun s j y j' hy => ?_
  have hbuilt : Built y := by
    have hresult := congrArg Prod.fst hy
    rw [Attempt.resume_mapError] at hresult
    exact ⟨artifacts, c, direction, d, sent, operatorId, jobId, mapError_eq_ok.1 hresult⟩
  show (Attempt.log _ >>= fun _ => (f y).mapError _ >>= _) =
    Attempt.log _ >>= fun _ => (g y).mapError _ >>= _
  rw [hagree y hbuilt]

/-- **The adapter of components starts executions of bindings only.** -/
theorem confined_adapter (c : ComponentConfig) : c.adapter.Confined Built where
  load artifacts f g hagree := by
    funext bindings
    show c.loadBindings ⟨artifacts, f⟩ bindings = c.loadBindings ⟨artifacts, g⟩ bindings
    unfold loadBindings
    simp only [runBinding_agreeing hagree]
  send artifacts f g hagree := by
    funext bindings values
    show c.sendBindings ⟨artifacts, f⟩ bindings values =
      c.sendBindings ⟨artifacts, g⟩ bindings values
    unfold sendBindings sendBinding
    simp only [runBinding_agreeing hagree]

end ComponentConfig

/-! ## Executions that hold all of their values -/

/-- Whether an entry says that an adapter was called. -/
def Entry.isAdapterCall : Entry → Bool
  | .loadCalled .. => true
  | .sendCalled .. => true
  | _ => false

/-- Values that are in the wiring are handed through. -/
theorem Adapters.loadUnits_of_provides {a : Adapters} {ctx : AdapterContext}
    {entries : List WiringEntry} {values : List (String × Json)}
    (h : List.Forall₂ (fun e v => e.name = v.1 ∧ WiringEntry.Provides e v.2) entries values) :
    a.loadUnits ctx entries = values.map fun v => (v.1, pure v.2) := by
  induction h with
  | nil => rfl
  | @cons e v entries values hv _ ih =>
      obtain ⟨hname, hprovides⟩ := hv
      have hfirst : ((e.name, a.serve ctx .load e none) : Work) = (v.1, pure v.2) := by
        rw [hname, serve_of_provides hprovides]
      calc a.loadUnits ctx (e :: entries)
          = (e.name, a.serve ctx .load e none) :: a.loadUnits ctx entries := rfl
        _ = (v.1, pure v.2) :: values.map fun v => (v.1, pure v.2) := by rw [hfirst, ih]

namespace Executor

section Provided

variable {bodies : Bodies} {adapters adapters' : Adapters} {nested nested' : Runner}
  {input : ExecutionInput} {values : List (String × Json)}

/-- An execution that holds its values goes the same way whatever there is to ask for values and
to run further executions. -/
theorem runWith_eq_of_provides (h : input.wiring.Provides values) :
    runWith ⟨adapters, bodies⟩ nested input = runWith ⟨adapters', bodies⟩ nested' input := by
  have hload : adapters.load (context input nested) input.wiring.inputs =
      adapters'.load (context input nested') input.wiring.inputs := by
    rw [Adapters.load_eq, Adapters.load_eq, Adapters.loadUnits_of_provides h.inputs,
      Adapters.loadUnits_of_provides h.inputs]
  -- no adapter has a part in the last phase, since no output is wired
  have hsent : input.sentEntries = [] := by
    rw [ExecutionInput.sentEntries, h.outputs]
    rfl
  have hconclude : conclude ⟨adapters, bodies⟩ (context input nested) input =
      conclude ⟨adapters', bodies⟩ (context input nested') input := by
    refine conclude_congr fun outputs => ?_
    rw [finish_eq, finish_eq, hsent]
    rfl
  rw [runWith_eq, runWith_eq, hconclude]
  show (_ >>= fun _ => _ >>= fun _ =>
    (adapters.load (context input nested) input.wiring.inputs).mapError _ >>= _) = _
  rw [hload]
  rfl

/-- It calls no adapter. -/
theorem leaves_runWith_of_provides (x : Executor) (nested : Runner)
    (h : input.wiring.Provides values) (hcheck : input.check = .ok ()) :
    (x.runWith nested input).Leaves fun entry => entry.isAdapterCall = false := by
  intro s j
  have hcourse := course_runWith_of_provides x nested s j h hcheck
  refine hcourse.grows (fun _ => rfl) fun act hact j' => ?_
  rw [List.mem_singleton.1 hact]
  have hevaluation : (x.evaluation input (.ofList values)).Leaves
      fun entry => entry.isAdapterCall = false := by
    refine Node.leaves_evaluate (fun _ => rfl) (fun c _ provided => ?_) _
    exact c.leaves_evaluate (fun _ => rfl) fun _ _ => rfl
  exact j'.grows_append hevaluation

end Provided

/-- An execution that needs no adapter: its inputs are provided in the wiring, each with a value,
and its outputs are not wired. It goes the same way whatever adapters there are and whatever runs
further executions, and leaves no call of an adapter. -/
structure Unassisted (bodies : Bodies) (y : ExecutionInput) : Prop where
  provided : ∀ e ∈ y.wiring.inputs, e.isDirect = true ∧
    ∃ v, e.descriptor.filters.get? valueFilter = some v
  unwired : y.wiring.outputs = []
  independent : ∀ adapters adapters' nested nested',
    runWith ⟨adapters, bodies⟩ nested y = runWith ⟨adapters', bodies⟩ nested' y
  silent : ∀ adapters nested,
    (runWith ⟨adapters, bodies⟩ nested y).Leaves fun entry => entry.isAdapterCall = false

theorem unassisted_of_built {y : ExecutionInput} (h : ComponentConfig.Built y)
    (bodies : Bodies) : Unassisted bodies y := by
  obtain ⟨artifacts, c, direction, d, sent, operatorId, jobId, hy⟩ := h
  obtain ⟨hcheck, hprovides⟩ := ComponentConfig.provides_of_bindingExecution hy
  refine ⟨fun e he => ?_, hprovides.outputs, fun _ _ _ _ => runWith_eq_of_provides hprovides,
    fun _ _ => leaves_runWith_of_provides _ _ hprovides hcheck⟩
  obtain ⟨v, -, -, hvalue⟩ := (exists_of_forall₂ hprovides.inputs).1 e he
  exact ⟨hvalue.direct, v.2, hvalue.value⟩

/-! ## Runs of any depth -/

/-- Runs an input where executions nest as deep as a number says, and `below` takes the place of
those that nest deeper. -/
def runAbove (x : Executor) (below : Runner) : Nat → Runner
  | 0 => below
  | depth + 1 => x.runWith (x.runAbove below depth)

/-- The bound of the executor is one choice of what to do below. -/
theorem runNested_eq (x : Executor) (depth : Nat) :
    x.runNested depth = x.runAbove (fun _ => throw (.internal .nesting)) depth := by
  induction depth with
  | zero => rfl
  | succ depth ih =>
      funext input
      show x.runWith (x.runNested depth) input = _
      rw [ih]
      rfl

/-- What is done below the first level of nesting makes no difference. -/
theorem runAbove_eq {x : Executor}
    (hadapters : ∀ id a, x.adapters.get? id = some a → a.Confined ComponentConfig.Built)
    (below below' : Runner) (depth depth' : Nat) :
    x.runAbove below (depth + 2) = x.runAbove below' (depth' + 2) := by
  refine runWith_agreeing (fun y hy => ?_) hadapters
  -- a nested execution asks no adapter, so that nothing is run from within it
  exact (unassisted_of_built hy x.bodies).independent x.adapters x.adapters _ _

/-- **Executions nest at most one level deep, and so they end.** Where all adapters but that of
components start no executions, it does not matter how deep executions may nest beyond the first
level, nor what is done about those that would nest deeper: each run is the same. A run therefore
satisfies the equation by which it calls itself without any bound, and nothing else does. The
reason is that an execution that serves a binding needs no adapter. -/
theorem run_nests_once {x : Executor}
    (hadapters : ∀ id a, x.adapters.get? id = some a →
      (∃ c : ComponentConfig, a = c.adapter) ∨ a.StartsNone) :
    (∀ below depth input, x.runAbove below (depth + 2) input = x.run input) ∧
    (∀ run : Runner, (∀ input, run input = x.runWith run input) ↔ run = x.run) ∧
    ∀ (c : ComponentConfig) artifacts direction d sent operatorId jobId y,
      (c.bindingExecution artifacts direction d sent operatorId jobId).result = .ok y →
        Unassisted x.bodies y := by
  have hconfined : ∀ id a, x.adapters.get? id = some a → a.Confined ComponentConfig.Built := by
    intro id a hget
    rcases hadapters id a hget with ⟨c, rfl⟩ | hnone
    · exact c.confined_adapter
    · exact hnone.mono fun y hy => hy.elim
  have hsame : ∀ below depth, x.runAbove below (depth + 2) = x.run := by
    intro below depth
    have hrun : x.run = x.runAbove (fun _ => throw (.internal .nesting)) (0 + 2) :=
      x.runNested_eq 2
    rw [hrun]
    exact runAbove_eq hconfined below _ depth 0
  refine ⟨fun below depth input => congrFun (hsame below depth) input, fun run => ⟨?_, ?_⟩, ?_⟩
  · intro hequation
    -- a solution is two levels over itself, and what is below them does not matter
    have hrun : run = x.runWith run := funext hequation
    calc run = x.runWith run := hrun
      _ = x.runWith (x.runWith run) := congrArg x.runWith hrun
      _ = x.runAbove run (0 + 2) := rfl
      _ = x.run := hsame run 0
  · rintro rfl input
    calc x.run input = x.runAbove x.run (1 + 2) input := by rw [hsame x.run 1]
      _ = x.runWith (x.runAbove x.run (0 + 2)) input := rfl
      _ = x.runWith x.run input := by rw [hsame x.run 0]
  · intro c artifacts direction d sent operatorId jobId y hy
    exact unassisted_of_built ⟨artifacts, c, direction, d, sent, operatorId, jobId, hy⟩ x.bodies

/-- An executor with the adapter of components and one that starts no executions. -/
def echoingExecutor : Executor :=
  ⟨.ofList [echo, ComponentConfig.standard.adapter], .standard⟩

/-- The directions of the executions that a journal says were started for bindings. -/
def startedBy (j : Journal) : List Direction :=
  j.entries.toList.filterMap fun entry =>
    match entry with
    | .event (.subExecutionStarted direction _ _) => some direction
    | _ => none

/-- The source of the sample is an execution of its own, and may as well nest four levels deep. -/
theorem run_nests_once_sample :
    (∀ below, echoingExecutor.runAbove below 4 typedInput = echoingExecutor.run typedInput) ∧
      startedBy ((echoingExecutor.run typedInput).resume countingSupply .empty).2 = [.load] := by
  have hadapters : ∀ id a, echoingExecutor.adapters.get? id = some a →
      (∃ c : ComponentConfig, a = c.adapter) ∨ a.StartsNone := by
    intro id a hget
    have hlookup : echoingExecutor.adapters.get? id =
        if id = componentAdapterId then some ComponentConfig.standard.adapter
        else if id = echo.id then some echo else none := by
      show (((Dict.empty.insert echo.id echo).insert componentAdapterId
        ComponentConfig.standard.adapter).get? id) = _
      rw [Dict.get?_insert, Dict.get?_insert, Dict.get?_empty]
    rw [hlookup] at hget
    split at hget
    · exact .inl ⟨.standard, (Option.some.inj hget).symm⟩
    · split at hget
      · obtain rfl := Option.some.inj hget
        exact .inr ⟨fun _ _ _ _ => rfl, fun _ _ _ _ => rfl⟩
      · cases hget
  obtain ⟨hbelow, -, -⟩ := run_nests_once hadapters
  refine ⟨fun below => hbelow below 2 typedInput, ?_⟩
  decide +kernel

end Executor

end Dataflow
