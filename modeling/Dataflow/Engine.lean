import Dataflow.Adapter.Component
import Dataflow.Execution.Executor
import Dataflow.Remote.Client
import Dataflow.Store.Closure

set_option autoImplicit false

/-! # The engine

An `Engine` prepares and runs executions of stored revisions. To prepare one it fetches the
revision and all that it nests, unfolds it, fetches the components that the wiring uses as
sources and sinks, and assembles everything into one execution input. The input then runs in
this process or on a remote runtime.
-/

namespace Dataflow

/-- The settings of an engine. -/
structure EngineConfig where
  /-- Whether components that produce plots only are run. -/
  runPurePlots : Bool
  /-- The number of executions that may run at the same time. -/
  maxConcurrent : Nat
  deriving DecidableEq

namespace EngineConfig

/-- The number of executions at the same time when nothing is configured. -/
def standardMaxConcurrent : Nat := 10

/-- The settings when nothing is configured. -/
def standard : EngineConfig := ⟨false, standardMaxConcurrent⟩

/-- Settings in which some execution may run. -/
def make (runPurePlots : Option Bool) (maxConcurrent : Option Nat) : Except String EngineConfig :=
  if maxConcurrent = some 0 then .error "Max concurrent executions must be greater than 0"
  else .ok ⟨runPurePlots.getD false, maxConcurrent.getD standardMaxConcurrent⟩

/-- Reads settings; each may be absent. -/
def ofJson? (v : Json) : Option EngineConfig := do
  let f ← v.fields? ["run_pure_plot_operators", "max_concurrent_executions"]
  let runPurePlots ← Json.optional f "run_pure_plot_operators" false Json.bool?
  let maxConcurrent ←
    Json.optional f "max_concurrent_executions" standardMaxConcurrent Json.word64?
  some ⟨runPurePlots, maxConcurrent⟩

/-- Writes settings. -/
def toJson (c : EngineConfig) : Json :=
  .object [("run_pure_plot_operators", .bool c.runPurePlots),
    ("max_concurrent_executions", .ofNat c.maxConcurrent)]

end EngineConfig

/-- What is to be executed. -/
structure ExecutionRequest where
  revision : Uuid
  /-- The wiring to use instead of that of the revision. -/
  wiring : Option Wiring
  jobId : Uuid
  /-- Whether plots are run, if it is not to be as the engine says. -/
  runPurePlots : Option Bool

/-- Where executions run. -/
inductive ExecutionMode where
  | inProcess (x : Executor)
  | remote (c : RemoteClient)

namespace ExecutionMode

/-- Whether executions run on a remote runtime. -/
def isRemote : ExecutionMode → Bool
  | inProcess _ => false
  | remote _ => true

/-- Runs an input where it is to run. -/
def dispatch (m : ExecutionMode) (input : ExecutionInput) :
    Attempt ExecutionError ExecutionResult :=
  match m with
  | inProcess x => x.run input
  | remote c => Attempt.ofTraced (c.run input)

/-- Runs an input and measures how long that takes. -/
def run (m : ExecutionMode) (input : ExecutionInput) : Attempt ExecutionError ExecutionResult := do
  let first ← Attempt.ofRun Run.now
  let result ← m.dispatch input
  let timing ← Attempt.ofRun (Run.timingSince first)
  Attempt.log (.inputRan input.jobId m.isRemote)
  return result.record .runExecutionInput timing

end ExecutionMode

/-- An engine over a store of revisions. -/
structure Engine where
  config : EngineConfig
  componentConfig : ComponentConfig
  store : RevisionStore
  mode : ExecutionMode

/-- The adapters of an engine that runs executions in this process. -/
def ComponentConfig.adapters (c : ComponentConfig) : Adapters :=
  if c.active then Adapters.empty.register c.adapter else .empty

namespace Engine

/-- An engine that runs executions in this process. -/
def inProcess (config : EngineConfig) (componentConfig : ComponentConfig) (store : RevisionStore)
    (bodies : Bodies) : Engine where
  config := config
  componentConfig := componentConfig
  store := store
  mode := .inProcess ⟨componentConfig.adapters, bodies⟩

/-! ## Preparing -/

/-- The entries of a wiring that use components, inputs first. -/
def componentEntries (w : Wiring) : List (WiringEntry × Direction) :=
  (w.inputs.map (·, Direction.load) ++ w.outputs.map (·, Direction.send)).filter
    fun e => e.1.adapterId == componentAdapterId

/-- The component that an entry uses, if it may. -/
def componentOf (e : Engine) (entry : WiringEntry) (direction : Direction) :
    Except ComponentsFault Revision := do
  let reference := entry.reference?.getD ""
  match Uuid.ofString? reference with
  | none => throw (.notAnId reference entry.name)
  | some id =>
      match e.store.get id with
      | .error cause => throw (.notLoaded id entry.name cause)
      | .ok r =>
          (e.componentConfig.accept (.ofRevision r) direction true).mapError .unsuitable
          return r

/-- The components that a wiring uses. -/
def boundComponents (e : Engine) (w : Wiring) : Except ComponentsFault (List Revision) :=
  match componentEntries w with
  | [] => .ok []
  | entries =>
      if e.componentConfig.active then entries.mapM fun b => e.componentOf b.1 b.2
      else .error .inactive

/-- The components that a wiring uses, with the log event. -/
def fetchComponents (e : Engine) (w : Wiring) : Traced ExecutionError (List Revision) := do
  let components ← (Traced.ofExcept (e.boundComponents w)).mapError .componentsNotFound
  if !components.isEmpty then Traced.log (.componentsFetched components.length)
  return components

/-- The stored revision of a request, which must be well formed. -/
def fetchRoot (e : Engine) (id : Uuid) : Except ExecutionError Revision := do
  let root ← (e.store.get id).mapError .ofModel
  root.check.mapError fun cause => .inputValidation (.model cause)
  return root

/-- The execution input of a request. -/
def prepare (e : Engine) (r : ExecutionRequest) : Traced ExecutionError ExecutionInput := do
  let root ← Traced.ofExcept (e.fetchRoot r.revision)
  let closure ← (e.store.fetchClosure root).mapError .ofModel
  let workflow ← root.flattenLogged closure
  let components ← e.fetchComponents (r.wiring.getD root.testWiring)
  let configuration : Configuration :=
    ⟨root.displayName, r.runPurePlots.getD e.config.runPurePlots⟩
  let gathered :=
    ((Assembly.start root.id |>.addRevisions [root]).addRevisions closure.values).addRevisions
      components
  let assembly : Assembly :=
    { gathered with
      wiring := r.wiring, defaultWiring := root.testWiring, configuration := some configuration }
  assembly.assembleLogged r.jobId workflow

/-! ## Executing -/

/-- Prepares and runs a request. -/
def execute (e : Engine) (r : ExecutionRequest) : Attempt ExecutionError ExecutionResult := do
  Attempt.log (.executionStarted r.revision r.jobId)
  let first ← Attempt.ofRun Run.now
  let input ← Attempt.ofTraced (e.prepare r)
  let preparing ← Attempt.ofRun (Run.timingSince first)
  let result ← e.mode.run input
  let whole ← Attempt.ofRun (Run.timingSince first)
  Attempt.log (.executionFinished r.revision r.jobId result.status)
  return ((result.withOutputTypes input.workflow.interface).record .prepareExecutionInput
    preparing).record .internalFull whole

end Engine

end Dataflow
