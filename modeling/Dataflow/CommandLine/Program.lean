import Dataflow.CommandLine.Catalog
import Dataflow.CommandLine.Options
import Dataflow.Component.Structure

set_option autoImplicit false

/-! # The program

The program reads its options, loads the catalog and carries out its command: it executes a
revision, lists what there is to bind, or shows what the runtime says about itself. What it
finds is written as JSON; a failure is written with all that lies behind it.
-/

namespace Dataflow

/-- What the program sees of the world outside, its files and the network. -/
structure Surroundings where
  files : Files
  env : String → Option String
  transport : Request → Option Response

/-- What the program leaves behind. -/
structure Outcome where
  exitCode : Nat
  stdout : String
  stderr : String
  deriving DecidableEq

namespace Program

/-- An error of an execution as a failure of the program. -/
def failureOf (e : ExecutionError) : Failure := ⟨e.message :: e.causes⟩

/-- An error of an execution as the failure of what the program was doing. -/
def failureDuring (activity : String) (e : ExecutionError) : Failure :=
  (failureOf e).during activity

/-- The client of the remote runtime, if one is configured. -/
def client? (o : Options) (s : Surroundings) : Traced Failure (Option RemoteClient) :=
  if o.remote.isRemote then
    ((RemoteClient.create o.remote (.ofToken? o.runtimeToken) s.transport).mapError
      (failureDuring "failed to create remote runtime client")) >>= fun c => return some c
  else return none

/-- The settings of the engine. -/
def engineConfig (o : Options) : Except Failure EngineConfig :=
  o.engineConfig.mapError fun cause => ⟨["invalid engine configuration", cause]⟩

/-- The engine that executes revisions of a store. -/
def engine (o : Options) (s : Surroundings) (store : RevisionStore) : Traced Failure Engine := do
  let config ← Traced.ofExcept (engineConfig o)
  match ← client? o s with
  | some c => return ⟨config, o.component, store, .remote c⟩
  | none => return .inProcess config o.component store .standard

/-- Reads a wiring from a file. -/
def readWiring (files : Files) (path : String) : Except Failure Wiring :=
  match files.read path with
  | .error fault => .error ⟨["failed to read wiring " ++ path, fault.message]⟩
  | .ok bytes =>
      match (Json.parseBytes? Wiring.outline bytes).bind Wiring.ofJson? with
      | some w => .ok w
      | none => .error ⟨["invalid wiring " ++ path]⟩

/-- Executes a revision. -/
def execute (o : Options) (s : Surroundings) (store : RevisionStore) (revision : Uuid)
    (wiring : Option String) (jobId : Option Uuid) (runPurePlots : Bool) :
    Attempt Failure Json := do
  let engine ← Attempt.ofTraced (engine o s store)
  let freshJob ← Attempt.ofRun Run.freshId
  let wiring ← wiring.mapM fun path => Attempt.ofExcept (readWiring s.files path)
  let request : ExecutionRequest :=
    { revision, wiring, jobId := jobId.getD freshJob, runPurePlots := some runPurePlots }
  let result ← (engine.execute request).mapError (failureDuring "execution failed")
  return result.toJson

/-- What the runtime says about itself. -/
def info (o : Options) (s : Surroundings) : Traced Failure Json := do
  match ← client? o s with
  | some c => return (← c.info.mapError failureOf).toJson
  | none => return RuntimeInfo.current.toJson

/-- Lists entries. -/
def listing {α : Type} (toJson : α → Json) (r : Except ExecutionError α) : Except Failure Json :=
  (r.mapError failureOf).map toJson

/-- Carries out a command on loaded revisions. -/
def perform (o : Options) (s : Surroundings) (store : RevisionStore) : Attempt Failure Json :=
  match o.command with
  | .run revision wiring jobId runPurePlots =>
      execute o s store revision wiring jobId runPurePlots
  | .structureBelow parent =>
      Attempt.ofExcept (listing StructureListing.toJson (o.component.structureBelow store parent))
  | .sources filter =>
      Attempt.ofExcept <|
        listing (.ofList StructureEntry.toJson) (o.component.entriesByName store .load filter)
  | .sinks filter =>
      Attempt.ofExcept <|
        listing (.ofList StructureEntry.toJson) (o.component.entriesByName store .send filter)
  | .info => Attempt.ofTraced (info o s)

/-- Carries out what the options say. -/
def run (o : Options) (s : Surroundings) : Attempt Failure Json := do
  o.events.forM Attempt.log
  let store ← Attempt.ofTraced <|
    (Catalog.load s.files o.catalogDir).mapError fun f => f.during "failed to load revision catalog"
  perform o s store.toStore

/-- What is written for a command line that is not carried out. -/
def refused : Refusal → Outcome
  | .usage => ⟨2, "", "error: the command line is not well formed\n"⟩
  | .help => ⟨0, "Usage: cascade [OPTIONS] <COMMAND>\n", ""⟩
  | .version => ⟨0, "cascade " ++ toString Version.current ++ "\n", ""⟩

/-- What is written for the end of a run. -/
def outcomeOf : Except Failure Json → Outcome
  | .ok v => ⟨0, v.renderIndented ++ "\n", ""⟩
  | .error f => ⟨1, "", "Error: " ++ f.message ++ "\n"⟩

/-- Runs the program on the words of a command line. -/
def start (words : List String) (s : Surroundings) : Run Outcome :=
  match Options.parse words s.env with
  | .error refusal => return refused refusal
  | .ok o => return outcomeOf (← (run o s).outcome)

end Program

end Dataflow
