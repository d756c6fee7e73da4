import Dataflow.CommandLine.Grammar
import Dataflow.Component.Config
import Dataflow.Engine

set_option autoImplicit false

/-! # Options of the program

The options say where the catalog of revisions is, how components may be used as sources and
sinks, and where executions run; the command says what to do. Most options can be given by a
variable of the environment instead.
-/

namespace Dataflow

/-- What the program is to do. -/
inductive Command where
  /-- Execute a revision. -/
  | run (revision : Uuid) (wiring : Option String) (jobId : Option Uuid) (runPurePlots : Bool)
  /-- List what stands at the root, or below a category. -/
  | structureBelow (parent : Option String)
  /-- List sources, filtered by name. -/
  | sources (filter : Option String)
  /-- List sinks, filtered by name. -/
  | sinks (filter : Option String)
  /-- Show what the runtime says about itself. -/
  | info

/-- The options of the program. -/
structure Options where
  catalogDir : String
  jsonLogs : Bool
  runtimeToken : Option String
  maxConcurrent : Nat
  component : ComponentConfig
  remote : RemoteConfig
  command : Command

namespace Options

/-! ## Forms of values -/

/-- A number that fits a word of 64 bits; a plus sign may stand before it. -/
def word64? (s : String) : Option Nat :=
  match Decimal.splitSign s.toList with
  | (false, ds) =>
      if ds.all Decimal.isDigit && !ds.isEmpty then
        some (Decimal.valueOf ds) |>.filter (· < 2 ^ 64)
      else none
  | (true, _) => none

/-- A truth value by its exact name. -/
def bool? (s : String) : Option Bool :=
  if s = "true" then some true else if s = "false" then some false else none

/-- Any text. -/
def anyText : ValueForm := .single fun _ => true

/-- A path, which is not empty. -/
def path : ValueForm := .single fun s => s ≠ ""

/-- A truth value. -/
def truthValue : ValueForm := .single fun s => (bool? s).isSome

/-- A number that fits a word of 64 bits. -/
def wordValue : ValueForm := .single fun s => (word64? s).isSome

/-- An identifier. -/
def identifier : ValueForm := .single fun s => (Uuid.ofString? s).isSome

/-! ## Grammars -/

/-- The options that stand before the command. -/
def grammar : Grammar where
  options :=
    [⟨"catalog-dir", some "CASCADE_CATALOG_DIR", path⟩,
     ⟨"log-format", some "CASCADE_LOG_FORMAT", .single fun s => s = "text" || s = "json"⟩,
     ⟨"runtime-token", some "RUNTIME_TOKEN", anyText⟩,
     ⟨"max-concurrent-executions", some "CASCADE_MAX_CONCURRENT_EXECUTIONS", wordValue⟩,
     ⟨"component-adapter-active", some "COMPONENT_ADAPTER_ACTIVE", truthValue⟩,
     ⟨"component-adapter-allow-draft-components",
       some "COMPONENT_ADAPTER_ALLOW_DRAFT_COMPONENTS", truthValue⟩,
     ⟨"component-adapter-allowed-source-categories",
       some "COMPONENT_ADAPTER_ALLOWED_SOURCE_CATEGORIES", .list⟩,
     ⟨"component-adapter-allowed-sink-categories",
       some "COMPONENT_ADAPTER_ALLOWED_SINK_CATEGORIES", .list⟩,
     ⟨"runtime-url", some "RUNTIME_URL", anyText⟩,
     ⟨"runtime-timeout", some "RUNTIME_TIMEOUT", wordValue⟩,
     ⟨"runtime-user-agent", some "RUNTIME_USER_AGENT", anyText⟩]
  positional := none
  commands := ["run", "structure", "sources", "sinks", "info"]
  showsVersion := true

/-- A grammar without commands. -/
def commandGrammar (options : List OptionSpec) (positional : Option OptionSpec) : Grammar :=
  ⟨options, positional, [], false⟩

/-- What follows the command `run`. -/
def runGrammar : Grammar :=
  commandGrammar
    [⟨"wiring", none, path⟩, ⟨"job-id", none, identifier⟩,
     ⟨"run-pure-plot-operators", none, .flag⟩]
    (some ⟨"revision", none, identifier⟩)

/-- What follows the command `structure`. -/
def structureGrammar : Grammar := commandGrammar [] (some ⟨"parent", none, anyText⟩)

/-- What follows a command that lists by name. -/
def filterGrammar : Grammar := commandGrammar [⟨"filter", none, anyText⟩] none

/-! ## Reading -/

/-- Reads the words after the command `run`. -/
def readRun (words : List String) : Except Refusal Command := do
  let given ← runGrammar.read words
  match (given.lookup "revision").bind Uuid.ofString? with
  | some revision =>
      return .run revision (given.lookup "wiring") ((given.lookup "job-id").bind Uuid.ofString?)
        (given.lookup "run-pure-plot-operators").isSome
  | none => throw .usage

/-- Reads a command and the words after it. -/
def readCommand (name : String) (words : List String) : Except Refusal Command :=
  if name = "run" then readRun words
  else if name = "structure" then
    (structureGrammar.read words).map fun given => .structureBelow (given.lookup "parent")
  else if name = "sources" then
    (filterGrammar.read words).map fun given => .sources (given.lookup "filter")
  else if name = "sinks" then
    (filterGrammar.read words).map fun given => .sinks (given.lookup "filter")
  else ((commandGrammar [] none).read words).map fun _ => .info

/-- The restrictions on components that given options make. -/
def componentConfig (given : Given) : ComponentConfig where
  active := ((given.lookup "component-adapter-active").bind bool?).getD true
  allowDrafts := ((given.lookup "component-adapter-allow-draft-components").bind bool?).getD false
  sourceCategories := given.names? "component-adapter-allowed-source-categories"
  sinkCategories := given.names? "component-adapter-allowed-sink-categories"

/-- The settings of a remote runtime that given options make. -/
def remoteConfig (given : Given) : RemoteConfig where
  url := given.lookup "runtime-url"
  timeout := ((given.lookup "runtime-timeout").bind word64?).getD RemoteConfig.standardTimeout
  userAgent := given.lookup "runtime-user-agent"

/-- The options of given values. -/
def ofGiven (given : Given) (command : Command) : Options where
  catalogDir := (given.lookup "catalog-dir").getD "catalog"
  jsonLogs := given.lookup "log-format" = some "json"
  runtimeToken := given.lookup "runtime-token"
  maxConcurrent :=
    ((given.lookup "max-concurrent-executions").bind word64?).getD
      EngineConfig.standardMaxConcurrent
  component := componentConfig given
  remote := remoteConfig given
  command := command

/-- Reads the words of a command line in an environment. -/
def parse (words : List String) (env : String → Option String) : Except Refusal Options := do
  let s ← grammar.scan words .empty
  match s.command with
  | none => throw .usage
  | some (name, rest) =>
      let command ← readCommand name rest
      let s ← s.settle
      let given ← grammar.withEnvironment env s.given
      return ofGiven given command

/-- Whether the command asks for plots to be run. -/
def runsPurePlots (o : Options) : Bool :=
  match o.command with
  | .run _ _ _ runPurePlots => runPurePlots
  | _ => false

/-- The settings of the engine. -/
def engineConfig (o : Options) : Except String EngineConfig :=
  EngineConfig.make (some o.runsPurePlots) (some o.maxConcurrent)

/-- What the log says about the options; a token is not shown. -/
def events (o : Options) : List Event :=
  [.programStarted (toString Version.current),
   .configured o.catalogDir o.remote.isRemote o.runtimeToken.isSome o.component.active
     o.component.allowDrafts]

end Options

end Dataflow
