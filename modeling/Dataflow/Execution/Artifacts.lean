import Dataflow.Execution.Input

set_option autoImplicit false

/-! # Artifacts

`Artifacts` are code modules and component records by identifier; of equal identifiers the
first one added stays. An `Assembly` gathers the artifacts of one execution, from the main
graph and from components used by adapters alike, and makes them into an execution input.
-/

namespace Dataflow

/-- Code modules and component records by identifier. -/
structure Artifacts where
  codeModules : Dict Uuid CodeModule
  components : Dict Uuid ComponentRecord

namespace Artifacts

/-- No artifacts. -/
def empty : Artifacts := ⟨.empty, .empty⟩

/-- Adds code modules whose identifiers are new. -/
def addCodeModules (a : Artifacts) (l : List CodeModule) : Artifacts :=
  { a with codeModules := l.foldl (fun d m => d.insertNew m.id m) a.codeModules }

/-- Adds component records whose identifiers are new. -/
def addComponents (a : Artifacts) (l : List ComponentRecord) : Artifacts :=
  { a with components := l.foldl (fun d c => d.insertNew c.id c) a.components }

/-- The module and the record of a component revision; other revisions have none. -/
def ofRevision? (r : Revision) : Option (CodeModule × ComponentRecord) := do
  let m ← CodeModule.ofRevision? r
  let c ← ComponentRecord.ofRevision? r
  some (m, c)

/-- Adds the artifacts of component revisions whose identifiers are new. -/
def addRevisions (a : Artifacts) (l : List Revision) : Artifacts :=
  let found := l.filterMap ofRevision?
  (a.addCodeModules (found.map (·.1))).addComponents (found.map (·.2))

/-- The artifacts of two lists. -/
def ofLists (codeModules : List CodeModule) (components : List ComponentRecord) : Artifacts :=
  (empty.addCodeModules codeModules).addComponents components

/-- The artifacts that an execution input carries. -/
def ofInput (x : ExecutionInput) : Artifacts := ofLists x.codeModules x.components

/-- The code module with an identifier. -/
def codeModule? (a : Artifacts) (id : Uuid) : Option CodeModule := a.codeModules.get? id

/-- The component record with an identifier. -/
def component? (a : Artifacts) (id : Uuid) : Option ComponentRecord := a.components.get? id

end Artifacts

/-- What has been gathered for one execution. -/
structure Assembly where
  rootId : Uuid
  artifacts : Artifacts
  /-- The explicit wiring; without one the default wiring counts. -/
  wiring : Option Wiring
  defaultWiring : Wiring
  configuration : Option Configuration

namespace Assembly

/-- The beginning of an assembly for a revision. -/
def start (rootId : Uuid) : Assembly := ⟨rootId, .empty, none, .empty, none⟩

/-- Adds the artifacts of component revisions. -/
def addRevisions (a : Assembly) (l : List Revision) : Assembly :=
  { a with artifacts := a.artifacts.addRevisions l }

/-- The execution input, before it is checked. -/
def build (a : Assembly) (jobId : Uuid) (workflow : Node) : ExecutionInput where
  codeModules := a.artifacts.codeModules.values
  components := a.artifacts.components.values
  workflow := workflow
  configuration := a.configuration.getD ⟨toString a.rootId, false⟩
  wiring := a.wiring.getD a.defaultWiring
  jobId := jobId
  rootId := a.rootId

/-- The execution input, if it is consistent. -/
def assemble (a : Assembly) (jobId : Uuid) (workflow : Node) : Except InputFault ExecutionInput :=
  let x := a.build jobId workflow
  match x.defect? with
  | some fault => .error fault
  | none => .ok x

end Assembly

end Dataflow
