import Dataflow.Journal.Traced

set_option autoImplicit false

/-! # Executions as computations

A `Run` computes with what an execution takes from its surroundings: fresh identities and the
time of day. Both come from a `Supply` of endless sequences, of which a run takes one element
after another; the `Journal` counts them and keeps the entries left so far. An `Attempt` is a
run that may fail; a failure keeps its journal.
-/

namespace Dataflow

/-- The surroundings of an execution. -/
structure Supply where
  /-- Fresh identities of operators. -/
  operatorId : Nat → Uuid
  /-- Fresh identities of jobs and revision groups. -/
  randomId : Nat → Uuid
  /-- The readings of the clock. -/
  clock : Nat → Timestamp

/-- What a run has done so far. -/
structure Journal where
  entries : Array Entry
  operatorIds : Nat
  randomIds : Nat
  readings : Nat

/-- The journal of a run that has not begun. -/
def Journal.empty : Journal := ⟨#[], 0, 0, 0⟩

/-- A computation that draws on its surroundings and keeps a journal. -/
abbrev Run := ReaderT Supply (StateM Journal)

namespace Run

variable {α : Type}

/-- The outcome and the journal of a run from its beginning. -/
def start (r : Run α) (s : Supply) : α × Journal := (r.run s).run .empty

/-- Leaves one entry. -/
def leave (e : Entry) : Run Unit := modify fun j => { j with entries := j.entries.push e }

/-- A fresh identity of an operator. -/
def freshOperatorId : Run OperatorId := do
  let s ← read
  let j ← get
  set { j with operatorIds := j.operatorIds + 1 }
  return s.operatorId j.operatorIds

/-- A fresh identity of a job or a revision group. -/
def freshId : Run Uuid := do
  let s ← read
  let j ← get
  set { j with randomIds := j.randomIds + 1 }
  return s.randomId j.randomIds

/-- The time of day. -/
def now : Run Timestamp := do
  let s ← read
  let j ← get
  set { j with readings := j.readings + 1 }
  return s.clock j.readings

/-- The timing of a phase that began at `first` and ends now. -/
def timingSince (first : Timestamp) : Run Timing := do
  return .between first (← now)

end Run

/-- A run that may fail. -/
abbrev Attempt (ε : Type) := ExceptT ε Run

namespace Attempt

variable {ε ε' α : Type}

/-- Leaves one entry. -/
def leave (e : Entry) : Attempt ε Unit := ExceptT.lift (Run.leave e)

/-- Leaves one log event. -/
def log (e : Event) : Attempt ε Unit := leave (.event e)

/-- A step that cannot fail. -/
def ofRun (r : Run α) : Attempt ε α := ExceptT.lift r

/-- A result that needs nothing from its surroundings. -/
def ofExcept (r : Except ε α) : Attempt ε α := ExceptT.mk (pure r)

/-- Takes over the entries of a traced computation, and its result. -/
def ofTraced (t : Traced ε α) : Attempt ε α := ExceptT.mk do
  modify fun j => { j with entries := j.entries ++ t.entries }
  return t.result

/-- The outcome of an attempt, which itself cannot fail. -/
def outcome (a : Attempt ε α) : Run (Except ε α) := a.run

/-- An attempt with its failure reworded. -/
def mapError (f : ε → ε') (a : Attempt ε α) : Attempt ε' α :=
  ExceptT.mk do return (← a.outcome).mapError f

end Attempt

end Dataflow
