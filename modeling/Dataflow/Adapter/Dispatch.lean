import Dataflow.Adapter.Basic

set_option autoImplicit false

/-! # Serving the bindings of a wiring

Every entry of a wiring is served on its own, whatever happens to the others. If all succeed,
their values are gathered by name; if any fails, the failures are, and no value is kept. Of
entries with the same name the last one counts.
-/

namespace Dataflow

/-! ## Several bindings -/

/-- How the serving of one binding ended, by the name of the binding. -/
abbrev Outcomes := List (String × Except BindingFailure Json)

namespace Outcomes

/-- The values of the bindings that succeeded. -/
def values (l : Outcomes) : Values :=
  .ofList (l.filterMap fun o =>
    match o.2 with
    | .ok v => some (o.1, v)
    | .error _ => none)

/-- The failed bindings in the order of the list. -/
def failed (l : Outcomes) : List (String × BindingFailure) :=
  l.filterMap fun o =>
    match o.2 with
    | .ok _ => none
    | .error f => some (o.1, f)

/-- The failures by name. -/
def failures (l : Outcomes) : Dict String BindingFailure := .ofList l.failed

end Outcomes

/-- Serves one binding after another; a failure does not keep the others from being served. -/
def serveEach : List (String × Attempt BindingFailure Json) → Run Outcomes
  | [] => return []
  | (name, unit) :: rest => do
      let outcome ← unit.outcome
      let outcomes ← serveEach rest
      return (name, outcome) :: outcomes

/-- Serves every binding and gathers the values, or else the failures. -/
def settle (direction : Direction) (units : List (String × Attempt BindingFailure Json)) :
    Attempt AdapterError Values := do
  let outcomes ← Attempt.ofRun (serveEach units)
  outcomes.failed.forM fun f => Attempt.log (.bindingFailed direction f.1 f.2.message)
  if outcomes.failed.isEmpty then return outcomes.values
  else throw (.gathered direction outcomes.failures)

/-! ## One entry -/

namespace Adapter

/-- The failure of a binding among those that an adapter reports; one that it does not report
by name fails with the whole error. -/
def failureOf (name : String) (d : Descriptor) (e : AdapterError) : BindingFailure :=
  (e.failures.get? name).getD ⟨e.message, some d⟩

/-- Loads the value of one binding. -/
def loadOne (a : Adapter) (ctx : AdapterContext) (name : String) (d : Descriptor) :
    Attempt BindingFailure Json := do
  let bindings : Bindings := .singleton name d
  Attempt.leave (.loadCalled a.id bindings)
  let values ← (a.load ctx bindings).mapError (failureOf name d)
  match values.get? name with
  | some v => return v
  | none => throw ⟨"adapter '" ++ a.id ++ "' returned no value", some d⟩

/-- Sends the value of one binding. -/
def sendOne (a : Adapter) (ctx : AdapterContext) (name : String) (d : Descriptor) (v : Json) :
    Attempt BindingFailure Json := do
  let bindings : Bindings := .singleton name d
  let values : Values := .singleton name v
  Attempt.leave (.sendCalled a.id bindings values)
  let _ ← (a.send ctx bindings values).mapError (failureOf name d)
  return .null

end Adapter

namespace Adapters

/-- Hands a resolved entry to its adapter. A send needs a value. -/
def hand (a : Adapters) (ctx : AdapterContext) (direction : Direction) (name id : String)
    (d : Descriptor) (value : Option Json) : Attempt BindingFailure Json :=
  match a.get? id with
  | none => throw ⟨"no adapter registered with id '" ++ id ++ "'", some d⟩
  | some adapter =>
      match direction, value with
      | .load, _ => adapter.loadOne ctx name d
      | .send, some v => adapter.sendOne ctx name d v
      | .send, none => throw ⟨"no value computed for output '" ++ name ++ "'", some d⟩

/-- Serves one entry of a wiring; `value` is what there is to send. -/
def serve (a : Adapters) (ctx : AdapterContext) (direction : Direction) (e : WiringEntry)
    (value : Option Json) : Attempt BindingFailure Json :=
  match e.resolve direction with
  | .error fault => throw ⟨fault.message, some e.descriptor⟩
  | .ok (.direct v) => return v.getD .null
  | .ok (.adapter id d) => a.hand ctx direction e.name id d value

/-- Loads one value for each entry. -/
def load (a : Adapters) (ctx : AdapterContext) (entries : List WiringEntry) :
    Attempt AdapterError Values := do
  let values ← settle .load (entries.map fun e => (e.name, a.serve ctx .load e none))
  Attempt.log (.inputsLoaded values.size)
  return values

/-- Sends the value of each entry; an entry without a value fails. -/
def send (a : Adapters) (ctx : AdapterContext) (entries : List WiringEntry) (values : Values) :
    Attempt AdapterError Unit := do
  let sent ←
    settle .send (entries.map fun e => (e.name, a.serve ctx .send e (values.get? e.name)))
  Attempt.log (.outputsSent sent.size)

end Adapters

end Dataflow
