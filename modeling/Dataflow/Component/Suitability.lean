import Dataflow.Component.Config
import Dataflow.Execution.Input
import Dataflow.Text.Quoted

set_option autoImplicit false

/-! # Suitability of components

The rules that a component must meet to be used as a source or a sink, in their order: it is
a component, its state and its category are allowed, and its interface has the right shape. A
source has exactly one output; a sink has an input named `data` and no outputs.
-/

namespace Dataflow

/-- What the rules look at. -/
structure ComponentProfile where
  id : Uuid
  name : String
  versionTag : String
  kind : RevisionKind
  state : RevisionState
  category : String
  interface : Interface

namespace ComponentProfile

/-- The profile of a revision. -/
def ofRevision (r : Revision) : ComponentProfile :=
  ⟨r.id, r.name, r.versionTag, r.kind, r.state, r.category, r.interface⟩

/-- The profile of a record, which is that of a component. -/
def ofRecord (c : ComponentRecord) : ComponentProfile :=
  ⟨c.id, c.name, c.versionTag, .component, c.state, c.category, c.interface⟩

/-- How messages name a component. -/
def label (p : ComponentProfile) : String :=
  p.name ++ " (" ++ p.versionTag ++ ") with id " ++ toString p.id

end ComponentProfile

/-- The input that takes the value sent to a sink. -/
def sinkDataInput : String := "data"

/-- Which rule a component breaks. Components are given by their labels. -/
inductive Unsuitability where
  | notAComponent (component : String)
  | stateNotAllowed (component : String) (state : RevisionState) (allowed : List RevisionState)
  | categoryNotAllowed (component category : String) (direction : Direction)
      (allowed : List String)
  | sourceMultipleOutputs (component : String)
  | sourceNoOutput (component : String)
  | sinkMissingData (component : String)
  | sinkHasOutputs (component : String)
  deriving DecidableEq

namespace Unsuitability

/-- The wording of a broken rule. -/
def message : Unsuitability → String
  | notAComponent component =>
      "Transformation " ++ component ++
        " is not a component. Component adapter can only use components."
  | stateNotAllowed component state allowed =>
      "Component " ++ component ++ " has state " ++ state.name ++
        " which is not allowed. Allowed states are " ++
        Text.listed (allowed.map (·.label)) ++ "."
  | categoryNotAllowed component category direction allowed =>
      "Component " ++ component ++ " has category " ++ category ++
        " which is not allowed for component " ++ direction.usage ++
        "s. Allowed categories for component " ++ direction.usage ++ "s are " ++
        Text.quotedList allowed ++ "."
  | sourceMultipleOutputs component =>
      "Component " ++ component ++
        " has more than one output which is not allowed for component sources. " ++
        "Component sources need exactly one output."
  | sourceNoOutput component =>
      "Component " ++ component ++
        " has no output which is not allowed for component sources. " ++
        "Component sources need exactly one output."
  | sinkMissingData component =>
      "Component " ++ component ++
        " has no input named 'data' which is not allowed for component sinks. " ++
        "Component sinks always need a 'data' input."
  | sinkHasOutputs component =>
      "Component " ++ component ++ " has outputs which is not allowed for component sinks. " ++
        "Component sinks only have inputs."

end Unsuitability

namespace ComponentConfig

/-- What is wrong with the shape of an interface for a direction. -/
def shapeFault? (direction : Direction) (component : String) (i : Interface) :
    Option Unsuitability :=
  match direction with
  | .load =>
      match i.outputs with
      | [_] => none
      | [] => some (.sourceNoOutput component)
      | _ => some (.sourceMultipleOutputs component)
  | .send =>
      if (i.input? sinkDataInput).isNone then some (.sinkMissingData component)
      else if i.outputs.isEmpty then none
      else some (.sinkHasOutputs component)

/-- The first rule that a component breaks in a direction. -/
def unsuitability? (c : ComponentConfig) (p : ComponentProfile) (direction : Direction)
    (allowDisabled : Bool) : Option Unsuitability :=
  if p.kind ≠ .component then some (.notAComponent p.label)
  else if ¬ (c.allowedStates allowDisabled).contains p.state then
    some (.stateNotAllowed p.label p.state (c.allowedStates allowDisabled))
  else
    match c.allowedCategories direction with
    | some allowed =>
        if allowed.contains p.category then shapeFault? direction p.label p.interface
        else some (.categoryNotAllowed p.label p.category direction allowed)
    | none => shapeFault? direction p.label p.interface

/-- Fails if a component may not be used in a direction. -/
def accept (c : ComponentConfig) (p : ComponentProfile) (direction : Direction)
    (allowDisabled : Bool) : Except Unsuitability Unit :=
  match c.unsuitability? p direction allowDisabled with
  | some fault => .error fault
  | none => .ok ()

end ComponentConfig

end Dataflow
