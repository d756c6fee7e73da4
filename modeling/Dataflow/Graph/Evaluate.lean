import Dataflow.Execution.Input
import Dataflow.Graph.Body
import Dataflow.Graph.Order
import Dataflow.Journal.Traced

set_option autoImplicit false

/-! # Evaluation of trees

`Node.evaluate` runs a tree on provided values. A component gets one value for each declared
input, brought into the declared type: the provided one, or else the default. It runs its
body once and must produce every declared output. A workflow runs its children one after
another in topological order, hands values along its connections, and exposes outputs of
children under its own names. The first failure ends the run.

Where the children of a workflow share an identity, connections and mappings mean the last
of them.
-/

namespace Dataflow

/-- Why the executed logic failed. Nodes are given by their labels. -/
inductive NodeFailure where
  | missingInput (node input : String)
  | invalidInput (node input : String) (cause : ModelError)
  | missingBody (node : String) (codeModule : Uuid) (function : String)
  | body (node message : String)
  | missingOutput (node output : String)
  | cycle (node : String)
  | unknownOperator (node : String) (operator : OperatorId)
  deriving DecidableEq

/-- The wording of a failure. -/
def NodeFailure.message : NodeFailure → String
  | missingInput node input => "input '" ++ input ++ "' of " ++ node ++ " has no value"
  | invalidInput node input cause =>
      "input '" ++ input ++ "' of " ++ node ++ " is invalid: " ++ cause.message
  | missingBody node codeModule function =>
      "no body for function '" ++ function ++ "' of code module " ++ toString codeModule ++
        " (" ++ node ++ ")"
  | body node message => node ++ " failed: " ++ message
  | missingOutput node output => node ++ " did not produce output '" ++ output ++ "'"
  | cycle node => "connections of " ++ node ++ " contain a cycle"
  | unknownOperator node operator =>
      node ++ " references unknown operator " ++ toString operator

/-- The values that the runs of a node take and yield, with the trace they leave. -/
abbrev Evaluation := Values → Traced NodeFailure Values

/-! ## Components -/

namespace ComponentNode

/-- The label of a node. -/
def label (c : ComponentNode) : String := labelled c.name c.id

/-- The values for declared inputs. Each provided value serves one input. -/
def takeInputs (label : String) : List Input → Values → Values → Except NodeFailure Values
  | [], _, taken => .ok taken
  | i :: rest, provided, taken =>
      match (provided.get? i.name).or i.default? with
      | none => .error (.missingInput label i.name)
      | some v =>
          match coerceAs i.dataType v with
          | .error e => .error (.invalidInput label i.name e)
          | .ok v => takeInputs label rest (provided.erase i.name) (taken.insert i.name v)

/-- The values of declared outputs. Each produced value serves one output. -/
def takeOutputs (label : String) : List Output → Values → Values → Except NodeFailure Values
  | [], _, taken => .ok taken
  | o :: rest, produced, taken =>
      match produced.get? o.name with
      | none => .error (.missingOutput label o.name)
      | some v => takeOutputs label rest (produced.erase o.name) (taken.insert o.name v)

/-- The outputs of a component that is not run: every one is `null`. -/
def skippedOutputs (c : ComponentNode) : Values :=
  Dict.ofList (c.interface.outputs.map fun o => (o.name, .null))

/-- Runs a component; one that produces plots only is skipped unless `plots` says otherwise. -/
def evaluate (bodies : Bodies) (plots : Bool) (c : ComponentNode) : Evaluation := fun provided =>
  if !plots && c.interface.isPurePlot then do
    Traced.log (.plotSkipped c.label)
    return c.skippedOutputs
  else do
    let inputs ← Traced.ofExcept (takeInputs c.label c.interface.inputs provided .empty)
    match bodies.get? c.codeModule c.function with
    | none => Traced.fail (.missingBody c.label c.codeModule c.function)
    | some body => do
        Traced.leave (.bodyCalled c.codeModule c.function inputs)
        let produced ← Traced.ofExcept ((body c.interface inputs).mapError (.body c.label))
        let outputs ← Traced.ofExcept (takeOutputs c.label c.interface.outputs produced .empty)
        Traced.log (.componentRan c.label)
        return outputs

end ComponentNode

/-! ## Workflows -/

/-- A child of a workflow: its identity and what it does. -/
structure Child where
  id : OperatorId
  evaluate : Evaluation

/-- Values by operator and name. -/
abbrev OperatorValues := Dict OperatorId Values

namespace OperatorValues

/-- The value at a connector of an operator. -/
def at? (d : OperatorValues) (e : Endpoint) : Option Json :=
  (d.get? e.operator).bind (·.get? e.connector)

/-- Puts a value at a connector of an operator. -/
def put (d : OperatorValues) (e : Endpoint) (v : Json) : OperatorValues :=
  d.insert e.operator (((d.get? e.operator).getD .empty).insert e.connector v)

end OperatorValues

namespace WorkflowFrame

/-- The label of a node. -/
def label (w : WorkflowFrame) : String := labelled w.name w.id

/-- The position of the last child with an identity. -/
def position (w : WorkflowFrame) (ids : List OperatorId) (operator : OperatorId) :
    Except NodeFailure Nat :=
  match (ids.zipIdx.reverse.find? (·.1 == operator)).map (·.2) with
  | some p => .ok p
  | none => .error (.unknownOperator w.label operator)

/-- The connections as edges between positions of children. -/
def edges (w : WorkflowFrame) (ids : List OperatorId) : Except NodeFailure (List Graph.Edge) :=
  w.connections.mapM fun c => do
    let source ← w.position ids c.source.operator
    let target ← w.position ids c.target.operator
    return (source, target)

/-- The order in which the children run. -/
def order (w : WorkflowFrame) (ids : List OperatorId) : Except NodeFailure (List Nat) := do
  let edges ← w.edges ids
  match Graph.topologicalOrder? ids.length edges with
  | some order => .ok order
  | none => .error (.cycle w.label)

/-- The values that reach operators from the inputs of the workflow. Each provided value serves
one mapping; others of its name take the default. -/
def routeInputs (w : WorkflowFrame) (ids : List OperatorId) :
    List Mapping → Values → OperatorValues → Except NodeFailure OperatorValues
  | [], _, pending => .ok pending
  | m :: rest, provided, pending =>
      match w.position ids m.endpoint.operator with
      | .error e => .error e
      | .ok _ =>
          let value := (provided.get? m.name).or ((w.interface.input? m.name).bind Input.default?)
          let pending := match value with
            | some v => pending.put m.endpoint v
            | none => pending
          w.routeInputs ids rest (provided.erase m.name) pending

/-- The values that reach a child along connections, laid over those it has. -/
def carry (produced : OperatorValues) : List Connection → Values → Except NodeFailure Values
  | [], inputs => .ok inputs
  | c :: rest, inputs =>
      match produced.at? c.source with
      | none =>
          .error (.missingOutput ("operator " ++ toString c.source.operator) c.source.connector)
      | some v => carry produced rest (inputs.insert c.target.connector v)

/-- Runs the children in order and yields what each operator produced. -/
def runChildren (w : WorkflowFrame) :
    List Child → OperatorValues → OperatorValues → Traced NodeFailure OperatorValues
  | [], _, produced => return produced
  | child :: rest, pending, produced => do
      let incoming := w.connections.filter (·.target.operator == child.id)
      let inputs ← Traced.ofExcept (carry produced incoming ((pending.get? child.id).getD .empty))
      let outputs ← child.evaluate inputs
      w.runChildren rest (pending.erase child.id) (produced.insert child.id outputs)

/-- The values of the outputs of the workflow. -/
def exposeOutputs (w : WorkflowFrame) (produced : OperatorValues) :
    List Mapping → Values → Except NodeFailure Values
  | [], outputs => .ok outputs
  | m :: rest, outputs =>
      match produced.at? m.endpoint with
      | none => .error (.missingOutput w.label m.name)
      | some v => w.exposeOutputs produced rest (outputs.insert m.name v)

/-- Runs a workflow around given children. -/
def evaluate (w : WorkflowFrame) (children : List Child) : Evaluation := fun provided => do
  let ids := children.map (·.id)
  let order ← Traced.ofExcept (w.order ids)
  let pending ← Traced.ofExcept (w.routeInputs ids w.inputs provided .empty)
  let produced ← w.runChildren (order.filterMap (children[·]?)) pending .empty
  let outputs ← Traced.ofExcept (w.exposeOutputs produced w.outputs .empty)
  Traced.log (.workflowRan w.label)
  return outputs

end WorkflowFrame

/-! ## Trees -/

namespace Node

mutual

/-- Runs a tree on provided values. -/
def evaluate (bodies : Bodies) (plots : Bool) : Node → Evaluation
  | component c => c.evaluate bodies plots
  | workflow w children => w.evaluate (evaluateAll bodies plots children)

/-- What each of several nodes does. -/
def evaluateAll (bodies : Bodies) (plots : Bool) : List Node → List Child
  | [] => []
  | n :: ns => ⟨n.id, evaluate bodies plots n⟩ :: evaluateAll bodies plots ns

end

end Node

end Dataflow
