import Dataflow.Node.Basic
import Dataflow.Store.Closure

set_option autoImplicit false

/-! # From revisions to trees

`flatten` unfolds a revision along a closure: every operator becomes a node made from the
revision that the closure holds for it. It fails if the closure has no entry for an
operator, holds another revision than the operator references, or nests a workflow inside
itself. The same workflow may stand side by side any number of times. States of revisions
play no part.
-/

namespace Dataflow

/-- Why a closure does not unfold. -/
inductive IntegrityFault where
  | unlisted (operator : OperatorId) (revision : Uuid)
  | mismatched (operator : OperatorId) (revision referenced found : Uuid)
  | selfNested (operator : OperatorId) (revision nested : Uuid)
  /-- A fault given in words. -/
  | described (text : String)
  deriving DecidableEq

/-- The wording of a fault. -/
def IntegrityFault.message : IntegrityFault → String
  | unlisted operator revision =>
      "operator " ++ toString operator ++ " of transformation revision " ++ toString revision ++
        " is not contained in the supplied closure of nested revisions"
  | mismatched operator revision referenced found =>
      "operator " ++ toString operator ++ " of transformation revision " ++ toString revision ++
        " references " ++ toString referenced ++ " but the closure holds " ++ toString found
  | selfNested operator revision nested =>
      "operator " ++ toString operator ++ " of transformation revision " ++ toString revision ++
        " nests revision " ++ toString nested ++ " inside itself"
  | described text => text

namespace Revision

/-- The revision that an operator of a workflow stands for, if the closure may be unfolded
there; `ancestors` are the workflows around the operator, its own included. -/
def nestedAt (closure : Closure) (revision : Uuid) (ancestors : List Uuid) (o : Operator) :
    Except IntegrityFault Revision :=
  match closure.get? o.id with
  | none => .error (.unlisted o.id revision)
  | some nested =>
      if nested.id ≠ o.revision then .error (.mismatched o.id revision o.revision nested.id)
      else if nested.workflow?.isSome ∧ nested.id ∈ ancestors then
        .error (.selfNested o.id revision nested.id)
      else .ok nested

/-- The leaf of a component. -/
def leaf (r : Revision) (code : CodeContent) (id : OperatorId) (name : String) :
    ComponentNode where
  id := id
  name := name
  component := r.id
  codeModule := code.codeModule
  function := code.function
  interface := r.interface

/-- The frame of a workflow. -/
def frame (r : Revision) (content : WorkflowContent) (id : OperatorId) (name : String) :
    WorkflowFrame where
  id := id
  name := name
  workflow := r.id
  interface := r.interface
  connections := content.connections
  inputs := content.inputs
  outputs := content.outputs

/-- The tree of a revision under a given identity and name. The fuel bounds how deep workflows
nest; where it ends, some workflow has come up again. -/
def unfold (closure : Closure) :
    Nat → OperatorId → String → Revision → List Uuid → Except IntegrityFault Node
  | fuel, id, name, r, ancestors =>
      match r.content with
      | .code code => .ok (.component (r.leaf code id name))
      | .workflow content =>
          match fuel with
          | 0 => .error (.selfNested id r.id r.id)
          | fuel + 1 => do
              let ancestors := r.id :: ancestors
              let children ← content.operators.mapM fun o => do
                let nested ← nestedAt closure r.id ancestors o
                unfold closure fuel o.id o.name nested ancestors
              .ok (.workflow (r.frame content id name) children)

/-- The tree of a revision. Every workflow inside another is a new one from the closure, so
workflows nest no deeper than the closure is large. -/
def flatten (root : Revision) (closure : Closure) : Except IntegrityFault Node :=
  unfold closure (closure.size + 1) root.id root.name root []

end Revision

end Dataflow
