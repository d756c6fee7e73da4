import Dataflow.Journal.Traced
import Dataflow.Store.Memory

set_option autoImplicit false

/-! # Nested revisions

The closure of a revision holds, for every operator reached from it through workflows, the
revision that the operator instances. It is collected from a store: a workflow waits until
the operators of the one taken last are done, and the first revision met for an operator
stays. Workflows may nest themselves, for an operator already in the closure is not followed
again; so every workflow that waits has brought a new operator, and there are finitely many
of those.
-/

namespace Dataflow

/-- The revisions that operators instance. -/
abbrev Closure := Dict OperatorId Revision

namespace RevisionStore

/-- Adds the operators of one workflow to a closure, and the workflows among their revisions
to those that wait. -/
def collectOperators (s : RevisionStore) :
    List Operator → Closure × List Revision → Except ModelError (Closure × List Revision)
  | [], found => .ok found
  | o :: rest, (closure, pending) =>
      if closure.contains o.id then s.collectOperators rest (closure, pending)
      else
        match s.get o.revision with
        | .error e => .error e
        | .ok nested =>
            let pending := if nested.workflow?.isSome then nested :: pending else pending
            s.collectOperators rest (closure.insert o.id nested, pending)

/-- Collects the workflows that wait, the last one first. The fuel bounds their number. -/
def collect (s : RevisionStore) :
    Nat → Closure × List Revision → Except ModelError Closure
  | _, (closure, []) => .ok closure
  | 0, (closure, _ :: _) => .ok closure
  | fuel + 1, (closure, r :: pending) =>
      match s.collectOperators ((r.workflow?.map (·.operators)).getD []) (closure, pending) with
      | .error e => .error e
      | .ok found => s.collect fuel found

/-- The number of operator identities there are. -/
def operatorIdentities : Nat := 2 ^ 128

/-- Every revision reached from `root`, by the operator that instances it. A workflow waits
only when a new operator joins the closure, so there are at most as many as operator
identities, and the root. -/
def nestedClosure (s : RevisionStore) (root : Revision) : Except ModelError Closure :=
  s.collect (operatorIdentities + 1) (.empty, [root])

/-- Every revision reached from `root`, with the log event. -/
def fetchClosure (s : RevisionStore) (root : Revision) : Traced ModelError Closure := do
  let closure ← Traced.ofExcept (s.nestedClosure root)
  Traced.log (.nestedRevisionsCollected root.id closure.size)
  return closure

end RevisionStore

end Dataflow
