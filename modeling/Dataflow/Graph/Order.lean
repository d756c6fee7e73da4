set_option autoImplicit false

/-! # Topological order

A graph on the positions `0, …, n - 1` is given by its edges, in the order in which they were
added. `topologicalOrder?` lists the positions so that every edge leads forward, or finds
that a cycle makes this impossible. Which of the possible orders it lists is fixed: positions
are visited depth first, from `0` on, and the successors of a position from the edge added
last; the order lists the positions from the one finished last.
-/

namespace Dataflow.Graph

/-- A directed edge between positions. -/
abbrev Edge := Nat × Nat

/-- The successors of a position, that of the edge added last first. -/
def successors (edges : List Edge) (v : Nat) : List Nat :=
  (edges.filter (fun e => e.1 == v)).reverse.map (·.2)

/-- What a depth-first visit has found: the positions met, and those finished, the last one
first. -/
structure Visited where
  discovered : List Nat
  finished : List Nat

/-- Works off a stack of positions. A position on top that was not met before puts its
successors that were not met before above itself; one that was is taken off, and finished the
first time. The fuel bounds the number of steps. -/
def visit (edges : List Edge) : Nat → List Nat → Visited → Visited
  | 0, _, found => found
  | _, [], found => found
  | fuel + 1, v :: stack, found =>
      if found.discovered.contains v then
        if found.finished.contains v then visit edges fuel stack found
        else visit edges fuel stack { found with finished := v :: found.finished }
      else
        let discovered := v :: found.discovered
        let next := (successors edges v).filter (fun w => !discovered.contains w)
        visit edges fuel (next.reverse ++ v :: stack) { found with discovered := discovered }

/-- The positions from the one finished last. From each position not met before a visit starts
with that position alone on the stack; a visit meets every position at most once and takes
every position off as often as it was put on, so twice the positions and the edges bound the
steps. -/
def finishingOrder (n : Nat) (edges : List Edge) : List Nat :=
  ((List.range n).foldl (fun (found : Visited) v =>
    if found.discovered.contains v then found
    else visit edges (2 * n + edges.length + 1) [v] found) ⟨[], []⟩).finished

/-- Whether an edge leads forward in an order. -/
def leadsForward (order : List Nat) (e : Edge) : Bool :=
  decide (order.idxOf e.1 < order.idxOf e.2)

/-- The order in which every edge leads forward, unless there is a cycle. -/
def topologicalOrder? (n : Nat) (edges : List Edge) : Option (List Nat) :=
  let order := finishingOrder n edges
  if edges.all (leadsForward order) then some order else none

end Dataflow.Graph
