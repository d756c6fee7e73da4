import Dataflow.Proofs.Node.Unfolding

set_option autoImplicit false

/-! # Walks through a tree

A `Walk` has no fuel. It keeps the nodes that wait on a stack and goes on for as long as there are
any: a component on top is found, and a workflow gives way to its children, which are put onto the
stack from the last to the first.

Each step is one of `collectComponents` (`Step.found_collectComponents`), and leaves one node less
in and below those that wait (`Step.nodeCount_waiting`). So a walk through a tree takes one step for
each node and ends with `componentNodes`. `walk_finds_components` says this, and that the components
are found place by place, from left to right: a component that stands at two places is found twice.
-/

namespace Dataflow

namespace Node

/-! ## The places of components -/

/-- The component at a place, which is given by positions among the children on the way down. -/
def leafAt? : Node → List Nat → Option ComponentNode
  | component c, [] => some c
  | workflow _ children, i :: p => children[i]?.bind fun n => n.leafAt? p
  | component _, _ :: _ => none
  | workflow _ _, [] => none

/-- The places that hold a component. -/
def leafPlaces (n : Node) : List (List Nat) :=
  ([] :: n.positions).filter fun p => (n.leafAt? p).isSome

theorem leafAt?_cons_eq_some_iff {n : Node} {i : Nat} {p : List Nat} {c : ComponentNode} :
    n.leafAt? (i :: p) = some c ↔ ∃ w children m, n = workflow w children ∧
      children[i]? = some m ∧ m.leafAt? p = some c := by
  cases n with
  | component c' => simp [leafAt?]
  | workflow w children => simp [leafAt?, Option.bind_eq_some_iff]

theorem mem_positions_of_leafAt? {n : Node} {p : List Nat} {c : ComponentNode}
    (h : n.leafAt? p = some c) : p ∈ [] :: n.positions := by
  induction p generalizing n with
  | nil => exact List.mem_cons_self
  | cons i q ih =>
      obtain ⟨w, children, m, rfl, hm, hq⟩ := leafAt?_cons_eq_some_iff.1 h
      have hbelow : q = [] ∨ q ∈ m.positions := List.mem_cons.1 (ih hq)
      refine List.mem_cons_of_mem _ ?_
      rw [positions, mem_positionsFrom_iff]
      exact ⟨i, m, q, hm, by rw [Nat.zero_add], hbelow⟩

theorem mem_leafPlaces_iff {n : Node} {p : List Nat} :
    p ∈ n.leafPlaces ↔ ∃ c, n.leafAt? p = some c := by
  rw [leafPlaces, List.mem_filter, Option.isSome_iff_exists]
  constructor
  · exact And.right
  · rintro ⟨c, hc⟩
    exact ⟨mem_positions_of_leafAt? hc, c, hc⟩

/-- From left to right is the lexicographic order of places. -/
theorem pairwise_leafPlaces (n : Node) : n.leafPlaces.Pairwise (· < ·) :=
  (pairwise_nil_cons n.pairwise_positions n.nil_notMem_positions).filter _

/-- What stands at the places of some children of a workflow and below them, which come behind
others. -/
theorem filterMap_positionsFrom (w : WorkflowFrame) (before : List Node) {l : List Node}
    (h : ∀ n ∈ l, ([] :: n.positions).filterMap n.leafAt? = n.leaves) :
    (positionsFrom before.length l).filterMap (workflow w (before ++ l)).leafAt? =
      leavesAll l := by
  induction l generalizing before with
  | nil => rfl
  | cons n rest ih =>
      obtain ⟨hn, hrest⟩ := List.forall_mem_cons.1 h
      have hhere : (workflow w (before ++ n :: rest)).leafAt? ∘ (before.length :: ·) =
          n.leafAt? := by
        funext p
        simp [leafAt?]
      -- for the rest this child is one of those in front
      have hbehind : (positionsFrom (before.length + 1) rest).filterMap
          (workflow w (before ++ n :: rest)).leafAt? = leavesAll rest := by
        have hnext := ih (before ++ [n]) hrest
        rwa [List.length_append, List.length_singleton, List.append_assoc] at hnext
      rw [positionsFrom_cons, List.filterMap_append, List.filterMap_map, hhere, hn, hbehind,
        leavesAll]

/-- What stands at the places of a tree, one after the other, is what recursion on it lists. -/
theorem filterMap_positions (n : Node) : ([] :: n.positions).filterMap n.leafAt? = n.leaves := by
  induction n using Node.induction with
  | component c => rfl
  | workflow w children ih =>
      rw [List.filterMap_cons_none rfl, positions, leaves]
      exact filterMap_positionsFrom w [] ih

theorem map_leafPlaces (n : Node) : n.leafPlaces.map n.leafAt? = n.leaves.map some := by
  rw [← filterMap_positions, List.map_filterMap_some_eq_filter_map_isSome, List.filter_map]
  rfl

/-! ## Steps -/

/-- A walk on its way: the nodes that wait, on a stack with its top at the end, and the components
found so far. -/
structure Walk where
  pending : List Node
  found : List ComponentNode

namespace Walk

/-- A walk at its start. -/
def start (n : Node) : Walk := ⟨[n], []⟩

/-- The nodes that wait, the next one first. -/
def waiting (s : Walk) : List Node := s.pending.reverse

/-- One step takes the node on top of the stack. The children of a workflow are put there in
reverse, so that the first of them is on top. -/
inductive Step : Walk → Walk → Prop
  | found {s : Walk} {below : List Node} {c : ComponentNode}
      (htop : s.pending = below ++ [component c]) : Step s ⟨below, s.found ++ [c]⟩
  | opened {s : Walk} {below children : List Node} {w : WorkflowFrame}
      (htop : s.pending = below ++ [workflow w children]) :
      Step s ⟨below ++ children.reverse, s.found⟩

/-- A number of steps, one after the other. -/
inductive Steps : Nat → Walk → Walk → Prop
  | none {s : Walk} : Steps 0 s s
  | more {k : Nat} {s t u : Walk} (hstep : Step s t) (hrest : Steps k t u) : Steps (k + 1) s u

section

variable {s t : Walk} {k : Nat} {n : Node}

theorem waiting_of_top {below : List Node} (htop : s.pending = below ++ [n]) :
    s.waiting = n :: below.reverse := by
  rw [waiting, htop, List.reverse_append, List.reverse_singleton, List.singleton_append]

/-- What a step does to the nodes that wait. -/
theorem Step.cases_waiting (h : Step s t) :
    (∃ c, s.waiting = component c :: t.waiting ∧ t.found = s.found ++ [c]) ∨
      ∃ w children rest, s.waiting = workflow w children :: rest ∧
        t.waiting = children ++ rest ∧ t.found = s.found := by
  cases h with
  | found htop => exact .inl ⟨_, waiting_of_top htop, rfl⟩
  | @opened below children w htop =>
      refine .inr ⟨w, children, below.reverse, waiting_of_top htop, ?_, rfl⟩
      -- the two reversals, of the children and of the stack, cancel out
      rw [waiting, List.reverse_append, List.reverse_reverse]

/-- A step uses up one node. -/
theorem Step.nodeCount_waiting (h : Step s t) :
    nodeCount t.waiting + 1 = nodeCount s.waiting := by
  rcases h.cases_waiting with ⟨c, hs, -⟩ | ⟨w, children, rest, hs, ht, -⟩
  · rw [hs, nodeCount, descendantCount]
    omega
  · rw [hs, ht, nodeCount_append, nodeCount, descendantCount]
    omega

/-- A step uses up one unit of fuel: what it finds, and what is found from there on, is what
`collectComponents` lists. -/
theorem Step.found_collectComponents (h : Step s t) (fuel : Nat) :
    t.found ++ collectComponents fuel t.waiting =
      s.found ++ collectComponents (fuel + 1) s.waiting := by
  rcases h.cases_waiting with ⟨c, hs, hfound⟩ | ⟨w, children, rest, hs, ht, hfound⟩
  · rw [hs, hfound, collectComponents, List.append_assoc, List.singleton_append]
  · rw [hs, ht, hfound, collectComponents]

/-- While a node waits there is a step. -/
theorem exists_step (h : s.pending ≠ []) : ∃ t, Step s t := by
  rcases List.eq_nil_or_concat' s.pending with hnil | ⟨below, n, htop⟩
  · exact absurd hnil h
  · cases n with
    | component c => exact ⟨_, .found htop⟩
    | workflow w children => exact ⟨_, .opened htop⟩

theorem nodeCount_waiting_eq_zero_iff : nodeCount s.waiting = 0 ↔ s.pending = [] := by
  rw [waiting, ← List.reverse_eq_nil_iff]
  cases s.pending.reverse with
  | nil => exact iff_of_true rfl rfl
  | cons n rest =>
      rw [nodeCount]
      refine iff_of_false ?_ (List.cons_ne_nil n rest)
      omega

/-! ## Walks -/

theorem Steps.nodeCount_waiting (h : Steps k s t) :
    nodeCount t.waiting + k = nodeCount s.waiting := by
  induction h with
  | none => rw [Nat.add_zero]
  | more hstep _ ih =>
      have hpaid := hstep.nodeCount_waiting
      omega

theorem Steps.found_collectComponents (h : Steps k s t) (fuel : Nat) :
    t.found ++ collectComponents fuel t.waiting =
      s.found ++ collectComponents (k + fuel) s.waiting := by
  induction h with
  | none => rw [Nat.zero_add]
  | more hstep _ ih => rw [ih, hstep.found_collectComponents, Nat.add_right_comm]

/-- **Every walk ends**, after one step for each node in and below those that wait. -/
theorem exists_steps (s : Walk) : ∃ found, Steps (nodeCount s.waiting) s ⟨[], found⟩ := by
  -- the induction is on the nodes that are left, since the stack itself may grow
  induction hcount : nodeCount s.waiting generalizing s with
  | zero =>
      have hend : s = ⟨[], s.found⟩ := by rw [← nodeCount_waiting_eq_zero_iff.1 hcount]
      rw [hend]
      exact ⟨s.found, .none⟩
  | succ k ih =>
      have hwaits : s.pending ≠ [] := by
        rw [Ne, ← nodeCount_waiting_eq_zero_iff]
        omega
      obtain ⟨t, hstep⟩ := exists_step hwaits
      have hleft : nodeCount t.waiting = k := by
        have hpaid := hstep.nodeCount_waiting
        omega
      obtain ⟨found, hrest⟩ := ih t hleft
      exact ⟨found, .more hstep hrest⟩

theorem nodeCount_waiting_start (n : Node) :
    nodeCount (start n).waiting = n.descendantCount + 1 := by
  show nodeCount [n] = n.descendantCount + 1
  rw [nodeCount, nodeCount]
  omega

/-- A walk through a tree that has ended has taken one step for each node, and found what
`componentNodes` lists. -/
theorem Steps.ended {found : List ComponentNode} (h : Steps k (start n) ⟨[], found⟩) :
    k = n.descendantCount + 1 ∧ found = n.componentNodes := by
  have hcount : 0 + k = n.descendantCount + 1 :=
    h.nodeCount_waiting.trans (nodeCount_waiting_start n)
  have hk : k = n.descendantCount + 1 := by omega
  subst hk
  -- with as much fuel as there are steps nothing is left to collect
  have hfound : found ++ [] = [] ++ n.componentNodes := h.found_collectComponents 0
  rw [List.append_nil, List.nil_append] at hfound
  exact ⟨rfl, hfound⟩

theorem steps_start_iff {found : List ComponentNode} :
    Steps k (start n) ⟨[], found⟩ ↔ k = n.descendantCount + 1 ∧ found = n.componentNodes := by
  constructor
  · exact Steps.ended
  · rintro ⟨rfl, rfl⟩
    obtain ⟨found, h⟩ := exists_steps (start n)
    rw [nodeCount_waiting_start] at h
    rwa [h.ended.2] at h

/-- A walk through a tree is never longer than the tree is large. -/
theorem Steps.le (h : Steps k (start n) s) : k ≤ n.descendantCount + 1 := by
  have hcount := h.nodeCount_waiting
  rw [nodeCount_waiting_start] at hcount
  omega

end

end Walk

/-- **A walk through a tree finds its components, one place after the other.** It comes to its end
with exactly one step for each node, and with `componentNodes`; before that it neither stops nor
goes on for longer. What it finds is what recursion on the tree lists: a component itself, and what
the children of a workflow hold, in their order. It is also what stands at the places that hold a
component, each of them once, in lexicographic order. -/
theorem walk_finds_components (n : Node) :
    (∀ steps found, Walk.Steps steps (.start n) ⟨[], found⟩ ↔
        steps = n.descendantCount + 1 ∧ found = n.componentNodes) ∧
      (∀ steps s, Walk.Steps steps (.start n) s →
        steps ≤ n.descendantCount + 1 ∧ (s.pending ≠ [] → ∃ t, Walk.Step s t)) ∧
      n.componentNodes = n.leaves ∧
      ∃ places : List (List Nat), places.Pairwise (· < ·) ∧
        (∀ p, p ∈ places ↔ ∃ c, n.leafAt? p = some c) ∧
        places.map n.leafAt? = n.componentNodes.map some := by
  have hleaves := componentNodes_eq_leaves n
  refine ⟨fun steps found => Walk.steps_start_iff,
    fun steps s h => ⟨h.le, Walk.exists_step⟩, hleaves,
    ⟨n.leafPlaces, n.pairwise_leafPlaces, fun p => mem_leafPlaces_iff, ?_⟩⟩
  rw [hleaves]
  exact n.map_leafPlaces

/-! A component that stands at two depths, beside a workflow that holds nothing. -/

/-- A component of the grove. -/
def groveLeaf (k : Nat) : ComponentNode :=
  ⟨.ofNat k, "leaf", .ofNat 20, .ofNat 21, "main", .empty⟩

/-- A workflow of the grove. -/
def groveFrame (k : Nat) : WorkflowFrame := ⟨.ofNat k, "branch", .ofNat k, .empty, [], [], []⟩

/-- A hollow workflow, a component, and a workflow that holds another component and the same one
again. -/
def groveChildren : List Node :=
  [workflow (groveFrame 11) [], component (groveLeaf 1),
    workflow (groveFrame 12) [component (groveLeaf 2), component (groveLeaf 1)]]

/-- The workflow around the three. -/
def sampleGrove : Node := workflow (groveFrame 10) groveChildren

theorem walk_finds_components_grove :
    Walk.Steps 1 (.start sampleGrove) ⟨groveChildren.reverse, []⟩ ∧
      (∃ t, Walk.Step ⟨groveChildren.reverse, []⟩ t) ∧
      Walk.Steps 6 (.start sampleGrove) ⟨[], [groveLeaf 1, groveLeaf 2, groveLeaf 1]⟩ ∧
      ∃ places : List (List Nat), places.Pairwise (· < ·) ∧ places.length = 3 ∧
        [1] ∈ places ∧ [2, 1] ∈ places := by
  obtain ⟨hend, hgoes, -, places, hascending, hplaces, hmap⟩ := walk_finds_components sampleGrove
  have hfirst : Walk.Steps 1 (.start sampleGrove) ⟨groveChildren.reverse, []⟩ :=
    .more (.opened (List.nil_append _).symm) .none
  have hnext := (hgoes _ _ hfirst).2 (by simp [groveChildren])
  have hlength : places.length = 3 := by
    have hlengths := congrArg List.length hmap
    rwa [List.length_map, List.length_map] at hlengths
  exact ⟨hfirst, hnext, (hend _ _).2 ⟨rfl, rfl⟩, places, hascending, hlength,
    (hplaces _).2 ⟨groveLeaf 1, rfl⟩, (hplaces _).2 ⟨groveLeaf 1, rfl⟩⟩

end Node

end Dataflow
