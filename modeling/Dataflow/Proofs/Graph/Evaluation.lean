import Dataflow.Proofs.Graph.Calls

set_option autoImplicit false

/-! # What the run of a workflow does

The main statement `evaluate_workflow` says for every workflow whose children have different
identities what its run does on every input:

* if a connection or a mapping of an input names no child, or the connections go in a circle,
  the run fails and calls no child;
* otherwise it calls children one after another, each at most once and each with what those
  that feed it have produced, until all have been called, one fails, or an output that is
  needed has not been produced;
* if it succeeds, every child was called once and the outputs are those of the mappings.

A run that comes as far as its children is described by `Started`; `evaluate_cases` says when
it does.
-/

namespace Dataflow

namespace WorkflowFrame

/-- The failure of a workflow of its own before it calls its children. -/
def IsMisconnected (w : WorkflowFrame) (ids : List OperatorId) (f : NodeFailure) : Prop :=
  f = .cycle w.label ∨ w.IsUnknown ids f

/-- What a workflow does with the values that its children have produced. -/
def conclude (w : WorkflowFrame) (produced : OperatorValues) : Traced NodeFailure Values := do
  let outputs ← Traced.ofExcept (w.exposeOutputs produced w.outputs .empty)
  Traced.log (.workflowRan w.label)
  return outputs

theorem result_conclude (w : WorkflowFrame) (produced : OperatorValues) :
    (w.conclude produced).result = w.exposeOutputs produced w.outputs .empty := by
  rw [conclude]
  cases w.exposeOutputs produced w.outputs .empty with
  | error f =>
      rw [Traced.ofExcept_error_bind]
      rfl
  | ok outputs =>
      rw [Traced.ofExcept_ok_bind]
      rfl

theorem evaluate_eq (w : WorkflowFrame) (children : List Child) (provided : Values) :
    w.evaluate children provided =
      Traced.ofExcept (w.order (children.map (·.id))) >>= fun order =>
        Traced.ofExcept (w.routeInputs (children.map (·.id)) w.inputs provided .empty) >>=
          fun start => w.runChildren (inOrder children order) start .empty >>= w.conclude := rfl

/-- A run that comes as far as its children: it runs all of them, as the list `l`, each behind
those that feed it, and on what the mappings of the inputs have brought. -/
structure Started (w : WorkflowFrame) (children : List Child) (provided : Values)
    (l : List Child) (start : OperatorValues) : Prop where
  perm : l.Perm children
  fed : w.FedInOrder l
  routed : w.routeInputs (children.map (·.id)) w.inputs provided .empty = .ok start
  evaluate : w.evaluate children provided = w.runChildren l start .empty >>= w.conclude
  calls : w.calls children provided = w.childCalls l start .empty

/-- **A run comes as far as its children, or fails without a call.** -/
theorem evaluate_cases (w : WorkflowFrame) {children : List Child}
    (hids : (children.map (·.id)).Nodup) (provided : Values) :
    ((w.Dangling (children.map (·.id)) ∨ w.Cyclic) ∧ w.calls children provided = [] ∧
        ∃ f, w.evaluate children provided = .fail f ∧
          w.IsMisconnected (children.map (·.id)) f) ∨
      (¬ w.Dangling (children.map (·.id)) ∧ ¬ w.Cyclic ∧
        ∃ l start, w.Started children provided l start) := by
  have hfail : ∀ {f : NodeFailure}, w.order (children.map (·.id)) = .error f →
      w.calls children provided = [] ∧ w.evaluate children provided = .fail f := by
    intro f horder
    refine ⟨by simp only [calls, horder], ?_⟩
    rw [evaluate_eq, horder, Traced.ofExcept_error_bind]
  -- the checks come in the order of the run: connections, cycles, mappings of the inputs
  by_cases hjoined : w.Joined (children.map (·.id))
  · by_cases hcyclic : w.Cyclic
    · obtain ⟨hcalls, heval⟩ := hfail (order_of_cyclic hids hjoined hcyclic)
      exact .inl ⟨.inr hcyclic, hcalls, _, heval, .inl rfl⟩
    · obtain ⟨order, horder, hperm, hfed⟩ := inOrder_spec hids hjoined hcyclic
      rcases routeInputs_cases (w := w) hids w.inputs provided .empty with
        ⟨hknown, start, hroute⟩ | ⟨hunknown, f, hroute, hcause⟩
      · refine .inr ⟨fun hdangling => ?_, hcyclic, inOrder children order, start, hperm, hfed,
          hroute, ?_, ?_⟩
        · rcases hdangling with hnot | ⟨m, hm, hmem⟩
          · exact hnot hjoined
          · exact hmem (hknown m hm)
        · rw [evaluate_eq, horder, Traced.ofExcept_ok_bind, hroute, Traced.ofExcept_ok_bind]
        · simp only [calls, horder, hroute]
      · refine .inl ⟨.inl (.inr hunknown), ?_, f, ?_, .inr hcause⟩
        · simp only [calls, horder, hroute]
        · rw [evaluate_eq, horder, Traced.ofExcept_ok_bind, hroute, Traced.ofExcept_error_bind]
  · obtain ⟨f, horder, hcause⟩ := order_of_not_joined hids hjoined
    obtain ⟨hcalls, heval⟩ := hfail horder
    exact .inl ⟨.inl (.inl hjoined), hcalls, f, heval, .inr hcause⟩

/-! ## A run asks its children nothing but its calls -/

theorem map_id_inOrder {children children' : List Child}
    (hids : children'.map (·.id) = children.map (·.id)) (order : List Nat) :
    (inOrder children' order).map (·.id) = (inOrder children order).map (·.id) := by
  rw [inOrder, inOrder, List.map_filterMap, List.map_filterMap]
  simp only [← List.getElem?_map, hids]

/-- **Only the calls matter**: children of the same identities that answer the same to the calls
of a run make the same run. -/
theorem evaluate_congr {w : WorkflowFrame} {children children' : List Child} {provided : Values}
    (hids : children'.map (·.id) = children.map (·.id))
    (h : ∀ c ∈ w.calls children provided, ∀ child ∈ children', child.id = c.child.id →
      child.evaluate c.inputs = c.outcome) :
    w.evaluate children' provided = w.evaluate children provided := by
  rw [evaluate_eq, evaluate_eq, hids]
  cases horder : w.order (children.map (·.id)) with
  | error f => rw [Traced.ofExcept_error_bind, Traced.ofExcept_error_bind]
  | ok order =>
      rw [Traced.ofExcept_ok_bind, Traced.ofExcept_ok_bind]
      cases hroute : w.routeInputs (children.map (·.id)) w.inputs provided .empty with
      | error f => rw [Traced.ofExcept_error_bind, Traced.ofExcept_error_bind]
      | ok start =>
          simp only [calls, horder, hroute] at h
          have hchildren : w.runChildren (inOrder children' order) start .empty =
              w.runChildren (inOrder children order) start .empty := by
            refine runChildren_congr (map_id_inOrder hids order).symm fun c hc child hchild => ?_
            obtain ⟨p, -, hp⟩ := List.mem_filterMap.1 hchild
            exact h c hc child (List.mem_of_getElem? hp)
          rw [Traced.ofExcept_ok_bind, Traced.ofExcept_ok_bind, hchildren]

/-! ## A run that comes as far as its children -/

/-- Children are called in turn: each at most once, after the calls before it have succeeded
and those that feed it are among them, and with the value that the last connection to a
connector carries. -/
structure CalledInTurn (w : WorkflowFrame) (children : List Child) (calls : List Call) : Prop where
  once : (calls.map (·.child.id)).Nodup
  among : ∀ c ∈ calls, c.child ∈ children
  succeeded : ∀ before c after, calls = before ++ c :: after → ∀ s ∈ before, s.Succeeds
  sources : ∀ before c after, calls = before ++ c :: after →
    ∀ k ∈ w.connections, k.target.operator = c.child.id →
      ∃ s ∈ before, s.child.id = k.source.operator
  carried : ∀ before c after, calls = before ++ c :: after →
    ∀ connector k, w.ending ⟨c.child.id, connector⟩ = some k →
      ∃ v, outputAt before k.source = some v ∧ c.inputs.get? connector = some v

theorem CalledInTurn.outputsOf_eq_none {w : WorkflowFrame} {children : List Child}
    {calls : List Call} (h : w.CalledInTurn children calls) {a : OperatorId}
    (ha : a ∉ children.map (·.id)) : outputsOf calls a = none := by
  refine outputsOf_of_notMem fun hmem => ha ?_
  obtain ⟨c, hc, rfl⟩ := List.mem_map.1 hmem
  exact List.mem_map_of_mem (h.among c hc)

/-- What a run that comes as far as its children may fail over: its last call, a value that a
connection carries from a child that has been called, or a value of an output mapping after
all children have been called. -/
inductive FailsOver (w : WorkflowFrame) (children : List Child) (calls : List Call) :
    NodeFailure → Prop
  | call {before : List Call} {c : Call} {f : NodeFailure} (hcalls : calls = before ++ [c])
      (hresult : c.outcome.result = .error f) : FailsOver w children calls f
  | connection {k : Connection} (hk : k ∈ w.connections)
      (hsource : ∃ s ∈ calls, s.child.id = k.source.operator)
      (hmissing : outputAt calls k.source = none) : FailsOver w children calls (missingAlong k)
  | mapping {m : Mapping} (hm : m ∈ w.outputs) (hall : (calls.map (·.child)).Perm children)
      (hmissing : outputAt calls m.endpoint = none) :
      FailsOver w children calls (.missingOutput w.label m.name)

/-- What a run yields: all children have been called and have succeeded, and under the name of
every output mapping stands the value at the endpoint of the last mapping of the name. -/
structure Yields (w : WorkflowFrame) (children : List Child) (calls : List Call)
    (outputs : Values) : Prop where
  all : (calls.map (·.child)).Perm children
  succeeded : ∀ c ∈ calls, c.Succeeds
  present : ∀ m ∈ w.outputs, ∃ v, outputs.get? m.name = some v
  values : ∀ name, outputs.get? name =
    (lastWith (·.name) w.outputs name).bind fun m => outputAt calls m.endpoint

/-- The entries that a workflow leaves of its own. -/
def ownEntries (w : WorkflowFrame) : Except NodeFailure Values → List Entry
  | .ok _ => [.event (.workflowRan w.label)]
  | .error _ => []

theorem entries_conclude (w : WorkflowFrame) (produced : OperatorValues) :
    (w.conclude produced).entries = w.ownEntries (w.conclude produced).result := by
  cases hexpose : w.exposeOutputs produced w.outputs .empty with
  | error f =>
      rw [conclude, hexpose, Traced.ofExcept_error_bind]
      rfl
  | ok outputs =>
      rw [conclude, hexpose, Traced.ofExcept_ok_bind]
      rfl

/-- What comes of the values that calls have produced: an output for each mapping, or a failure
over a mapping whose value is missing. -/
theorem conclude_cases (w : WorkflowFrame) {calls : List Call} {produced : OperatorValues}
    (h : Records calls produced) :
    (∃ outputs, (w.conclude produced).result = .ok outputs ∧
        (∀ m ∈ w.outputs, ∃ v, outputs.get? m.name = some v) ∧
        ∀ name, outputs.get? name =
          (lastWith (·.name) w.outputs name).bind fun m => outputAt calls m.endpoint) ∨
      ∃ m ∈ w.outputs, outputAt calls m.endpoint = none ∧
        (w.conclude produced).result = .error (.missingOutput w.label m.name) := by
  rw [result_conclude, exposeOutputs_eq_layOver]
  cases hlay : layOver produced (·.endpoint) (·.name)
      (fun m : Mapping => .missingOutput w.label m.name) w.outputs .empty with
  | error f =>
      obtain ⟨m, hm, rfl, hmissing⟩ := layOver_eq_error _ _ _ _ hlay
      rw [h.at?] at hmissing
      exact .inr ⟨m, hm, hmissing, rfl⟩
  | ok outputs =>
      obtain ⟨hpresent, hvalues⟩ := (layOver_eq_ok_iff _ _ _ _).1 hlay
      refine .inl ⟨outputs, rfl, fun m hm => ?_, fun name => ?_⟩
      · -- the value is that of the last mapping of the name, which is one of the mappings
        obtain ⟨m', hlast⟩ := exists_lastWith (·.name) hm
        obtain ⟨v, hv⟩ := hpresent m' (mem_of_lastWith _ hlast).1
        exact ⟨v, by rw [hvalues, hlast, Option.map_some, Option.getD_some, hv]⟩
      · rw [hvalues, ← funext h.at?]
        cases lastWith (·.name) w.outputs name <;> rfl

section Started

variable {w : WorkflowFrame} {children l : List Child} {provided : Values}
  {start : OperatorValues}

theorem Started.underway (h : w.Started children provided l start)
    (hids : (children.map (·.id)).Nodup) : Underway w start [] l start .empty where
  distinct := by
    rw [List.map_nil, List.nil_append]
    exact (h.perm.map (·.id)).nodup_iff.2 hids
  fed := h.fed
  records := fun _ => rfl
  waiting := fun _ _ => rfl

theorem Started.ending (h : w.Started children provided l start)
    (hids : (children.map (·.id)).Nodup) :
    Ending w (w.calls children provided) l (w.calls children provided)
      (w.runChildren l start .empty).result := by
  have hending := ending_runChildren w l (h.underway hids)
  rwa [List.nil_append, ← h.calls] at hending

/-- A call of the run is given what the calls before it have produced. -/
theorem Started.fedBy (h : w.Started children provided l start)
    (hids : (children.map (·.id)).Nodup) {before after : List Call} {c : Call}
    (hsplit : w.calls children provided = before ++ c :: after) : w.FedBy start before c := by
  rw [h.calls] at hsplit
  exact fedBy_of_mem_childCalls w l (h.underway hids) hsplit

theorem Started.calledInTurn (h : w.Started children provided l start)
    (hids : (children.map (·.id)).Nodup) :
    w.CalledInTurn children (w.calls children provided) := by
  have hfront : (w.calls children provided).map (·.child) <+: l := by
    rw [h.calls]
    exact childCalls_prefix w l start .empty
  refine ⟨?_, fun c hc => ?_, fun before c after hsplit => ?_, ?_, ?_⟩
  · have hnodup : (l.map (·.id)).Nodup := (h.perm.map (·.id)).nodup_iff.2 hids
    have hids' := hnodup.sublist (hfront.map (·.id)).sublist
    rwa [List.map_map] at hids'
  · exact h.perm.mem_iff.1 (hfront.subset (List.mem_map_of_mem hc))
  · exact (h.ending hids).succeeds_before hsplit
  · intro before c after hsplit k hk htarget
    obtain ⟨v, hv⟩ := (h.fedBy hids hsplit).sources k hk htarget
    obtain ⟨s, hs, hid, -⟩ := exists_of_outputAt hv
    exact ⟨s, hs, hid⟩
  · intro before c after hsplit connector k hk
    have hfed := h.fedBy hids hsplit
    obtain ⟨hmem, htarget⟩ := mem_of_ending hk
    obtain ⟨v, hv⟩ := hfed.sources k hmem (by rw [htarget])
    refine ⟨v, hv, ?_⟩
    rw [hfed.inputs, hk, Option.map_some, Option.getD_some, hv]

/-- A run that comes as far as its children yields outputs, or fails over them. -/
theorem Started.outcome (h : w.Started children provided l start)
    (hids : (children.map (·.id)).Nodup) :
    (∃ outputs, (w.evaluate children provided).result = .ok outputs ∧
        w.Yields children (w.calls children provided) outputs) ∨
      ∃ f, (w.evaluate children provided).result = .error f ∧
        w.FailsOver children (w.calls children provided) f := by
  have hending := h.ending hids
  rw [h.evaluate]
  cases hresult : (w.runChildren l start .empty).result with
  | error f =>
      rw [hresult] at hending
      rw [Traced.bind_of_error hresult]
      refine .inr ⟨f, rfl, ?_⟩
      cases hending with
      | failed hcalls _ hfail => exact .call hcalls hfail
      | missing hk hsource hmissing _ => exact .connection hk hsource hmissing
  | ok produced =>
      rw [hresult] at hending
      rw [Traced.bind_of_ok hresult]
      obtain ⟨hall, hsucceed, hrecords⟩ := hending
      have hperm : ((w.calls children provided).map (·.child)).Perm children := by
        rw [hall]
        exact h.perm
      rcases w.conclude_cases hrecords with
        ⟨outputs, hok, hpresent, hvalues⟩ | ⟨m, hm, hmissing, hfail⟩
      · exact .inl ⟨outputs, hok, hperm, hsucceed, hpresent, hvalues⟩
      · exact .inr ⟨_, hfail, .mapping hm hperm hmissing⟩

theorem Started.entries (h : w.Started children provided l start) :
    (w.evaluate children provided).entries =
      (w.calls children provided).flatMap (·.outcome.entries) ++
        w.ownEntries (w.evaluate children provided).result := by
  rw [h.evaluate, h.calls, ← entries_runChildren]
  cases hresult : (w.runChildren l start .empty).result with
  | error f =>
      rw [Traced.bind_of_error hresult]
      exact (List.append_nil _).symm
  | ok produced =>
      calc (w.runChildren l start .empty >>= w.conclude).entries
          = (w.runChildren l start .empty).entries ++ (w.conclude produced).entries := by
            rw [Traced.bind_of_ok hresult]
        _ = (w.runChildren l start .empty).entries ++
              w.ownEntries (w.conclude produced).result := by
            rw [entries_conclude]
        _ = (w.runChildren l start .empty).entries ++
              w.ownEntries (w.runChildren l start .empty >>= w.conclude).result := by
            rw [Traced.bind_of_ok hresult]

end Started

/-- The entries of a run are those of its calls, one call after another, and its own. -/
theorem entries_evaluate {w : WorkflowFrame} {children : List Child}
    (hids : (children.map (·.id)).Nodup) (provided : Values) :
    (w.evaluate children provided).entries =
      (w.calls children provided).flatMap (·.outcome.entries) ++
        w.ownEntries (w.evaluate children provided).result := by
  rcases w.evaluate_cases hids provided with ⟨-, hcalls, f, hfail, -⟩ | ⟨-, -, l, start, h⟩
  · rw [hfail, hcalls]
    rfl
  · exact h.entries

end WorkflowFrame

/-! ## Trees -/

namespace Node

variable (bodies : Bodies) (plots : Bool)

theorem evaluateAll_eq (children : List Node) :
    evaluateAll bodies plots children =
      children.map fun n => ⟨n.id, n.evaluate bodies plots⟩ := by
  induction children with
  | nil => rfl
  | cons n rest ih => rw [evaluateAll, ih, List.map_cons]

theorem map_id_evaluateAll (children : List Node) :
    (evaluateAll bodies plots children).map (·.id) = children.map Node.id := by
  rw [evaluateAll_eq, List.map_map]
  rfl

theorem evaluate_workflow_eq (w : WorkflowFrame) (children : List Node) :
    (workflow w children).evaluate bodies plots =
      w.evaluate (evaluateAll bodies plots children) := by
  rw [evaluate]

/-- **What the run of a workflow does**, on any inputs and with any bodies: its entries and its
outcome are made of the calls of children that `WorkflowFrame.calls` lists, and of these it can
be said how they come about. Without a known operator everywhere, or with a cycle, there are
none. Otherwise children are called in turn, and the run yields outputs or fails over them. -/
theorem evaluate_workflow (w : WorkflowFrame) (children : List Node)
    (hids : (children.map Node.id).Nodup) (provided : Values) :
    let kids := evaluateAll bodies plots children
    let calls := w.calls kids provided
    let run := (workflow w children).evaluate bodies plots provided
    (run.entries = calls.flatMap (·.outcome.entries) ++ w.ownEntries run.result ∧
      ∀ kids' : List Child, kids'.map (·.id) = children.map Node.id →
        (∀ c ∈ calls, ∀ kid ∈ kids', kid.id = c.child.id → kid.evaluate c.inputs = c.outcome) →
        w.evaluate kids' provided = run) ∧
      (w.Dangling (children.map Node.id) ∨ w.Cyclic →
        calls = [] ∧ ∃ f, run = .fail f ∧ w.IsMisconnected (children.map Node.id) f) ∧
      (¬ (w.Dangling (children.map Node.id) ∨ w.Cyclic) →
        w.CalledInTurn kids calls ∧
          ((∃ outputs, run.result = .ok outputs ∧ w.Yields kids calls outputs) ∨
            ∃ f, run.result = .error f ∧ w.FailsOver kids calls f)) := by
  intro kids calls run
  have hmap : kids.map (·.id) = children.map Node.id := map_id_evaluateAll bodies plots children
  have hkids : (kids.map (·.id)).Nodup := by rwa [hmap]
  have hrun : run = w.evaluate kids provided :=
    congrFun (evaluate_workflow_eq bodies plots w children) provided
  refine ⟨⟨?_, fun kids' hids' hsame => ?_⟩, fun hbad => ?_, fun hgood => ?_⟩
  · rw [hrun]
    exact WorkflowFrame.entries_evaluate hkids provided
  · rw [hrun]
    exact WorkflowFrame.evaluate_congr (hids'.trans hmap.symm) hsame
  · rw [hrun, ← hmap]
    rw [← hmap] at hbad
    rcases w.evaluate_cases hkids provided with ⟨-, hcalls, hfail⟩ | ⟨hjoined, hacyclic, -⟩
    · exact ⟨hcalls, hfail⟩
    · exact absurd hbad (not_or_intro hjoined hacyclic)
  · rw [hrun]
    rw [← hmap] at hgood
    rcases w.evaluate_cases hkids provided with ⟨hbad, -⟩ | ⟨-, -, l, start, h⟩
    · exact absurd hbad hgood
    · exact ⟨h.calledInTurn hkids, h.outcome hkids⟩

/-- A component that hands its input `x` on as its output `y`. -/
def passing (n : Nat) : Node :=
  component ⟨.ofNat n, "passing", .ofNat 100, .ofNat 101, passThroughFunction,
    ⟨[.required "x" .any], [⟨"y", .any⟩]⟩⟩

/-- A workflow around three components, each behind the one before it. -/
def chain : WorkflowFrame where
  id := .ofNat 0
  name := "chain"
  workflow := .ofNat 102
  interface := .empty
  connections := [⟨⟨.ofNat 1, "y"⟩, ⟨.ofNat 2, "x"⟩⟩, ⟨⟨.ofNat 2, "y"⟩, ⟨.ofNat 3, "x"⟩⟩]
  inputs := [⟨"in", ⟨.ofNat 1, "x"⟩⟩]
  outputs := [⟨"out", ⟨.ofNat 3, "y"⟩⟩]

theorem evaluate_workflow_chain :
    let kids := evaluateAll .standard true [passing 2, passing 1, passing 3]
    let calls := chain.calls kids (.singleton "in" (.text "v"))
    let run := (workflow chain [passing 2, passing 1, passing 3]).evaluate .standard true
      (.singleton "in" (.text "v"))
    ([passing 2, passing 1, passing 3].map Node.id).Nodup ∧
      calls.map (·.child.id) = [.ofNat 1, .ofNat 2, .ofNat 3] ∧ chain.CalledInTurn kids calls ∧
      ∃ outputs, run.result = .ok outputs ∧ chain.Yields kids calls outputs := by
  intro kids calls run
  have h := evaluate_workflow .standard true chain [passing 2, passing 1, passing 3] (by decide)
    (.singleton "in" (.text "v"))
  have hcalls : calls.map (·.child.id) = [.ofNat 1, .ofNat 2, .ofNat 3] := rfl
  have hgood : ¬ (chain.Dangling ([passing 2, passing 1, passing 3].map Node.id) ∨
      chain.Cyclic) := by
    intro hbad
    have hnone : calls = [] := (h.2.1 hbad).1
    rw [hnone] at hcalls
    cases hcalls
  obtain ⟨hturn, houtcome⟩ := h.2.2 hgood
  refine ⟨by decide, hcalls, hturn, ?_⟩
  rcases houtcome with hyields | ⟨f, hfail, -⟩
  · exact hyields
  · cases hfail

end Node

end Dataflow
