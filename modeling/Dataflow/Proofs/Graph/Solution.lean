import Dataflow.Proofs.Graph.Evaluation

set_option autoImplicit false

/-! # Runs as solutions of equations

What the operators of a workflow produce in a run that succeeds solves a system of equations,
one for each child: its outputs are what it yields on what its connections and the mappings of
the inputs bring it. The equations do not say in which order children run. Because connections
make no cycle they have at most one solution (`Solves.of_call`), so that a run in any order that
respects the connections finds it, or there is none. `evaluate_eq_ok_iff` says on these terms
when a run succeeds, and with which outputs; `Node.evaluate_reordered` concludes that neither
the order of the children nor that of the connections matters, as long as no two connections
end at the same connector.
-/

namespace Dataflow

namespace WorkflowFrame

/-- What operators have produced and the mappings of the inputs have brought gives an operator
the value at a connector. -/
def given (w : WorkflowFrame) (start produced : OperatorValues) (e : Endpoint) : Option Json :=
  ((w.ending e).map fun k => produced.at? k.source).getD (start.at? e)

/-- The values that operators produce solve the equations of a workflow. -/
structure Solves (w : WorkflowFrame) (children : List Child) (start produced : OperatorValues) :
    Prop where
  yields : ∀ child ∈ children, ∃ inputs outputs,
    (∀ connector, inputs.get? connector = w.given start produced ⟨child.id, connector⟩) ∧
      (child.evaluate inputs).result = .ok outputs ∧ produced.get? child.id = some outputs
  sources : ∀ k ∈ w.connections, ∃ v, produced.at? k.source = some v
  only : ∀ a, a ∉ children.map (·.id) → produced.get? a = none

/-! ## A run finds a solution -/

section Started

variable {w : WorkflowFrame} {children l : List Child} {provided : Values}
  {start produced : OperatorValues}

/-- A call is given what the equations say, if what the calls before it have produced counts. -/
theorem FedBy.get?_inputs {before : List Call} {c : Call} (h : w.FedBy start before c)
    (hcounts : ∀ e v, outputAt before e = some v → produced.at? e = some v) (connector : String) :
    c.inputs.get? connector = w.given start produced ⟨c.child.id, connector⟩ := by
  rw [h.inputs, given]
  cases hending : w.ending ⟨c.child.id, connector⟩ with
  | none => rfl
  | some k =>
      obtain ⟨hk, htarget⟩ := mem_of_ending hending
      obtain ⟨v, hv⟩ := h.sources k hk (by rw [htarget])
      rw [Option.map_some, Option.map_some, Option.getD_some, Option.getD_some, hv,
        hcounts _ _ hv]

/-- If all children have been called there is a call of each. -/
theorem Started.exists_call (h : w.Started children provided l start)
    (hall : (w.calls children provided).map (·.child) = l) {child : Child}
    (hchild : child ∈ children) : ∃ c ∈ w.calls children provided, c.child = child := by
  have hmem : child ∈ (w.calls children provided).map (·.child) := by
    rw [hall]
    exact h.perm.mem_iff.2 hchild
  exact List.mem_map.1 hmem

/-- **What a run produces solves the equations.** -/
theorem Started.solves (h : w.Started children provided l start)
    (hids : (children.map (·.id)).Nodup) (hjoined : w.Joined (children.map (·.id)))
    (hresult : (w.runChildren l start .empty).result = .ok produced) :
    w.Solves children start produced := by
  have hturn := h.calledInTurn hids
  have hending := h.ending hids
  rw [hresult] at hending
  obtain ⟨hall, hsucceed, hrecords⟩ := hending
  -- what a call was given is still what its operators have produced in the end
  have hlater : ∀ before c after, w.calls children provided = before ++ c :: after →
      ∀ e v, outputAt before e = some v → produced.at? e = some v := by
    intro before c after hsplit e v hv
    rw [hrecords.at?, hsplit]
    exact outputAt_append hv
  refine ⟨fun child hchild => ?_, fun k hk => ?_, fun a ha => ?_⟩
  · obtain ⟨c, hc, rfl⟩ := h.exists_call hall hchild
    obtain ⟨outputs, houtputs⟩ := hsucceed c hc
    obtain ⟨before, after, hsplit⟩ := List.append_of_mem hc
    have hfed := h.fedBy hids hsplit
    refine ⟨c.inputs, outputs, hfed.get?_inputs (hlater _ _ _ hsplit), houtputs, ?_⟩
    rw [hrecords, outputsOf_of_mem hturn.once hc]
    exact outputs?_eq_some.2 houtputs
  · obtain ⟨child, hchild, hid⟩ := List.mem_map.1 (hjoined k hk).2
    obtain ⟨c, hc, rfl⟩ := h.exists_call hall hchild
    obtain ⟨before, after, hsplit⟩ := List.append_of_mem hc
    obtain ⟨v, hv⟩ := (h.fedBy hids hsplit).sources k hk hid.symm
    exact ⟨v, hlater _ _ _ hsplit _ _ hv⟩
  · calc produced.get? a = outputsOf (w.calls children provided) a := hrecords a
      _ = none := hturn.outputsOf_eq_none ha

/-- **Every call of a run does what a solution says.** The calls before it do, so it is given
what the solution gives to its child. -/
theorem Solves.of_call (hsolves : w.Solves children start produced)
    (h : w.Started children provided l start) (hids : (children.map (·.id)).Nodup)
    {before after : List Call} {c : Call}
    (hsplit : w.calls children provided = before ++ c :: after) :
    ∃ outputs, c.outcome.result = .ok outputs ∧ produced.get? c.child.id = some outputs := by
  -- the induction is on the number of calls before `c`, each of which has fewer before it
  induction hn : before.length using Nat.strong_induction_on generalizing before c after with
  | _ n ih =>
      have hturn := h.calledInTurn hids
      have hfed := h.fedBy hids hsplit
      have hearlier : ∀ e v, outputAt before e = some v → produced.at? e = some v := by
        intro e v hv
        obtain ⟨s, hs, hid, outputs, houtputs, hget⟩ := exists_of_outputAt hv
        obtain ⟨front, back, hbefore⟩ := List.append_of_mem hs
        have hlength : front.length < n := by
          rw [← hn, hbefore, List.length_append, List.length_cons]
          omega
        obtain ⟨outputs', houtputs', hproduced⟩ := ih front.length hlength
          (by rw [hsplit, hbefore, List.append_assoc, List.cons_append]) rfl
        rw [houtputs, Except.ok.injEq] at houtputs'
        rw [OperatorValues.at?, ← hid, hproduced, ← houtputs', Option.bind_some, hget]
      have hc : c ∈ w.calls children provided := by
        rw [hsplit]
        exact List.mem_append_right _ List.mem_cons_self
      obtain ⟨inputs, outputs, hinputs, houtputs, hproduced⟩ :=
        hsolves.yields c.child (hturn.among c hc)
      have hsame : c.inputs = inputs := by
        refine Dict.ext_get? fun connector => ?_
        calc c.inputs.get? connector
            = w.given start produced ⟨c.child.id, connector⟩ := hfed.get?_inputs hearlier connector
          _ = inputs.get? connector := (hinputs connector).symm
      refine ⟨outputs, ?_, hproduced⟩
      rw [Call.outcome, hsame, houtputs]

/-- **A run finds the solution**, in whatever order it goes through the children. -/
theorem Started.of_solves (h : w.Started children provided l start)
    (hids : (children.map (·.id)).Nodup) (hsolves : w.Solves children start produced) :
    (w.runChildren l start .empty).result = .ok produced := by
  have hturn := h.calledInTurn hids
  have hcall : ∀ c ∈ w.calls children provided,
      ∃ outputs, c.outcome.result = .ok outputs ∧ produced.get? c.child.id = some outputs := by
    intro c hc
    obtain ⟨before, after, hsplit⟩ := List.append_of_mem hc
    exact hsolves.of_call h hids hsplit
  have hcalled : ∀ c ∈ w.calls children provided,
      outputsOf (w.calls children provided) c.child.id = produced.get? c.child.id := by
    intro c hc
    obtain ⟨outputs, houtputs, hproduced⟩ := hcall c hc
    rw [outputsOf_of_mem hturn.once hc, hproduced, outputs?_eq_some.2 houtputs]
  have hending := h.ending hids
  cases hresult : (w.runChildren l start .empty).result with
  | error f =>
      -- no call fails, and no source lacks a value, for the solution has outputs for both
      exfalso
      rw [hresult] at hending
      cases hending with
      | failed hcalls _ hfail =>
          obtain ⟨outputs, houtputs, -⟩ :=
            hcall _ (hcalls ▸ List.mem_append_right _ (List.mem_singleton_self _))
          rw [hfail] at houtputs
          cases houtputs
      | missing hk hsource hmissing _ =>
          obtain ⟨s, hs, hid⟩ := hsource
          obtain ⟨v, hv⟩ := hsolves.sources _ hk
          rw [outputAt, ← hid, hcalled s hs, hid] at hmissing
          rw [OperatorValues.at?, hmissing] at hv
          cases hv
  | ok produced' =>
      rw [hresult] at hending
      obtain ⟨hall, -, hrecords⟩ := hending
      refine congrArg Except.ok (Dict.ext_get? fun a => ?_)
      rw [hrecords]
      by_cases ha : a ∈ children.map (·.id)
      · obtain ⟨child, hchild, rfl⟩ := List.mem_map.1 ha
        obtain ⟨c, hc, rfl⟩ := h.exists_call hall hchild
        exact hcalled c hc
      · rw [hsolves.only a ha, hturn.outputsOf_eq_none ha]

end Started

/-- **When a run succeeds**, and with which outputs: everything names a child, no connections
go in a circle, and there is a solution from which the mappings of the outputs take theirs. -/
theorem evaluate_eq_ok_iff {w : WorkflowFrame} {children : List Child}
    (hids : (children.map (·.id)).Nodup) {provided outputs : Values} :
    (w.evaluate children provided).result = .ok outputs ↔
      ¬ w.Dangling (children.map (·.id)) ∧ ¬ w.Cyclic ∧ ∃ start produced,
        w.routeInputs (children.map (·.id)) w.inputs provided .empty = .ok start ∧
          w.Solves children start produced ∧
          w.exposeOutputs produced w.outputs .empty = .ok outputs := by
  rcases w.evaluate_cases hids provided with
    ⟨hbad, -, f, hfail, -⟩ | ⟨hknown, hacyclic, l, start, h⟩
  · rw [hfail]
    constructor
    · intro hok
      cases hok
    · rintro ⟨hknown, hacyclic, -⟩
      exact absurd hbad (not_or_intro hknown hacyclic)
  · have hjoined : w.Joined (children.map (·.id)) := by
      by_contra hnot
      exact hknown (.inl hnot)
    rw [h.evaluate, Traced.bind_eq_ok]
    constructor
    · rintro ⟨produced, hproduced, houtputs⟩
      rw [result_conclude] at houtputs
      exact ⟨hknown, hacyclic, start, produced, h.routed, h.solves hids hjoined hproduced,
        houtputs⟩
    · rintro ⟨-, -, start', produced, hroute, hsolves, houtputs⟩
      rw [h.routed, Except.ok.injEq] at hroute
      subst hroute
      refine ⟨produced, h.of_solves hids hsolves, ?_⟩
      rw [result_conclude, houtputs]

/-! ## Children and connections in another order -/

section Reordered

variable {w : WorkflowFrame} {connections : List Connection}
  {ids ids' : List OperatorId}

/-- If no two connections end at the same connector, the one that ends there is the last one. -/
theorem ending_eq_some_iff (htargets : (w.connections.map (·.target)).Nodup) {e : Endpoint}
    {k : Connection} : w.ending e = some k ↔ k ∈ w.connections ∧ k.target = e := by
  refine ⟨mem_of_ending, fun ⟨hk, htarget⟩ => ?_⟩
  cases h : w.ending e with
  | none =>
      have hempty := List.getLast?_eq_none_iff.1 h
      have hmem : k ∈ w.connections.filter fun c => c.target = e :=
        List.mem_filter.2 ⟨hk, decide_eq_true htarget⟩
      rw [hempty] at hmem
      cases hmem
  | some k' =>
      obtain ⟨hk', htarget'⟩ := mem_of_ending h
      rw [List.inj_on_of_nodup_map htargets hk' hk (htarget'.trans htarget.symm)]

theorem ending_reordered (htargets : (w.connections.map (·.target)).Nodup)
    (hconnections : connections.Perm w.connections) (e : Endpoint) :
    ending { w with connections := connections } e = w.ending e := by
  have htargets' : (connections.map (·.target)).Nodup :=
    (hconnections.map (·.target)).nodup_iff.2 htargets
  refine Option.ext fun k => ?_
  rw [ending_eq_some_iff htargets, ending_eq_some_iff htargets', hconnections.mem_iff]

theorem dangling_reordered (hids : ids'.Perm ids)
    (hconnections : connections.Perm w.connections) :
    Dangling { w with connections := connections } ids' ↔ w.Dangling ids := by
  simp only [Dangling, Joined, hconnections.mem_iff, hids.mem_iff]

theorem cyclic_reordered (hconnections : connections.Perm w.connections) :
    Cyclic { w with connections := connections } ↔ w.Cyclic := by
  have hfeeds : Feeds { w with connections := connections } = w.Feeds := by
    funext a b
    simp only [Feeds, hconnections.mem_iff]
  rw [Cyclic, Cyclic, hfeeds]

/-- The inputs reach the same operators, wherever these stand. -/
theorem routeInputs_reordered (hids : ids.Nodup) (hperm : ids'.Perm ids) (l : List Mapping)
    (left : Values) (pending : OperatorValues) :
    routeInputs { w with connections := connections } ids' l left pending =
      w.routeInputs ids l left pending := by
  have hids' : ids'.Nodup := hperm.nodup_iff.2 hids
  induction l generalizing left pending with
  | nil => rfl
  | cons m rest ih =>
      rw [routeInputs, routeInputs]
      by_cases hm : m.endpoint.operator ∈ ids
      · rw [position_of_mem hids hm, position_of_mem hids' (hperm.mem_iff.2 hm)]
        exact ih _ _
      · rw [position_of_notMem hm, position_of_notMem (mt hperm.mem_iff.1 hm)]
        rfl

theorem solves_reordered (htargets : (w.connections.map (·.target)).Nodup)
    (hconnections : connections.Perm w.connections) {children children' : List Child}
    (hchildren : children'.Perm children) (start produced : OperatorValues) :
    Solves { w with connections := connections } children' start produced ↔
      w.Solves children start produced := by
  have hgiven : ∀ e, given { w with connections := connections } start produced e =
      w.given start produced e := by
    intro e
    rw [given, given, ending_reordered htargets hconnections]
  have hmem : ∀ a, a ∈ children'.map (·.id) ↔ a ∈ children.map (·.id) :=
    fun a => (hchildren.map (·.id)).mem_iff
  constructor
  · rintro ⟨hyields, hsources, honly⟩
    refine ⟨fun child hchild => ?_, fun k hk => ?_, fun a ha => ?_⟩
    · simpa only [hgiven] using hyields child (hchildren.mem_iff.2 hchild)
    · exact hsources k (hconnections.mem_iff.2 hk)
    · exact honly a (mt (hmem a).1 ha)
  · rintro ⟨hyields, hsources, honly⟩
    refine ⟨fun child hchild => ?_, fun k hk => ?_, fun a ha => ?_⟩
    · simpa only [hgiven] using hyields child (hchildren.mem_iff.1 hchild)
    · exact hsources k (hconnections.mem_iff.1 hk)
    · exact honly a (mt (hmem a).2 ha)

end Reordered

end WorkflowFrame

namespace Node

/-- **The order of children and of connections does not matter** for whether a workflow succeeds
and for its outputs, if no two connections end at the same connector. -/
theorem evaluate_reordered (bodies : Bodies) (plots : Bool) {w : WorkflowFrame}
    {children children' : List Node} {connections : List Connection}
    (hids : (children.map Node.id).Nodup) (htargets : (w.connections.map (·.target)).Nodup)
    (hchildren : children'.Perm children) (hconnections : connections.Perm w.connections)
    (provided outputs : Values) :
    ((workflow { w with connections := connections } children').evaluate bodies plots
        provided).result = .ok outputs ↔
      ((workflow w children).evaluate bodies plots provided).result = .ok outputs := by
  have hkids : (evaluateAll bodies plots children').Perm (evaluateAll bodies plots children) := by
    rw [evaluateAll_eq, evaluateAll_eq]
    exact hchildren.map _
  have hnodup : ((evaluateAll bodies plots children).map (·.id)).Nodup := by
    rwa [map_id_evaluateAll]
  have hperm := hkids.map (·.id)
  have hnodup' : ((evaluateAll bodies plots children').map (·.id)).Nodup :=
    hperm.nodup_iff.2 hnodup
  rw [evaluate_workflow_eq, evaluate_workflow_eq, WorkflowFrame.evaluate_eq_ok_iff hnodup,
    WorkflowFrame.evaluate_eq_ok_iff hnodup', WorkflowFrame.dangling_reordered hperm hconnections,
    WorkflowFrame.cyclic_reordered hconnections]
  simp only [WorkflowFrame.routeInputs_reordered hnodup hperm,
    WorkflowFrame.solves_reordered htargets hconnections hkids,
    WorkflowFrame.exposeOutputs_eq_layOver, WorkflowFrame.label]

theorem evaluate_reordered_chain :
    ([passing 2, passing 1, passing 3].map Node.id).Nodup ∧
      (chain.connections.map (·.target)).Nodup ∧
      ((workflow { chain with connections := chain.connections.reverse }
        [passing 1, passing 2, passing 3]).evaluate .standard true
          (.singleton "in" (.text "v"))).result = .ok (.singleton "out" (.text "v")) := by
  have hids : ([passing 2, passing 1, passing 3].map Node.id).Nodup := by decide
  have htargets : (chain.connections.map (·.target)).Nodup := by decide
  have hchildren : [passing 1, passing 2, passing 3].Perm [passing 2, passing 1, passing 3] :=
    .swap _ _ _
  refine ⟨hids, htargets, ?_⟩
  exact (evaluate_reordered .standard true hids htargets hchildren (List.reverse_perm _)
    _ _).2 rfl

end Node

end Dataflow
