import Dataflow.Proofs.Graph.Solution
import Dataflow.Proofs.Node.BodyRuns

set_option autoImplicit false

/-! # Skipped plots do not disturb the rest

A pure plot that is skipped yields `null` for each of its outputs, so that the runs with and
without plots differ in the values that flow out of it. `Node.evaluate_skipping` says that they
differ in nothing else. A tree without pure plots runs the same either way. In a workflow, what
the children produce solves the same equations in both runs, but for the children that contain a
pure plot; so the solutions agree on every child that is not downstream of one of those
(`WorkflowFrame.Solves.agree`), and with them the outputs that are mapped from such a child.
-/

namespace Dataflow

open Relation

/-! ## Solutions that agree -/

namespace WorkflowFrame

variable {w : WorkflowFrame} {children children' l : List Child}
  {start produced produced' : OperatorValues}

/-- **Solutions for different children agree where the children do**: on each operator of a set
that is closed under what feeds it, if in both lists the children of the set do the same. -/
theorem Solves.agree (h : w.Solves children start produced)
    (h' : w.Solves children' start produced') {S : OperatorId → Prop}
    (hclosed : ∀ a b, w.Feeds a b → S b → S a)
    (hsame : ∀ child ∈ children, S child.id → child ∈ children')
    (hperm : l.Perm children) (hfed : w.FedInOrder l) {child : Child} (hchild : child ∈ children)
    (hS : S child.id) : produced.get? child.id = produced'.get? child.id := by
  obtain ⟨before, after, hsplit⟩ := List.append_of_mem (hperm.mem_iff.2 hchild)
  -- the induction is on the number of children before this one, which has those that feed it
  induction hn : before.length using Nat.strong_induction_on
    generalizing before child after with
  | _ n ih =>
      have hsources : ∀ k ∈ w.connections, k.target.operator = child.id →
          produced.at? k.source = produced'.at? k.source := by
        intro k hk htarget
        obtain ⟨source, hsource, hid⟩ := hfed before child after hsplit k hk htarget
        obtain ⟨front, back, hbefore⟩ := List.append_of_mem hsource
        have hlist : l = front ++ source :: (back ++ child :: after) := by
          rw [hsplit, hbefore, List.append_assoc, List.cons_append]
        have hlength : front.length < n := by
          rw [← hn, hbefore, List.length_append, List.length_cons]
          omega
        have hmem : source ∈ children := by
          rw [← hperm.mem_iff, hlist]
          exact List.mem_append_right _ List.mem_cons_self
        have hfeeds : w.Feeds source.id child.id := ⟨k, hk, hid.symm, htarget⟩
        have hproduced : produced.get? source.id = produced'.get? source.id :=
          ih front.length hlength hmem (hclosed _ _ hfeeds hS) front _ hlist rfl
        rw [OperatorValues.at?, OperatorValues.at?, ← hid, hproduced]
      obtain ⟨inputs, outputs, hinputs, houtputs, hget⟩ := h.yields child hchild
      obtain ⟨inputs', outputs', hinputs', houtputs', hget'⟩ :=
        h'.yields child (hsame child hchild hS)
      have hgiven : inputs = inputs' := by
        refine Dict.ext_get? fun connector => ?_
        rw [hinputs, hinputs', given, given]
        cases hending : w.ending ⟨child.id, connector⟩ with
        | none => rfl
        | some k =>
            obtain ⟨hk, htarget⟩ := mem_of_ending hending
            rw [Option.map_some, Option.map_some, Option.getD_some, Option.getD_some,
              hsources k hk (by rw [htarget])]
      rw [hgiven, houtputs', Except.ok.injEq] at houtputs
      rw [hget, hget', houtputs]

end WorkflowFrame

/-! ## Trees without pure plots -/

namespace Node

variable {bodies : Bodies}

/-- Some component of a tree is a pure plot. -/
def HasPlot (n : Node) : Prop := ∃ c ∈ n.componentNodes, c.interface.isPurePlot = true

theorem hasPlot_workflow {w : WorkflowFrame} {children : List Node} {n : Node}
    (hn : n ∈ children) (h : n.HasPlot) : (workflow w children).HasPlot := by
  obtain ⟨c, hc, hplot⟩ := h
  refine ⟨c, ?_, hplot⟩
  rw [mem_componentNodes_iff] at hc ⊢
  exact .deeper hn hc

/-- **Without pure plots it does not matter whether plots are run.** -/
theorem evaluate_of_no_plot {n : Node} (h : ¬ n.HasPlot) :
    n.evaluate bodies false = n.evaluate bodies true := by
  induction n using Node.induction with
  | component c =>
      have hplot : c.interface.isPurePlot = false := by
        by_contra hplot
        rw [Bool.not_eq_false] at hplot
        exact h ⟨c, mem_componentNodes_iff.2 .here, hplot⟩
      funext provided
      simp only [evaluate, ComponentNode.evaluate, hplot, Bool.and_false]
  | workflow w children ih =>
      have hkids : evaluateAll bodies false children = evaluateAll bodies true children := by
        rw [evaluateAll_eq, evaluateAll_eq]
        refine List.map_congr_left fun n hn => ?_
        rw [ih n hn fun hplot => h (hasPlot_workflow hn hplot)]
      rw [evaluate_workflow_eq, evaluate_workflow_eq, hkids]

end Node

/-! ## What is downstream of a pure plot -/

namespace WorkflowFrame

/-- An operator contains a pure plot, or a child that does feeds it, directly or through
others. -/
def PlotUpstream (w : WorkflowFrame) (children : List Node) (a : OperatorId) : Prop :=
  ∃ n ∈ children, n.HasPlot ∧ ReflTransGen w.Feeds n.id a

variable {w : WorkflowFrame} {children : List Node} {bodies : Bodies} {provided : Values}

/-- Two runs that succeed, with plots and without, come of solutions that agree on what is not
downstream of a pure plot. -/
theorem exists_solutions (hids : (children.map Node.id).Nodup) {off on : Values}
    (hoff : (w.evaluate (Node.evaluateAll bodies false children) provided).result = .ok off)
    (hon : (w.evaluate (Node.evaluateAll bodies true children) provided).result = .ok on) :
    ∃ produced produced',
      w.exposeOutputs produced w.outputs .empty = .ok off ∧
      w.exposeOutputs produced' w.outputs .empty = .ok on ∧
      ∀ a, ¬ w.PlotUpstream children a → produced.get? a = produced'.get? a := by
  have hnodup : ∀ plots, ((Node.evaluateAll bodies plots children).map (·.id)).Nodup := by
    intro plots
    rwa [Node.map_id_evaluateAll]
  obtain ⟨hknown, hacyclic, start, produced, hroute, hsolves, hexpose⟩ :=
    (evaluate_eq_ok_iff (hnodup false)).1 hoff
  obtain ⟨-, -, start', produced', hroute', hsolves', hexpose'⟩ :=
    (evaluate_eq_ok_iff (hnodup true)).1 hon
  -- both runs begin with the same values of the inputs
  obtain rfl : start = start' := by
    rw [Node.map_id_evaluateAll] at hroute hroute'
    rw [hroute] at hroute'
    exact Except.ok.inj hroute'
  obtain ⟨l, hperm, hfed⟩ : ∃ l : List Child,
      l.Perm (Node.evaluateAll bodies false children) ∧ w.FedInOrder l := by
    rcases w.evaluate_cases (hnodup false) provided with ⟨hbad, -⟩ | ⟨-, -, l, _, hstarted⟩
    · exact absurd hbad (not_or_intro hknown hacyclic)
    · exact ⟨l, hstarted.perm, hstarted.fed⟩
  refine ⟨produced, produced', hexpose, hexpose', fun a hclean => ?_⟩
  by_cases ha : a ∈ children.map Node.id
  swap
  · rw [hsolves.only a (by rwa [Node.map_id_evaluateAll]),
      hsolves'.only a (by rwa [Node.map_id_evaluateAll])]
  obtain ⟨n, hn, rfl⟩ := List.mem_map.1 ha
  have hchild : (⟨n.id, n.evaluate bodies false⟩ : Child) ∈
      Node.evaluateAll bodies false children := by
    rw [Node.evaluateAll_eq]
    exact List.mem_map_of_mem hn
  refine hsolves.agree hsolves' (S := fun a => ¬ w.PlotUpstream children a) ?_ ?_ hperm hfed
    hchild hclean
  · rintro a b hfeeds hb ⟨m, hm, hplot, hpath⟩
    exact hb ⟨m, hm, hplot, hpath.tail hfeeds⟩
  · intro child hmem hupstream
    rw [Node.evaluateAll_eq] at hmem ⊢
    obtain ⟨m, hm, rfl⟩ := List.mem_map.1 hmem
    have hnone : ¬ m.HasPlot := fun hplot => hupstream ⟨m, hm, hplot, .refl⟩
    rw [Node.evaluate_of_no_plot hnone]
    exact List.mem_map_of_mem hm

/-- An output that is mapped from what is not downstream of a pure plot has the same value with
and without plots. The last mapping of a name is the one that counts. -/
theorem get?_of_not_plotUpstream (hids : (children.map Node.id).Nodup) {off on : Values}
    (hoff : (w.evaluate (Node.evaluateAll bodies false children) provided).result = .ok off)
    (hon : (w.evaluate (Node.evaluateAll bodies true children) provided).result = .ok on)
    {name : String} {m : Mapping} (hlast : lastWith (·.name) w.outputs name = some m)
    (hclean : ¬ w.PlotUpstream children m.endpoint.operator) :
    off.get? name = on.get? name := by
  obtain ⟨produced, produced', hexpose, hexpose', hagree⟩ := exists_solutions hids hoff hon
  rw [exposeOutputs_eq_layOver, layOver_eq_ok_iff] at hexpose hexpose'
  have hat : produced.at? m.endpoint = produced'.at? m.endpoint := by
    rw [OperatorValues.at?, OperatorValues.at?, hagree _ hclean]
  rw [hexpose.2, hexpose'.2, hlast, Option.map_some, Option.map_some, Option.getD_some,
    Option.getD_some, hat]

end WorkflowFrame

/-! ## With plots and without -/

namespace Node

/-- **Skipping pure plots does not disturb the rest.** For every workflow whose children have
different identities at every level, and all provided values, the runs without plots and with them
are related as follows. If the tree has no pure plot they are the same, with their entries and
failures. If both succeed, an output that is mapped from a child has the same value in both if
neither that child nor one upstream of it contains a pure plot. The calls of bodies in either
trace are those of components at places of the tree. In a run that succeeds each component calls
its body once, but for pure plots that are skipped; and where plots are skipped none of them calls
its body. -/
theorem evaluate_skipping (bodies : Bodies) {w : WorkflowFrame} {children : List Node}
    (hids : (workflow w children).DistinctIds) (provided : Values) :
    let tree := workflow w children
    let run := fun plots => tree.evaluate bodies plots provided
    let calls := fun plots => tree.bodyRuns bodies plots provided
    (¬ tree.HasPlot → run false = run true) ∧
      (∀ off on, (run false).result = .ok off → (run true).result = .ok on →
        ∀ name m, lastWith (·.name) w.outputs name = some m →
          ¬ w.PlotUpstream children m.endpoint.operator → off.get? name = on.get? name) ∧
      (tree.sites.map (·.path)).Nodup ∧ tree.sites.map (·.node) = tree.componentNodes ∧
      (∀ plots, bodyCalls (run plots).entries = (calls plots).map BodyRun.call ∧
        ∀ r ∈ calls plots, r.site ∈ tree.sites) ∧
      (∀ plots outputs, (run plots).result = .ok outputs →
        ((calls plots).map (·.site)).Perm
          (tree.sites.filter fun site => plots || !site.node.interface.isPurePlot)) ∧
      ∀ r ∈ calls false, r.site.node.interface.isPurePlot = false := by
  intro tree run calls
  refine ⟨fun hplot => ?_, fun off on hoff hon name m hlast hclean => ?_, nodup_path_sites hids,
    map_node_sites tree, fun plots => ⟨bodyCalls_evaluate hids provided, fun r hr => ?_⟩,
    fun plots outputs houtputs => ?_, fun r hr => isPurePlot_of_mem_bodyRuns hr⟩
  · exact congrFun (evaluate_of_no_plot hplot) provided
  · simp only [run, tree, evaluate_workflow_eq] at hoff hon
    exact WorkflowFrame.get?_of_not_plotUpstream (distinctIds_workflow_iff.1 hids).1 hoff hon hlast
      hclean
  · exact site_mem_of_mem_bodyRuns hr
  · exact perm_bodyRuns hids houtputs

/-! A step that feeds another one and a plot. -/

/-- The plot, which hands its input on. -/
def passingPlot (n : Nat) : Node :=
  component ⟨.ofNat n, "plot", .ofNat 103, .ofNat 104, passThroughFunction,
    ⟨[.required "x" .any], [⟨"y", .plotlyJson⟩]⟩⟩

/-- The workflow, with an output behind the plot and one beside it. -/
def branching : WorkflowFrame :=
  { chain with
    name := "branching"
    connections := [⟨⟨.ofNat 1, "y"⟩, ⟨.ofNat 2, "x"⟩⟩, ⟨⟨.ofNat 1, "y"⟩, ⟨.ofNat 3, "x"⟩⟩]
    outputs := [⟨"shown", ⟨.ofNat 2, "y"⟩⟩, ⟨"out", ⟨.ofNat 3, "y"⟩⟩] }

theorem evaluate_skipping_branching :
    let tree := workflow branching [passing 1, passingPlot 2, passing 3]
    let run := fun plots => tree.evaluate .standard plots (.singleton "in" (.text "v"))
    ∃ off on, (run false).result = .ok off ∧ (run true).result = .ok on ∧
      off.get? "out" = on.get? "out" ∧
      off.get? "shown" = some .null ∧ on.get? "shown" = some (.text "v") ∧
      (bodyCalls (run false).entries).length = 2 ∧ (bodyCalls (run true).entries).length = 3 := by
  intro tree run
  have hids : tree.DistinctIds := by
    refine distinctIds_workflow_iff.2 ⟨by decide, fun n hn => ?_⟩
    simp only [List.mem_cons, List.not_mem_nil, or_false] at hn
    rcases hn with rfl | rfl | rfl <;> exact distinctIds_component _
  -- no connection leaves the plot, so the step beside it is not downstream of it
  have hclean : ¬ branching.PlotUpstream [passing 1, passingPlot 2, passing 3] (.ofNat 3) := by
    rintro ⟨n, hn, ⟨c, hc, hplot⟩, hpath⟩
    simp only [List.mem_cons, List.not_mem_nil, or_false] at hn
    rcases hn with rfl | rfl | rfl
    · obtain rfl := List.mem_singleton.1 hc
      cases hplot
    · rcases hpath.cases_head with hsame | ⟨b, ⟨k, hk, hsource, -⟩, -⟩
      · exact absurd hsame (by decide)
      · revert hsource
        revert k
        decide
    · obtain rfl := List.mem_singleton.1 hc
      cases hplot
  obtain ⟨-, hagree, -, -, hcalls, honce, -⟩ :=
    evaluate_skipping .standard hids (.singleton "in" (.text "v"))
  have hlength : ∀ plots outputs, (run plots).result = .ok outputs →
      (bodyCalls (run plots).entries).length =
        (tree.sites.filter fun site => plots || !site.node.interface.isPurePlot).length := by
    intro plots outputs houtputs
    rw [(hcalls plots).1, List.length_map, ← List.length_map (f := BodyRun.site)]
    exact (honce plots outputs houtputs).length_eq
  refine ⟨_, _, rfl, rfl, hagree _ _ rfl rfl "out" ⟨"out", ⟨.ofNat 3, "y"⟩⟩ rfl hclean, rfl,
    rfl, hlength false _ rfl, hlength true _ rfl⟩

end Node

end Dataflow
