import Dataflow.Proofs.Component.Bare
import Dataflow.Proofs.Graph.Evaluation
import Dataflow.Proofs.Node.Tree

set_option autoImplicit false

/-! # Which bodies a tree calls

The trace of a run says which bodies were called, but not by which component: two components may
share a function. `Node.bodyRuns` goes through the calls of the run and names the place of each
component that calls its body. It lists exactly the calls of the trace
(`Node.bodyCalls_evaluate`). In a run that succeeds every component calls its body once, but for
pure plots that are skipped (`Node.perm_bodyRuns`), and where plots are skipped no pure plot calls
its body (`Node.isPurePlot_of_mem_bodyRuns`).
-/

namespace Dataflow

open scoped List

/-! ## Different identities -/

/-- In every workflow of a tree the children have different identities. -/
def Node.DistinctIds (n : Node) : Prop :=
  ∀ w children, Inside (workflow w children) n → (children.map Node.id).Nodup

theorem Node.distinctIds_component (c : ComponentNode) : (component c).DistinctIds :=
  fun _ _ hinside => nomatch hinside

theorem Node.distinctIds_workflow_iff {w : WorkflowFrame} {children : List Node} :
    (workflow w children).DistinctIds ↔
      (children.map Node.id).Nodup ∧ ∀ n ∈ children, n.DistinctIds := by
  constructor
  · intro h
    exact ⟨h w children .here, fun n hn w' children' hinside => h w' children' (.deeper hn hinside)⟩
  · rintro ⟨hids, hchildren⟩ w' children' hinside
    cases hinside with
    | here => exact hids
    | deeper hn hinside => exact hchildren _ hn w' children' hinside

/-! ## Places -/

/-- A component node at its place in a tree. -/
structure Site where
  /-- The identities of the nodes on the way down to it, that of the root left out. -/
  path : List OperatorId
  node : ComponentNode

/-- The place as it is seen from the node above. -/
def Site.below (id : OperatorId) (site : Site) : Site := { site with path := id :: site.path }

namespace Node

mutual

/-- The places of the components of a tree. -/
def sites : Node → List Site
  | component c => [⟨[], c⟩]
  | workflow _ children => sitesAll children

/-- The places of the components of several children. -/
def sitesAll : List Node → List Site
  | [] => []
  | n :: ns => (sites n).map (.below n.id) ++ sitesAll ns

end

theorem sites_workflow (w : WorkflowFrame) (children : List Node) :
    (workflow w children).sites = children.flatMap fun n => n.sites.map (.below n.id) := by
  rw [sites]
  induction children with
  | nil => rfl
  | cons n rest ih => rw [sitesAll, ih, List.flatMap_cons]

theorem leaves_workflow (w : WorkflowFrame) (children : List Node) :
    (workflow w children).leaves = children.flatMap leaves := by
  rw [leaves]
  induction children with
  | nil => rfl
  | cons n rest ih => rw [leavesAll, ih, List.flatMap_cons]

/-- The places are those of the component nodes, from left to right. -/
theorem map_node_sites (n : Node) : n.sites.map (·.node) = n.componentNodes := by
  rw [componentNodes_eq_leaves]
  induction n using Node.induction with
  | component c => rfl
  | workflow w children ih =>
      rw [sites_workflow, leaves_workflow, List.map_flatMap]
      refine List.flatMap_congr fun n hn => ?_
      rw [← ih n hn, List.map_map]
      rfl

/-- No two components stand at the same place. -/
theorem nodup_path_sites {n : Node} (h : n.DistinctIds) : (n.sites.map (·.path)).Nodup := by
  induction n using Node.induction with
  | component c => exact List.nodup_singleton _
  | workflow w children ih =>
      obtain ⟨hids, hchildren⟩ := distinctIds_workflow_iff.1 h
      have hpaths : (workflow w children).sites.map (·.path) =
          children.flatMap fun n => (n.sites.map (·.path)).map (n.id :: ·) := by
        rw [sites_workflow, List.map_flatMap]
        refine List.flatMap_congr fun n _ => ?_
        rw [List.map_map, List.map_map]
        rfl
      rw [hpaths, List.nodup_flatMap]
      refine ⟨fun n hn => ?_, ?_⟩
      · exact (ih n hn (hchildren n hn)).map (List.cons_injective)
      · -- places below different children begin with different identities
        refine (List.pairwise_map.1 hids).imp fun {m n} hne => ?_
        intro path hm hn
        obtain ⟨p, -, rfl⟩ := List.mem_map.1 hm
        obtain ⟨q, -, hq⟩ := List.mem_map.1 hn
        exact hne (List.cons.inj hq).1.symm

/-- The places below the child with an identity. -/
def sitesOf (children : List Node) (id : OperatorId) : List Site :=
  ((children.find? (·.id == id)).map fun n => n.sites.map (.below n.id)).getD []

theorem sitesOf_of_mem {children : List Node} (hids : (children.map Node.id).Nodup) {n : Node}
    (hn : n ∈ children) : sitesOf children n.id = n.sites.map (.below n.id) := by
  have hfind : children.find? (·.id == n.id) = some n :=
    (find?_key_eq_some_iff hids fun _ => beq_iff_eq).2 ⟨hn, rfl⟩
  rw [sitesOf, hfind, Option.map_some, Option.getD_some]

/-- The places of a workflow are those below its children. -/
theorem flatMap_sitesOf {children : List Node} (hids : (children.map Node.id).Nodup)
    (w : WorkflowFrame) :
    (children.map Node.id).flatMap (sitesOf children) = (workflow w children).sites := by
  rw [List.flatMap_map, sites_workflow]
  exact List.flatMap_congr fun n hn => sitesOf_of_mem hids hn

end Node

/-! ## The bodies that are called -/

/-- The call of the body of a component at its place. -/
structure BodyRun where
  site : Site
  inputs : Values

namespace BodyRun

/-- What the trace of a run says of a call. -/
def call (r : BodyRun) : Uuid × String × Values :=
  (r.site.node.codeModule, r.site.node.function, r.inputs)

/-- The call as it is seen from the node above. -/
def below (id : OperatorId) (r : BodyRun) : BodyRun := { r with site := r.site.below id }

end BodyRun

/-- The inputs that a component calls its body on, if it calls it. -/
def ComponentNode.bodyInputs? (bodies : Bodies) (plots : Bool) (c : ComponentNode)
    (provided : Values) : Option Values :=
  if !plots && c.interface.isPurePlot then none
  else
    (takeInputs c.label c.interface.inputs provided .empty).toOption.bind fun inputs =>
      (bodies.get? c.codeModule c.function).map fun _ => inputs

namespace Node

mutual

/-- The bodies that a run of a tree calls. A workflow calls those that its calls of children
call. -/
def bodyRuns (bodies : Bodies) (plots : Bool) : Node → Values → List BodyRun
  | component c, provided =>
      (c.bodyInputs? bodies plots provided).toList.map fun inputs => ⟨⟨[], c⟩, inputs⟩
  | workflow w children, provided =>
      (w.calls (evaluateAll bodies plots children) provided).flatMap fun call =>
        bodyRunsOf bodies plots children call.child.id call.inputs

/-- The bodies that a run of the child with an identity calls. -/
def bodyRunsOf (bodies : Bodies) (plots : Bool) :
    List Node → OperatorId → Values → List BodyRun
  | [], _, _ => []
  | n :: ns, id, inputs =>
      if n.id = id then (bodyRuns bodies plots n inputs).map (.below n.id)
      else bodyRunsOf bodies plots ns id inputs

end

variable {bodies : Bodies} {plots : Bool}

theorem bodyRunsOf_of_mem {children : List Node} (hids : (children.map Node.id).Nodup) {n : Node}
    (hn : n ∈ children) (inputs : Values) :
    bodyRunsOf bodies plots children n.id inputs =
      (n.bodyRuns bodies plots inputs).map (.below n.id) := by
  induction children with
  | nil => cases hn
  | cons first rest ih =>
      obtain ⟨hnew, hrest⟩ := List.nodup_cons.1 (List.map_cons ▸ hids)
      rw [bodyRunsOf]
      rcases List.mem_cons.1 hn with rfl | hmem
      · rw [if_pos rfl]
      · have hne : first.id ≠ n.id := fun hid => hnew (hid ▸ List.mem_map_of_mem hmem)
        rw [if_neg hne, ih hrest hmem]

theorem exists_of_mem_bodyRunsOf {children : List Node} {id : OperatorId} {inputs : Values}
    {r : BodyRun} (h : r ∈ bodyRunsOf bodies plots children id inputs) :
    ∃ n ∈ children, ∃ r' ∈ n.bodyRuns bodies plots inputs, r = r'.below n.id := by
  induction children with
  | nil => cases h
  | cons n rest ih =>
      rw [bodyRunsOf] at h
      by_cases hid : n.id = id
      · rw [if_pos hid] at h
        obtain ⟨r', hr', rfl⟩ := List.mem_map.1 h
        exact ⟨n, List.mem_cons_self, r', hr', rfl⟩
      · rw [if_neg hid] at h
        obtain ⟨m, hm, hr⟩ := ih h
        exact ⟨m, List.mem_cons_of_mem _ hm, hr⟩

/-- A call of a run is that of a child on inputs. -/
theorem exists_of_mem_calls {w : WorkflowFrame} {children : List Node}
    (hids : (children.map Node.id).Nodup) {provided : Values} {c : Call}
    (hc : c ∈ w.calls (evaluateAll bodies plots children) provided) :
    ∃ n ∈ children, c.child = ⟨n.id, n.evaluate bodies plots⟩ := by
  have hkids : ((evaluateAll bodies plots children).map (·.id)).Nodup := by
    rwa [map_id_evaluateAll]
  rcases w.evaluate_cases hkids provided with ⟨-, hcalls, -⟩ | ⟨-, -, l, start, h⟩
  · rw [hcalls] at hc
    cases hc
  · have hmem := (h.calledInTurn hkids).among c hc
    rw [evaluateAll_eq] at hmem
    obtain ⟨n, hn, hchild⟩ := List.mem_map.1 hmem
    exact ⟨n, hn, hchild.symm⟩

end Node

theorem bodyCalls_flatMap {α : Type} (l : List α) (f : α → List Entry) :
    bodyCalls (l.flatMap f) = l.flatMap fun a => bodyCalls (f a) :=
  List.filterMap_flatMap

theorem WorkflowFrame.bodyCalls_ownEntries (w : WorkflowFrame)
    (result : Except NodeFailure Values) : bodyCalls (w.ownEntries result) = [] := by
  cases result <;> rfl

/-! ## The calls of the trace -/

namespace Node

variable {bodies : Bodies} {plots : Bool}

/-- **The calls of the trace are those that are listed.** -/
theorem bodyCalls_evaluate {n : Node} (h : n.DistinctIds) (provided : Values) :
    bodyCalls (n.evaluate bodies plots provided).entries =
      (n.bodyRuns bodies plots provided).map BodyRun.call := by
  induction n using Node.induction generalizing provided with
  | component c =>
      rw [evaluate, bodyRuns, ComponentNode.bodyCalls_evaluate, ComponentNode.bodyInputs?]
      split
      · rfl
      · cases (ComponentNode.takeInputs c.label c.interface.inputs provided .empty).toOption with
        | none => rfl
        | some inputs => cases bodies.get? c.codeModule c.function <;> rfl
  | workflow w children ih =>
      obtain ⟨hids, hchildren⟩ := distinctIds_workflow_iff.1 h
      have hkids : ((evaluateAll bodies plots children).map (·.id)).Nodup := by
        rwa [map_id_evaluateAll]
      rw [evaluate_workflow_eq, WorkflowFrame.entries_evaluate hkids, bodyCalls_append,
        WorkflowFrame.bodyCalls_ownEntries, List.append_nil, bodyCalls_flatMap, bodyRuns,
        List.map_flatMap]
      refine List.flatMap_congr fun c hc => ?_
      obtain ⟨n, hn, hchild⟩ := exists_of_mem_calls hids hc
      calc bodyCalls c.outcome.entries
          = bodyCalls (n.evaluate bodies plots c.inputs).entries := by
            rw [Call.outcome, hchild]
        _ = (n.bodyRuns bodies plots c.inputs).map BodyRun.call := ih n hn (hchildren n hn) _
        _ = (bodyRunsOf bodies plots children c.child.id c.inputs).map BodyRun.call := by
            rw [hchild, bodyRunsOf_of_mem hids hn, List.map_map]
            rfl

/-! ## Once each, or not at all -/

/-- A component whose body is called unless it is a pure plot and plots are skipped. -/
def Runs (plots : Bool) (site : Site) : Bool := plots || !site.node.interface.isPurePlot

theorem map_site_bodyRuns_component {c : ComponentNode} {provided outputs : Values}
    (h : (c.evaluate bodies plots provided).result = .ok outputs) :
    ((component c).bodyRuns bodies plots provided).map (·.site) =
      (component c).sites.filter (Runs plots) := by
  rw [bodyRuns, ComponentNode.bodyInputs?, sites]
  by_cases hskipped : (!plots && c.interface.isPurePlot) = true
  · have hruns : ¬ Runs plots ⟨[], c⟩ = true := by
      simpa [Runs] using hskipped
    rw [if_pos hskipped, List.filter_cons_of_neg hruns]
    rfl
  · have hruns : Runs plots ⟨[], c⟩ = true := by
      simpa [Runs, or_iff_not_imp_left] using hskipped
    rw [if_neg hskipped, List.filter_cons_of_pos hruns]
    rw [Bool.not_eq_true] at hskipped
    rw [ComponentNode.result_evaluate c hskipped] at h
    obtain ⟨inputs, hinputs, h⟩ := bind_eq_ok.1 h
    rw [toOption_eq_some_iff.2 hinputs]
    cases hbody : bodies.get? c.codeModule c.function with
    | none =>
        rw [hbody] at h
        cases h
    | some body => rfl

/-- **In a run that succeeds every component calls its body once**, pure plots that are skipped
left out. -/
theorem perm_bodyRuns {n : Node} (h : n.DistinctIds) {provided outputs : Values}
    (houtputs : (n.evaluate bodies plots provided).result = .ok outputs) :
    ((n.bodyRuns bodies plots provided).map (·.site)).Perm (n.sites.filter (Runs plots)) := by
  induction n using Node.induction generalizing provided outputs with
  | component c => exact .of_eq (map_site_bodyRuns_component houtputs)
  | workflow w children ih =>
      obtain ⟨hids, hchildren⟩ := distinctIds_workflow_iff.1 h
      have hkids : ((evaluateAll bodies plots children).map (·.id)).Nodup := by
        rwa [map_id_evaluateAll]
      rw [evaluate_workflow_eq] at houtputs
      rcases w.evaluate_cases hkids provided with ⟨-, -, f, hfail, -⟩ | ⟨-, -, l, start, hstarted⟩
      · rw [hfail] at houtputs
        cases houtputs
      rcases hstarted.outcome hkids with ⟨yielded, -, hyields⟩ | ⟨f, hfail, -⟩
      swap
      · rw [hfail] at houtputs
        cases houtputs
      have hcall : ∀ c ∈ w.calls (evaluateAll bodies plots children) provided,
          ((bodyRunsOf bodies plots children c.child.id c.inputs).map (·.site)).Perm
            ((sitesOf children c.child.id).filter (Runs plots)) := by
        intro c hc
        obtain ⟨n, hn, hchild⟩ := exists_of_mem_calls hids hc
        obtain ⟨outputs', hsucceeds⟩ := hyields.succeeded c hc
        rw [Call.outcome, hchild] at hsucceeds
        have hperm := (ih n hn (hchildren n hn) hsucceeds).map (Site.below n.id)
        rw [List.map_map] at hperm
        rw [hchild, sitesOf_of_mem hids hn, bodyRunsOf_of_mem hids hn, List.map_map,
          List.filter_map]
        exact hperm
      have hall : ((w.calls (evaluateAll bodies plots children) provided).map
          (·.child.id)).Perm (children.map Node.id) := by
        have hperm := hyields.all.map (·.id)
        rwa [List.map_map, map_id_evaluateAll] at hperm
      calc ((workflow w children).bodyRuns bodies plots provided).map (·.site)
          = (w.calls (evaluateAll bodies plots children) provided).flatMap fun c =>
              (bodyRunsOf bodies plots children c.child.id c.inputs).map (·.site) := by
            rw [bodyRuns, List.map_flatMap]
        _ ~ (w.calls (evaluateAll bodies plots children) provided).flatMap fun c =>
              (sitesOf children c.child.id).filter (Runs plots) :=
            List.Perm.flatMap_left _ hcall
        _ = ((w.calls (evaluateAll bodies plots children) provided).map (·.child.id)).flatMap
              fun id => (sitesOf children id).filter (Runs plots) := by
            rw [List.flatMap_map]
        _ ~ (children.map Node.id).flatMap fun id => (sitesOf children id).filter (Runs plots) :=
            hall.flatMap_right _
        _ = (workflow w children).sites.filter (Runs plots) := by
            rw [← flatMap_sitesOf hids w, List.filter_flatMap]

/-- What calls its body is a component of the tree. -/
theorem site_mem_of_mem_bodyRuns {n : Node} {provided : Values} {r : BodyRun}
    (hr : r ∈ n.bodyRuns bodies plots provided) : r.site ∈ n.sites := by
  induction n using Node.induction generalizing provided r with
  | component c =>
      rw [bodyRuns] at hr
      obtain ⟨inputs, -, rfl⟩ := List.mem_map.1 hr
      exact List.mem_singleton_self _
  | workflow w children ih =>
      rw [bodyRuns] at hr
      obtain ⟨c, -, hr⟩ := List.mem_flatMap.1 hr
      obtain ⟨n, hn, r', hr', rfl⟩ := exists_of_mem_bodyRunsOf hr
      rw [sites_workflow]
      exact List.mem_flatMap.2 ⟨n, hn, List.mem_map_of_mem (ih n hn hr')⟩

/-- **Where plots are skipped no pure plot calls its body**, whether the run succeeds or not. -/
theorem isPurePlot_of_mem_bodyRuns {n : Node} {provided : Values} {r : BodyRun}
    (hr : r ∈ n.bodyRuns bodies false provided) : r.site.node.interface.isPurePlot = false := by
  induction n using Node.induction generalizing provided r with
  | component c =>
      rw [bodyRuns, ComponentNode.bodyInputs?] at hr
      obtain ⟨inputs, hinputs, rfl⟩ := List.mem_map.1 hr
      by_contra hplot
      rw [Bool.not_eq_false] at hplot
      simp [hplot] at hinputs
  | workflow w children ih =>
      rw [bodyRuns] at hr
      obtain ⟨c, -, hr⟩ := List.mem_flatMap.1 hr
      obtain ⟨n, hn, r', hr', rfl⟩ := exists_of_mem_bodyRunsOf hr
      show r'.site.node.interface.isPurePlot = false
      exact ih n hn hr'

end Node

end Dataflow
