import Dataflow.Proofs.Graph.Unknown
import Dataflow.Proofs.Node.Unfolding

set_option autoImplicit false

/-! # Graphs that are made by editing

A graph of a workflow starts without operators and is edited call by call. No call removes anything,
and a connection is looked at once, when it is made; that this is enough is what
`WorkflowContent.Sound` keeps: operators have different identities, and every connection joins two
of them (`Sound.perform` for one call, `sound_build` for a history of calls). Whether the calls
before it have failed plays no part.

Nothing looks at the connections again before a run. `edits_never_dangle` carries the invariant
there: the tree of a revision has a child for each operator, under its identity, so that the
executor finds both ends of every connection. It promises nothing for mappings, which may name any
operator.
-/

namespace Dataflow

/-- A call that edits a graph. -/
inductive Edit where
  | addOperator (id : OperatorId) (revision : Uuid) (name : String)
  | connect (source target : Endpoint)
  | exposeInput (name : String) (endpoint : Endpoint)
  | exposeOutput (name : String) (endpoint : Endpoint)

/-- The identity that a call generates. -/
def Edit.newId? : Edit → Option OperatorId
  | addOperator id _ _ => some id
  | _ => none

namespace WorkflowContent

/-- The identities of the operators, in the order in which they were added. -/
def ids (w : WorkflowContent) : List OperatorId := w.operators.map (·.id)

/-- What a call returns, and the graph that it leaves. -/
def perform (w : WorkflowContent) : Edit → Except ModelError Unit × WorkflowContent
  | .addOperator id revision name => (.ok (), w.addOperator id revision name)
  | .connect source target =>
      match w.connect source target with
      | .ok w' => (.ok (), w')
      | .error e => (.error e, w)
  | .exposeInput name endpoint => (.ok (), w.exposeInput name endpoint)
  | .exposeOutput name endpoint => (.ok (), w.exposeOutput name endpoint)

/-- The graph that a history of calls leaves. -/
def build (edits : List Edit) : WorkflowContent :=
  edits.foldl (fun w e => (w.perform e).2) empty

/-- A graph is made by calls that generate fresh identities. -/
def Built (w : WorkflowContent) : Prop :=
  ∃ edits, (edits.filterMap Edit.newId?).Nodup ∧ build edits = w

/-- Two different operators of the graph. -/
structure Joins (w : WorkflowContent) (a b : OperatorId) : Prop where
  left : a ∈ w.ids
  right : b ∈ w.ids
  ne : a ≠ b

/-- Operators have different identities, and connections join two of them. -/
structure Sound (w : WorkflowContent) : Prop where
  distinct : w.ids.Nodup
  joins : ∀ c ∈ w.connections, w.Joins c.source.operator c.target.operator

section

variable {w : WorkflowContent} {e : Edit} {cause : ModelError} {source target : Endpoint}

/-! ## When a connection is made -/

theorem operator?_isNone_iff {a : OperatorId} : (w.operator? a).isNone = true ↔ a ∉ w.ids := by
  rw [Option.isNone_iff_eq_none, operator?, List.find?_eq_none, ids, List.mem_map]
  simp

theorem connectDefect?_eq_none_iff :
    w.connectDefect? source target = none ↔ w.Joins source.operator target.operator := by
  rw [connectDefect?]
  cases hfind : [source, target].find? (fun e => (w.operator? e.operator).isNone) with
  | some e =>
      have hnone := List.find?_some hfind
      have hunknown := operator?_isNone_iff.1 hnone
      refine iff_of_false nofun fun h => ?_
      rcases List.mem_pair.1 (List.mem_of_find?_eq_some hfind) with rfl | rfl
      · exact hunknown h.left
      · exact hunknown h.right
  | none =>
      have hknown : ∀ e ∈ [source, target], e.operator ∈ w.ids := by
        intro e he
        have hfound := List.find?_eq_none.1 hfind e he
        rwa [operator?_isNone_iff, not_not] at hfound
      by_cases hsame : source.operator = target.operator
      · simp only [if_pos hsame]
        exact iff_of_false nofun fun h => h.ne hsame
      · simp only [if_neg hsame, true_iff]
        exact ⟨hknown _ (.head _), hknown _ (.tail _ (.head _)), hsame⟩

theorem connect_eq_ok_iff {w' : WorkflowContent} :
    w.connect source target = .ok w' ↔ w.Joins source.operator target.operator ∧
      w' = { w with connections := w.connections ++ [⟨source, target⟩] } := by
  rw [← connectDefect?_eq_none_iff, connect]
  cases w.connectDefect? source target <;> simp [eq_comm]

/-- A call fails exactly if it does not join two operators of the graph. -/
theorem exists_connect_eq_error_iff :
    (∃ cause, w.connect source target = .error cause) ↔
      ¬ w.Joins source.operator target.operator := by
  rw [← connectDefect?_eq_none_iff, connect]
  cases w.connectDefect? source target <;> simp

theorem not_joins_iff {a b : OperatorId} : ¬ w.Joins a b ↔ a ∉ w.ids ∨ b ∉ w.ids ∨ a = b := by
  constructor
  · intro h
    by_contra hall
    simp only [not_or, not_not] at hall
    exact h ⟨hall.1, hall.2.1, hall.2.2⟩
  · rintro (ha | hb | hsame) h
    · exact ha h.left
    · exact hb h.right
    · exact h.ne hsame

/-! ## One call -/

theorem perform_of_failed (h : (w.perform e).1 = .error cause) : (w.perform e).2 = w := by
  cases e with
  | connect source target =>
      cases hconnect : w.connect source target with
      | ok w' => simp [perform, hconnect] at h
      | error cause => simp [perform, hconnect]
  | addOperator => cases h
  | exposeInput => cases h
  | exposeOutput => cases h

/-- A call adds the operator that it generates an identity for. -/
theorem ids_perform : (w.perform e).2.ids = w.ids ++ e.newId?.toList := by
  cases e with
  | addOperator id revision name =>
      simp [perform, addOperator, ids, Edit.newId?]
  | connect source target =>
      cases hconnect : w.connect source target with
      | ok w' =>
          obtain ⟨-, rfl⟩ := connect_eq_ok_iff.1 hconnect
          simp [perform, hconnect, ids, Edit.newId?]
      | error cause => simp [perform, hconnect, Edit.newId?]
  | exposeInput => exact (List.append_nil _).symm
  | exposeOutput => exact (List.append_nil _).symm

/-- A connection after a call was there before, or joins two operators that were. -/
theorem mem_connections_perform {c : Connection} (hc : c ∈ (w.perform e).2.connections) :
    c ∈ w.connections ∨ w.Joins c.source.operator c.target.operator := by
  cases e with
  | connect source target =>
      cases hconnect : w.connect source target with
      | ok w' =>
          obtain ⟨hjoins, rfl⟩ := connect_eq_ok_iff.1 hconnect
          simp only [perform, hconnect, List.mem_append, List.mem_singleton] at hc
          refine hc.imp_right ?_
          rintro rfl
          exact hjoins
      | error cause =>
          simp only [perform, hconnect] at hc
          exact .inl hc
  | addOperator => exact .inl hc
  | exposeInput => exact .inl hc
  | exposeOutput => exact .inl hc

theorem Joins.perform {a b : OperatorId} (h : w.Joins a b) : (w.perform e).2.Joins a b := by
  have hgrow : w.ids ⊆ (w.perform e).2.ids := by
    rw [ids_perform]
    exact List.subset_append_left _ _
  exact ⟨hgrow h.left, hgrow h.right, h.ne⟩

/-- **A call keeps a graph sound** if the identity that it generates is fresh. -/
theorem Sound.perform (h : w.Sound) (hfresh : ∀ id ∈ e.newId?, id ∉ w.ids) :
    (w.perform e).2.Sound := by
  refine ⟨?_, fun c hc => ?_⟩
  · rw [ids_perform]
    refine h.distinct.append (by cases e.newId? <;> simp) fun a ha hnew => ?_
    exact hfresh a (Option.mem_toList.1 hnew) ha
  · rcases mem_connections_perform hc with hold | hjoins
    · exact (h.joins c hold).perform
    · exact hjoins.perform

end

/-! ## A history of calls -/

theorem build_concat (before : List Edit) (e : Edit) :
    build (before ++ [e]) = ((build before).perform e).2 := by
  rw [build, List.foldl_append]
  rfl

theorem ids_build (edits : List Edit) : (build edits).ids = edits.filterMap Edit.newId? := by
  induction edits using List.reverseRecOn with
  | nil => rfl
  | append_singleton before e ih =>
      rw [build_concat, ids_perform, ih, List.filterMap_append]
      cases h : e.newId? <;> simp [h]

/-- **Every history of calls leaves a sound graph.** -/
theorem sound_build {edits : List Edit} (h : (edits.filterMap Edit.newId?).Nodup) :
    (build edits).Sound := by
  -- from the end, for a call is made on the graph that all the calls before it have left
  induction edits using List.reverseRecOn with
  | nil => exact ⟨.nil, fun c hc => absurd hc List.not_mem_nil⟩
  | append_singleton before e ih =>
      rw [List.filterMap_append] at h
      obtain ⟨hbefore, -, hdisjoint⟩ := List.nodup_append'.1 h
      rw [build_concat]
      refine (ih hbefore).perform fun id hid hmem => ?_
      rw [ids_build] at hmem
      exact hdisjoint hmem (List.mem_filterMap.2 ⟨e, List.mem_singleton_self e, hid⟩)

theorem Built.sound {w : WorkflowContent} (h : w.Built) : w.Sound := by
  obtain ⟨edits, hfresh, rfl⟩ := h
  exact sound_build hfresh

end WorkflowContent

/-! ## From graphs to trees -/

namespace Revision

variable {closure : Closure} {root : Revision} {tree : Node} {w : WorkflowFrame}
  {children : List Node}

/-- A node that stands for a workflow has its connections, and children for its operators. -/
theorem Unfolding.frame {id : OperatorId} {name : String} {r : Revision}
    (h : Unfolding closure id name r (.workflow w children)) :
    ∃ content, r.content = .workflow content ∧ w.connections = content.connections ∧
      children.map Node.id = content.ids := by
  cases h with
  | @workflow _ _ _ content _ hcontent hchildren =>
      refine ⟨content, hcontent, rfl, ?_⟩
      have hpartners := operatorUnfolding_iff.1 hchildren
      rw [WorkflowContent.ids, ← List.forall₂_eq_eq_eq, List.forall₂_map_left_iff,
        List.forall₂_map_right_iff]
      refine hpartners.flip.imp fun n o hn => ?_
      obtain ⟨nested, -, -, hunfolding⟩ := hn
      exact hunfolding.id_name.1

/-- Every workflow node of a tree stands for a workflow that the root reaches. -/
theorem exists_content_of_inside (h : root.flatten closure = .ok tree)
    (hw : Node.Inside (.workflow w children) tree) :
    ∃ r content, root.Reaches closure r ∧ r.content = .workflow content ∧
      w.connections = content.connections ∧ children.map Node.id = content.ids := by
  obtain ⟨way, id, name, r, hr, hunfolding⟩ :=
    (unfolding_of_unfold h).exists_chain hw (.root : Chain closure root [] root)
  obtain ⟨content, hcontent, hconnections, hids⟩ := hunfolding.frame
  exact ⟨r, content, hr.reaches, hcontent, hconnections, hids⟩

end Revision

theorem WorkflowContent.Sound.joined {content : WorkflowContent} (h : content.Sound)
    {w : WorkflowFrame} (hw : w.connections = content.connections) : w.Joined content.ids := by
  intro c hc
  rw [hw] at hc
  exact ⟨(h.joins c hc).left, (h.joins c hc).right⟩

namespace WorkflowContent

/-- **Connections that are made by editing never dangle.** After every call of a history the graph
is sound; a connection is refused exactly if an operator is unknown or stands on both sides, and a
call that fails leaves the graph as it was. So in the tree of a revision with such a graph the
connections are edges between children, and if all the nested workflows are made in this way, a run
fails over an unknown operator only where a mapping of an input names it. -/
theorem edits_never_dangle (edits : List Edit)
    (hfresh : (edits.filterMap Edit.newId?).Nodup) :
    (∀ before, before <+: edits →
      (build before).Sound ∧
        (∀ source target, (∃ cause, (build before).connect source target = .error cause) ↔
          source.operator ∉ (build before).ids ∨ target.operator ∉ (build before).ids ∨
            source.operator = target.operator) ∧
        ∀ e cause, ((build before).perform e).1 = .error cause →
          ((build before).perform e).2 = build before) ∧
      ∀ (r : Revision) (closure : Closure) (tree : Node), r.content = .workflow (build edits) →
        r.flatten closure = .ok tree →
          (∃ w children edges, tree = .workflow w children ∧
            w.connections = (build edits).connections ∧
            w.edges (children.map Node.id) = .ok edges) ∧
          ((∀ nested content, r.Reaches closure nested → nested.content = .workflow content →
              content.Built) →
            (∀ w children, Node.Inside (.workflow w children) tree →
              ∃ edges, w.edges (children.map Node.id) = .ok edges) ∧
            ∀ bodies plots provided label a,
              (tree.evaluate bodies plots provided).result = .error (.unknownOperator label a) →
                ∃ w children, Node.Inside (.workflow w children) tree ∧ w.label = label ∧
                  a ∉ children.map Node.id ∧ ¬ w.Connects a ∧
                  ∃ m ∈ w.inputs, m.endpoint.operator = a) := by
  refine ⟨fun before hbefore => ⟨?_, fun source target => ?_, fun e cause => perform_of_failed⟩,
    fun r closure tree hcontent hflatten => ⟨?_, fun hbuilt => ?_⟩⟩
  · exact sound_build (hfresh.sublist (hbefore.sublist.filterMap _))
  · rw [exists_connect_eq_error_iff, not_joins_iff]
  · have htree := Revision.unfolding_of_unfold hflatten
    cases tree with
    | component c =>
        cases htree with
        | component hcode =>
            rw [hcontent] at hcode
            cases hcode
    | workflow w children =>
        obtain ⟨content, hsame, hconnections, hids⟩ := htree.frame
        rw [hcontent, RevisionContent.workflow.injEq] at hsame
        subst hsame
        obtain ⟨edges, hedges⟩ :=
          WorkflowFrame.exists_edges_of_joined ((sound_build hfresh).joined hconnections)
        exact ⟨w, children, edges, rfl, hconnections, by rw [hids, hedges]⟩
  · -- every workflow of the tree stands for one that the root reaches, and all of those are sound
    have hjoined : ∀ w children, Node.Inside (.workflow w children) tree →
        w.Joined (children.map Node.id) := by
      intro w children hw
      obtain ⟨nested, content, hreached, hnested, hconnections, hids⟩ :=
        Revision.exists_content_of_inside hflatten hw
      rw [hids]
      exact (hbuilt nested content hreached hnested).sound.joined hconnections
    refine ⟨fun w children hw => WorkflowFrame.exists_edges_of_joined (hjoined w children hw),
      fun bodies plots provided label a hfail => ?_⟩
    obtain ⟨w, children, hw, hlabel, hunknown, hnamed⟩ := Node.exists_of_unknownOperator hfail
    have hconnects := WorkflowFrame.not_connects_of_joined (hjoined w children hw) hunknown
    exact ⟨w, children, hw, hlabel, hunknown, hconnects, hnamed.resolve_left hconnects⟩

/-- A history that makes a workflow of two operators; two of its calls fail, one over an operator
that is added later. -/
def sampleEdits : List Edit :=
  [.addOperator (.ofNat 8) (.ofNat 1) "first", .connect ⟨.ofNat 8, "y"⟩ ⟨.ofNat 9, "x"⟩,
    .connect ⟨.ofNat 8, "y"⟩ ⟨.ofNat 8, "x"⟩, .exposeInput "in" ⟨.ofNat 8, "x"⟩,
    .addOperator (.ofNat 9) (.ofNat 1) "second", .connect ⟨.ofNat 8, "y"⟩ ⟨.ofNat 9, "x"⟩,
    .exposeOutput "out" ⟨.ofNat 9, "y"⟩]

/-- What the operators of that workflow stand for. -/
def sampleClosure : Closure :=
  .ofList [(.ofNat 8, Engine.sampleStep), (.ofNat 9, Engine.sampleStep)]

/-- The two calls that fail leave the graph as it was, and the third one connects. -/
theorem edits_never_dangle_sample :
    (sampleEdits.filterMap Edit.newId?).Nodup ∧ (build sampleEdits).Sound ∧
      (build (sampleEdits.take 3)).connections = [] ∧
      (build sampleEdits).connections = [⟨⟨.ofNat 8, "y"⟩, ⟨.ofNat 9, "x"⟩⟩] ∧
      (∃ cause, (build (sampleEdits.take 1)).connect ⟨.ofNat 8, "y"⟩ ⟨.ofNat 9, "x"⟩ =
        .error cause) ∧
      ∃ tree, Engine.sampleWorkflow.flatten sampleClosure = .ok tree ∧
        ∀ w children, Node.Inside (.workflow w children) tree →
          ∃ edges, w.edges (children.map Node.id) = .ok edges := by
  have hfresh : (sampleEdits.filterMap Edit.newId?).Nodup := by decide
  have hcontent : Engine.sampleWorkflow.content = .workflow (build sampleEdits) := rfl
  obtain ⟨hcalls, htree⟩ := edits_never_dangle sampleEdits hfresh
  obtain ⟨-, hrefused, -⟩ := hcalls (sampleEdits.take 1) (List.take_prefix 1 _)
  obtain ⟨hsound, -, -⟩ := hcalls sampleEdits (List.prefix_refl _)
  -- the operators stand for code, so that the workflow itself is the only one that is reached
  have hbuilt : ∀ nested content, Engine.sampleWorkflow.Reaches sampleClosure nested →
      nested.content = .workflow content → content.Built := by
    intro nested content hreached hnested
    cases hreached with
    | root =>
        rw [hcontent, RevisionContent.workflow.injEq] at hnested
        exact ⟨sampleEdits, hfresh, hnested⟩
    | @nested r _ _ o _ _ _ hget =>
        have hstep : nested = Engine.sampleStep := by
          have hmem := (Dict.get?_ofList_eq_some_iff (by decide)).1 hget
          simp only [List.mem_cons, Prod.mk.injEq, List.not_mem_nil, or_false] at hmem
          rcases hmem with ⟨-, h⟩ | ⟨-, h⟩ <;> exact h
        rw [hstep] at hnested
        cases hnested
  refine ⟨hfresh, hsound, rfl, rfl, (hrefused _ _).2 (.inr (.inl (by decide))), ?_⟩
  cases hflatten : Engine.sampleWorkflow.flatten sampleClosure with
  | error fault =>
      have hcount : (Engine.sampleWorkflow.flatten sampleClosure).map Node.descendantCount =
          .ok 2 := rfl
      rw [hflatten] at hcount
      cases hcount
  | ok tree => exact ⟨tree, rfl, ((htree _ _ tree hcontent hflatten).2 hbuilt).1⟩

end WorkflowContent

end Dataflow
