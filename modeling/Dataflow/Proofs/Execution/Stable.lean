import Dataflow.Proofs.Execution.Written
import Dataflow.Proofs.Revision.Stable

set_option autoImplicit false

/-! # Reading is stable

Whatever a value spells in its own way — types and identifiers by other names, members that are
left out, `null` or unknown, members in any order — is settled when it is read. What was read is
written in one way only, and is read again from that as it is (`Json.reading_is_stable`).
For trees this takes two more facts: the fuel of the reader makes no difference once it is greater
than the depth of the value (`Node.read?_of_depth_lt`), and the normal form of a value may be
less deep than the value.
-/

namespace Dataflow

open Json (Insensitive FieldsInsensitive)

/-! ## Trees -/

theorem ComponentNode.insensitive_ofJson? : Insensitive Node.componentOfJson? := by
  refine .record (.bind (.required Json.insensitive_uuid?) fun id => ?_)
  refine .bind (.required Json.insensitive_text?) fun name => ?_
  refine .bind (.required Json.insensitive_uuid?) fun component => ?_
  refine .bind (.required Json.insensitive_uuid?) fun codeModule => ?_
  refine .bind (.required Json.insensitive_text?) fun function => ?_
  exact .bind (.required (Interface.insensitive_read? .gathered)) fun interface => .done _

theorem ComponentNode.received_of_ofJson? {v : Json} {c : ComponentNode}
    (h : Node.componentOfJson? v = some c) : c.interface.received = c.interface := by
  simp only [Node.componentOfJson?, Option.bind_eq_bind, Option.bind_eq_some_iff] at h
  obtain ⟨f, -, id, -, name, -, component, -, codeModule, -, function, -, interface, hinterface,
    hc⟩ := h
  obtain rfl := Option.some.inj hc
  obtain ⟨w, hw⟩ := Json.exists_read_of_required hinterface
  exact Interface.received_of_read? hw

theorem WorkflowFrame.insensitive_ofFields? : FieldsInsensitive Node.frameOfFields? := by
  refine .bind (.required Json.insensitive_uuid?) fun id => ?_
  refine .bind (.required Json.insensitive_text?) fun name => ?_
  refine .bind (.required Json.insensitive_uuid?) fun workflow => ?_
  refine .bind (.required (Interface.insensitive_read? .gathered)) fun interface => ?_
  refine .bind (.optional Connection.insensitive_ofJson?.list) fun connections => ?_
  refine .bind (.optional Mapping.insensitive_ofJson?.list) fun inputs => ?_
  exact .bind (.optional Mapping.insensitive_ofJson?.list) fun outputs => .done _

theorem WorkflowFrame.received_of_ofFields? {f : Json.Fields} {w : WorkflowFrame}
    (h : Node.frameOfFields? f = some w) : w.interface.received = w.interface := by
  simp only [Node.frameOfFields?, Option.bind_eq_bind, Option.bind_eq_some_iff] at h
  obtain ⟨id, -, name, -, workflow, -, interface, hinterface, connections, -, inputs, -, outputs,
    -, hw⟩ := h
  obtain rfl := Option.some.inj hw
  obtain ⟨w, hw⟩ := Json.exists_read_of_required hinterface
  exact Interface.received_of_read? hw

namespace Node

variable {form : Json.Form} {v : Json} {n : Node}

/-- **What a tree is read from**: a value with the tag of a component and its fields, or one with
another tag, the fields of a frame, and children that are read with the fuel that is left. -/
theorem read?_succ_eq_some_iff {fuel : Nat} :
    read? (fuel + 1) form v = some n ↔
      ∃ word rest, v.tagged? form "node_kind" ["component", "workflow"] = some (word, rest) ∧
        ((word = "component" ∧ ∃ c, componentOfJson? rest = some c ∧ n = component c) ∨
          (word ≠ "component" ∧ ∃ f frame children, rest.fields? workflowFieldNames = some f ∧
            frameOfFields? f = some frame ∧
            Json.required f "children" (Json.list? (read? fuel .gathered)) = some children ∧
            n = workflow frame children)) := by
  rw [read?, Option.bind_eq_bind, Option.bind_eq_some_iff]
  constructor
  · rintro ⟨⟨word, rest⟩, htagged, h⟩
    refine ⟨word, rest, htagged, ?_⟩
    dsimp only at h
    by_cases hword : word = "component"
    · rw [if_pos hword] at h
      obtain ⟨c, hc, rfl⟩ := Option.map_eq_some_iff.1 h
      exact .inl ⟨hword, c, hc, rfl⟩
    · rw [if_neg hword] at h
      obtain ⟨f, hf, h⟩ := Option.bind_eq_some_iff.1 h
      obtain ⟨frame, hframe, h⟩ := Option.bind_eq_some_iff.1 h
      obtain ⟨children, hchildren, h⟩ := Option.bind_eq_some_iff.1 h
      obtain rfl := Option.some.inj h
      exact .inr ⟨hword, f, frame, children, hf, hframe, hchildren, rfl⟩
  · rintro ⟨word, rest, htagged, h⟩
    refine ⟨(word, rest), htagged, ?_⟩
    dsimp only
    rcases h with ⟨hword, c, hc, rfl⟩ | ⟨hword, f, frame, children, hf, hframe, hchildren, rfl⟩
    · rw [if_pos hword, hc]
      rfl
    · rw [if_neg hword]
      refine Json.bind_of_some hf (Json.bind_of_some hframe ?_)
      exact Json.bind_of_some hchildren rfl

theorem insensitive_read? (fuel : Nat) (form : Json.Form) : Insensitive (read? fuel form) := by
  induction fuel generalizing form with
  | zero =>
      intro v n h
      cases h
  | succ fuel ih =>
      intro v n h
      obtain ⟨word, rest, htagged, h⟩ := read?_succ_eq_some_iff.1 h
      refine read?_succ_eq_some_iff.2 ⟨word, rest.normalize, Json.tagged?_normalize htagged, ?_⟩
      rcases h with ⟨hword, c, hc, rfl⟩ | ⟨hword, f, frame, children, hf, hframe, hchildren, rfl⟩
      · exact .inl ⟨hword, c, ComponentNode.insensitive_ofJson? rest c hc, rfl⟩
      · have hnormal := FieldsInsensitive.required (ih .gathered).list f children hchildren
        exact .inr ⟨hword, _, frame, children, Json.fields?_normalize hf,
          WorkflowFrame.insensitive_ofFields? f frame hframe, hnormal, rfl⟩

theorem received_of_read? {fuel : Nat} (h : read? fuel form v = some n) : n.received = n := by
  induction fuel generalizing form v n with
  | zero => cases h
  | succ fuel ih =>
      obtain ⟨word, rest, -, h⟩ := read?_succ_eq_some_iff.1 h
      rcases h with ⟨-, c, hc, rfl⟩ | ⟨-, f, frame, children, -, hframe, hchildren, rfl⟩
      · exact received_component_eq_self_iff.2 (ComponentNode.received_of_ofJson? hc)
      · refine received_workflow_eq_self_iff.2
          ⟨WorkflowFrame.received_of_ofFields? hframe, fun child hchild => ?_⟩
        obtain ⟨w, hw⟩ := Json.exists_read_of_required hchildren
        obtain ⟨w', hw'⟩ := Json.exists_read_of_list? hw hchild
        exact ih hw'

/-- **Fuel makes no difference** once it is greater than the depth of the value. -/
theorem read?_of_depth_lt {fuel fuel' : Nat} (h : read? fuel form v = some n)
    (hdepth : v.depth < fuel') : read? fuel' form v = some n := by
  induction fuel generalizing fuel' form v n with
  | zero => cases h
  | succ fuel ih =>
      cases fuel' with
      | zero => omega
      | succ fuel' =>
          obtain ⟨word, rest, htagged, h⟩ := read?_succ_eq_some_iff.1 h
          refine read?_succ_eq_some_iff.2 ⟨word, rest, htagged, ?_⟩
          refine h.imp_right ?_
          rintro ⟨hword, f, frame, children, hf, hframe, hchildren, rfl⟩
          refine ⟨hword, f, frame, children, hf, hframe, ?_, rfl⟩
          obtain ⟨w, hw, hlist⟩ := Option.bind_eq_some_iff.1 hchildren
          refine Json.required_of_some hw (Json.list?_of_list? hlist fun u child hu hchild => ?_)
          -- a child is less deep than the list, and the list than the tree
          have hrest := Json.depth_le_of_tagged? htagged
          have hfield := Json.depth_lt_of_fields? hf hw
          exact ih hchild (by omega)

theorem insensitive_ofJson? : Insensitive ofJson? := by
  intro v n h
  -- the normal form comes with fuel for its own depth, which may be less
  exact read?_of_depth_lt (insensitive_read? _ _ v n h) (Nat.lt_succ_self _)

end Node

/-! ## Execution inputs -/

theorem CodeModule.insensitive_ofJson? : Insensitive ofJson? := by
  refine .record (.bind (.required Json.insensitive_uuid?) fun id => ?_)
  exact .bind (.required Json.insensitive_text?) fun code => .done _

theorem Configuration.insensitive_ofJson? : Insensitive ofJson? := by
  refine .record (.bind (.required Json.insensitive_text?) fun name => ?_)
  exact .bind (.optional Json.insensitive_bool?) fun runPurePlots => .done _

theorem ComponentRecord.insensitive_ofJson? : Insensitive ofJson? := by
  refine .record (.bind (.required Json.insensitive_uuid?) fun id => ?_)
  refine .bind (.required Json.insensitive_text?) fun name => ?_
  refine .bind (.required Json.insensitive_text?) fun versionTag => ?_
  refine .bind (.required Json.insensitive_text?) fun category => ?_
  refine .bind (.required (RevisionState.insensitive_read? .direct)) fun state => ?_
  refine .bind (.required (Interface.insensitive_read? .direct)) fun interface => ?_
  refine .bind (.required Json.insensitive_uuid?) fun codeModule => ?_
  exact .bind (.required Json.insensitive_text?) fun function => .done _

theorem ComponentRecord.received_of_ofJson? {v : Json} {c : ComponentRecord}
    (h : ofJson? v = some c) : c.received = c := by
  simp only [ofJson?, Option.bind_eq_bind, Option.bind_eq_some_iff] at h
  obtain ⟨f, -, id, -, name, -, versionTag, -, category, -, state, -, interface, hinterface,
    codeModule, -, function, -, hc⟩ := h
  obtain rfl := Option.some.inj hc
  obtain ⟨w, hw⟩ := Json.exists_read_of_required hinterface
  exact received_eq_self_iff.2 (Interface.received_of_read? hw)

namespace ExecutionInput

theorem insensitive_ofJson? : Insensitive ofJson? := by
  refine .record (.bind (.required CodeModule.insensitive_ofJson?.list) fun codeModules => ?_)
  refine .bind (.required ComponentRecord.insensitive_ofJson?.list) fun components => ?_
  refine .bind (.required Node.insensitive_ofJson?) fun workflow => ?_
  refine .bind (.required Configuration.insensitive_ofJson?) fun configuration => ?_
  refine .bind (.required (Wiring.insensitive_read? .direct)) fun wiring => ?_
  refine .bind (.required Json.insensitive_uuid?) fun jobId => ?_
  exact .bind (.required Json.insensitive_uuid?) fun rootId => .done _

theorem received_of_ofJson? {v : Json} {x : ExecutionInput} (h : ofJson? v = some x) :
    x.received = x := by
  simp only [ofJson?, Option.bind_eq_bind, Option.bind_eq_some_iff] at h
  obtain ⟨f, -, codeModules, -, components, hcomponents, workflow, hworkflow, configuration, -,
    wiring, hwiring, jobId, -, rootId, -, hx⟩ := h
  obtain rfl := Option.some.inj hx
  have hrecords : components.map ComponentRecord.received = components := by
    refine map_eq_self_iff.2 fun c hc => ?_
    obtain ⟨w, hw⟩ := Json.exists_read_of_required hcomponents
    obtain ⟨w', hw'⟩ := Json.exists_read_of_list? hw hc
    exact ComponentRecord.received_of_ofJson? hw'
  have htree : workflow.received = workflow := by
    obtain ⟨w, hw⟩ := Json.exists_read_of_required hworkflow
    exact Node.received_of_read? hw
  have hentries : wiring.received = wiring := by
    obtain ⟨w, hw⟩ := Json.exists_read_of_required hwiring
    exact Wiring.received_of_read? hw
  simp only [received, hrecords, htree, hentries]

end ExecutionInput

/-! ## The main statement -/

namespace Json

/-- Data are read again as they are, both from what they are written as and from its normal form,
which has the members of objects in the order of their names. -/
def ReadsBack {α : Type} (read : Json → Option α) (write : α → Json) (a : α) : Prop :=
  read (write a) = some a ∧ read (write a).normalize = some a

theorem Insensitive.readsBack {α : Type} {read : Json → Option α} {write : α → Json} {a : α}
    (h : Insensitive read) (hread : read (write a) = some a) : ReadsBack read write a :=
  ⟨hread, h _ a hread⟩

/-- **Reading is stable.** Whatever value a revision, a wiring, a tree or an execution input was
read from, it is read again, exactly as it is, from what it is written as. -/
theorem reading_is_stable (v : Json) :
    (∀ r, Revision.ofJson? v = some r → ReadsBack Revision.ofJson? Revision.toJson r) ∧
    (∀ w, Wiring.ofJson? v = some w → ReadsBack Wiring.ofJson? Wiring.toJson w) ∧
    (∀ n, Node.ofJson? v = some n → ReadsBack Node.ofJson? Node.toJson n) ∧
    ∀ x, ExecutionInput.ofJson? v = some x →
      ReadsBack ExecutionInput.ofJson? ExecutionInput.toJson x := by
  refine ⟨fun r h => ?_, fun w h => ?_, fun n h => ?_, fun x h => ?_⟩
  · have hread : Revision.ofJson? r.toJson = some r.received := Revision.read?_toJson .direct r
    rw [Revision.received_of_read? h] at hread
    exact (Revision.insensitive_read? .direct).readsBack hread
  · have hread : Wiring.ofJson? w.toJson = some w.received := Wiring.read?_toJson .direct w
    rw [Wiring.received_of_read? h] at hread
    exact (Wiring.insensitive_read? .direct).readsBack hread
  · have hread := Node.ofJson?_toJson n
    rw [Node.received_of_read? h] at hread
    exact Node.insensitive_ofJson?.readsBack hread
  · have hread := ExecutionInput.ofJson?_toJson x
    rw [ExecutionInput.received_of_ofJson? h] at hread
    exact ExecutionInput.insensitive_ofJson?.readsBack hread

/-! Values that spell what they hold in ways of their own. -/

/-- An identifier without hyphens and in capitals. -/
def oddId : Json := .text "0000000000000000000000000000000A"

/-- An interface with a type by another name, a default of `null`, and a member of no meaning. -/
def oddInterface : Json :=
  .object [("note", .text "anything"), ("inputs", .array [.object [("value", .null),
    ("data_type", .text " Integer "), ("name", .text "x")]])]

/-- A wiring whose entry has its members in no order, and a filter that is given twice. -/
def oddWiring : Json :=
  .object [("output_wirings", .array []), ("input_wirings", .array [.object [
    ("type", .text "Metadata(Object)"), ("adapter_id", .text "some"), ("ref_key", .null),
    ("filters", .object [("b", .null), ("a", .bool true), ("b", .object [("d", .null),
      ("c", .array [])])]), ("workflow_io_name", .text "x")]])]

/-- A tree of a workflow around a component, whose tags are not in front. -/
def oddTree : Json :=
  .object [("id", oddId), ("name", .text "outer"), ("workflow_id", oddId),
    ("interface", oddInterface), ("node_kind", .text "workflow"),
    ("children", .array [.object [("interface", .array []), ("id", oddId), ("name", .text "inner"),
      ("component_id", oddId), ("code_module_id", oddId), ("function_name", .text "run"),
      ("node_kind", .text "component")]])]

/-- A revision with its type as an object, and a wiring of `null`. -/
def oddRevision : Json :=
  .object [("id", oddId), ("revision_group_id", oddId), ("name", .text "odd"),
    ("category", .text "any"), ("version_tag", .text "1.0.0"),
    ("type", .object [("COMPONENT", .null)]), ("state", .text "DRAFT"),
    ("io_interface", oddInterface),
    ("content", .object [("code_module_id", oddId), ("function_name", .text "run"),
      ("kind", .text "code")]),
    ("test_wiring", oddWiring), ("release_wiring", .null)]

/-- An execution input of all of these. -/
def oddInput : Json :=
  .object [("workflow", oddTree), ("workflow_wiring", oddWiring), ("job_id", oddId),
    ("root_id", oddId), ("components", .array []), ("code_modules", .array []),
    ("configuration", .array [.text "run"])]

theorem reading_is_stable_odd :
    (∃ r, Revision.ofJson? oddRevision = some r ∧ r.id = .ofNat 10 ∧
      ReadsBack Revision.ofJson? Revision.toJson r) ∧
    (∃ w, Wiring.ofJson? oddWiring = some w ∧ ReadsBack Wiring.ofJson? Wiring.toJson w) ∧
    (∃ n, Node.ofJson? oddTree = some n ∧ n.leaves.length = 1 ∧
      ReadsBack Node.ofJson? Node.toJson n) ∧
    ∃ x, ExecutionInput.ofJson? oddInput = some x ∧
      ReadsBack ExecutionInput.ofJson? ExecutionInput.toJson x := by
  have hrevision : (Revision.ofJson? oddRevision).map (·.id) = some (.ofNat 10) := by
    decide +kernel
  have hwiring : (Wiring.ofJson? oddWiring).isSome := by decide +kernel
  have htree : (Node.ofJson? oddTree).map (·.leaves.length) = some 1 := by decide +kernel
  have hinput : (ExecutionInput.ofJson? oddInput).isSome := by decide +kernel
  obtain ⟨r, hr, hid⟩ := Option.map_eq_some_iff.1 hrevision
  obtain ⟨w, hw⟩ := Option.isSome_iff_exists.1 hwiring
  obtain ⟨n, hn, hleaves⟩ := Option.map_eq_some_iff.1 htree
  obtain ⟨x, hx⟩ := Option.isSome_iff_exists.1 hinput
  obtain ⟨hrevisions, -, -, -⟩ := reading_is_stable oddRevision
  obtain ⟨-, hwirings, -, -⟩ := reading_is_stable oddWiring
  obtain ⟨-, -, htrees, -⟩ := reading_is_stable oddTree
  obtain ⟨-, -, -, hinputs⟩ := reading_is_stable oddInput
  exact ⟨⟨r, hr, hid, hrevisions r hr⟩, ⟨w, hw, hwirings w hw⟩, ⟨n, hn, hleaves, htrees n hn⟩,
    x, hx, hinputs x hx⟩

end Json

end Dataflow
