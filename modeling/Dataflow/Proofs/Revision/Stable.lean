import Dataflow.Proofs.Json.Normal
import Dataflow.Proofs.Revision.Written

set_option autoImplicit false

/-! # What was read can be read again

What is lost when data are written and read is lost at the first reading: data that come from a
reader hold values in normal form only, and no default value of `null`. So they are read again as
they are (`Revision.received_of_read?`, `Wiring.received_of_read?`). The readers see no difference
between a value and its normal form either, so that it does not matter in which order the members
of what was written come.
-/

namespace Dataflow

open Json (Insensitive FieldsInsensitive)

/-! ## Types and words -/

theorem DataType.insensitive_ofJson? : Insensitive ofJson? :=
  Json.insensitive_text?.bind _

theorem ExternalType.insensitive_ofJson? : Insensitive ofJson? :=
  Json.insensitive_text?.bind _

theorem RefIdType.insensitive_read? (form : Json.Form) : Insensitive (read? form) :=
  (Json.insensitive_word? form).bind _

theorem RevisionKind.insensitive_read? (form : Json.Form) : Insensitive (read? form) :=
  (Json.insensitive_word? form).bind _

theorem RevisionState.insensitive_read? (form : Json.Form) : Insensitive (read? form) :=
  (Json.insensitive_word? form).bind _

/-! ## Interfaces -/

section Interfaces

variable {form : Json.Form} {v : Json}

theorem Input.insensitive_read? (form : Json.Form) : Insensitive (read? form) := by
  refine .record (.bind (.required Json.insensitive_text?) fun name => ?_)
  refine .bind (.required DataType.insensitive_ofJson?) fun dataType => ?_
  refine .bind (.optional ((Json.insensitive_word? form).bind InputKind.ofName?)) fun kind => ?_
  exact .bind (.optional Json.insensitive_any?.nullable) fun value => .done _

/-- A default value that was read is not `null`, and in normal form. -/
theorem Input.received_of_read? {i : Input} (h : read? form v = some i) : i.received = i := by
  simp only [read?, Option.bind_eq_bind, Option.bind_eq_some_iff] at h
  obtain ⟨f, hf, name, hname, dataType, htype, kind, hkind, value, hvalue, hi⟩ := h
  obtain rfl := Option.some.inj hi
  rw [received_eq_self_iff]
  rintro default rfl
  rcases Json.eq_default_or_read_of_optional hvalue with hnone | ⟨w, hw⟩
  · cases hnone
  · rw [Json.nullable?_any?] at hw
    exact Json.normal_of_present? (Option.some.inj hw)

theorem Output.insensitive_ofJson? : Insensitive ofJson? := by
  refine .record (.bind (.required Json.insensitive_text?) fun name => ?_)
  exact .bind (.required DataType.insensitive_ofJson?) fun dataType => .done _

theorem Interface.insensitive_read? (form : Json.Form) : Insensitive (read? form) := by
  refine .record (.bind (.optional (Input.insensitive_read? form).list) fun inputs => ?_)
  exact .bind (.optional Output.insensitive_ofJson?.list) fun outputs => .done _

theorem Interface.received_of_read? {i : Interface} (h : read? form v = some i) :
    i.received = i := by
  simp only [read?, Option.bind_eq_bind, Option.bind_eq_some_iff] at h
  obtain ⟨f, hf, inputs, hinputs, outputs, houtputs, hi⟩ := h
  obtain rfl := Option.some.inj hi
  rw [received_eq_self_iff]
  intro input hinput
  obtain ⟨w, hw⟩ := Json.exists_read_of_optional_list? hinputs hinput
  exact Input.received_of_read? hw

end Interfaces

/-! ## Wirings -/

section Wirings

variable {form : Json.Form} {v : Json}

theorem Descriptor.insensitive_ofFields? (form : Json.Form) :
    FieldsInsensitive (ofFields? form) := by
  refine .bind (.optional Json.insensitive_text?.nullable) fun refId => ?_
  refine .bind (.optional (RefIdType.insensitive_read? form).nullable) fun refIdType => ?_
  refine .bind (.optional Json.insensitive_text?.nullable) fun refKey => ?_
  refine .bind (.optional ExternalType.insensitive_ofJson?.nullable) fun type => ?_
  exact .bind (.optional Json.insensitive_dict?_any?) fun filters => .done _

/-- Filters that were read are in normal form. -/
theorem Descriptor.received_of_ofFields? {f : Json.Fields} {d : Descriptor}
    (h : ofFields? form f = some d) : d.received = d := by
  simp only [ofFields?, Option.bind_eq_bind, Option.bind_eq_some_iff] at h
  obtain ⟨refId, -, refIdType, -, refKey, -, type, -, filters, hfilters, hd⟩ := h
  obtain rfl := Option.some.inj hd
  rw [received_eq_self_iff]
  intro key value hget
  rcases Json.eq_default_or_read_of_optional hfilters with rfl | ⟨w, hw⟩
  · cases hget
  · exact Json.normal_of_dict?_any? hw hget

theorem WiringEntry.insensitive_read? (form : Json.Form) : Insensitive (read? form) := by
  refine .record (.bind (.required Json.insensitive_text?) fun name => ?_)
  refine .bind (.required Json.insensitive_text?) fun adapterId => ?_
  exact .bind (Descriptor.insensitive_ofFields? form) fun descriptor => .done _

theorem WiringEntry.received_of_read? {e : WiringEntry} (h : read? form v = some e) :
    e.descriptor.received = e.descriptor := by
  simp only [read?, Option.bind_eq_bind, Option.bind_eq_some_iff] at h
  obtain ⟨f, -, name, -, adapterId, -, descriptor, hdescriptor, he⟩ := h
  obtain rfl := Option.some.inj he
  exact Descriptor.received_of_ofFields? hdescriptor

theorem Wiring.insensitive_read? (form : Json.Form) : Insensitive (read? form) := by
  have hentries : Insensitive (Json.list? (WiringEntry.read? form)) :=
    (WiringEntry.insensitive_read? form).list
  refine .record (.bind (.optional hentries) fun inputs => ?_)
  exact .bind (.optional hentries) fun outputs => .done _

theorem Wiring.received_of_read? {w : Wiring} (h : read? form v = some w) : w.received = w := by
  simp only [read?, Option.bind_eq_bind, Option.bind_eq_some_iff] at h
  obtain ⟨f, -, inputs, hinputs, outputs, houtputs, hw⟩ := h
  obtain rfl := Option.some.inj hw
  rw [received_eq_self_iff]
  intro e he
  have hread : ∃ v, WiringEntry.read? form v = some e := by
    rcases List.mem_append.1 he with he | he
    · exact Json.exists_read_of_optional_list? hinputs he
    · exact Json.exists_read_of_optional_list? houtputs he
  obtain ⟨v, hv⟩ := hread
  exact WiringEntry.received_of_read? hv

end Wirings

/-! ## Contents -/

theorem CodeContent.insensitive_ofJson? : Insensitive ofJson? := by
  refine .record (.bind (.required Json.insensitive_uuid?) fun codeModule => ?_)
  refine .bind (.required Json.insensitive_text?) fun function => ?_
  exact .bind (.optional Json.insensitive_text?) fun source => .done _

theorem Operator.insensitive_ofJson? : Insensitive ofJson? := by
  refine .record (.bind (.required Json.insensitive_uuid?) fun id => ?_)
  refine .bind (.required Json.insensitive_uuid?) fun revision => ?_
  exact .bind (.required Json.insensitive_text?) fun name => .done _

theorem Endpoint.insensitive_ofJson? : Insensitive ofJson? := by
  refine .record (.bind (.required Json.insensitive_uuid?) fun operator => ?_)
  exact .bind (.required Json.insensitive_text?) fun connector => .done _

theorem Connection.insensitive_ofJson? : Insensitive ofJson? := by
  refine .record (.bind (.required Endpoint.insensitive_ofJson?) fun source => ?_)
  exact .bind (.required Endpoint.insensitive_ofJson?) fun target => .done _

theorem Mapping.insensitive_ofJson? : Insensitive ofJson? := by
  refine .record (.bind (.required Json.insensitive_text?) fun name => ?_)
  exact .bind (.required Endpoint.insensitive_ofJson?) fun endpoint => .done _

theorem WorkflowContent.insensitive_ofJson? : Insensitive ofJson? := by
  refine .record (.bind (.optional Operator.insensitive_ofJson?.list) fun operators => ?_)
  refine .bind (.optional Connection.insensitive_ofJson?.list) fun connections => ?_
  refine .bind (.optional Mapping.insensitive_ofJson?.list) fun inputs => ?_
  exact .bind (.optional Mapping.insensitive_ofJson?.list) fun outputs => .done _

theorem RevisionContent.insensitive_read? (form : Json.Form) : Insensitive (read? form) := by
  intro v c h
  simp only [read?, Option.bind_eq_bind, Option.bind_eq_some_iff] at h ⊢
  obtain ⟨⟨word, rest⟩, htagged, h⟩ := h
  refine ⟨(word, rest.normalize), Json.tagged?_normalize htagged, ?_⟩
  dsimp only at h ⊢
  by_cases hword : word = "code"
  · rw [if_pos hword] at h ⊢
    obtain ⟨code, hcode, rfl⟩ := Option.map_eq_some_iff.1 h
    exact Option.map_eq_some_iff.2 ⟨code, CodeContent.insensitive_ofJson? rest code hcode, rfl⟩
  · rw [if_neg hword] at h ⊢
    obtain ⟨graph, hgraph, rfl⟩ := Option.map_eq_some_iff.1 h
    exact Option.map_eq_some_iff.2
      ⟨graph, WorkflowContent.insensitive_ofJson? rest graph hgraph, rfl⟩

/-! ## Revisions -/

namespace Revision

theorem insensitive_read? (form : Json.Form) : Insensitive (read? form) := by
  refine .record (.bind (.required Json.insensitive_uuid?) fun id => ?_)
  refine .bind (.required Json.insensitive_uuid?) fun group => ?_
  refine .bind (.required Json.insensitive_text?) fun name => ?_
  refine .bind (.optional Json.insensitive_text?) fun description => ?_
  refine .bind (.required Json.insensitive_text?) fun category => ?_
  refine .bind (.required Json.insensitive_text?) fun versionTag => ?_
  refine .bind (.required (RevisionKind.insensitive_read? form)) fun kind => ?_
  refine .bind (.required (RevisionState.insensitive_read? form)) fun state => ?_
  refine .bind (.required (Interface.insensitive_read? form)) fun interface => ?_
  refine .bind (.required (RevisionContent.insensitive_read? form)) fun content => ?_
  refine .bind (.optional Json.insensitive_text?) fun documentation => ?_
  refine .bind (.optional (Wiring.insensitive_read? form)) fun testWiring => ?_
  exact .bind (.optional (Wiring.insensitive_read? form).nullable) fun releaseWiring => .done _

theorem received_of_read? {form : Json.Form} {v : Json} {r : Revision}
    (h : read? form v = some r) : r.received = r := by
  -- the fields before the interface do not matter
  obtain ⟨f, -, h⟩ := Option.bind_eq_some_iff.1 h
  obtain ⟨id, -, h⟩ := Option.bind_eq_some_iff.1 h
  obtain ⟨group, -, h⟩ := Option.bind_eq_some_iff.1 h
  obtain ⟨name, -, h⟩ := Option.bind_eq_some_iff.1 h
  obtain ⟨description, -, h⟩ := Option.bind_eq_some_iff.1 h
  obtain ⟨category, -, h⟩ := Option.bind_eq_some_iff.1 h
  obtain ⟨versionTag, -, h⟩ := Option.bind_eq_some_iff.1 h
  obtain ⟨kind, -, h⟩ := Option.bind_eq_some_iff.1 h
  obtain ⟨state, -, h⟩ := Option.bind_eq_some_iff.1 h
  obtain ⟨interface, hinterface, h⟩ := Option.bind_eq_some_iff.1 h
  obtain ⟨content, -, h⟩ := Option.bind_eq_some_iff.1 h
  obtain ⟨documentation, -, h⟩ := Option.bind_eq_some_iff.1 h
  obtain ⟨testWiring, htestWiring, h⟩ := Option.bind_eq_some_iff.1 h
  obtain ⟨releaseWiring, hreleaseWiring, h⟩ := Option.bind_eq_some_iff.1 h
  obtain rfl := Option.some.inj h
  rw [received_eq_self_iff]
  refine ⟨?_, ?_, ?_⟩
  · obtain ⟨w, hw⟩ := Json.exists_read_of_required hinterface
    exact Interface.received_of_read? hw
  · rcases Json.eq_default_or_read_of_optional htestWiring with rfl | ⟨w, hw⟩
    · rfl
    · exact Wiring.received_of_read? hw
  · rintro wiring rfl
    rcases Json.eq_default_or_read_of_optional hreleaseWiring with hnone | ⟨w, hw⟩
    · cases hnone
    · obtain ⟨w', hw'⟩ := Json.exists_read_of_nullable? hw
      exact Wiring.received_of_read? hw'

end Revision

end Dataflow
