import Dataflow.Wiring
import Dataflow.Proofs.Interface

set_option autoImplicit false

/-! # Wirings read back

A wiring is read from what it is written as (`Wiring.read?_toJson`). Filters may hold any value,
`null` included; each is brought into its normal form.
-/

namespace Dataflow

@[simp] theorem ExternalType.ofJson?_toJson (t : ExternalType) : ofJson? t.toJson = some t := by
  cases t <;> decide

theorem ExternalType.toJson_ne_null (t : ExternalType) : t.toJson ≠ .null := by
  rintro ⟨⟩

theorem RefIdType.nullable?_name (form : Json.Form) (t : Option RefIdType) :
    Json.nullable? (read? form) (.ofText? (t.map (·.name))) = some t := by
  rcases t with _ | t
  · rfl
  · cases t <;> rfl

namespace Descriptor

/-- What is read of a written descriptor. -/
def received (d : Descriptor) : Descriptor :=
  { d with filters := d.filters.map fun _ v => v.normalize }

/-- The members of a descriptor are read, also among the members of an entry. -/
theorem ofFields?_members {form : Json.Form} {d : Descriptor} {f : Json.Fields}
    (h : ∀ name ∈ fieldNames, f name = d.members.lookup name) :
    ofFields? form f = some d.received := by
  have hrefId : f "ref_id" = some (.ofText? d.refId) := h _ (by simp [fieldNames])
  have hrefIdType : f "ref_id_type" = some (.ofText? (d.refIdType.map (·.name))) :=
    h _ (by simp [fieldNames])
  have hrefKey : f "ref_key" = some (.ofText? d.refKey) := h _ (by simp [fieldNames])
  have htype : f "type" = some (.ofOption ExternalType.toJson d.externalType) :=
    h _ (by simp [fieldNames])
  have hfilters : f "filters" = some (.ofDict id d.filters) := h _ (by simp [fieldNames])
  have hread := Json.nullable?_ofOption ExternalType.ofJson?_toJson ExternalType.toJson_ne_null
    d.externalType
  simp [ofFields?, Json.optional, hrefId, hrefIdType, hrefKey, htype, hfilters, hread,
    RefIdType.nullable?_name, Json.dict?_ofDict, received]

/-- A descriptor is read as it is exactly if its filters are in normal form. -/
theorem received_eq_self_iff {d : Descriptor} :
    d.received = d ↔ ∀ key v, d.filters.get? key = some v → v.normalize = v := by
  obtain ⟨refId, refIdType, refKey, externalType, filters⟩ := d
  simp only [received, Descriptor.mk.injEq, true_and, Dict.map_eq_self_iff]

end Descriptor

namespace WiringEntry

/-- What is read of a written entry. -/
def received (e : WiringEntry) : WiringEntry := { e with descriptor := e.descriptor.received }

/-- The members of a written entry. -/
def members (e : WiringEntry) : List (String × Json) :=
  ("workflow_io_name", .text e.name) :: ("adapter_id", .text e.adapterId) :: e.descriptor.members

theorem read?_toJson (form : Json.Form) (e : WiringEntry) :
    read? form e.toJson = some e.received := by
  -- the descriptor is read from the fields of the whole entry
  have hdescriptor : Descriptor.ofFields? form (fun name =>
      if fieldNames.contains name then (members e).lookup name else none) =
        some e.descriptor.received :=
    Descriptor.ofFields?_members fun name hname => by
      simp only [Descriptor.fieldNames, List.mem_cons, List.not_mem_nil, or_false] at hname
      rcases hname with rfl | rfl | rfl | rfl | rfl <;> rfl
  have hfields : e.toJson.fields? fieldNames = some (fun name =>
      if fieldNames.contains name then (members e).lookup name else none) :=
    Json.fields?_object (by simp [Descriptor.members])
  rw [read?, hfields, Option.bind_eq_bind, Option.bind_some, hdescriptor]
  rfl

end WiringEntry

namespace Wiring

/-- What is read of a written wiring. -/
def received (w : Wiring) : Wiring :=
  ⟨w.inputs.map WiringEntry.received, w.outputs.map WiringEntry.received⟩

/-- **A wiring is read**, with the values of its filters in normal form. -/
theorem read?_toJson (form : Json.Form) (w : Wiring) : read? form w.toJson = some w.received := by
  have hentries : ∀ l : List WiringEntry, Json.list? (WiringEntry.read? form)
      (.ofList WiringEntry.toJson l) = some (l.map WiringEntry.received) :=
    fun l => Json.list?_ofList fun e _ => WiringEntry.read?_toJson form e
  rw [read?, toJson, Json.fields?_object (by simp)]
  show (Json.list? (WiringEntry.read? form) (.ofList WiringEntry.toJson w.inputs)).bind
    (fun inputs => (Json.list? (WiringEntry.read? form)
      (.ofList WiringEntry.toJson w.outputs)).bind fun outputs =>
        some (Wiring.mk inputs outputs)) = _
  rw [hentries, hentries]
  rfl

theorem entriesDefect?_received (declared : String → Bool) (undeclared : String → Defect)
    (seen : List String) (l : List WiringEntry) :
    entriesDefect? declared undeclared seen (l.map WiringEntry.received) =
      entriesDefect? declared undeclared seen l := by
  induction l generalizing seen with
  | nil => rfl
  | cons e rest ih =>
      rw [List.map_cons, entriesDefect?, entriesDefect?, ih]
      rfl

/-- A wiring that was read fits an interface that was read as the written ones fit. -/
theorem defect?_received (w : Wiring) (i : Interface) :
    w.received.defect? i.received = w.defect? i := by
  have hinputs : (fun name => (i.received.input? name).isSome) =
      fun name => (i.input? name).isSome :=
    funext i.isSome_input?_received
  rw [defect?, defect?, received, entriesDefect?_received, entriesDefect?_received, hinputs]
  rfl

theorem received_eq_self_iff {w : Wiring} :
    w.received = w ↔ ∀ e ∈ w.inputs ++ w.outputs, e.descriptor.received = e.descriptor := by
  have hentry : ∀ e : WiringEntry, e.received = e ↔ e.descriptor.received = e.descriptor := by
    rintro ⟨name, adapterId, descriptor⟩
    simp only [WiringEntry.received, WiringEntry.mk.injEq, true_and]
  obtain ⟨inputs, outputs⟩ := w
  simp only [received, Wiring.mk.injEq, map_eq_self_iff, hentry, List.forall_mem_append]

end Wiring

end Dataflow
