import Dataflow.Proofs.Node.Written
import Dataflow.Proofs.Wiring

set_option autoImplicit false

/-! # Revisions read back

A revision is read from what it is written as (`Revision.read?_toJson`), in whichever form it
comes. As with all interfaces and wirings, a default value of `null` is lost, and the values that
are kept are brought into their normal form.
-/

namespace Dataflow

theorem RevisionKind.read?_toJson (form : Json.Form) (k : RevisionKind) :
    read? form k.toJson = some k := by
  cases k <;> rfl

theorem RevisionState.read?_toJson (form : Json.Form) (s : RevisionState) :
    read? form s.toJson = some s := by
  cases s <;> rfl

@[simp] theorem Operator.ofJson?_toJson (o : Operator) : ofJson? o.toJson = some o := by
  refine Json.bind_of_some (Json.fields?_object (by simp)) ?_
  refine Json.bind_of_some (Json.required_of_some rfl (Json.uuid?_ofUuid o.id)) ?_
  refine Json.bind_of_some (Json.required_of_some rfl (Json.uuid?_ofUuid o.revision)) ?_
  exact Json.bind_of_some (Json.required_of_some rfl (Json.text?_text o.name)) rfl

theorem CodeContent.ofJson?_members (c : CodeContent) :
    ofJson? (.object c.members) = some c := by
  refine Json.bind_of_some (Json.fields?_object (by simp [members])) ?_
  refine Json.bind_of_some (Json.required_of_some rfl (Json.uuid?_ofUuid c.codeModule)) ?_
  refine Json.bind_of_some (Json.required_of_some rfl (Json.text?_text c.function)) ?_
  exact Json.bind_of_some (Json.optional_of_some rfl (Json.text?_text c.source)) rfl

theorem WorkflowContent.ofJson?_members (w : WorkflowContent) :
    ofJson? (.object w.members) = some w := by
  have hoperators := Json.list?_ofList_self Operator.ofJson?_toJson w.operators
  have hconnections := Json.list?_ofList_self Connection.ofJson?_toJson w.connections
  have hmappings := Json.list?_ofList_self Mapping.ofJson?_toJson
  refine Json.bind_of_some (Json.fields?_object (by simp [members])) ?_
  refine Json.bind_of_some (Json.optional_of_some rfl hoperators) ?_
  refine Json.bind_of_some (Json.optional_of_some rfl hconnections) ?_
  refine Json.bind_of_some (Json.optional_of_some rfl (hmappings w.inputs)) ?_
  exact Json.bind_of_some (Json.optional_of_some rfl (hmappings w.outputs)) rfl

/-- Content is read by its tag. -/
theorem RevisionContent.read?_toJson (form : Json.Form) (c : RevisionContent) :
    read? form c.toJson = some c := by
  cases c with
  | code c =>
      have htag : "kind" ∉ c.members.map (·.1) := by simp [CodeContent.members]
      refine Json.bind_of_some (Json.tagged?_object (by simp) htag) ?_
      exact congrArg (Option.map code) (CodeContent.ofJson?_members c)
  | workflow w =>
      have htag : "kind" ∉ w.members.map (·.1) := by simp [WorkflowContent.members]
      refine Json.bind_of_some (Json.tagged?_object (by simp) htag) ?_
      exact congrArg (Option.map workflow) (WorkflowContent.ofJson?_members w)

namespace Revision

/-- What is read of a written revision. -/
def received (r : Revision) : Revision :=
  { r with
    interface := r.interface.received
    testWiring := r.testWiring.received
    releaseWiring := r.releaseWiring.map Wiring.received }

/-- The members of a written revision. -/
def members (r : Revision) : List (String × Json) :=
  [("id", .ofUuid r.id), ("revision_group_id", .ofUuid r.group), ("name", .text r.name),
    ("description", .text r.description), ("category", .text r.category),
    ("version_tag", .text r.versionTag), ("type", r.kind.toJson), ("state", r.state.toJson),
    ("io_interface", r.interface.toJson), ("content", r.content.toJson),
    ("documentation", .text r.documentation), ("test_wiring", r.testWiring.toJson)] ++
    (r.releaseWiring.map fun w => ("release_wiring", w.toJson)).toList

/-- The fields of a written revision. -/
def writtenFields (r : Revision) : Json.Fields :=
  fun name => if fieldNames.contains name then r.members.lookup name else none

theorem fields?_toJson (r : Revision) : r.toJson.fields? fieldNames = some r.writtenFields := by
  have hnames : (r.members.map (·.1)).Nodup := by
    rw [members]
    cases r.releaseWiring with
    | none =>
        show (fieldNames.take 12).Nodup
        decide
    | some w =>
        show fieldNames.Nodup
        decide
  exact Json.fields?_object hnames

/-- A release wiring is there or not. -/
theorem optional_releaseWiring (form : Json.Form) (r : Revision) :
    Json.optional r.writtenFields "release_wiring" none (Json.nullable? (Wiring.read? form)) =
      some (r.releaseWiring.map Wiring.received) := by
  have hfield : r.writtenFields "release_wiring" = r.releaseWiring.map Wiring.toJson := by
    rw [writtenFields, members]
    cases r.releaseWiring <;> rfl
  rw [Json.optional, hfield]
  cases r.releaseWiring with
  | none => rfl
  | some w =>
      have hread : Json.nullable? (Wiring.read? form) w.toJson =
          (Wiring.read? form w.toJson).map some := rfl
      rw [Option.map_some, Option.map_some]
      dsimp only
      rw [hread, Wiring.read?_toJson, Option.map_some]

/-- **A revision is read from what it is written as**, up to the default values of its inputs. -/
theorem read?_toJson (form : Json.Form) (r : Revision) :
    read? form r.toJson = some r.received := by
  -- one field after another
  refine Json.bind_of_some r.fields?_toJson ?_
  refine Json.bind_of_some (Json.required_of_some rfl (Json.uuid?_ofUuid r.id)) ?_
  refine Json.bind_of_some (Json.required_of_some rfl (Json.uuid?_ofUuid r.group)) ?_
  refine Json.bind_of_some (Json.required_of_some rfl (Json.text?_text r.name)) ?_
  refine Json.bind_of_some (Json.optional_of_some rfl (Json.text?_text r.description)) ?_
  refine Json.bind_of_some (Json.required_of_some rfl (Json.text?_text r.category)) ?_
  refine Json.bind_of_some (Json.required_of_some rfl (Json.text?_text r.versionTag)) ?_
  refine Json.bind_of_some (Json.required_of_some rfl (RevisionKind.read?_toJson form r.kind)) ?_
  refine Json.bind_of_some (Json.required_of_some rfl (RevisionState.read?_toJson form r.state)) ?_
  refine Json.bind_of_some (Json.required_of_some rfl (Interface.read?_toJson form r.interface)) ?_
  refine Json.bind_of_some (Json.required_of_some rfl (RevisionContent.read?_toJson form r.content)) ?_
  refine Json.bind_of_some (Json.optional_of_some rfl (Json.text?_text r.documentation)) ?_
  refine Json.bind_of_some (Json.optional_of_some rfl (Wiring.read?_toJson form r.testWiring)) ?_
  exact Json.bind_of_some (r.optional_releaseWiring form) rfl

theorem received_eq_self_iff {r : Revision} :
    r.received = r ↔ r.interface.received = r.interface ∧ r.testWiring.received = r.testWiring ∧
      ∀ w, r.releaseWiring = some w → w.received = w := by
  constructor
  · intro h
    have hrelease : r.releaseWiring.map Wiring.received = r.releaseWiring :=
      congrArg Revision.releaseWiring h
    refine ⟨congrArg Revision.interface h, congrArg Revision.testWiring h, fun w hw => ?_⟩
    rw [hw] at hrelease
    exact Option.some.inj hrelease
  · rintro ⟨hinterface, htest, hrelease⟩
    have hwiring : r.releaseWiring.map Wiring.received = r.releaseWiring := by
      cases hw : r.releaseWiring with
      | none => rfl
      | some w => exact congrArg some (hrelease w hw)
    rw [received, hinterface, htest, hwiring]

end Revision

end Dataflow
