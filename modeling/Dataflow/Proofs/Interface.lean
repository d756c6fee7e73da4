import Dataflow.Interface
import Dataflow.Proofs.Json.Record

set_option autoImplicit false

/-! # Interfaces read back

Types and kinds are read from the names under which they are written, and so is an interface as a
whole (`Interface.read?_toJson`). One thing is lost on the way: a default value of `null` is
written, and read as no default value at all. `Input.received` says what is left of an input.
-/

namespace Dataflow

@[simp] theorem DataType.ofJson?_toJson (t : DataType) : ofJson? t.toJson = some t := by
  cases t <;> decide

@[simp] theorem InputKind.ofName?_name (k : InputKind) : ofName? k.name = some k := by
  cases k <;> rfl

namespace Input

/-- What is read of a written input. -/
def received (i : Input) : Input := { i with value := i.value.bind Json.present? }

/-- **An input is read, up to its default value.** -/
theorem read?_toJson (form : Json.Form) (i : Input) : read? form i.toJson = some i.received := by
  obtain ⟨name, dataType, kind, value⟩ := i
  -- the default value is a member of its own, which is there or not
  cases value with
  | none =>
      rw [read?, toJson, Json.fields?_object (by simp)]
      simp [Json.required, Json.optional, fieldNames, List.lookup_cons, received]
  | some v =>
      rw [read?, toJson, Json.fields?_object (by simp)]
      simp [Json.required, Json.optional, fieldNames, List.lookup_cons, received]

/-- An input is read as it is exactly if its default value is in normal form and not `null`. -/
theorem received_eq_self_iff {i : Input} :
    i.received = i ↔ ∀ v, i.value = some v → v ≠ .null ∧ v.normalize = v := by
  obtain ⟨name, dataType, kind, value⟩ := i
  cases value with
  | none => simp [received]
  | some v => simp [received, Json.present?_eq_self_iff]

end Input

/-- An output is read as it is. -/
@[simp] theorem Output.ofJson?_toJson (o : Output) : ofJson? o.toJson = some o := by
  rw [ofJson?, toJson, Json.fields?_object (by simp)]
  simp [Json.required, List.lookup_cons]

namespace Interface

/-- What is read of a written interface. -/
def received (i : Interface) : Interface := ⟨i.inputs.map Input.received, i.outputs⟩

/-- **An interface is read, up to the default values of its inputs.** -/
theorem read?_toJson (form : Json.Form) (i : Interface) :
    read? form i.toJson = some i.received := by
  have hinputs : Json.list? (Input.read? form) (.ofList Input.toJson i.inputs) =
      some (i.inputs.map Input.received) :=
    Json.list?_ofList fun a _ => Input.read?_toJson form a
  have houtputs := Json.list?_ofList_self Output.ofJson?_toJson i.outputs
  rw [read?, toJson, Json.fields?_object (by simp)]
  simp [Json.optional, List.lookup_cons, hinputs, houtputs, received]

theorem isSome_input?_received (i : Interface) (name : String) :
    (i.received.input? name).isSome = (i.input? name).isSome := by
  have hfind : i.received.input? name = (i.input? name).map Input.received := List.find?_map
  rw [hfind, Option.isSome_map]

theorem received_eq_self_iff {i : Interface} :
    i.received = i ↔ ∀ input ∈ i.inputs, input.received = input := by
  obtain ⟨inputs, outputs⟩ := i
  simp only [received, Interface.mk.injEq, and_true, map_eq_self_iff]

end Interface

end Dataflow
