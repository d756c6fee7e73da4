import Dataflow.ModelError

set_option autoImplicit false

/-! # Typed inputs and outputs

An `Interface` is the ordered list of inputs and outputs of a revision. Names are meant to
be unique among the inputs and among the outputs; `Interface.defect?` finds the first name
that is not. A look-up takes the first entry of a name.
-/

namespace Dataflow

/-- Whether an input must be provided. -/
inductive InputKind where
  | required
  /-- Falls back to the default value when not provided. -/
  | optional
  deriving DecidableEq

/-- The name of a kind of input. -/
def InputKind.name : InputKind → String
  | required => "REQUIRED"
  | optional => "OPTIONAL"

/-- The kind of input with a name. -/
def InputKind.ofName? (s : String) : Option InputKind := [required, optional].find? (·.name == s)

/-- A named, typed input. -/
structure Input where
  name : String
  dataType : DataType
  kind : InputKind
  /-- The default value, which counts for optional inputs only. -/
  value : Option Json

namespace Input

/-- An input that must be provided. -/
def required (name : String) (dataType : DataType) : Input := ⟨name, dataType, .required, none⟩

/-- An input with a default value. -/
def optional (name : String) (dataType : DataType) (default : Json) : Input :=
  ⟨name, dataType, .optional, some default⟩

/-- The value an input takes when none is provided. -/
def default? (i : Input) : Option Json :=
  match i.kind with
  | .optional => i.value
  | .required => none

/-- The field names of a written input. -/
def fieldNames : List String := ["name", "data_type", "type", "value"]

/-- Reads an input; a default value of `null` is none. -/
def read? (form : Json.Form) (v : Json) : Option Input := do
  let f ← v.fields? fieldNames
  let name ← Json.required f "name" Json.text?
  let dataType ← Json.required f "data_type" DataType.ofJson?
  let kind ← Json.optional f "type" .required fun v => (v.word? form).bind InputKind.ofName?
  let value ← Json.optional f "value" none (Json.nullable? Json.any?)
  some ⟨name, dataType, kind, value⟩

/-- Writes an input, without a default value if it has none. -/
def toJson (i : Input) : Json :=
  .object ([("name", .text i.name), ("data_type", i.dataType.toJson),
    ("type", .text i.kind.name)] ++ (i.value.map fun v => ("value", v)).toList)

end Input

/-- A named, typed output. -/
structure Output where
  name : String
  dataType : DataType
  deriving DecidableEq

namespace Output

/-- Reads an output. -/
def ofJson? (v : Json) : Option Output := do
  let f ← v.fields? ["name", "data_type"]
  let name ← Json.required f "name" Json.text?
  let dataType ← Json.required f "data_type" DataType.ofJson?
  some ⟨name, dataType⟩

/-- Writes an output. -/
def toJson (o : Output) : Json :=
  .object [("name", .text o.name), ("data_type", o.dataType.toJson)]

end Output

/-- The first name in a list that is among the earlier ones or the names already seen. -/
def firstRepeat (seen : List String) : List String → Option String
  | [] => none
  | name :: rest => if name ∈ seen then some name else firstRepeat (name :: seen) rest

/-- The ordered inputs and outputs of a revision. -/
structure Interface where
  inputs : List Input
  outputs : List Output

namespace Interface

/-- The interface without inputs and outputs. -/
def empty : Interface := ⟨[], []⟩

/-- The first input of a name. -/
def input? (i : Interface) (name : String) : Option Input := i.inputs.find? (·.name == name)

/-- The first output of a name. -/
def output? (i : Interface) (name : String) : Option Output := i.outputs.find? (·.name == name)

/-- The first input name, or else output name, that occurs twice. -/
def defect? (i : Interface) : Option Defect :=
  match firstRepeat [] (i.inputs.map (·.name)) with
  | some name => some (.duplicateInput name)
  | none => (firstRepeat [] (i.outputs.map (·.name))).map .duplicateOutput

/-- Fails if a name occurs twice. -/
def check (i : Interface) : Except ModelError Unit :=
  match i.defect? with
  | some defect => .error (.invalid defect)
  | none => .ok ()

/-- Whether there are outputs and every one is a plot. -/
def isPurePlot (i : Interface) : Bool :=
  !i.outputs.isEmpty && i.outputs.all (fun o => o.dataType = .plotlyJson)

/-- The data types of the outputs by name; of equal names the last one counts. -/
def outputTypes (i : Interface) : Dict String DataType :=
  Dict.ofList (i.outputs.map fun o => (o.name, o.dataType))

/-- Reads an interface; either list may be absent. -/
def read? (form : Json.Form) (v : Json) : Option Interface := do
  let f ← v.fields? ["inputs", "outputs"]
  let inputs ← Json.optional f "inputs" [] (Json.list? (Input.read? form))
  let outputs ← Json.optional f "outputs" [] (Json.list? Output.ofJson?)
  some ⟨inputs, outputs⟩

/-- Reads an interface as it is written. -/
def ofJson? : Json → Option Interface := read? .direct

/-- Writes an interface. -/
def toJson (i : Interface) : Json :=
  .object [("inputs", .ofList Input.toJson i.inputs), ("outputs", .ofList Output.toJson i.outputs)]

end Interface

end Dataflow
