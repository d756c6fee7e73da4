import Dataflow.Interface
import Dataflow.Json.Outline
import Dataflow.Json.Printer

set_option autoImplicit false

/-! # Wirings

A wiring binds inputs and outputs of a workflow to adapters. An entry names the input or
output and the adapter; its descriptor is the part that the adapter sees. Direct
provisioning carries its value in the entry itself, under the filter `value`; an entry for
any other adapter needs a reference.
-/

namespace Dataflow

/-- What a reference by identifier points to, for adapters that need it. -/
inductive RefIdType where
  | source | sink | thingNode
  deriving DecidableEq

/-- The name of a kind of reference. -/
def RefIdType.name : RefIdType → String
  | source => "SOURCE"
  | sink => "SINK"
  | thingNode => "THINGNODE"

/-- Kinds of reference are read by their exact name. -/
def RefIdType.read? (form : Json.Form) (v : Json) : Option RefIdType :=
  (v.word? form).bind fun s => [source, sink, thingNode].find? (·.name == s)

/-- The part of an entry that the adapter sees. -/
structure Descriptor where
  refId : Option String
  refIdType : Option RefIdType
  refKey : Option String
  externalType : Option ExternalType
  /-- What the adapter is to select; the values are its own business. -/
  filters : Dict String Json

namespace Descriptor

/-- The descriptor without reference, type and filters. -/
def empty : Descriptor := ⟨none, none, none, none, .empty⟩

/-- The reference in force: the key if there is one, else the identifier. -/
def reference? (d : Descriptor) : Option String := d.refKey <|> d.refId

/-- The names of the members of a written descriptor, in order. -/
def fieldNames : List String := ["ref_id", "ref_id_type", "ref_key", "type", "filters"]

/-- Reads a descriptor from fields, all of which may be absent. -/
def ofFields? (form : Json.Form) (f : Json.Fields) : Option Descriptor := do
  let refId ← Json.optional f "ref_id" none (Json.nullable? Json.text?)
  let refIdType ← Json.optional f "ref_id_type" none (Json.nullable? (RefIdType.read? form))
  let refKey ← Json.optional f "ref_key" none (Json.nullable? Json.text?)
  let externalType ← Json.optional f "type" none (Json.nullable? ExternalType.ofJson?)
  let filters ← Json.optional f "filters" .empty (Json.dict? Json.any?)
  some ⟨refId, refIdType, refKey, externalType, filters⟩

/-- Reads a descriptor. -/
def ofJson? (v : Json) : Option Descriptor := (v.fields? fieldNames).bind (ofFields? .direct)

/-- The members of a written descriptor. -/
def members (d : Descriptor) : List (String × Json) :=
  [("ref_id", .ofText? d.refId), ("ref_id_type", .ofText? (d.refIdType.map (·.name))),
   ("ref_key", .ofText? d.refKey), ("type", .ofOption ExternalType.toJson d.externalType),
   ("filters", .ofDict id d.filters)]

/-- Writes a descriptor. -/
def toJson (d : Descriptor) : Json := .object d.members

/-- The text of a descriptor. -/
protected def toString (d : Descriptor) : String := d.toJson.render

instance : ToString Descriptor := ⟨Descriptor.toString⟩

end Descriptor

/-- The adapter that carries values in the wiring itself. -/
def directProvisioning : String := "direct_provisioning"

/-- The adapter that runs a component as a source or sink. -/
def componentAdapterId : String := "component-adapter"

/-- The filter that holds a directly provisioned value. -/
def valueFilter : String := "value"

/-- The binding of one input or output to an adapter. -/
structure WiringEntry where
  /-- The name of the input or output. -/
  name : String
  adapterId : String
  descriptor : Descriptor

namespace WiringEntry

/-- The entry without reference, type and filters. -/
def bare (name adapterId : String) : WiringEntry := ⟨name, adapterId, .empty⟩

/-- Adds or replaces a filter. -/
def withFilter (e : WiringEntry) (key : String) (value : Json) : WiringEntry :=
  { e with descriptor := { e.descriptor with filters := e.descriptor.filters.insert key value } }

/-- Sets the reference by identifier. -/
def withRefId (e : WiringEntry) (refId : String) : WiringEntry :=
  { e with descriptor := { e.descriptor with refId := some refId } }

/-- Sets the reference by key. -/
def withRefKey (e : WiringEntry) (refKey : String) : WiringEntry :=
  { e with descriptor := { e.descriptor with refKey := some refKey } }

/-- Sets the declared type. -/
def withType (e : WiringEntry) (externalType : ExternalType) : WiringEntry :=
  { e with descriptor := { e.descriptor with externalType := some externalType } }

/-- The entry that provides a value directly. -/
def direct (name : String) (value : Json) : WiringEntry :=
  (bare name directProvisioning).withFilter valueFilter value

/-- Whether an entry is for direct provisioning. -/
def isDirect (e : WiringEntry) : Bool := e.adapterId == directProvisioning

/-- The reference in force. -/
def reference? (e : WiringEntry) : Option String := e.descriptor.reference?

/-- The names of the members of a written entry, in order. -/
def fieldNames : List String := "workflow_io_name" :: "adapter_id" :: Descriptor.fieldNames

/-- Reads an entry. -/
def read? (form : Json.Form) (v : Json) : Option WiringEntry := do
  let f ← v.fields? fieldNames
  let name ← Json.required f "workflow_io_name" Json.text?
  let adapterId ← Json.required f "adapter_id" Json.text?
  let descriptor ← Descriptor.ofFields? form f
  some ⟨name, adapterId, descriptor⟩

/-- Reads an entry as it is written. -/
def ofJson? : Json → Option WiringEntry := read? .direct

/-- Writes an entry. -/
def toJson (e : WiringEntry) : Json :=
  .object (("workflow_io_name", .text e.name) :: ("adapter_id", .text e.adapterId) ::
    e.descriptor.members)

end WiringEntry

/-- The bindings of a workflow's inputs and outputs. -/
structure Wiring where
  inputs : List WiringEntry
  outputs : List WiringEntry

namespace Wiring

/-- The wiring without entries. -/
def empty : Wiring := ⟨[], []⟩

instance : Inhabited Wiring := ⟨empty⟩

/-- Whether there are no entries. -/
def isEmpty (w : Wiring) : Bool := w.inputs.isEmpty && w.outputs.isEmpty

/-- The first defect of the entries of one direction: a name that the interface does not
declare, a name wired before, or an entry that needs a reference and has none. -/
def entriesDefect? (declared : String → Bool) (undeclared : String → Defect) :
    List String → List WiringEntry → Option Defect
  | _, [] => none
  | seen, e :: rest =>
      if !declared e.name then some (undeclared e.name)
      else if e.name ∈ seen then some (.wiredTwice e.name)
      else if !e.isDirect && e.reference?.isNone then some (.noReference e.name e.adapterId)
      else entriesDefect? declared undeclared (e.name :: seen) rest

/-- The first defect of a wiring applied to an interface, inputs before outputs. -/
def defect? (w : Wiring) (i : Interface) : Option Defect :=
  match entriesDefect? (fun n => (i.input? n).isSome) .unmatchedInput [] w.inputs with
  | some defect => some defect
  | none => entriesDefect? (fun n => (i.output? n).isSome) .unmatchedOutput [] w.outputs

/-- Fails if a wiring does not fit an interface. -/
def check (w : Wiring) (i : Interface) : Except ModelError Unit :=
  match w.defect? i with
  | some defect => .error (.invalid defect)
  | none => .ok ()

/-- Reads a wiring; either list may be absent. -/
def read? (form : Json.Form) (v : Json) : Option Wiring := do
  let f ← v.fields? ["input_wirings", "output_wirings"]
  let inputs ← Json.optional f "input_wirings" [] (Json.list? (WiringEntry.read? form))
  let outputs ← Json.optional f "output_wirings" [] (Json.list? (WiringEntry.read? form))
  some ⟨inputs, outputs⟩

/-- Reads a wiring as it is written. -/
def ofJson? : Json → Option Wiring := read? .direct

/-- The parts of a written wiring that reading looks at. -/
def outline : Json.Outline :=
  .record [("input_wirings", .items (.ofNames WiringEntry.fieldNames)),
    ("output_wirings", .items (.ofNames WiringEntry.fieldNames))]

/-- Writes a wiring. -/
def toJson (w : Wiring) : Json :=
  .object [("input_wirings", .ofList WiringEntry.toJson w.inputs),
    ("output_wirings", .ofList WiringEntry.toJson w.outputs)]

end Wiring

end Dataflow
