import Dataflow.Component.Suitability

set_option autoImplicit false

/-! # Components regenerated from their records

A component used as a source or a sink is run like any other revision. It is regenerated from
its record and its code module, and the filters of a binding become directly provided inputs.
For a sink the value that is sent becomes the input `data`, and a filter of that name counts
for nothing.
-/

namespace Dataflow

/-- The revision group that all regenerated components share. -/
def regeneratedGroup : Uuid := .ofNat 0x00000000111100001111000000000000

/-- How the texts of a regenerated component say what it is. -/
def regeneratedMark : String := "REGENERATED FOR COMPONENT ADAPTER"

/-- A filter that is no input of the component. -/
structure UnknownFilter where
  filter : String
  /-- The name of the component with its version tag. -/
  component : String
  deriving DecidableEq

/-- The wording of the fault. -/
def UnknownFilter.message (u : UnknownFilter) : String :=
  "filter '" ++ u.filter ++ "' is not an input of component " ++ u.component

namespace ComponentRecord

/-- An input that is optional if it has a default value, and required if not. -/
def settled (i : Input) : Input :=
  { i with kind := if i.value.isSome then .optional else .required }

/-- The draft component of a record and a code module. -/
def regenerate (c : ComponentRecord) (m : CodeModule) : Revision where
  id := c.id
  group := regeneratedGroup
  name := c.name
  description := "TRAFO REV " ++ c.displayName ++ "  " ++ regeneratedMark
  category := "UNKNOWN CATEGORY SINCE " ++ regeneratedMark
  versionTag := c.versionTag
  kind := .component
  state := .draft
  interface := ⟨c.interface.inputs.map settled, c.interface.outputs⟩
  content := .code ⟨m.id, c.function, m.code⟩
  documentation := "UNKNOWN DOCUMENTATION SINCE " ++ regeneratedMark
  testWiring := .empty
  releaseWiring := none

/-- The value sent to a sink with the type that the binding declares for it. -/
structure SentValue where
  value : Json
  externalType : Option ExternalType

/-- The entry that provides a filter to the input of its name, typed as that input. -/
def filterEntry (c : ComponentRecord) (key : String) (value : Json) :
    Except UnknownFilter WiringEntry :=
  match c.interface.input? key with
  | some i => .ok ((WiringEntry.direct key value).withType i.dataType.external)
  | none => .error ⟨key, c.displayName⟩

/-- The entry that provides a sent value to the input `data`. -/
def dataEntry (sent : SentValue) : WiringEntry :=
  let entry := WiringEntry.direct sinkDataInput sent.value
  match sent.externalType with
  | some t => entry.withType t
  | none => entry

/-- The wiring of a regenerated component: its filters, and the value sent to it, if any. -/
def bindingWiring (c : ComponentRecord) (filters : Dict String Json) (sent : Option SentValue) :
    Except UnknownFilter Wiring := do
  let used := filters.toList.filter fun f => !(sent.isSome && f.1 == sinkDataInput)
  let entries ← used.mapM fun f => c.filterEntry f.1 f.2
  return ⟨entries ++ (sent.map dataEntry).toList, []⟩

end ComponentRecord

end Dataflow
