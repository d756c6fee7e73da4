import Dataflow.Json.Record

set_option autoImplicit false

/-! # Kinds and states of revisions -/

namespace Dataflow

/-- Whether a revision is an executable unit or a graph of other revisions. -/
inductive RevisionKind where
  | component | workflow
  deriving DecidableEq

namespace RevisionKind

/-- The name of a kind. -/
def name : RevisionKind → String
  | component => "COMPONENT"
  | workflow => "WORKFLOW"

/-- The kind with a name. -/
def ofName? (s : String) : Option RevisionKind := [component, workflow].find? (·.name == s)

/-- Kinds are read by their exact name. -/
def read? (form : Json.Form) (v : Json) : Option RevisionKind := (v.word? form).bind ofName?

/-- Reads a kind as it is written. -/
def ofJson? : Json → Option RevisionKind := read? .direct

/-- Kinds are written by their name. -/
def toJson (k : RevisionKind) : Json := .text k.name

end RevisionKind

/-- Where a revision stands in its life. -/
inductive RevisionState where
  /-- Still being edited. -/
  | draft
  /-- Frozen and usable everywhere. -/
  | released
  /-- Out of use, and found only by its identifier. -/
  | disabled
  deriving DecidableEq

namespace RevisionState

/-- The name of a state. -/
def name : RevisionState → String
  | draft => "DRAFT"
  | released => "RELEASED"
  | disabled => "DISABLED"

/-- The state with a name. -/
def ofName? (s : String) : Option RevisionState := [draft, released, disabled].find? (·.name == s)

/-- States are read by their exact name. -/
def read? (form : Json.Form) (v : Json) : Option RevisionState := (v.word? form).bind ofName?

/-- Reads a state as it is written. -/
def ofJson? : Json → Option RevisionState := read? .direct

/-- States are written by their name. -/
def toJson (s : RevisionState) : Json := .text s.name

/-- The name of a state as lists of states show it. -/
def label : RevisionState → String
  | draft => "Draft"
  | released => "Released"
  | disabled => "Disabled"

end RevisionState

end Dataflow
