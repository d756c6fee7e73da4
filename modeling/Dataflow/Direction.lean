set_option autoImplicit false

/-! # Directions of a binding -/

namespace Dataflow

/-- Which way values go through a binding. -/
inductive Direction where
  /-- From a source into an input. -/
  | load
  /-- From an output to a sink. -/
  | send
  deriving DecidableEq

namespace Direction

/-- The name of a direction. -/
def name : Direction → String
  | load => "load"
  | send => "send"

/-- What a component used in a direction is called. -/
def usage : Direction → String
  | load => "source"
  | send => "sink"

end Direction

end Dataflow
