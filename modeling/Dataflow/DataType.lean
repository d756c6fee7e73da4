import Dataflow.ExternalType

set_option autoImplicit false

/-! # Types of component inputs and outputs

A `DataType` is the type of a value that flows through an input or an output. As with
external types there is one canonical name and some further spellings; the canonical names
are in capitals.
-/

namespace Dataflow

/-- The type of an input or output. -/
inductive DataType where
  | int | float | string | dataFrame | series | multiTsFrame | boolean | any | plotlyJson
  deriving DecidableEq

namespace DataType

/-- The canonical name. -/
def name : DataType → String
  | int => "INT"
  | float => "FLOAT"
  | string => "STRING"
  | dataFrame => "DATAFRAME"
  | series => "SERIES"
  | multiTsFrame => "MULTITSFRAME"
  | boolean => "BOOLEAN"
  | any => "ANY"
  | plotlyJson => "PLOTLYJSON"

/-- Every spelling, in lower case, with its type. -/
def spellings : List (String × DataType) :=
  [("int", int), ("integer", int), ("float", float), ("str", string), ("string", string),
   ("dataframe", dataFrame), ("series", series), ("multitsframe", multiTsFrame),
   ("bool", boolean), ("boolean", boolean), ("any", any), ("object", any),
   ("plotlyjson", plotlyJson)]

/-- The type that a text spells. -/
def ofSpelling? (s : String) : Option DataType :=
  spellings.lookup (Text.asciiLower (Text.trim s))

/-- The type an adapter sees for values of a data type. -/
def external : DataType → ExternalType
  | int => .metadataInt
  | float => .metadataFloat
  | string => .metadataStr
  | dataFrame => .dataFrame
  | series => .timeseriesNumeric
  | multiTsFrame => .multiTsFrame
  | boolean => .metadataBoolean
  | any => .metadataAny
  | plotlyJson => .plotlyJson

/-- Types are read from any spelling. -/
def ofJson? (v : Json) : Option DataType := v.text?.bind ofSpelling?

/-- Types are written by their canonical name. -/
def toJson (t : DataType) : Json := .text t.name

end DataType

end Dataflow
