import Dataflow.Json.Record
import Dataflow.Text.Blank

set_option autoImplicit false

/-! # Types of sources and sinks

An `ExternalType` is the type of a value as an adapter sees it. Each type has one canonical
name; some have further spellings. A spelling is recognised with blanks around it and in
any case of its ASCII letters, and only then.
-/

namespace Dataflow

/-- The declared type of a wired source or sink. -/
inductive ExternalType where
  | metadataInt | metadataFloat | metadataStr | metadataBoolean | metadataAny
  | timeseriesInt | timeseriesFloat | timeseriesNumeric | timeseriesStr | timeseriesBool
  | timeseriesAny
  | seriesInt | seriesFloat | seriesNumeric | seriesStr | seriesBool | seriesAny
  | multiTsFrame | dataFrame | plotlyJson
  deriving DecidableEq

/-- The family of an external type. -/
inductive GeneralType where
  | metadata | timeseries | series | multiTsFrame | dataFrame | plotlyJson
  deriving DecidableEq

/-- The name of a family. -/
def GeneralType.name : GeneralType → String
  | metadata => "metadata"
  | timeseries => "timeseries"
  | series => "series"
  | multiTsFrame => "multitsframe"
  | dataFrame => "dataframe"
  | plotlyJson => "plotlyjson"

namespace ExternalType

/-- The canonical name. -/
def name : ExternalType → String
  | metadataInt => "metadata(int)"
  | metadataFloat => "metadata(float)"
  | metadataStr => "metadata(str)"
  | metadataBoolean => "metadata(boolean)"
  | metadataAny => "metadata(any)"
  | timeseriesInt => "timeseries(int)"
  | timeseriesFloat => "timeseries(float)"
  | timeseriesNumeric => "timeseries(numeric)"
  | timeseriesStr => "timeseries(str)"
  | timeseriesBool => "timeseries(bool)"
  | timeseriesAny => "timeseries(any)"
  | seriesInt => "series(int)"
  | seriesFloat => "series(float)"
  | seriesNumeric => "series(numeric)"
  | seriesStr => "series(str)"
  | seriesBool => "series(bool)"
  | seriesAny => "series(any)"
  | multiTsFrame => "multitsframe"
  | dataFrame => "dataframe"
  | plotlyJson => "plotlyjson"

/-- Every spelling, in lower case, with its type. -/
def spellings : List (String × ExternalType) :=
  [("metadata(int)", metadataInt), ("metadata(integer)", metadataInt),
   ("metadata(float)", metadataFloat),
   ("metadata(str)", metadataStr), ("metadata(string)", metadataStr),
   ("metadata(boolean)", metadataBoolean), ("metadata(bool)", metadataBoolean),
   ("metadata(any)", metadataAny), ("metadata(object)", metadataAny),
   ("timeseries(int)", timeseriesInt), ("timeseries(integer)", timeseriesInt),
   ("timeseries(float)", timeseriesFloat), ("timeseries(numeric)", timeseriesNumeric),
   ("timeseries(str)", timeseriesStr), ("timeseries(string)", timeseriesStr),
   ("timeseries(bool)", timeseriesBool), ("timeseries(boolean)", timeseriesBool),
   ("timeseries(any)", timeseriesAny), ("timeseries(object)", timeseriesAny),
   ("series(int)", seriesInt), ("series(integer)", seriesInt),
   ("series(float)", seriesFloat), ("series(numeric)", seriesNumeric),
   ("series(str)", seriesStr), ("series(string)", seriesStr),
   ("series(bool)", seriesBool), ("series(boolean)", seriesBool),
   ("series(any)", seriesAny), ("series(object)", seriesAny),
   ("multitsframe", multiTsFrame), ("dataframe", dataFrame), ("plotlyjson", plotlyJson)]

/-- The type that a text spells. -/
def ofSpelling? (s : String) : Option ExternalType :=
  spellings.lookup (Text.asciiLower (Text.trim s))

/-- The family a type belongs to. -/
def general : ExternalType → GeneralType
  | metadataInt | metadataFloat | metadataStr | metadataBoolean | metadataAny => .metadata
  | timeseriesInt | timeseriesFloat | timeseriesNumeric | timeseriesStr | timeseriesBool
  | timeseriesAny => .timeseries
  | seriesInt | seriesFloat | seriesNumeric | seriesStr | seriesBool | seriesAny => .series
  | multiTsFrame => .multiTsFrame
  | dataFrame => .dataFrame
  | plotlyJson => .plotlyJson

/-- Whether a type is one of single values. -/
def isMetadata (t : ExternalType) : Bool := t.general = .metadata

/-- Types are read from any spelling. -/
def ofJson? (v : Json) : Option ExternalType := v.text?.bind ofSpelling?

/-- Types are written by their canonical name. -/
def toJson (t : ExternalType) : Json := .text t.name

end ExternalType

end Dataflow
