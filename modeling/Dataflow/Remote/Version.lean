import Dataflow.Binary64.Reader
import Dataflow.Json.Record

set_option autoImplicit false

/-! # Versions

A version is three numbers between dots, and after them possibly a hyphen with the
identifiers of a pre-release and a plus sign with those of a build. Identifiers stand between
dots; a number has no leading zero, except among the identifiers of a build.
-/

namespace Dataflow

/-- The version of a runtime. -/
structure Version where
  major : Nat
  minor : Nat
  patch : Nat
  preRelease : List String
  build : List String
  deriving DecidableEq

namespace Version

/-- The version of this program. -/
def current : Version := ⟨0, 1, 0, [], []⟩

/-- Identifiers after their mark, if there are any. -/
def marked (mark : String) (identifiers : List String) : String :=
  if identifiers.isEmpty then "" else mark ++ ".".intercalate identifiers

/-- The written form of a version. -/
protected def toString (v : Version) : String :=
  ".".intercalate ([v.major, v.minor, v.patch].map Nat.repr) ++ marked "-" v.preRelease ++
    marked "+" v.build

instance : ToString Version := ⟨Version.toString⟩

/-- Whether digits write a number without a leading zero. -/
def isNumeral (ds : List Char) : Bool :=
  ds.all Decimal.isDigit && !ds.isEmpty && (ds.length = 1 || ds.head? ≠ some '0')

/-- A number of a version, which fits a word of 64 bits. -/
def number? (s : String) : Option Nat :=
  if isNumeral s.toList then some (Decimal.valueOf s.toList) |>.filter (· < 2 ^ 64) else none

/-- Whether a text is an identifier; `zeros` says whether a number may begin with a zero. -/
def isIdentifier (zeros : Bool) (s : String) : Bool :=
  let cs := s.toList
  !cs.isEmpty && cs.all (fun c => c.isAlphanum || c = '-') &&
    (zeros || !cs.all Decimal.isDigit || isNumeral cs)

/-- The identifiers of a text. -/
def identifiers? (zeros : Bool) (cs : List Char) : Option (List String) :=
  let parts := (String.ofList cs).splitOn "."
  if parts.all (isIdentifier zeros) then some parts else none

/-- The identifiers after a mark, if the mark is there. -/
def identifiersAfter? (zeros : Bool) : List Char → Option (List String)
  | [] => some []
  | _ :: cs => identifiers? zeros cs

/-- Reads a version. -/
def ofString? (s : String) : Option Version := do
  let (front, buildText) := s.toList.span (· ≠ '+')
  let (numbers, preReleaseText) := front.span (· ≠ '-')
  let preRelease ← identifiersAfter? false preReleaseText
  let build ← identifiersAfter? true buildText
  match ← ((String.ofList numbers).splitOn ".").mapM number? with
  | [major, minor, patch] => some { major, minor, patch, preRelease, build }
  | _ => none

end Version

/-- What a runtime says about itself. -/
structure RuntimeInfo where
  version : Version
  deriving DecidableEq

namespace RuntimeInfo

/-- What this program says about itself. -/
def current : RuntimeInfo := ⟨.current⟩

/-- The names of the members of what a runtime writes about itself. -/
def fieldNames : List String := ["version"]

/-- Reads what a runtime says about itself. -/
def ofJson? (v : Json) : Option RuntimeInfo := do
  let f ← v.fields? fieldNames
  let version ← Json.required f "version" fun v => v.text?.bind Version.ofString?
  some ⟨version⟩

/-- Writes what a runtime says about itself. -/
def toJson (i : RuntimeInfo) : Json := .object [("version", .text (toString i.version))]

end RuntimeInfo

end Dataflow
