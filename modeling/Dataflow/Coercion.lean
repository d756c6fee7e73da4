import Dataflow.Binary64.Reader
import Dataflow.DataType
import Dataflow.Json.Printer

set_option autoImplicit false

/-! # Coercion of values

`coerce t v` brings a value into the representation of a data type: an integer for `INT`,
a finite float for `FLOAT`, a text for `STRING`, a truth value for `BOOLEAN`. Texts that
write a number or a truth value are converted, and an integral float is an integer if a
signed word of 64 bits holds it. Values of all other types stay as they are.
-/

namespace Dataflow

/-- Why a value has no representation in a type. -/
inductive CoercionFault where
  /-- A number or text that is no integer. -/
  | notAnInteger (shown : String)
  /-- A number or text that is no finite float. -/
  | notAFiniteFloat (shown : String)
  /-- A number or text that is no truth value. -/
  | notABoolean (shown : String)
  /-- A value of a kind that the type never takes. -/
  | unexpected (wanted : String) (kind : Json.Kind)
  /-- A cause given in words. -/
  | described (text : String)
  deriving DecidableEq

/-- The wording of a fault. -/
def CoercionFault.message : CoercionFault → String
  | notAnInteger shown => shown ++ " is not an integer"
  | notAFiniteFloat shown => shown ++ " is not a finite float"
  | notABoolean shown => shown ++ " is not a boolean"
  | unexpected wanted kind => "expected " ++ wanted ++ ", got " ++ kind.name
  | described text => text

namespace Coercion

/-- A text in single quotes, as faults show it. -/
def shown (s : String) : String := "'" ++ s ++ "'"

/-- The integer of a float that is one and that a signed word of 64 bits holds. The bound
excludes the least word: the magnitude must lie below `2 ^ 63`. -/
def integral? (x : Binary64) : Option WordInt :=
  x.toInt?.bind fun n => if n.natAbs < 2 ^ 63 then WordInt.ofInt? n else none

/-- The integer that a text writes, either as one that a signed word of 64 bits holds or as
an integral float. -/
def integerOfText? (s : String) : Option WordInt :=
  let cs := Text.trimChars s.toList
  match (Decimal.integer? cs).bind (fun n =>
      if -2 ^ 63 ≤ n ∧ n < 2 ^ 63 then WordInt.ofInt? n else none) with
  | some n => some n
  | none => ((Decimal.ofChars? cs).bind Binary64.ofDecimalText?).bind integral?

/-- The truth value that a text names. -/
def boolOfText? (s : String) : Option Bool :=
  let word := Text.asciiLower (Text.trim s)
  if word ∈ ["true", "1", "yes", "on"] then some true
  else if word ∈ ["false", "0", "no", "off"] then some false
  else none

/-- An integer as a value. -/
def integer (n : WordInt) : Json := .number (.integer n)

/-- A float as a value. -/
def float (x : Binary64) : Json := .number (.float x)

/-- The result of a partial reading, with the fault to report when there is none. -/
def orFault {α : Type} (o : Option α) (fault : CoercionFault) : Except CoercionFault α :=
  match o with
  | some a => .ok a
  | none => .error fault

/-- Coercion to an integer. -/
def toInteger : Json → Except CoercionFault Json
  | .number (.integer n) => .ok (integer n)
  | .number (.float x) => (orFault (integral? x) (.notAnInteger (toString x))).map integer
  | .text s => (orFault (integerOfText? s) (.notAnInteger (shown s))).map integer
  | v => .error (.unexpected "an integer" v.kind)

/-- Coercion to a finite float. -/
def toFloat : Json → Except CoercionFault Json
  | .number n => (orFault n.toBinary64? (.notAFiniteFloat (toString n))).map float
  | .text s =>
      (orFault (Binary64.ofText? (Text.trim s)) (.notAFiniteFloat (Json.quote s))).map float
  | v => .error (.unexpected "a float" v.kind)

/-- Coercion to a text. -/
def toText : Json → Except CoercionFault Json
  | .text s => .ok (.text s)
  | .number n => .ok (.text (toString n))
  | .bool b => .ok (.text (if b then "true" else "false"))
  | v => .error (.unexpected "a string" v.kind)

/-- Coercion to a truth value. -/
def toBool : Json → Except CoercionFault Json
  | .bool b => .ok (.bool b)
  | .number n =>
      if n.signed? = some 0 then .ok (.bool false)
      else if n.signed? = some 1 then .ok (.bool true)
      else .error (.notABoolean (toString n))
  | .text s => (orFault (boolOfText? s) (.notABoolean (shown s))).map .bool
  | v => .error (.unexpected "a boolean" v.kind)

end Coercion

/-- Brings a value into the representation of a data type. -/
def coerce (t : DataType) (v : Json) : Except CoercionFault Json :=
  match t with
  | .int => Coercion.toInteger v
  | .float => Coercion.toFloat v
  | .string => Coercion.toText v
  | .boolean => Coercion.toBool v
  | _ => .ok v

end Dataflow
