set_option autoImplicit false

/-! # Percent-encoded text

Inside a URL a character that would be read as something else is written by the bytes of its
UTF-8 form, each as `%` and two capital hexadecimal digits. Which characters need it depends
on the part of the URL; a character outside ASCII and a control character always do.
-/

namespace Dataflow.Url

/-- A set of characters that a part of a URL does not hold as they are. -/
abbrev EncodeSet := Char → Bool

/-- The characters that no part holds: controls and those outside ASCII. -/
def controlSet : EncodeSet := fun c => c.toNat < 0x20 || c.toNat ≥ 0x7f

/-- A set with further characters. -/
def EncodeSet.adding (s : EncodeSet) (more : List Char) : EncodeSet :=
  fun c => s c || more.contains c

/-- What a fragment does not hold. -/
def fragmentSet : EncodeSet := controlSet.adding [' ', '"', '<', '>', '\x60']

/-- What a path does not hold. -/
def pathSet : EncodeSet := fragmentSet.adding ['#', '?', '\x7b', '\x7d']

/-- What a user name and a password do not hold. -/
def userSet : EncodeSet := pathSet.adding ['/', ':', ';', '=', '@', '[', '\\', ']', '^', '|']

/-- What a query does not hold. -/
def querySet : EncodeSet := controlSet.adding [' ', '"', '#', '<', '>']

/-- What a query of a special scheme does not hold. -/
def specialQuerySet : EncodeSet := querySet.adding ['\x27']

/-- A capital hexadecimal digit. -/
def capitalDigit (n : Nat) : Char :=
  if n < 10 then Char.ofNat ('0'.toNat + n) else Char.ofNat ('A'.toNat + (n - 10))

/-- A byte as `%` and two digits. -/
def encodeByte (b : UInt8) : List Char :=
  ['%', capitalDigit (b.toNat / 16), capitalDigit (b.toNat % 16)]

/-- A character, encoded if a set holds it. -/
def encodeChar (s : EncodeSet) (c : Char) : List Char :=
  if s c then (String.ofList [c]).toUTF8.toList.flatMap encodeByte else [c]

/-- A text with every character of a set encoded. -/
def percentEncode (s : EncodeSet) (cs : List Char) : List Char := cs.flatMap (encodeChar s)

/-- The value of a hexadecimal digit. -/
def digitValue? (c : Char) : Option Nat :=
  let c := c.toLower
  if '0' ≤ c ∧ c ≤ '9' then some (c.toNat - '0'.toNat)
  else if 'a' ≤ c ∧ c ≤ 'f' then some (c.toNat - 'a'.toNat + 10)
  else none

/-- The bytes of a text in which `%` and two digits stand for a byte. -/
def percentBytes : List Char → List UInt8
  | '%' :: a :: b :: rest =>
      match digitValue? a, digitValue? b with
      | some x, some y => UInt8.ofNat (16 * x + y) :: percentBytes rest
      | _, _ => 0x25 :: percentBytes (a :: b :: rest)
  | c :: rest => (String.ofList [c]).toUTF8.toList ++ percentBytes rest
  | [] => []

/-- The text that is written with percent-encoding, if its bytes are UTF-8. -/
def percentDecode? (cs : List Char) : Option (List Char) :=
  (String.fromUTF8? ⟨(percentBytes cs).toArray⟩).map String.toList

end Dataflow.Url
