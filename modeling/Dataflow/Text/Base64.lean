import Dataflow.Power

set_option autoImplicit false

/-! # Base64

Three bytes are written as four digits to the base 64. One or two bytes at the end are filled
up with zero bits, and the digits that would hold nothing else are written as `=`.
-/

namespace Dataflow.Text.Base64

/-- The digits in the order of their values. -/
def digits : List Char :=
  "ABCDEFGHIJKLMNOPQRSTUVWXYZabcdefghijklmnopqrstuvwxyz0123456789+/".toList

/-- The digit of a value below 64. -/
def digit (n : Nat) : Char := digits.getD n '='

/-- The four digits of a number of 24 bits. -/
def fourDigits (n : Nat) : List Char :=
  [digit (n / 2 ^ 18 % 64), digit (n / 2 ^ 12 % 64), digit (n / 2 ^ 6 % 64), digit (n % 64)]

/-- The written form of bytes. -/
def encode : List UInt8 → List Char
  | [] => []
  | [a] => (fourDigits (a.toNat * 2 ^ 16)).take 2 ++ ['=', '=']
  | [a, b] => (fourDigits (a.toNat * 2 ^ 16 + b.toNat * 2 ^ 8)).take 3 ++ ['=']
  | a :: b :: c :: rest =>
      fourDigits (a.toNat * 2 ^ 16 + b.toNat * 2 ^ 8 + c.toNat) ++ encode rest

/-- The written form of a text, by its UTF-8 bytes. -/
def encodeText (s : String) : String := String.ofList (encode s.toUTF8.toList)

end Dataflow.Text.Base64
