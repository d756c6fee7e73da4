import Dataflow.Text.Unprintable
import Dataflow.Uuid

set_option autoImplicit false

/-! # Quoted texts

A quoted text stands between double quotes, with the quote and the backslash escaped by a
backslash, a few control characters by a letter, and every other character that has no
printed form of its own by its number. A list is written in brackets.
-/

namespace Dataflow.Text

/-- The lowercase hexadecimal digits of a number, without leading zeros. -/
def hexText (n : Nat) : List Char :=
  let ds := (Uuid.hexDigits 8 n).dropWhile (· == '0')
  if ds.isEmpty then ['0'] else ds

/-- One character of a quoted text. -/
def quoteChar (c : Char) : List Char :=
  if c = '"' then ['\\', '"']
  else if c = '\\' then ['\\', '\\']
  else if c = '\n' then ['\\', 'n']
  else if c = '\r' then ['\\', 'r']
  else if c = '\t' then ['\\', 't']
  else if c.toNat = 0 then ['\\', '0']
  else if isUnprintable c then '\\' :: 'u' :: '\x7b' :: hexText c.toNat ++ ['\x7d']
  else [c]

/-- A text in double quotes. -/
def quoted (s : String) : String := String.ofList ('"' :: s.toList.flatMap quoteChar ++ ['"'])

/-- A list of texts in brackets. -/
def listed (items : List String) : String := "[" ++ ", ".intercalate items ++ "]"

/-- A list of quoted texts in brackets. -/
def quotedList (items : List String) : String := listed (items.map quoted)

end Dataflow.Text
