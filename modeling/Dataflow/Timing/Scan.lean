import Dataflow.Binary64.Reader

set_option autoImplicit false

/-! # Pieces of written times

Readers of the pieces that points in time and lengths of time are written with. Each reads
the beginning of a text and gives, with what it has read, the text after it.
-/

namespace Dataflow

namespace Scan

/-- The number that exactly `count` digits write. -/
def digits? (count : Nat) (cs : List Char) : Option (Nat × List Char) :=
  let ds := cs.take count
  if ds.length = count ∧ ds.all Decimal.isDigit then some (Decimal.valueOf ds, cs.drop count)
  else none

/-- The text after one of several characters. -/
def oneOf? (choices : List Char) : List Char → Option (List Char)
  | c :: cs => if choices.contains c then some cs else none
  | [] => none

/-- An optional fraction, in billionths: one to nine digits after a point or a comma. -/
def fraction? (cs : List Char) : Option (Option Nat × List Char) :=
  match oneOf? ['.', ','] cs with
  | none => some (none, cs)
  | some rest =>
      let ds := rest.takeWhile Decimal.isDigit
      if ds.isEmpty ∨ ds.length > 9 then none
      else some (some (Decimal.valueOf ds * 10 ^ (9 - ds.length)), rest.drop ds.length)

/-- The number of two digits, below a bound. -/
def below? (bound : Nat) (cs : List Char) : Option (Nat × List Char) :=
  (digits? 2 cs).filter fun r => r.1 < bound

/-- The text at the next part of a clock reading, if there is one. Where colons separate the
parts it is after a colon; where nothing does it begins with two digits. -/
def nextPart? (colons : Bool) (cs : List Char) : Option (List Char) :=
  if colons then oneOf? [':'] cs else if (digits? 2 cs).isSome then some cs else none

/-- Whether the parts of a clock reading are separated by colons, by the text after the hour. -/
def hasColons (cs : List Char) : Bool := cs.head? = some ':'

end Scan

/-- A reading of a clock. -/
structure ClockReading where
  hour : Nat
  minute : Nat
  second : Nat
  nanosecond : Nat
  deriving DecidableEq

namespace ClockReading

/-- The whole seconds since midnight. -/
def seconds (r : ClockReading) : Nat := (r.hour * 60 + r.minute) * 60 + r.second

open Scan

/-- A clock reading with hours and seconds below given bounds. Minutes may be left out, and so
may seconds; a fraction may follow the seconds only. -/
def read? (hourBound secondBound : Nat) (cs : List Char) :
    Option (ClockReading × List Char) := do
  let (hour, rest) ← below? hourBound cs
  let colons := hasColons rest
  match nextPart? colons rest with
  | none => some (⟨hour, 0, 0, 0⟩, rest)
  | some rest =>
      let (minute, rest) ← below? 60 rest
      match nextPart? colons rest with
      | none => some (⟨hour, minute, 0, 0⟩, rest)
      | some rest =>
          let (second, rest) ← below? secondBound rest
          let (fraction, rest) ← fraction? rest
          some (⟨hour, minute, second, fraction.getD 0⟩, rest)

end ClockReading

end Dataflow
