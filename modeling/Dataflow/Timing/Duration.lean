import Dataflow.Timing.Timestamp

set_option autoImplicit false

/-! # Lengths of time

A `Duration` counts nanoseconds and may be negative. It is written in hours, minutes and
seconds only, parts that are zero left out, with a minus before the whole; no length at all
is `PT0S`. It is read from the same notation, where the last part may have a fraction, from
hours, minutes and seconds with colons between them (`01:30:00`), and from amounts of named
units (`1h 30m`, `90 minutes ago`).
-/

namespace Dataflow

/-- A length of time, possibly negative. -/
structure Duration where
  nanoseconds : Int
  deriving DecidableEq

namespace Duration

/-- The time from one point to another. -/
def between (first last : Timestamp) : Duration := ⟨last.nanoseconds - first.nanoseconds⟩

/-- The whole milliseconds, towards zero. -/
def milliseconds (d : Duration) : Int := d.nanoseconds.tdiv 1000000

/-- The whole seconds, towards zero. -/
def seconds (d : Duration) : Int := d.nanoseconds.tdiv 1000000000

/-- A number with its unit, or nothing for zero. -/
def part (n : Nat) (unit : String) : String := if n = 0 then "" else Nat.repr n ++ unit

/-- The text of a duration. -/
protected def toString (d : Duration) : String :=
  let total := d.nanoseconds.natAbs
  let fraction := total % 1000000000
  let seconds := total / 1000000000 % 60
  let secondPart :=
    if fraction = 0 then part seconds "S"
    else Nat.repr seconds ++ Timestamp.fractionText fraction ++ "S"
  let minutePart := part (total / 60000000000 % 60) "M"
  let hourPart := part (total / 3600000000000) "H"
  (if d.nanoseconds < 0 then "-" else "") ++ "PT" ++
    if total = 0 then "0S" else hourPart ++ minutePart ++ secondPart

instance : ToString Duration := ⟨Duration.toString⟩

/-! ## Reading -/

/-- An amount of a unit of time: a whole number and billionths of one. -/
structure Amount where
  /-- The nanoseconds of the unit. -/
  unit : Nat
  whole : Nat
  billionths : Nat
  deriving DecidableEq

/-- The nanoseconds of an amount, a rest of one left out. -/
def Amount.nanoseconds (a : Amount) : Nat := a.whole * a.unit + a.billionths * a.unit / 1000000000

/-- An hour in nanoseconds. -/
def hour : Nat := 3600000000000

/-- A minute in nanoseconds. -/
def minute : Nat := 60000000000

/-- A second in nanoseconds. -/
def second : Nat := 1000000000

/-- The duration that amounts make up. The whole number of each and the whole seconds of the
sum must fit a signed word of 64 bits. -/
def ofAmounts? (negative : Bool) (amounts : List Amount) : Option Duration :=
  let limit := if negative then 2 ^ 63 else 2 ^ 63 - 1
  let total := (amounts.map Amount.nanoseconds).foldl (· + ·) 0
  if amounts.all (·.whole ≤ limit) ∧ total / second ≤ limit then
    some ⟨if negative then -(total : Int) else total⟩
  else none

open Scan

/-- A whole number of at most twenty-one digits. -/
def whole? (cs : List Char) : Option (Nat × List Char) :=
  let ds := cs.takeWhile Decimal.isDigit
  if ds.isEmpty ∨ ds.length > 21 then none
  else some (Decimal.valueOf ds, cs.drop ds.length)

/-- The letters that stand behind numbers of hours, minutes and seconds. -/
def letters : List (Char × Nat) := [('H', hour), ('M', minute), ('S', second)]

/-- Numbers, each with the letter of its unit, up to the end of the text: units from the
longest on, each at most once, and a fraction only in the last number. -/
def lettered? : List (Char × Nat) → List Char → Option (List Amount)
  | _, [] => some []
  | [], _ :: _ => none
  | (letter, unit) :: more, cs => do
      let (whole, rest) ← whole? cs
      let (fraction, rest) ← fraction? rest
      match rest with
      | [] => none
      | c :: tail =>
          if c.toUpper ≠ letter then lettered? more cs
          else if fraction.isSome ∧ tail ≠ [] then none
          else (lettered? more tail).map (⟨unit, whole, fraction.getD 0⟩ :: ·)

/-- The units with their names, from the longest on. -/
def namedUnits : List (Nat × List String) :=
  [ (hour, ["hours", "hour", "hrs", "hr", "h"]),
    (minute, ["minutes", "minute", "mins", "min", "m"]),
    (second, ["seconds", "second", "secs", "sec", "s"]),
    (1000000, ["milliseconds", "millisecond", "millis", "milli", "msecs", "msec", "ms"]),
    (1000, ["microseconds", "microsecond", "micros", "micro", "usecs", "usec", "us",
      "\u00b5secs", "\u00b5sec", "\u00b5s", "\u03bcsecs", "\u03bcsec", "\u03bcs"]),
    (1, ["nanoseconds", "nanosecond", "nanos", "nano", "nsecs", "nsec", "ns"]) ]

/-- Whether a character separates the words of a duration. -/
def isSpace (c : Char) : Bool := [' ', '\t', '\n', '\x0c', '\r'].contains c

/-- Whether a character can be in the name of a unit. -/
def isNameChar (c : Char) : Bool := c.isLower || c == '\u00b5' || c == '\u03bc'

/-- The text at the next number behind the name of a unit, if there is one: behind optional
space, which must be there behind a comma. Behind a comma there must be a number. -/
def nextNumber? : List Char → Option (Option (List Char))
  | ',' :: rest =>
      if rest.head?.any isSpace then some (some (rest.dropWhile isSpace)) else none
  | rest =>
      let next := rest.dropWhile isSpace
      some (if next.head?.any Decimal.isDigit then some next else none)

/-- Numbers, each with the name of its unit: units from the longest on, each at most once, and
a fraction only in the last number, which is not one of nanoseconds. -/
def named? : List (Nat × List String) → List Char → Option (List Amount × List Char)
  | [], _ => none
  | (unit, names) :: more, cs => do
      let (whole, rest) ← whole? cs
      let (fraction, rest) ← fraction? rest
      let rest := rest.dropWhile isSpace
      let name := rest.takeWhile isNameChar
      let rest := rest.drop name.length
      if !names.contains (String.ofList name) then named? more cs
      else if fraction.isSome then
        if unit = 1 then none else some ([⟨unit, whole, fraction.getD 0⟩], rest)
      else
        match ← nextNumber? rest with
        | none => some ([⟨unit, whole, 0⟩], rest)
        | some next => (named? more next).map fun r => (⟨unit, whole, 0⟩ :: r.1, r.2)

/-- Numbers of hours, minutes and seconds with colons between them. -/
def separated? (cs : List Char) : Option (List Amount × List Char) := do
  let (hours, rest) ← whole? cs
  let rest ← oneOf? [':'] rest
  let (minutes, rest) ← whole? rest
  let rest ← oneOf? [':'] rest
  let (seconds, rest) ← whole? rest
  let (fraction, rest) ← fraction? rest
  some ([⟨hour, hours, 0⟩, ⟨minute, minutes, 0⟩, ⟨second, seconds, fraction.getD 0⟩], rest)

/-- Whether the end of a text says that the duration lies in the past. Behind space it may say
so; otherwise there must be nothing. -/
def isPast? : List Char → Option Bool
  | [] => some false
  | c :: cs =>
      if !isSpace c then none
      else match cs.dropWhile isSpace with
        | [] => some false
        | word => if word = "ago".toList then some true else none

/-- The duration that a text writes behind its sign, which is given as whether it is a minus. -/
def unsigned? (sign : Option Bool) (cs : List Char) : Option Duration :=
  match oneOf? ['P', 'p'] cs with
  | some rest => do
      let rest ← oneOf? ['T', 't'] rest
      let amounts ← lettered? letters rest
      if amounts.isEmpty then none else ofAmounts? (sign.getD false) amounts
  | none => do
      let (amounts, rest) ← (separated? cs).or (named? namedUnits cs)
      let past ← isPast? rest
      if past ∧ sign.isSome then none else ofAmounts? (sign.getD past) amounts

/-- The duration that a text writes; it may begin with a sign. -/
def ofString? (s : String) : Option Duration :=
  match s.toList with
  | '+' :: rest => unsigned? (some false) rest
  | '-' :: rest => unsigned? (some true) rest
  | rest => unsigned? none rest

/-- Reads a duration. -/
def ofJson? (v : Json) : Option Duration := v.text?.bind ofString?

/-- Writes a duration. -/
def toJson (d : Duration) : Json := .text (toString d)

end Duration

end Dataflow
