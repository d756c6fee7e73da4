import Dataflow.Json.Record
import Dataflow.Timing.Annotation

set_option autoImplicit false

/-! # Points in time

A `Timestamp` counts nanoseconds from the beginning of 1970 in universal time. It is written
as a date and a time of day with the designator `Z`, the fraction of a second without
trailing zeros. It is read from a date and a time with any offset from universal time, which
must be there; a leap second is read as the second before it. Annotations may follow.

Dates are those of the Gregorian calendar, continued to all years. Days are counted in years
that begin in March, so that a leap day ends its year.
-/

namespace Dataflow

/-- A point in time. -/
structure Timestamp where
  /-- The nanoseconds since the beginning of 1970 in universal time. -/
  nanoseconds : Int
  deriving DecidableEq

/-- A date of the Gregorian calendar. -/
structure CivilDate where
  year : Int
  month : Nat
  day : Nat
  deriving DecidableEq

namespace CivilDate

/-- Whether a year has a leap day. -/
def isLeapYear (year : Int) : Bool := year % 4 == 0 && (year % 100 != 0 || year % 400 == 0)

/-- The number of days of a month. -/
def daysInMonth (year : Int) (month : Nat) : Nat :=
  if month = 2 then (if isLeapYear year then 29 else 28)
  else if month = 4 ∨ month = 6 ∨ month = 9 ∨ month = 11 then 30
  else 31

/-- Whether month and day are those of a date. -/
def isValid (d : CivilDate) : Bool :=
  decide (1 ≤ d.month ∧ d.month ≤ 12 ∧ 1 ≤ d.day ∧ d.day ≤ daysInMonth d.year d.month)

/-- The number of days from the beginning of 1970 to a date. -/
def toDays (d : CivilDate) : Int :=
  let year := if d.month ≤ 2 then d.year - 1 else d.year
  let monthFromMarch : Int := ((d.month + 9) % 12 : Nat)
  let dayOfYear := (153 * monthFromMarch + 2) / 5 + (d.day : Int) - 1
  365 * year + year.fdiv 4 - year.fdiv 100 + year.fdiv 400 + dayOfYear - 719468

/-- The date a number of days after the beginning of 1970. -/
def ofDays (days : Int) : CivilDate :=
  let shifted := days + 719468
  let era := shifted.fdiv 146097
  let dayOfEra := shifted - era * 146097
  let yearOfEra := (dayOfEra - dayOfEra / 1460 + dayOfEra / 36524 - dayOfEra / 146096) / 365
  let dayOfYear := dayOfEra - (365 * yearOfEra + yearOfEra / 4 - yearOfEra / 100)
  let monthFromMarch := (5 * dayOfYear + 2) / 153
  let day := dayOfYear - (153 * monthFromMarch + 2) / 5 + 1
  let month := if monthFromMarch < 10 then monthFromMarch + 3 else monthFromMarch - 9
  let year := yearOfEra + era * 400
  ⟨if month ≤ 2 then year + 1 else year, month.toNat, day.toNat⟩

end CivilDate

namespace Timestamp

instance : Inhabited Timestamp := ⟨⟨0⟩⟩

/-- The earliest and the latest second there is a timestamp for. -/
def secondRange : Int × Int := (-377705023201, 253402207200)

/-- Digits with zeros before them up to a given width. -/
def padded (width n : Nat) : String :=
  let ds := Nat.repr n
  String.ofList (List.replicate (width - ds.length) '0') ++ ds

/-- A fraction of a second after its point, without trailing zeros, or nothing for none. -/
def fractionText (nanoseconds : Nat) : String :=
  if nanoseconds = 0 then ""
  else
    let ds := (padded 9 nanoseconds).toList
    "." ++ String.ofList (ds.reverse.dropWhile (· == '0')).reverse

/-- The text of a year: four digits, or a minus and six. -/
def yearText (year : Int) : String :=
  if year < 0 then "-" ++ padded 6 year.natAbs else padded 4 year.natAbs

/-- The text of a timestamp in universal time. -/
protected def toString (t : Timestamp) : String :=
  let seconds := t.nanoseconds.fdiv 1000000000
  let fraction := (t.nanoseconds - seconds * 1000000000).toNat
  let days := seconds.fdiv 86400
  let secondOfDay := (seconds - days * 86400).toNat
  let date := CivilDate.ofDays days
  yearText date.year ++ "-" ++ padded 2 date.month ++ "-" ++ padded 2 date.day ++ "T" ++
    padded 2 (secondOfDay / 3600) ++ ":" ++ padded 2 (secondOfDay / 60 % 60) ++ ":" ++
    padded 2 (secondOfDay % 60) ++ fractionText fraction ++ "Z"

instance : ToString Timestamp := ⟨Timestamp.toString⟩

/-! ## Reading -/

open Scan

/-- A year: four digits, or a sign and six; there is no year minus zero. -/
def year? (cs : List Char) : Option (Int × List Char) :=
  match cs with
  | '-' :: rest =>
      (digits? 6 rest).bind fun (n, rest) => if n = 0 then none else some (-(n : Int), rest)
  | '+' :: rest => (digits? 6 rest).map fun (n, rest) => ((n : Int), rest)
  | _ => (digits? 4 cs).map fun (n, rest) => ((n : Int), rest)

/-- A date, with hyphens between its parts or without. -/
def date? (cs : List Char) : Option (CivilDate × List Char) := do
  let (year, rest) ← year? cs
  let hyphens := rest.head? = some '-'
  let rest := if hyphens then rest.tail else rest
  let (month, rest) ← digits? 2 rest
  let rest ← if hyphens then oneOf? ['-'] rest else some rest
  let (day, rest) ← digits? 2 rest
  let date : CivilDate := ⟨year, month, day⟩
  if date.isValid then some (date, rest) else none

/-- A time of day in nanoseconds; a leap second is the second before it. -/
def timeOfDay? (cs : List Char) : Option (Nat × List Char) := do
  let (reading, rest) ← ClockReading.read? 24 61 cs
  let reading := { reading with second := min reading.second 59 }
  some (reading.seconds * 1000000000 + reading.nanosecond, rest)

/-- The farthest offset from universal time in seconds. -/
def offsetLimit : Nat := 93599

/-- The offset from universal time in seconds, rounded to a whole number of them. -/
def offset? : List Char → Option (Int × List Char)
  | 'Z' :: rest => some (0, rest)
  | 'z' :: rest => some (0, rest)
  | sign :: rest =>
      if sign = '+' ∨ sign = '-' then do
        let (reading, rest) ← ClockReading.read? 26 60 rest
        let seconds := reading.seconds + if reading.nanosecond < 500000000 then 0 else 1
        if seconds ≤ offsetLimit then
          some (if sign = '-' then -(seconds : Int) else seconds, rest)
        else none
      else none
  | [] => none

/-- The point in time that a text gives. The range bounds the seconds without their fraction,
so that points less than a second before the earliest second are in it. -/
def ofString? (s : String) : Option Timestamp := do
  let (date, rest) ← date? s.toList
  let rest ← oneOf? ['T', 't', ' '] rest
  let (time, rest) ← timeOfDay? rest
  let (offset, rest) ← offset? rest
  let nanoseconds := (date.toDays * 86400 - offset) * 1000000000 + time
  let seconds := nanoseconds.tdiv 1000000000
  if Annotation.areWellFormed rest ∧ secondRange.1 ≤ seconds ∧ seconds ≤ secondRange.2 then
    some ⟨nanoseconds⟩
  else none

/-- Reads a timestamp. -/
def ofJson? (v : Json) : Option Timestamp := v.text?.bind ofString?

/-- Writes a timestamp. -/
def toJson (t : Timestamp) : Json := .text (toString t)

end Timestamp

end Dataflow
