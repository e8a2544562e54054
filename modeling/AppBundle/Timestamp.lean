import AppBundle.Text.Numeral

/-!
# Points in time

A point in time is a number of milliseconds since the start of 1970. It is written as a date and
time of day at offset zero, in the proleptic Gregorian calendar; years outside the four digits carry
a sign. Dates are limited to the years from -262143 to 262142. Lengths of time are counted in seconds
and nanoseconds.
-/

namespace AppBundle

/-- A point in time. -/
structure Timestamp where
  /-- Milliseconds since the start of 1970. -/
  millis : Int
  deriving Repr, DecidableEq

/-- A length of time. -/
structure Duration where
  /-- Its whole seconds. -/
  seconds : Nat
  /-- What is left of a second, in nanoseconds. -/
  nanos : Nat
  deriving Repr, DecidableEq

/-- The whole milliseconds of a length of time. -/
def Duration.millis (d : Duration) : Nat :=
  d.seconds * 1000 + d.nanos / 1000000

namespace Timestamp

/-- Milliseconds of a day. -/
def dayMillis : Int := 86400000

/-- The first point in time of the year -262143. -/
def earliest : Int := -8334601228800000

/-- The last point in time of the year 262142. -/
def latest : Int := 8210266876799999

/-- A point in time within the limits of the calendar. -/
def ofMillis? (millis : Int) : Option Timestamp :=
  if earliest ≤ millis ∧ millis ≤ latest then some ⟨millis⟩ else none

/-- Year, month and day of a day counted from the start of 1970. Years begin in March here, so that
the leap day ends a year, and 400 years make a cycle of 146097 days. -/
def civil (day : Int) : Int × Nat × Nat :=
  let z := day + 719468
  let era := z.fdiv 146097
  let dayOfEra := (z.fmod 146097).toNat
  let yearOfEra :=
    (dayOfEra - dayOfEra / 1460 + dayOfEra / 36524 - dayOfEra / 146096) / 365
  let dayOfYear := dayOfEra - (365 * yearOfEra + yearOfEra / 4 - yearOfEra / 100)
  let mp := (5 * dayOfYear + 2) / 153
  let d := dayOfYear - (153 * mp + 2) / 5 + 1
  let m := if mp < 10 then mp + 3 else mp - 9
  let y := era * 400 + yearOfEra + (if m ≤ 2 then 1 else 0)
  (y, m, d)

/-- A number with at least the given count of digits. -/
def padded (width n : Nat) : String :=
  let ds := Text.numeral n
  String.ofList (List.replicate (width - ds.length) '0' ++ ds)

/-- The text of a year: four digits, or a sign and at least four. -/
def yearText (y : Int) : String :=
  if 0 ≤ y ∧ y ≤ 9999 then padded 4 y.toNat
  else (if y < 0 then "-" else "+") ++ padded 4 y.natAbs

/-- The date and time of day; milliseconds are left out when there are none. -/
def text (t : Timestamp) : String :=
  let (y, m, d) := civil (t.millis.fdiv dayMillis)
  let ms := (t.millis.fmod dayMillis).toNat
  let fraction := if ms % 1000 = 0 then "" else "." ++ padded 3 (ms % 1000)
  yearText y ++ "-" ++ padded 2 m ++ "-" ++ padded 2 d ++ "T" ++ padded 2 (ms / 3600000) ++ ":"
    ++ padded 2 (ms / 60000 % 60) ++ ":" ++ padded 2 (ms / 1000 % 60) ++ fraction ++ "+00:00"

end Timestamp

end AppBundle
