/-!
# Points in time

An instant is a number of milliseconds since the start of 1970 in universal time. The file
turns a civil date into an instant and back, in the Gregorian calendar without leap seconds,
and writes the two texts in which an instant is shown.
-/

namespace ComposeLint

/-- Milliseconds since the start of 1970. -/
structure Instant where
  milliseconds : Int
  deriving DecidableEq, Repr

namespace Instant

/-- The days from the start of 1970 to the given day of the civil calendar. The day and the month
may lie outside their usual ranges; years begin in March for the count. -/
def daysFromCivil (year month day : Int) : Int :=
  let months := year * 12 + (month - 1) - 2
  let y := months.fdiv 12
  let m := months.fmod 12
  let era := y.fdiv 400
  let yearOfEra := y - era * 400
  let dayOfYear := (153 * m + 2) / 5
  let dayOfEra := yearOfEra * 365 + yearOfEra / 4 - yearOfEra / 100 + dayOfYear
  era * 146097 + dayOfEra - 719468 + (day - 1)

/-- The year, month and day of a count of days since the start of 1970. -/
def civilFromDays (days : Int) : Int × Int × Int :=
  let z := days + 719468
  let era := z.fdiv 146097
  let dayOfEra := z - era * 146097
  let yearOfEra := (dayOfEra - dayOfEra / 1460 + dayOfEra / 36524 - dayOfEra / 146096) / 365
  let dayOfYear := dayOfEra - (365 * yearOfEra + yearOfEra / 4 - yearOfEra / 100)
  let m := (5 * dayOfYear + 2) / 153
  let day := dayOfYear - (153 * m + 2) / 5 + 1
  let month := if m < 10 then m + 3 else m - 9
  (yearOfEra + era * 400 + (if month ≤ 2 then 1 else 0), month, day)

/-- The instant of a civil date and a time of day. A year below 100 counts from 1900. -/
def ofCivil (year month day hour minute second millisecond : Int) : Instant :=
  let year := if 0 ≤ year ∧ year ≤ 99 then year + 1900 else year
  let days := daysFromCivil year month day
  ⟨(((days * 24 + hour) * 60 + minute) * 60 + second) * 1000 + millisecond⟩

/-- The natural number in decimal digits, with zeros in front up to `width`. -/
def padded (width n : Nat) : String :=
  let digits := Nat.toDigits 10 n
  String.ofList (List.replicate (width - digits.length) '0' ++ digits)

/-- The parts of an instant: days since the start of 1970 and milliseconds of the day. -/
def parts (t : Instant) : Int × Nat :=
  (t.milliseconds.fdiv 86400000, (t.milliseconds.fmod 86400000).toNat)

/-- The time of day as hours, minutes and seconds. -/
def clockText (ofDay : Nat) : String :=
  padded 2 (ofDay / 3600000) ++ ":" ++ padded 2 (ofDay / 60000 % 60) ++ ":" ++
    padded 2 (ofDay / 1000 % 60)

/-- The sortable text: `2024-01-02T03:04:05.006Z`. A year outside four digits has a sign and
six digits. -/
def isoText (t : Instant) : String :=
  let (days, ofDay) := t.parts
  let (year, month, day) := civilFromDays days
  let yearText :=
    if 0 ≤ year ∧ year ≤ 9999 then padded 4 year.toNat
    else (if year < 0 then "-" else "+") ++ padded 6 year.natAbs
  yearText ++ "-" ++ padded 2 month.toNat ++ "-" ++ padded 2 day.toNat ++ "T" ++
    clockText ofDay ++ "." ++ padded 3 (ofDay % 1000) ++ "Z"

/-- Names of the days of the week, from Thursday, the first day of 1970. -/
def dayNames : List String := ["Thu", "Fri", "Sat", "Sun", "Mon", "Tue", "Wed"]

/-- Names of the months. -/
def monthNames : List String :=
  ["Jan", "Feb", "Mar", "Apr", "May", "Jun", "Jul", "Aug", "Sep", "Oct", "Nov", "Dec"]

/-- The long text: `Tue Jan 02 2024 03:04:05 GMT+0000 (Coordinated Universal Time)`. -/
def longText (t : Instant) : String :=
  let (days, ofDay) := t.parts
  let (year, month, day) := civilFromDays days
  let yearText := (if year < 0 then "-" else "") ++ padded (if year < 0 then 6 else 4) year.natAbs
  dayNames.getD (days.fmod 7).toNat "" ++ " " ++ monthNames.getD (month.toNat - 1) "" ++ " " ++
    padded 2 day.toNat ++ " " ++ yearText ++ " " ++ clockText ofDay ++
    " GMT+0000 (Coordinated Universal Time)"

end Instant
end ComposeLint
