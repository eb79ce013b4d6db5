/-
This file writes moments of the proleptic Gregorian calendar, given in
milliseconds from the start of 1970. Years are counted from March, so that the
leap day ends a year and months have a regular rhythm.
-/

namespace ScriptBridge.Calendar

/-- A moment: milliseconds from the start of 1970, in universal time. -/
abbrev Moment := Int

/-- A day of the calendar. -/
structure Day where
  year : Int
  month : Nat
  day : Nat
  deriving DecidableEq, Repr

/-- The day that lies a number of days after the first of January 1970. -/
def Day.ofEpochDays (days : Int) : Day :=
  let shifted := days + 719468
  let era := shifted.fdiv 146097
  let dayOfEra := (shifted - era * 146097).toNat
  let yearOfEra := (dayOfEra - dayOfEra / 1460 + dayOfEra / 36524 - dayOfEra / 146096) / 365
  let dayOfYear := dayOfEra - (365 * yearOfEra + yearOfEra / 4 - yearOfEra / 100)
  let marchMonth := (5 * dayOfYear + 2) / 153
  let month := if marchMonth < 10 then marchMonth + 3 else marchMonth - 9
  let year := (yearOfEra : Int) + era * 400 + (if month ≤ 2 then 1 else 0)
  ⟨year, month, dayOfYear - (153 * marchMonth + 2) / 5 + 1⟩

/-- The milliseconds of a day. -/
def dayLength : Int := 86400000

/-- Can the calendar write the moment? Its years run from -262143 to 262142. -/
def isRepresentable (moment : Moment) : Bool :=
  let year := (Day.ofEpochDays (moment.fdiv dayLength)).year
  year ≤ 262142 && -262143 ≤ year

/-- A number with leading zeros up to a width. -/
def padded (width value : Nat) : String :=
  let digits := Nat.toDigits 10 value
  String.ofList (List.replicate (width - digits.length) '0' ++ digits)

/-- A year of four digits, with a sign outside 0 to 9999. -/
def yearText (year : Int) : String :=
  if 0 ≤ year && year ≤ 9999 then padded 4 year.toNat
  else (if year < 0 then "-" else "+") ++ padded 4 year.natAbs

/-- Date and time of day, with milliseconds only where there are some. -/
def momentText (moment : Moment) : String :=
  let date := Day.ofEpochDays (moment.fdiv dayLength)
  let rest := (moment - moment.fdiv dayLength * dayLength).toNat
  let millis := rest % 1000
  let seconds := rest / 1000
  yearText date.year ++ "-" ++ padded 2 date.month ++ "-" ++ padded 2 date.day ++ "T" ++
    padded 2 (seconds / 3600) ++ ":" ++ padded 2 (seconds / 60 % 60) ++ ":" ++
    padded 2 (seconds % 60) ++ (if millis == 0 then "" else "." ++ padded 3 millis)

/-- The text of a moment with its offset from universal time in full. -/
def offsetText (moment : Moment) : String := momentText moment ++ "+00:00"

/-- The text of a moment with the offset abbreviated. -/
def zuluText (moment : Moment) : String := momentText moment ++ "Z"

end ScriptBridge.Calendar
