/-!
# Timestamps

Instants in universal time, by their date in the Gregorian calendar and the time of day to the
nanosecond. A second may be a leap second, the sixtieth of its minute.
-/

namespace Underwriting

namespace Calendar

/-- A year with a 29th of February. -/
def isLeapYear (year : Int) : Bool :=
  year % 4 == 0 && (year % 100 != 0 || year % 400 == 0)

/-- The number of days in a month. -/
def daysInMonth (year : Int) (month : Nat) : Nat :=
  if month = 2 then if isLeapYear year then 29 else 28
  else if month = 4 ∨ month = 6 ∨ month = 9 ∨ month = 11 then 30
  else 31

/-- The first and the last year that are supported. -/
def firstYear : Int := -262143

/-- The last year that is supported. -/
def lastYear : Int := 262142

/-- A date that exists. -/
def isDate (year : Int) (month day : Nat) : Bool :=
  firstYear ≤ year && year ≤ lastYear && 1 ≤ month && month ≤ 12 && 1 ≤ day &&
    day ≤ daysInMonth year month

/-- A time of day that exists. -/
def isTime (hour minute second nanosecond : Nat) : Bool :=
  hour ≤ 23 && minute ≤ 59 && second ≤ 60 && nanosecond < 1000000000

/-- The day after a date. -/
def nextDay (year : Int) (month day : Nat) : Int × Nat × Nat :=
  if day < daysInMonth year month then (year, month, day + 1)
  else if month < 12 then (year, month + 1, 1)
  else (year + 1, 1, 1)

/-- The day before a date. -/
def previousDay (year : Int) (month day : Nat) : Int × Nat × Nat :=
  if 1 < day then (year, month, day - 1)
  else if 1 < month then (year, month - 1, daysInMonth year (month - 1))
  else (year - 1, 12, 31)

end Calendar

/-- An instant in universal time. -/
structure Timestamp where
  year : Int
  month : Nat
  day : Nat
  hour : Nat
  minute : Nat
  second : Nat
  nanosecond : Nat
  isDate : Calendar.isDate year month day
  isTime : Calendar.isTime hour minute second nanosecond
deriving DecidableEq

namespace Timestamp

/-- The start of the year 1970. -/
def epoch : Timestamp := ⟨1970, 1, 1, 0, 0, 0, 0, by decide, by decide⟩

instance : Inhabited Timestamp := ⟨epoch⟩

/-- The instant of a local time, given by its date and time of day, at which clocks are ahead of
universal time by so many minutes, less than a day; nothing if there is no such time. -/
def ofLocal? (year : Int) (month day hour minute second nanosecond : Nat) (ahead : Int) :
    Option Timestamp :=
  if Calendar.isDate year month day ∧ Calendar.isTime hour minute second nanosecond then
    let total : Int := (hour * 60 + minute : Nat) - ahead
    let (year, month, day) :=
      if total < 0 then Calendar.previousDay year month day
      else if total < 1440 then (year, month, day)
      else Calendar.nextDay year month day
    let minuteOfDay := (total % 1440).toNat
    if isDate : Calendar.isDate year month day then
      if isTime : Calendar.isTime (minuteOfDay / 60) (minuteOfDay % 60) second nanosecond then
        some ⟨year, month, day, minuteOfDay / 60, minuteOfDay % 60, second, nanosecond, isDate,
          isTime⟩
      else none
    else none
  else none

end Timestamp

end Underwriting
