import Delimited.Failure
import Delimited.Number.Digits

/-!
# Civil dates

Dates of the proleptic Gregorian calendar, years 1 to 9999, and their numbering by days. The day
number of a date is the number of days from 1 January of year 1 to it.
-/

namespace Delimited

/-- Why numbers are no date or no time of day. -/
inductive CalendarFault where
  /-- The year is not in 1 to 9999. -/
  | year (year : Nat)
  /-- There is no such month. -/
  | month
  /-- The month has no such day. -/
  | day
  /-- There is no such hour. -/
  | hour
  /-- There is no such minute. -/
  | minute
  /-- There is no such second. -/
  | second

/-- The class of a calendar fault. -/
def CalendarFault.errorClass (_ : CalendarFault) : ErrorClass := .value

/-- The wording of a calendar fault. -/
def CalendarFault.message : CalendarFault → Text
  | .year y => ("year " : Text) ++ Digits.ofNat y ++ (" is out of range" : Text)
  | .month => "month must be in 1..12"
  | .day => "day is out of range for month"
  | .hour => "hour must be in 0..23"
  | .minute => "minute must be in 0..59"
  | .second => "second must be in 0..59"

/-- The failure to make a date or a time of day. -/
def CalendarFault.failure (f : CalendarFault) : Failure := ⟨f.errorClass, some f.message, none⟩

namespace Calendar

/-- The last year that has dates. -/
def maxYear : Nat := 9999

/-- Leap years are the multiples of four, of the multiples of hundred those of four hundred. -/
def isLeap (year : Nat) : Bool := year % 4 == 0 && (year % 100 != 0 || year % 400 == 0)

/-- How many days a month has; zero if there is no such month. -/
def daysInMonth (year : Nat) : Nat → Nat
  | 1 | 3 | 5 | 7 | 8 | 10 | 12 => 31
  | 4 | 6 | 9 | 11 => 30
  | 2 => if isLeap year then 29 else 28
  | _ => 0

/-- How many days the first `years` years have. -/
def daysInYears (years : Nat) : Nat := 365 * years + years / 4 - years / 100 + years / 400

/-- How many days of the year come before a month. -/
def daysBeforeMonth (year : Nat) : Nat → Nat
  | 0 => 0
  | m + 1 => daysBeforeMonth year m + daysInMonth year m

/-- How many whole years lie before the day of the given number. The quotient by the mean length
of a year is off by at most one. -/
def yearsBefore (day : Nat) : Nat :=
  -- Four hundred years have 146097 days.
  let guess := day * 400 / 146097
  if day < daysInYears guess then guess - 1
  else if day < daysInYears (guess + 1) then guess
  else guess + 1

/-- The month and day of month of the day that follows the first `day` days of the year, looking
at `count` months from `month` on. -/
def monthAndDay (year : Nat) : (count month day : Nat) → Nat × Nat
  | 0, month, day => (month, day + 1)
  | count + 1, month, day =>
    if day < daysInMonth year month then (month, day + 1)
    else monthAndDay year count (month + 1) (day - daysInMonth year month)

end Calendar

/-- A date of the proleptic Gregorian calendar. -/
structure Date where
  /-- The year, from 1 to 9999. -/
  year : Nat
  /-- The month, from 1 to 12. -/
  month : Nat
  /-- The day of the month. -/
  day : Nat
  /-- There is such a year. -/
  year_valid : 1 ≤ year ∧ year ≤ Calendar.maxYear
  /-- There is such a month. -/
  month_valid : 1 ≤ month ∧ month ≤ 12
  /-- The month has such a day. -/
  day_valid : 1 ≤ day ∧ day ≤ Calendar.daysInMonth year month
  deriving DecidableEq

namespace Date

/-- The date with these numbers. The year is looked at first and the day last. -/
def of (year month day : Nat) : Except CalendarFault Date :=
  if hy : 1 ≤ year ∧ year ≤ Calendar.maxYear then
    if hm : 1 ≤ month ∧ month ≤ 12 then
      if hd : 1 ≤ day ∧ day ≤ Calendar.daysInMonth year month then
        .ok ⟨year, month, day, hy, hm, hd⟩
      else .error .day
    else .error .month
  else .error (.year year)

/-- The days from 1 January of year 1 to the date. -/
def dayNumber (d : Date) : Nat :=
  Calendar.daysInYears (d.year - 1) + Calendar.daysBeforeMonth d.year d.month + (d.day - 1)

/-- The date of a day number, if its year is in range. -/
def ofDayNumber? (day : Int) : Option Date :=
  if day < 0 then none
  else
    let years := Calendar.yearsBefore day.toNat
    let (month, dayOfMonth) :=
      Calendar.monthAndDay (years + 1) 12 1 (day.toNat - Calendar.daysInYears years)
    (Date.of (years + 1) month dayOfMonth).toOption

/-- The date as `YYYY-MM-DD`. -/
def text (d : Date) : Text :=
  Digits.fixed 4 d.year ++ .ofChar '-' :: (Digits.fixed 2 d.month
    ++ .ofChar '-' :: Digits.fixed 2 d.day)

end Date

end Delimited
