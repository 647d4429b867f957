import Delimited.Calendar.Date

/-!
# Times of day

A time of day has microseconds; a date-time is a date and a time of day. Either may come with an
offset from UTC, which is kept beside it. Offsets and the distance of two date-times are spans of
time, exact to the microsecond.
-/

namespace Delimited

/-- A time of day. -/
structure TimeOfDay where
  /-- The hour, from 0 to 23. -/
  hour : Nat
  /-- The minute, from 0 to 59. -/
  minute : Nat
  /-- The second, from 0 to 59. -/
  second : Nat
  /-- The millionths of the second. -/
  microsecond : Nat
  /-- There is such an hour. -/
  hour_valid : hour < 24
  /-- There is such a minute. -/
  minute_valid : minute < 60
  /-- There is such a second. -/
  second_valid : second < 60
  /-- The fraction is less than a second. -/
  microsecond_valid : microsecond < 1000000
  deriving DecidableEq

namespace TimeOfDay

/-- The time of day with these numbers, the hour looked at first; the fraction is taken modulo a
second. -/
def of (hour minute second microsecond : Nat) : Except CalendarFault TimeOfDay :=
  if hh : hour < 24 then
    if hm : minute < 60 then
      if hs : second < 60 then
        .ok ⟨hour, minute, second, microsecond % 1000000, hh, hm, hs, Nat.mod_lt _ (by decide)⟩
      else .error .second
    else .error .minute
  else .error .hour

/-- The whole seconds since midnight. -/
def secondOfDay (t : TimeOfDay) : Nat := t.hour * 3600 + t.minute * 60 + t.second

/-- The time of day that many seconds after midnight, days left out, and the fraction. -/
def ofSecondOfDay (second microsecond : Nat) : TimeOfDay where
  hour := second / 3600 % 24
  minute := second / 60 % 60
  second := second % 60
  microsecond := microsecond % 1000000
  hour_valid := Nat.mod_lt _ (by decide)
  minute_valid := Nat.mod_lt _ (by decide)
  second_valid := Nat.mod_lt _ (by decide)
  microsecond_valid := Nat.mod_lt _ (by decide)

/-- The time as `HH:MM:SS`, the fraction left out. -/
def text (t : TimeOfDay) : Text :=
  Digits.fixed 2 t.hour ++ .ofChar ':' :: (Digits.fixed 2 t.minute
    ++ .ofChar ':' :: Digits.fixed 2 t.second)

end TimeOfDay

/-- A date and a time of day. -/
structure DateTime where
  /-- The date. -/
  date : Date
  /-- The time of day. -/
  time : TimeOfDay
  deriving DecidableEq

/-- The offset of a local time from UTC, in microseconds; less than a day either way. -/
abbrev ZoneOffset := Int

/-- A span of time. Only its days may be negative, so that each span is written in one way. -/
structure TimeSpan where
  /-- The days. -/
  days : Int
  /-- The seconds after the days. -/
  seconds : Nat
  /-- The millionths of a second after the seconds. -/
  microseconds : Nat
  /-- The seconds are less than a day. -/
  seconds_lt : seconds < 86400
  /-- The fraction is less than a second. -/
  microseconds_lt : microseconds < 1000000
  deriving DecidableEq

namespace TimeSpan

/-- The span of days, seconds and microseconds of any size. The microseconds are carried into the
seconds, and then the seconds into the days; what is negative borrows from there. -/
def of (days seconds microseconds : Int) : TimeSpan where
  days := days + (seconds + microseconds.fdiv 1000000).fdiv 86400
  seconds := ((seconds + microseconds.fdiv 1000000).fmod 86400).toNat
  microseconds := (microseconds.fmod 1000000).toNat
  seconds_lt := by
    have h := Int.fmod_lt_of_pos (seconds + microseconds.fdiv 1000000) (show 0 < 86400 by decide)
    omega
  microseconds_lt := by
    have h := Int.fmod_lt_of_pos microseconds (show 0 < 1000000 by decide)
    omega

/-- The span less another one. -/
def sub (a b : TimeSpan) : TimeSpan :=
  of (a.days - b.days) (a.seconds - b.seconds) (a.microseconds - b.microseconds)

end TimeSpan

/-- Nanoseconds as decimal digits behind a point, without trailing zeros; no text for zero. -/
def fractionText (nanos : Nat) : Text :=
  if nanos = 0 then [] else .ofChar '.' :: Digits.trimZeros (Digits.fixed 9 nanos)

end Delimited
