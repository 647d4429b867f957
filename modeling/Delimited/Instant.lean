import Delimited.Calendar.Time

/-!
# Instants

An instant is a point on the UTC time-line with nanosecond precision: a second counted from the
start of 1970, of any sign and size, and nanoseconds after it. Its nanoseconds since then are one
integer, on which adding and comparing are plain arithmetic. Instants of the years 1 to 9999 have
a UTC date and time.
-/

namespace Delimited

/-- A point on the UTC time-line. -/
structure Instant where
  /-- The seconds since the start of 1970. -/
  second : Int
  /-- The nanoseconds after that second. -/
  nano : Nat
  /-- The nanoseconds are less than a second. -/
  nano_lt : nano < 1000000000
  deriving DecidableEq

namespace Instant

/-- The nanoseconds of a second. -/
def nanosPerSecond : Int := 1000000000

/-- The seconds of a day. -/
def secondsPerDay : Int := 86400

/-- The day number of 1 January 1970. -/
def epochDay : Int := 719162

/-- The nanoseconds since the start of 1970. -/
def total (i : Instant) : Int := i.second * nanosPerSecond + i.nano

/-- The instant that many nanoseconds after a second; the adjustment may be negative, or longer
than a second. -/
def atSecond (second adjustment : Int) : Instant where
  second := second + adjustment.fdiv nanosPerSecond
  nano := (adjustment.fmod nanosPerSecond).toNat
  nano_lt := by
    have h := Int.fmod_lt_of_pos adjustment (show 0 < nanosPerSecond by decide)
    have : nanosPerSecond = 1000000000 := rfl
    omega

/-- The instant that many milliseconds after the start of 1970. -/
def atMilli (millis : Int) : Instant :=
  atSecond (millis.fdiv 1000) (millis.fmod 1000 * 1000000)

/-- The instant that many nanoseconds later. -/
def later (i : Instant) (nanos : Int) : Instant := atSecond i.second (i.nano + nanos)

/-- The order in time: by second, then by nanosecond. -/
def order (a b : Instant) : Ordering :=
  (compare a.second b.second).then (compare a.nano b.nano)

/-- The span from the start of 1970 in UTC to a local date and time at an offset from UTC. -/
def sinceEpoch (t : DateTime) (offset : ZoneOffset) : TimeSpan :=
  (TimeSpan.of (t.date.dayNumber - epochDay) t.time.secondOfDay t.time.microsecond).sub
    (.of 0 0 offset)

/-- The instant of a local date and time at an offset from UTC. -/
def ofDateTime (t : DateTime) (offset : ZoneOffset) : Instant where
  second := (sinceEpoch t offset).days * secondsPerDay + (sinceEpoch t offset).seconds
  nano := (sinceEpoch t offset).microseconds * 1000
  nano_lt := by
    have := (sinceEpoch t offset).microseconds_lt
    omega

/-- The UTC date and time, nanoseconds cut to microseconds, if the year is in range. -/
def utc? (i : Instant) : Option DateTime :=
  (Date.ofDayNumber? (i.second.fdiv secondsPerDay + epochDay)).map fun date =>
    ⟨date, .ofSecondOfDay (i.second.fmod secondsPerDay).toNat (i.nano / 1000)⟩

end Instant

end Delimited
