import Delimited.Calendar.Time
import Delimited.Instant

/-!
# Written dates and times

The texts of dates and times have fields of fixed width: `YYYY-MM-DD`, `HH:MM:SS`, both with a
blank or a `T` between them, and perhaps a fraction of one to nine digits. A pattern reads the
numbers; whether they are a date or a time of day is another question.
-/

namespace Delimited

namespace Pattern

/-- The number written with exactly `width` digits at the start, and what follows. -/
def number? (width : Nat) (t : Text) : Option (Nat × Text) :=
  let digits := t.take width
  if digits.length = width && digits.all CodePoint.isDigit then
    some (Digits.value digits, t.drop width)
  else none

/-- What follows the given character, which has to stand first. -/
def sign? (c : CodePoint) : Text → Option Text
  | [] => none
  | d :: rest => if d = c then some rest else none

/-- The numbers of a written date. -/
structure DateFields where
  /-- The year. -/
  year : Nat
  /-- The month. -/
  month : Nat
  /-- The day. -/
  day : Nat

/-- The numbers of a written time of day. -/
structure TimeFields where
  /-- The hour. -/
  hour : Nat
  /-- The minute. -/
  minute : Nat
  /-- The second. -/
  second : Nat
  /-- The fraction in nanoseconds. -/
  nano : Nat

/-- Reads `YYYY-MM-DD` at the start. -/
def date? (t : Text) : Option (DateFields × Text) := do
  let (year, t) ← number? 4 t
  let (month, t) ← number? 2 (← sign? (.ofChar '-') t)
  let (day, t) ← number? 2 (← sign? (.ofChar '-') t)
  return (⟨year, month, day⟩, t)

/-- Reads `HH:MM` at the start. -/
def hourMinute? (t : Text) : Option ((Nat × Nat) × Text) := do
  let (hour, t) ← number? 2 t
  let (minute, t) ← number? 2 (← sign? (.ofChar ':') t)
  return ((hour, minute), t)

/-- Reads `HH:MM:SS` at the start. -/
def clock? (t : Text) : Option (TimeFields × Text) := do
  let ((hour, minute), t) ← hourMinute? t
  let (second, t) ← number? 2 (← sign? (.ofChar ':') t)
  return (⟨hour, minute, second, 0⟩, t)

/-- Reads a fraction of one to nine digits behind a point at the start, if there is a point: its
nanoseconds, zero without one. -/
def fraction? (t : Text) : Option (Nat × Text) :=
  match sign? (.ofChar '.') t with
  | none => some (0, t)
  | some t =>
    let (digits, rest) := Digits.span t
    if 1 ≤ digits.length && digits.length ≤ 9 then
      some (Digits.value (Digits.padRight 9 digits), rest)
    else none

/-- Reads `HH:MM:SS` and perhaps a fraction at the start. -/
def clockWithFraction? (t : Text) : Option (TimeFields × Text) := do
  let (fields, t) ← clock? t
  let (nano, t) ← fraction? t
  return ({ fields with nano }, t)

/-- Reads a date and a time with a blank or a `T` between them at the start. -/
def dateTime? (t : Text) : Option ((DateFields × TimeFields) × Text) := do
  let (date, t) ← date? t
  let t ← sign? (.ofChar ' ') t <|> sign? (.ofChar 'T') t
  let (time, t) ← clockWithFraction? t
  return ((date, time), t)

/-- Reads a time with or without seconds and fraction at the start. -/
def localTime? (t : Text) : Option (TimeFields × Text) := do
  let ((hour, minute), rest) ← hourMinute? t
  match sign? (.ofChar ':') rest with
  | none => return (⟨hour, minute, 0, 0⟩, rest)
  | some _ => clockWithFraction? t

/-- What a pattern reads, if it reads the whole text. -/
def whole? {α : Type} (pattern : Text → Option (α × Text)) (t : Text) : Option α := do
  let (a, rest) ← pattern t
  if rest.isEmpty then some a else none

/-- A pattern followed by the sign of UTC. -/
def utc? {α : Type} (pattern : Text → Option (α × Text)) (t : Text) : Option (α × Text) := do
  let (a, rest) ← pattern t
  return (a, ← sign? (.ofChar 'Z') rest)

namespace DateFields

/-- The date with these numbers. -/
def toDate (f : DateFields) : Except CalendarFault Date := Date.of f.year f.month f.day

end DateFields

namespace TimeFields

/-- The time of day with these numbers, cut to microseconds. -/
def toTimeOfDay (f : TimeFields) : Except CalendarFault TimeOfDay :=
  TimeOfDay.of f.hour f.minute f.second (f.nano / 1000)

end TimeFields

/-- The date and time with these numbers, cut to microseconds. -/
def dateTime (date : DateFields) (time : TimeFields) : Except CalendarFault DateTime := do
  return ⟨← date.toDate, ← time.toTimeOfDay⟩

/-- The instant of these numbers in UTC. -/
def instant (date : DateFields) (time : TimeFields) : Except CalendarFault Instant := do
  let second ← dateTime date { time with nano := 0 }
  return (Instant.ofDateTime second 0).later time.nano

end Pattern

end Delimited
