import Delimited.Signature
import Delimited.Value.Literal
import Delimited.Value.Sum

/-!
# Instants from values

An instant may be made from values that have yet to be checked: the second and the nanosecond have
to be integers, a date-time has to have an offset. Adjustments are carried into the second before
the check, so that a truth value counts as an integer there, and so that values which cannot be
added or divided are refused as such.
-/

namespace Delimited

/-- Why values make no instant, or cannot be compared with one. -/
inductive InstantError where
  /-- The second is no integer. -/
  | secondKind (given : String)
  /-- The nanosecond is no integer. -/
  | nanoKind (given : String)
  /-- The nanosecond shown is not within a second. -/
  | nanoRange (shown : Text)
  /-- The nanosecond has too many digits to be shown. -/
  | excess (e : DigitExcess)
  /-- The values cannot be added or divided. -/
  | operands (e : OperandError)
  /-- The date-time has no offset from UTC. -/
  | zoneMissing
  /-- Values of that kind have no offset at all. -/
  | zoneless (given : String)
  /-- A value of that kind is neither before nor after an instant. -/
  | order (given : String)

/-- The wording of an instant error; an overflow has none. -/
def InstantError.message? : InstantError → Option Text
  | secondKind given => some (("epoch_second must be int, got " : Text) ++ Text.ofString given)
  | nanoKind given => some (("nano must be int, got " : Text) ++ Text.ofString given)
  | nanoRange shown => some (("nano out of range: " : Text) ++ shown)
  | excess e => some e.message
  | operands e => e.message?
  | zoneMissing => some "Instant requires a timezone-aware datetime"
  | zoneless given =>
    some (("'" : Text) ++ Text.ofString given ++ ("' object has no attribute 'tzinfo'" : Text))
  | order given =>
    some (("'<' not supported between instances of 'Instant' and '" : Text)
      ++ Text.ofString given ++ ("'" : Text))

/-- The class of an instant error. -/
def InstantError.errorClass : InstantError → ErrorClass
  | secondKind _ | nanoKind _ | order _ => .type
  | nanoRange _ | zoneMissing => .value
  | excess e => e.errorClass
  | operands e => e.errorClass
  | zoneless _ => .absentPart

/-- The failure to make or compare an instant. -/
def InstantError.failure (e : InstantError) : Failure := ⟨e.errorClass, e.message?, none⟩

namespace Instant

/-- The instant of a second and a nanosecond after it. -/
def ofValues (second nano : Value) : Except InstantError Instant :=
  match second, nano with
  | .int second, .int nano =>
    if h : 0 ≤ nano ∧ nano < 1000000000 then
      .ok ⟨second, nano.toNat, by omega⟩
    else
      match Integer.write nano with
      | .ok shown => .error (.nanoRange shown)
      | .error e => .error (.excess e)
  | .int _, nano => .error (.nanoKind nano.kindName)
  | second, _ => .error (.secondKind second.kindName)

/-- The instant some nanoseconds after a second. -/
def ofAdjusted (second adjustment : Value) : Except InstantError Instant :=
  match second.integer?, adjustment.integer? with
  | some second, some adjustment => .ok (atSecond second adjustment)
  | _, _ => do
    let carried ← (adjustment.quotient 9).mapError .operands
    let total ← (second.sum carried).mapError .operands
    throw (.secondKind total.kindName)

/-- The instant some milliseconds after the start of 1970. -/
def ofMillis (millis : Value) : Except InstantError Instant :=
  match millis.integer? with
  | some millis => .ok (atMilli millis)
  | none => do
    let second ← (millis.quotient 3).mapError .operands
    throw (.secondKind second.kindName)

/-- The instant some nanoseconds later. -/
def laterBy (i : Instant) (nanos : Value) : Except InstantError Instant := do
  let adjustment ← ((Value.int i.nano).sum nanos).mapError .operands
  ofAdjusted (.int i.second) adjustment

/-- The instant of a date and time with an offset. -/
def ofZoned (v : Value) : Except InstantError Instant :=
  match v with
  | .dateTime t (some offset) => .ok (ofDateTime t offset)
  | .dateTime _ none | .time _ none => .error .zoneMissing
  | .time _ (some _) =>
    -- A time of day has an offset, but no distance from the start of 1970.
    .error (.operands (.unsupported "-" v.qualifiedKindName "datetime.datetime"))
  | v => .error (.zoneless v.qualifiedKindName)

/-- The order of an instant and a value that has to be one. -/
def orderTo (i : Instant) (v : Value) : Except InstantError Ordering :=
  match v with
  | .instant other => .ok (i.order other)
  | v => .error (.order v.qualifiedKindName)

/-- The arguments of the operations that make instants, by the name of the operation. -/
def signature? : String → Option Signature
  | "new" => some ⟨"Instant.__init__()", some "epoch_second", 1⟩
  | "of_epoch_second" => some ⟨"Instant.of_epoch_second()", some "seconds", 1⟩
  | "of_epoch_milli" => some ⟨"Instant.of_epoch_milli()", some "millis", 0⟩
  | "from_datetime" => some ⟨"Instant.from_datetime()", some "dt", 0⟩
  | "plus_nanos" => some ⟨"Instant.plus_nanos()", some "nanos", 0⟩
  | _ => none

end Instant

end Delimited
