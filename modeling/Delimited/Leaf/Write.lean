import Delimited.Base64
import Delimited.ColumnType
import Delimited.Leaf.Error
import Delimited.Leaf.Read

/-!
# Writing leaves

Each leaf type writes the values of its kind in one form, which it also reads. Truth values do not
count as integers, nor date-times as dates.
-/

namespace Delimited

namespace LeafType

/-- The refusal of a value of the wrong kind. -/
def wrongKind {α : Type} (wanted : String) (v : Value) : Except WriteError α :=
  .error (.refused (.kind wanted v.kindName))

/-- Writes an integer within the digit limit. -/
def writeInt (i : Int) : Except WriteError Text :=
  (Integer.write i).mapError fun e => .refused (.excess e)

/-- Writes an integer of a range. -/
def writeRanged (range : IntRange) (i : Int) : Except WriteError Text := do
  -- An integer over the digit limit is out of any range, but the limit is what is reported.
  let shown ← writeInt i
  if range.has i then return shown else throw (.refused (.outOfRange range shown))

/-- Writes a floating-point number. -/
def writeFloat (x : Binary64) : Text := x.text nanName infinityName

/-- Writes an integer as the nearest floating-point number, if there is one. -/
def writeFloatOfInt (i : Int) : Except WriteError Text :=
  (Binary64.ofInt? i).elim (.error .overflow) fun x => .ok (writeFloat x)

/-- Writes a decimal number in plain digits. -/
def writeDecimal (d : Decimal) : Except WriteError Text :=
  match d.plain? with
  | some t => .ok t
  | none => .error (.refused (.notFinite d))

/-- Writes a date and time, with the given text for a fraction of zero. -/
def writeDateTime (zeroFraction : Text) (t : DateTime) : Text :=
  t.date.text ++ .ofChar ' ' :: (t.time.text
    ++ if t.time.microsecond = 0 then zeroFraction else fractionText (t.time.microsecond * 1000))

/-- Writes an instant, whose UTC year has to be in range. -/
def writeInstant (i : Instant) : Except WriteError Text :=
  match i.utc? with
  | some t =>
    .ok (t.date.text ++ .ofChar ' ' :: (t.time.text ++ fractionText i.nano ++ [.ofChar 'Z']))
  | none => .error .overflow

/-- Writes a leaf. -/
def write (type : LeafType) (v : Value) : Except WriteError Text :=
  match type with
  | null =>
    match v with
    | .null => .ok []
    | v => .error (.refused (.notNull v.kindName))
  | boolean =>
    match v with
    | .bool b => .ok (if b then "true" else "false")
    | v => wrongKind "bool" v
  | byte => writeIn .byte v
  | short => writeIn .short v
  | int => writeIn .int v
  | long => writeIn .long v
  | float | double =>
    match v with
    | .float x => .ok (writeFloat x)
    | .int i => writeFloatOfInt i
    | v => wrongKind "float" v
  | decimal =>
    match v with
    | .decimal d => writeDecimal d
    | .int i => writeInt i
    | v => wrongKind "Decimal" v
  | bigInt =>
    match v with
    | .int i => writeInt i
    | v => wrongKind "int" v
  | string =>
    match v with
    | .text t => .ok t
    | v => wrongKind "str" v
  | date | localDate =>
    match v with
    | .date d => .ok d.text
    | v => wrongKind "date" v
  | time =>
    match v with
    | .time t _ => .ok t.text
    | v => wrongKind "time" v
  | localTime =>
    match v with
    | .time t _ => .ok (t.text ++ fractionText (t.microsecond * 1000))
    | v => wrongKind "time" v
  | timestamp => writeNaive ".0" v
  | localDateTime => writeNaive [] v
  | instant =>
    match v with
    | .instant i => writeInstant i
    | .dateTime t (some offset) => writeInstant (Instant.ofDateTime t offset)
    | .dateTime _ none => .error (.refused .zoneMissing)
    | v => wrongKind "Instant" v
  | byteArray =>
    match v with
    | .bytes .fixed b | .bytes .buffer b => .ok (Base64.encode b)
    | v => wrongKind "bytes" v
where
  /-- Writes an integer value of a range. -/
  writeIn (range : IntRange) : Value → Except WriteError Text
    | .int i => writeRanged range i
    | v => wrongKind "int" v
  /-- Writes a date and time without an offset. -/
  writeNaive (zeroFraction : Text) : Value → Except WriteError Text
    | .dateTime t none => .ok (writeDateTime zeroFraction t)
    | .dateTime _ (some _) => .error (.refused .zoned)
    | v => wrongKind "datetime" v

end LeafType

end Delimited
