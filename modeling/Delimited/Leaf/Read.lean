import Delimited.Base64
import Delimited.Calendar.Pattern
import Delimited.ColumnType
import Delimited.Leaf.Error

/-!
# Reading leaves

Each leaf type reads the texts of its form. The text is decoded already, and blanks around it are
taken off by the caller where they do not count.
-/

namespace Delimited

/-- The lower case of ASCII letters; no other character has one among the letters that the names
of truth values are made of. -/
def Text.lowerAscii (t : Text) : Text :=
  t.map fun c => if 0x41 ≤ c.val && c.val ≤ 0x5A then Fin.ofNat 0x110000 (c.val + 0x20) else c

namespace LeafType

/-- The result of a form, or the error that the text does not have it. -/
def expectForm {α : Type} (form : String) (t : Text) (read : Option α) : Except ReadError α :=
  match read with
  | some a => .ok a
  | none => .error (.malformed form t)

/-- Reads a truth value. -/
def readBool (t : Text) : Except ReadError Bool :=
  if t.lowerAscii = Text.ofString "true" then .ok true
  else if t.lowerAscii = Text.ofString "false" then .ok false
  else .error (.malformed "bool" t)

/-- Reads an integer; the form is named in messages. -/
def readInt (form : String) (t : Text) : Except ReadError Int := do
  let (negative, digits) ← expectForm form t (Integer.parse? t)
  (Integer.evaluate negative digits).mapError .excess

/-- Reads an integer of a range. -/
def readRanged (range : IntRange) (t : Text) : Except ReadError Int := do
  let i ← readInt range.name t
  if range.has i then return i else throw (.outOfRange range t)

/-- The name of a floating-point NaN in fields. -/
def nanName : String := "NaN"

/-- The name of a floating-point infinity in fields. -/
def infinityName : String := "Infinity"

/-- Reads a floating-point number. -/
def readFloat (t : Text) : Except ReadError Binary64 :=
  expectForm "float" t (Binary64.read? nanName infinityName t)

/-- Reads a decimal number. -/
def readDecimal (t : Text) : Except ReadError Decimal := do
  let numeral ← expectForm "decimal" t (Numeral.parse? t)
  match Decimal.ofNumeral? numeral with
  | some d => return d
  | none => throw .exponent

/-- Reads a date. -/
def readDate (t : Text) : Except ReadError Date := do
  let fields ← expectForm "date" t (Pattern.whole? Pattern.date? t)
  fields.toDate.mapError .calendar

/-- Reads a time of day to the second. -/
def readTime (t : Text) : Except ReadError TimeOfDay := do
  let fields ← expectForm "time" t (Pattern.whole? Pattern.clock? t)
  fields.toTimeOfDay.mapError .calendar

/-- Reads a time of day with or without seconds and fraction. -/
def readLocalTime (t : Text) : Except ReadError TimeOfDay := do
  let fields ← expectForm "local time" t (Pattern.whole? Pattern.localTime? t)
  fields.toTimeOfDay.mapError .calendar

/-- Reads a date and time. -/
def readDateTime (t : Text) : Except ReadError DateTime := do
  let (day, clock) ← expectForm "timestamp" t (Pattern.whole? Pattern.dateTime? t)
  (Pattern.dateTime day clock).mapError .calendar

/-- Reads an instant. -/
def readInstant (t : Text) : Except ReadError Instant := do
  let (day, clock) ← expectForm "instant" t (Pattern.whole? (Pattern.utc? Pattern.dateTime?) t)
  (Pattern.instant day clock).mapError .calendar

/-- Reads a byte string. -/
def readBytes (t : Text) : Except ReadError (List UInt8) :=
  expectForm "base64" t (Base64.decode? t)

/-- Reads a leaf. Any text is null where only null is allowed. -/
def read (type : LeafType) (t : Text) : Except ReadError Value :=
  match type with
  | null => .ok .null
  | boolean => (readBool t).map .bool
  | byte => (readRanged .byte t).map .int
  | short => (readRanged .short t).map .int
  | int => (readRanged .int t).map .int
  | long => (readRanged .long t).map .int
  | float | double => (readFloat t).map .float
  | decimal => (readDecimal t).map .decimal
  | bigInt => (readInt "integer" t).map .int
  | string => .ok (.text t)
  | date | localDate => (readDate t).map .date
  | time => (readTime t).map (.time · none)
  | localTime => (readLocalTime t).map (.time · none)
  | timestamp | localDateTime => (readDateTime t).map (.dateTime · none)
  | instant => (readInstant t).map .instant
  | byteArray => (readBytes t).map (.bytes .fixed)

end LeafType

end Delimited
