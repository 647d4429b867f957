import Delimited.Value.Literal

/-!
# Why a leaf cannot be read or written

Reading fails on malformed text and on numbers out of range. Writing fails on values that the
column's type does not take; apart from that, a number or an instant can be out of the range that
the text can express.
-/

namespace Delimited

-- Powers are those of core, whatever else is imported.
attribute [local instance (high)] instPowNat

/-- A signed integer type's name and bounds. -/
structure IntRange where
  /-- The name in messages. -/
  name : String
  /-- The least number. -/
  low : Int
  /-- The greatest number. -/
  high : Int

namespace IntRange

/-- The range of signed integers of the given number of bits. -/
def ofBits (name : String) (bits : Nat) : IntRange := ⟨name, -(2 ^ (bits - 1)), 2 ^ (bits - 1) - 1⟩

/-- The integers of 8 bits. -/
def byte : IntRange := ofBits "byte" 8

/-- The integers of 16 bits. -/
def short : IntRange := ofBits "short" 16

/-- The integers of 32 bits. -/
def int : IntRange := ofBits "int" 32

/-- The integers of 64 bits. -/
def long : IntRange := ofBits "long" 64

/-- Is the number in the range? -/
def has (r : IntRange) (i : Int) : Bool := r.low ≤ i && i ≤ r.high

/-- The wording for a number out of the range. -/
def message (r : IntRange) (shown : Text) : Text :=
  Text.ofString r.name ++ (" out of range [" : Text) ++ Integer.text r.low ++ (", " : Text)
    ++ Integer.text r.high ++ ("]: " : Text) ++ shown

end IntRange

/-- Why a text is not read as a leaf. -/
inductive ReadError where
  /-- The text is no literal of the named form. -/
  | malformed (form : String) (t : Text)
  /-- The text is a number out of range. -/
  | outOfRange (range : IntRange) (t : Text)
  /-- The text is an integer of too many digits. -/
  | excess (e : DigitExcess)
  /-- The text is a decimal whose exponent is out of range. -/
  | exponent
  /-- The numbers are no date or time of day. -/
  | calendar (fault : CalendarFault)

/-- The class of a reading error: what is no value of the type, or a decimal without a result. -/
def ReadError.errorClass : ReadError → ErrorClass
  | malformed .. | outOfRange .. => .value
  | excess e => e.errorClass
  | exponent => .decimalInvalid
  | calendar fault => fault.errorClass

/-- The wording of a reading error. -/
def ReadError.message : ReadError → Text
  | malformed form t =>
    ("Invalid " : Text) ++ Text.ofString form ++ (" literal: " : Text) ++ t.quoted
  | outOfRange range t => range.message t.quoted
  | excess e => e.message
  | exponent => "[<class 'decimal.InvalidOperation'>]"
  | calendar fault => fault.message

/-- The failure to read a leaf. -/
def ReadError.failure (e : ReadError) : Failure := ⟨e.errorClass, some e.message, none⟩

/-- Why a value is refused by a leaf type. -/
inductive Refusal where
  /-- The value is of another kind than the one that is wanted. -/
  | kind (wanted given : String)
  /-- The value is not null. -/
  | notNull (given : String)
  /-- The date-time has an offset from UTC. -/
  | zoned
  /-- The date-time has no offset from UTC. -/
  | zoneMissing
  /-- The shown number is out of range. -/
  | outOfRange (range : IntRange) (shown : Text)
  /-- The integer has too many digits. -/
  | excess (e : DigitExcess)
  /-- The decimal is an infinity or a NaN. -/
  | notFinite (d : Decimal)

/-- The class of a refusal: a value of a wrong kind, or one of the right kind that does not fit. -/
def Refusal.errorClass : Refusal → ErrorClass
  | kind .. | notNull _ | zoned => .type
  | zoneMissing | outOfRange .. | notFinite _ => .value
  | excess e => e.errorClass

/-- The wording of a refusal. -/
def Refusal.message : Refusal → Text
  | kind wanted given =>
    ("Expected " : Text) ++ Text.ofString wanted ++ (", got " : Text) ++ Text.ofString given
  | notNull given => ("NULL column only accepts None, got " : Text) ++ Text.ofString given
  | zoned => "Expected a naive datetime, got a timezone-aware one"
  | zoneMissing => "Instant requires a timezone-aware datetime"
  | outOfRange range shown => range.message shown
  | excess e => e.message
  | notFinite d => ("Decimal must be finite: Decimal('" : Text) ++ d.text ++ ("')" : Text)

/-- Why a value is not written as a leaf. -/
inductive WriteError where
  /-- The type does not take the value. -/
  | refused (r : Refusal)
  /-- The value is of the right kind, but out of the range of what the text is made from. -/
  | overflow

/-- The failure to write a leaf; the wording of an overflow is left open. -/
def WriteError.failure : WriteError → Failure
  | refused r => ⟨r.errorClass, some r.message, none⟩
  | overflow => ⟨.overflow, none, none⟩

end Delimited
