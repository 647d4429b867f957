import Delimited.ColumnType
import Delimited.Field.Split
import Delimited.Leaf.Error
import Delimited.Text.Utf8

/-!
# Why a row is not encoded or a record not decoded

A mismatch says why a value does not fit the schema, a parse fault why a record cannot be decoded.
Both tell the column, if one is at fault, and show what was found there. They are made of failures
of certain classes; a failure of another class escapes as it is.
-/

namespace Delimited

/-- A failure with its context, as messages write it. -/
def contextMessage (what : ErrorClass) (context : Context) (reason : Text) : Text :=
  Text.ofString what.name ++ ("(col=" : Text)
    ++ (match context.place with
      | some p => Digits.ofNat p.index
      | none => "None")
    ++ (", column=" : Text) ++ Text.quoted (context.place.elim [] Place.name)
    ++ (", value=" : Text) ++ context.found.quoted ++ ("): " : Text) ++ reason

/-- The failure of a class that tells its context. -/
def Failure.inContext (what : ErrorClass) (context : Context) (reason : Text) : Failure :=
  ⟨what, some (contextMessage what context reason), some context⟩

/-- Why a column does not take a value. -/
inductive ColumnRefusal where
  /-- A leaf is refused. -/
  | leaf (r : Refusal)
  /-- A composite column wants a sequence. -/
  | notSequence (given : String)
  /-- A row column wants as many leaves as it has fields. -/
  | leafCount (given expected : Nat)
  /-- The text holds surrogates. -/
  | unencodable (u : Utf8.Unencodable)

namespace ColumnRefusal

/-- The class of a refusal by a column. -/
def errorClass : ColumnRefusal → ErrorClass
  | leaf r => r.errorClass
  | notSequence _ => .type
  | leafCount .. => .value
  | unencodable u => u.failure.errorClass

/-- The wording of a refusal by a column. -/
def message : ColumnRefusal → Text
  | leaf r => r.message
  | notSequence given => ("Expected a sequence, got " : Text) ++ Text.ofString given
  | leafCount given expected =>
    ("Nested row has " : Text) ++ Digits.ofNat given ++ (" fields, expected " : Text)
      ++ Digits.ofNat expected
  | unencodable u => u.message

end ColumnRefusal

/-- Why a column's text cannot be made. -/
inductive ColumnError where
  /-- The column does not take the value. -/
  | refused (r : ColumnRefusal)
  /-- The value is out of range. -/
  | overflow

/-- The failure to make a column's text; the wording of an overflow is left open. -/
def ColumnError.failure : ColumnError → Failure
  | refused r => ⟨r.errorClass, some r.message, none⟩
  | overflow => ⟨.overflow, none, none⟩

/-- Why a value does not fit the schema. -/
inductive MismatchReason where
  /-- The value is no row. -/
  | notRow (given : String)
  /-- The row has not as many fields as the schema has columns. -/
  | fieldCount (given columns : Nat)
  /-- A column's text cannot be made. -/
  | column (type : ColumnType) (e : ColumnError)

/-- The wording of the reason of a mismatch. -/
def MismatchReason.message : MismatchReason → Text
  | notRow given => ("Expected a sequence or mapping, got " : Text) ++ Text.ofString given
  | fieldCount given columns =>
    ("Row has " : Text) ++ Digits.ofNat given ++ (" fields, schema has " : Text)
      ++ Digits.ofNat columns
  | column type e =>
    ("Cannot encode as " : Text) ++ type.text ++ (": " : Text) ++ e.failure.message?.getD []

/-- A value that does not fit the schema. -/
structure Mismatch where
  /-- The column at fault, if it is one. -/
  place : Option Place
  /-- The value. -/
  found : Value
  /-- What is wrong. -/
  reason : MismatchReason

/-- The failure of a mismatch, with so many levels left to show the value; there is none if the
value is not shown. -/
def Mismatch.failure (levels : Nat) (m : Mismatch) : Failure :=
  match m.found.literal levels with
  | .ok found => .inContext .mismatch ⟨m.place, found⟩ m.reason.message
  | .error f => f.failure

/-- Why a row is not encoded. -/
inductive EncodeError where
  /-- The row does not fit the schema. -/
  | mismatch (m : Mismatch)
  /-- A column's text cannot be made, and that is no mismatch. -/
  | escaped (e : ColumnError)
  /-- The line holds surrogates outside of its values. -/
  | unencodable (u : Utf8.Unencodable)

/-- The failure to encode a row, with so many levels left to show values. -/
def EncodeError.failure (levels : Nat) : EncodeError → Failure
  | mismatch m => m.failure levels
  | escaped e => e.failure
  | unencodable u => u.failure

/-- Why a field is not decoded as its column's type. -/
inductive ColumnFault where
  /-- A leaf is not read. -/
  | leaf (e : ReadError)
  /-- A composite column's text cannot be split. -/
  | split (f : SplitFault)
  /-- A row column's text has not as many leaves as it has fields. -/
  | leafCount (given expected : Nat)

/-- The failure to decode a field. -/
def ColumnFault.failure : ColumnFault → Failure
  | leaf e => e.failure
  | split f => f.failure
  | leafCount given expected =>
    ⟨.value, some (ColumnRefusal.leafCount given expected).message, none⟩

/-- Why a record is not decoded. -/
inductive ParseReason where
  /-- The bytes encode no text. -/
  | utf8 (m : Utf8.Malformed)
  /-- The line cannot be split. -/
  | split (f : SplitFault)
  /-- The record has more columns than the schema. -/
  | columnCount (given columns : Nat)
  /-- A field is not decoded as its column's type. -/
  | column (type : ColumnType) (f : ColumnFault)

/-- The wording of the reason of a parse fault. -/
def ParseReason.message : ParseReason → Text
  | utf8 m => ("Invalid utf-8: " : Text) ++ m.message
  | split f => f.message
  | columnCount given columns =>
    ("Record has " : Text) ++ Digits.ofNat given ++ (" columns, schema has " : Text)
      ++ Digits.ofNat columns
  | column type f =>
    ("Parse failed for type " : Text) ++ type.text ++ (": " : Text) ++ f.failure.message?.getD []

/-- A record that is not decoded. -/
structure ParseFault where
  /-- The column at fault, if it is one. -/
  place : Option Place
  /-- The text of the field or of the line; of undecodable bytes what messages show. -/
  found : Text
  /-- What is wrong. -/
  reason : ParseReason

namespace ParseFault

/-- The context of a parse fault. -/
def context (f : ParseFault) : Context := ⟨f.place, f.found⟩

/-- The wording of a parse fault. -/
def message (f : ParseFault) : Text := contextMessage .parse f.context f.reason.message

/-- The failure of a parse fault. -/
def failure (f : ParseFault) : Failure := .inContext .parse f.context f.reason.message

end ParseFault

/-- Why a message gives no outcome. -/
inductive DecodeError where
  /-- The message is of a kind that is neither text nor bytes. -/
  | notText (given : String)
  /-- The record is malformed. -/
  | malformed (f : ParseFault)
  /-- A failure that makes no record malformed. -/
  | escaped (f : Failure)

namespace DecodeError

/-- The failure to decode a message. -/
def failure : DecodeError → Failure
  | notText given =>
    ⟨.type, some (("Expected bytes or str, got " : Text) ++ Text.ofString given), none⟩
  | malformed f => f.failure
  | escaped f => f

/-- What comes of a failure where those of the given classes are caught and make a parse fault. -/
def ofCaught (caught : List ErrorClass) (failure : Failure) (fault : ParseFault) : DecodeError :=
  if failure.errorClass.isAmong caught then malformed fault else escaped failure

end DecodeError

end Delimited
