import Delimited.Failure
import Delimited.Text.Quoted

/-!
# Data types

A column has one of nineteen leaf types, or it holds a row or an array of leaves in a single
field; composites do not nest. A type is written by its name, in upper case, a composite with its
parts between angle brackets.
-/

namespace Delimited

/-- The types of single values. -/
inductive LeafType where
  /-- Only null. -/
  | null
  /-- Truth values. -/
  | boolean
  /-- Integers of 8 bits. -/
  | byte
  /-- Integers of 16 bits. -/
  | short
  /-- Integers of 32 bits. -/
  | int
  /-- Integers of 64 bits. -/
  | long
  /-- Floating-point numbers. -/
  | float
  /-- Floating-point numbers. -/
  | double
  /-- Decimal numbers of any precision. -/
  | decimal
  /-- Integers of any size. -/
  | bigInt
  /-- Texts. -/
  | string
  /-- Dates. -/
  | date
  /-- Times of day to the second. -/
  | time
  /-- Dates with a time of day, always with a fraction. -/
  | timestamp
  /-- Dates. -/
  | localDate
  /-- Times of day to the microsecond. -/
  | localTime
  /-- Dates with a time of day, with a fraction where there is one. -/
  | localDateTime
  /-- Points in time to the nanosecond. -/
  | instant
  /-- Byte strings. -/
  | byteArray
  deriving DecidableEq

namespace LeafType

/-- All leaf types. -/
def all : List LeafType :=
  [null, boolean, byte, short, int, long, float, double, decimal, bigInt, string, date, time,
    timestamp, localDate, localTime, localDateTime, instant, byteArray]

/-- The name of a leaf type. -/
def name : LeafType → String
  | null => "NULL"
  | boolean => "BOOLEAN"
  | byte => "BYTE"
  | short => "SHORT"
  | int => "INT"
  | long => "LONG"
  | float => "FLOAT"
  | double => "DOUBLE"
  | decimal => "DECIMAL"
  | bigInt => "BIG_INT"
  | string => "STRING"
  | date => "DATE"
  | time => "TIME"
  | timestamp => "TIMESTAMP"
  | localDate => "LOCAL_DATE"
  | localTime => "LOCAL_TIME"
  | localDateTime => "LOCAL_DATE_TIME"
  | instant => "INSTANT"
  | byteArray => "BYTE_ARRAY"

/-- The name of a leaf type as text. -/
def text (t : LeafType) : Text := Text.ofString t.name

/-- The leaf type of a name. -/
def ofName? (name : Text) : Option LeafType := all.find? (·.text == name)

/-- The notation of a leaf type in messages about types. -/
def literal (t : LeafType) : Text :=
  ("<TypeTag." : Text) ++ t.text ++ (": '" : Text) ++ t.text ++ ("'>" : Text)

end LeafType

/-- The type of a column. -/
inductive ColumnType where
  /-- A single value. -/
  | leaf (type : LeafType)
  /-- A row of one or more single values in one column. -/
  | row (first : LeafType) (others : List LeafType)
  /-- Any number of single values of one type in one column. -/
  | array (element : LeafType)
  deriving DecidableEq

namespace ColumnType

/-- The name of row types. -/
def rowName : Text := "ROW"

/-- The name of array types. -/
def arrayName : Text := "ARRAY"

/-- The type as it is written. -/
def text : ColumnType → Text
  | leaf type => type.text
  | row first others =>
    rowName ++ ("<" : Text) ++ Text.join ", " ((first :: others).map LeafType.text)
      ++ (">" : Text)
  | array element => arrayName ++ ("<" : Text) ++ element.text ++ (">" : Text)

/-- The notation of a type in messages about types. -/
def literal : ColumnType → Text
  | leaf type => type.literal
  | row first [] => ("RowType(fields=(" : Text) ++ first.literal ++ (",))" : Text)
  | row first others =>
    ("RowType(fields=(" : Text) ++ Text.join ", " ((first :: others).map LeafType.literal)
      ++ ("))" : Text)
  | array element => ("ArrayType(element=" : Text) ++ element.literal ++ (")" : Text)

/-- Does the type hold several values in one column? -/
def isComposite : ColumnType → Bool
  | leaf _ => false
  | row .. | array _ => true

/-- Does the text of a column of this type depend on what it is made of, so that it may hold any
character? -/
def isFreeText : ColumnType → Bool
  | leaf type => type == .string
  | row .. | array _ => true

end ColumnType

/-- A composite type where a leaf type is wanted. -/
structure NotLeaf where
  /-- The composite type. -/
  type : ColumnType

/-- The wording for a composite type out of place. -/
def NotLeaf.message (e : NotLeaf) : Text := ("Unsupported type: " : Text) ++ e.type.literal

/-- The failure to take a composite type for a leaf type. -/
def NotLeaf.failure (e : NotLeaf) : Failure := ⟨.assertion, some e.message, none⟩

/-- The leaf type that a type is. -/
def ColumnType.expectLeaf : ColumnType → Except NotLeaf LeafType
  | leaf type => .ok type
  | composite => .error ⟨composite⟩

end Delimited
