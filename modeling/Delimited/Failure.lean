import Delimited.Text.Basic

/-!
# Failures

What a caller sees of a failure is its class, its wording and, if a row or a record is at fault,
where the fault is and what was found there. A class is a kind of its bases: whoever catches a class
catches all of its kinds, and everything else passes.
-/

namespace Delimited

/-- The classes of failures. -/
inductive ErrorClass where
  /-- A value of the right kind that does not fit. -/
  | value
  /-- A value of a wrong kind. -/
  | type
  /-- A value without a part that is asked for. -/
  | absentPart
  /-- Something that the code rules out. -/
  | assertion
  /-- Arithmetic without a result. -/
  | arithmetic
  /-- A result that is too large. -/
  | overflow
  /-- Operands without a result among the decimals. -/
  | decimalInvalid
  /-- A decimal that is too large. -/
  | decimalOverflow
  /-- Calls too deep within one another. -/
  | recursion
  /-- Bytes that encode no text. -/
  | decoding
  /-- A text that has no encoding. -/
  | encoding
  /-- Types, schemas or settings that make no codec. -/
  | configuration
  /-- A record that is not decoded. -/
  | parse
  /-- A row that does not fit the schema. -/
  | mismatch
  /-- A class that is a kind of none of these. -/
  | other (name : String)
  deriving DecidableEq

namespace ErrorClass

/-- The name of a class. -/
def name : ErrorClass → String
  | value => "ValueError"
  | type => "TypeError"
  | absentPart => "AttributeError"
  | assertion => "AssertionError"
  | arithmetic => "ArithmeticError"
  | overflow => "OverflowError"
  | decimalInvalid => "InvalidOperation"
  | decimalOverflow => "Overflow"
  | recursion => "RecursionError"
  | decoding => "UnicodeDecodeError"
  | encoding => "UnicodeEncodeError"
  | configuration => "ConfigurationError"
  | parse => "ParseError"
  | mismatch => "EncodeMismatch"
  | other name => name

/-- The classes that a class is a kind of. -/
def bases : ErrorClass → List ErrorClass
  | overflow | decimalInvalid | decimalOverflow => [arithmetic]
  | decoding | encoding | configuration | parse => [value]
  | mismatch => [type]
  | value | type | absentPart | assertion | arithmetic | recursion | other _ => []

/-- Is the class one of these, or a kind of one? -/
def isAmong (c : ErrorClass) (caught : List ErrorClass) : Bool :=
  (c :: c.bases).any caught.contains

end ErrorClass

/-- A column by its index and name. -/
structure Place where
  /-- The index, from zero. -/
  index : Nat
  /-- The name. -/
  name : Text

/-- What a failure tells of a row or a record at fault. -/
structure Context where
  /-- The column at fault, if it is one. -/
  place : Option Place
  /-- What was found there. -/
  found : Text

/-- A failure as a caller sees it. -/
structure Failure where
  /-- Its class. -/
  errorClass : ErrorClass
  /-- Its wording; that of an overflow is left open. -/
  message? : Option Text
  /-- Its context, if a row or a record is at fault. -/
  context? : Option Context := none

end Delimited
