import Delimited.Text.Basic

/-!
# Dialects

A dialect says which characters structure a line, what stands for null, and how tolerant reading
is. Two of its characters may coincide here; `Settings.dialect` makes only dialects in which they
do not.
-/

namespace Delimited

/-- How lines are structured and read. -/
structure Dialect where
  /-- Separates the fields of a line. -/
  fieldDelimiter : CodePoint
  /-- Separates the leaves of a composite column. -/
  elementDelimiter : CodePoint
  /-- Ends a written line. -/
  lineDelimiter : Text
  /-- Surrounds fields that hold structural characters; without it nothing is quoted. -/
  quote : Option CodePoint
  /-- Takes the structural meaning from the character behind it. -/
  escape : Option CodePoint
  /-- The text that stands for null. -/
  nullLiteral : Option Text
  /-- Are lines that start with a comment marker skipped? -/
  allowComments : Bool
  /-- Are malformed records dropped? -/
  ignoreMalformed : Bool
  deriving DecidableEq

/-- The character that makes a line a comment if it is the first that is not blank. -/
def commentSign : CodePoint := .ofChar '#'

/-- The characters that split a text: the delimiter of the level at hand, and the quote and the
escape that can protect it. -/
structure Marks where
  /-- Separates fields; without it a text is one field. -/
  delimiter : Option CodePoint
  /-- Opens and closes a quoted span. -/
  quote : Option CodePoint
  /-- Protects the character behind it. -/
  escape : Option CodePoint

namespace Dialect

/-- The marks that split by the given delimiter. -/
def marks (d : Dialect) (delimiter : CodePoint) : Marks := ⟨some delimiter, d.quote, d.escape⟩

/-- Is there a quote character? -/
def isQuoting (d : Dialect) : Bool := d.quote.isSome

/-- The highest code point among the characters that structure a line. -/
def highestMark (d : Dialect) : Nat :=
  ((d.lineDelimiter ++ d.quote.toList).map Fin.val).foldl max d.fieldDelimiter.val

/-- How null is written. -/
def nullText (d : Dialect) : Text := d.nullLiteral.getD []

end Dialect

end Delimited
