import Delimited.ColumnType
import Delimited.Dialect.Basic
import Delimited.Text.Blank

/-!
# Quoting fields

A text is written between quotes where it would otherwise be read as something else. Which texts
these are depends on the column's type: numbers of any size are always quoted, texts and
composites if they hold any character up to the highest structural one, the rest only if they
hold a structural character. Quotes and escapes inside are doubled.
-/

namespace Delimited

namespace Quoting

/-- The text with each quote and each escape in it written twice. -/
def doubled (quote escape : Option CodePoint) (t : Text) : Text :=
  t.flatMap fun c => if quote = some c || escape = some c then [c, c] else [c]

/-- The text between quotes, with the quotes and escapes in it doubled. -/
def enclose (quote : CodePoint) (escape : Option CodePoint) (t : Text) : Text :=
  quote :: (doubled (some quote) escape t ++ [quote])

end Quoting

namespace ColumnType

/-- Types whose texts are always quoted, so that no reader takes them for machine numbers. -/
def isOfAnySize (t : ColumnType) : Bool := t == leaf .decimal || t == leaf .bigInt

/-- Types whose texts have a blank between date and time. -/
def hasInnerBlank (t : ColumnType) : Bool :=
  t == leaf .timestamp || t == leaf .localDateTime || t == leaf .instant

end ColumnType

/-- Does the text start with a comment marker, blanks left out? -/
def Text.isComment (t : Text) : Bool := t.trimLeft.head? == some commentSign

namespace Dialect

/-- The characters that structure a level with the given delimiter. -/
def isSpecial (d : Dialect) (delimiter c : CodePoint) : Bool :=
  c == delimiter || d.quote == some c || c.isLineBreak || d.escape == some c

/-- Must the text of a column be quoted? The first column of a line must also be if the line would
be taken for a comment. -/
def mustQuoteField (d : Dialect) (type : ColumnType) (first : Bool) (t : Text) : Bool :=
  d.isQuoting &&
    ((first && d.allowComments && t.isComment)
      || type.isOfAnySize
      || if type.isFreeText then
          t.any fun c => c.val ≤ d.highestMark || d.quote == some c || d.escape == some c
        else
          t.any (d.isSpecial d.fieldDelimiter) || (type.hasInnerBlank && t.any CodePoint.isBlank))

/-- The text between quotes, if there is a quote character. -/
def enclose (d : Dialect) (t : Text) : Text :=
  match d.quote with
  | some q => Quoting.enclose q d.escape t
  | none => t

/-- The text of a column as it stands in a line. -/
def fieldText (d : Dialect) (type : ColumnType) (first : Bool) (t : Text) : Text :=
  if d.mustQuoteField type first t then d.enclose t else t

/-- Must a leaf be quoted within a composite column? Empty texts must, so that a lone one does not
look like an empty column. -/
def mustQuoteLeaf (d : Dialect) (type : LeafType) (t : Text) : Bool :=
  d.isQuoting && ((type == .string && t.isEmpty) || t.any (d.isSpecial d.elementDelimiter))

/-- The text of a leaf as it stands within a composite column. -/
def leafText (d : Dialect) (type : LeafType) (t : Text) : Text :=
  if d.mustQuoteLeaf type t then d.enclose t else t

end Dialect

end Delimited
