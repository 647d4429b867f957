import Delimited.Text.CodePointSet

/-!
# Blank characters

Blanks surround scalar columns, follow a closing quote and separate the words of a type. A code
point is blank if Unicode gives it the white-space property or a bidirectional class of
separator: the ASCII blanks and the four information separators, no-break and ideographic
spaces, the line and paragraph separators. The zero-width space and the byte order mark are not.
-/

namespace Delimited

/-- The boundaries of the blank code points. -/
def blanks : CodePointSet := ⟨[
    0x9, 0xE, 0x1C, 0x21, 0x85, 0x86, 0xA0, 0xA1, 0x1680, 0x1681, 0x2000, 0x200B, 0x2028, 0x202A,
    0x202F, 0x2030, 0x205F, 0x2060, 0x3000, 0x3001]⟩

/-- Is the code point blank? -/
def CodePoint.isBlank (c : CodePoint) : Bool := blanks.contains c

namespace Text

/-- The text without its leading blanks. -/
def trimLeft (t : Text) : Text := t.dropWhile CodePoint.isBlank

/-- The text without its trailing blanks. -/
def trimRight (t : Text) : Text := (t.reverse.dropWhile CodePoint.isBlank).reverse

/-- The text without the blanks around it. -/
def trim (t : Text) : Text := t.trimLeft.trimRight

end Text

end Delimited
