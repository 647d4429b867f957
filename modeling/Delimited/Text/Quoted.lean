import Delimited.Text.Printable
import Delimited.Number.Digits

/-!
# Quoted text in messages

Messages show a text between quotation marks with everything unprintable spelled out, so that
blanks, controls and surrogates can be told apart. Byte strings are shown in the same way, with
all but printable ASCII spelled out.
-/

namespace Delimited

namespace Quoted

/-- The apostrophe, the preferred mark. -/
def apostrophe : CodePoint := 0x27

/-- The double quotation mark. -/
def doubleMark : CodePoint := 0x22

/-- The escape sign within the marks. -/
def backslash : CodePoint := 0x5C

/-- The mark for a text: an apostrophe, unless the text holds one and no double mark. -/
def mark (t : Text) : CodePoint :=
  if t.contains apostrophe && !t.contains doubleMark then doubleMark else apostrophe

/-- A code point by its number, in the shortest of the three forms that can hold it. -/
def numbered (c : CodePoint) : Text :=
  if c.val < 0x100 then backslash :: .ofChar 'x' :: Digits.hex 2 c.val
  else if c.val < 0x10000 then backslash :: .ofChar 'u' :: Digits.hex 4 c.val
  else backslash :: .ofChar 'U' :: Digits.hex 8 c.val

/-- One code point between marks, given which ones are shown as themselves and which mark is
escaped. -/
def character (shown : CodePoint → Bool) (escaped c : CodePoint) : Text :=
  if c = escaped || c = backslash then [backslash, c]
  else if c = .ofChar '\n' then [backslash, .ofChar 'n']
  else if c = .ofChar '\r' then [backslash, .ofChar 'r']
  else if c = .ofChar '\t' then [backslash, .ofChar 't']
  else if shown c then [c]
  else numbered c

/-- The text between marks, given which mark is escaped in it. -/
def between (shown : CodePoint → Bool) (escaped : CodePoint) (t : Text) : Text :=
  mark t :: (t.flatMap (character shown escaped) ++ [mark t])

/-- Is it a printable ASCII character? -/
def isPlainAscii (c : CodePoint) : Bool := 0x20 ≤ c.val && c.val < 0x7F

end Quoted

/-- A text as messages show it. -/
def Text.quoted (t : Text) : Text := Quoted.between CodePoint.isPrintable (Quoted.mark t) t

namespace Quoted

/-- The characters of the same numbers as the bytes. -/
def ofBytes (b : List UInt8) : Text := b.map fun x => Fin.ofNat 0x110000 x.toNat

/-- A byte string as messages show it. -/
def bytes (b : List UInt8) : Text :=
  .ofChar 'b' :: between isPlainAscii (mark (ofBytes b)) (ofBytes b)

/-- A changeable byte string as messages show it: apostrophes are escaped between any marks. -/
def buffer (b : List UInt8) : Text :=
  ("bytearray(b" : Text) ++ between isPlainAscii apostrophe (ofBytes b) ++ (")" : Text)

end Quoted

end Delimited
