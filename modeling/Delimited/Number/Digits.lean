import Delimited.Text.Basic

/-!
# Decimal and hexadecimal digits

Natural numbers written in base ten, most significant digit first and without leading zeros, the
value of a run of digits, and fixed-width fields padded with zeros.
-/

namespace Delimited

namespace CodePoint

/-- Is the code point one of the ASCII digits? -/
def isDigit (c : CodePoint) : Bool := 0x30 ≤ c.val && c.val ≤ 0x39

/-- The ASCII digit of a number below ten. -/
def ofDigit (n : Nat) : CodePoint := Fin.ofNat 0x110000 (0x30 + n)

/-- The number that an ASCII digit stands for. -/
def digitValue (c : CodePoint) : Nat := c.val - 0x30

/-- The lower-case hexadecimal digit of a number below sixteen. -/
def ofHexDigit (n : Nat) : CodePoint := Fin.ofNat 0x110000 (if n < 10 then 0x30 + n else 0x57 + n)

end CodePoint

namespace Digits

/-- The digits of `n` in front of `tail`. -/
def prepend (n : Nat) (tail : Text) : Text :=
  if n < 10 then .ofDigit n :: tail
  else prepend (n / 10) (.ofDigit (n % 10) :: tail)

/-- The decimal digits of a number, without leading zeros; zero is one digit. -/
def ofNat (n : Nat) : Text := prepend n []

/-- The number that a run of decimal digits stands for. -/
def value (digits : Text) : Nat := digits.foldl (fun n c => 10 * n + c.digitValue) 0

/-- How many decimal digits a number has. -/
def count (n : Nat) : Nat := (ofNat n).length

/-- Zeros on the left up to the given width. -/
def padLeft (width : Nat) (digits : Text) : Text :=
  List.replicate (width - digits.length) (.ofDigit 0) ++ digits

/-- Zeros on the right up to the given width. -/
def padRight (width : Nat) (digits : Text) : Text :=
  digits ++ List.replicate (width - digits.length) (.ofDigit 0)

/-- The number in decimal digits, with at least `width` of them. -/
def fixed (width n : Nat) : Text := padLeft width (ofNat n)

/-- The run of digits without its trailing zeros. -/
def trimZeros (digits : Text) : Text :=
  (digits.reverse.dropWhile (· == .ofDigit 0)).reverse

/-- The lowest `width` hexadecimal digits of a number. -/
def hex : Nat → Nat → Text
  | 0, _ => []
  | width + 1, n => hex width (n / 16) ++ [.ofHexDigit (n % 16)]

/-- The longest run of ASCII digits at the start of the text, and what follows it. -/
def span (t : Text) : Text × Text := (t.takeWhile CodePoint.isDigit, t.dropWhile CodePoint.isDigit)

end Digits

end Delimited
