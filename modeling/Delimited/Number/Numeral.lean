import Delimited.Number.Integer

/-!
# Numerals with point and exponent

The literals of decimal fractions and floating-point numbers: an optional sign, digits with an
optional point among them, and an optional exponent. At least one digit stands before the
exponent. A numeral stands for the rational number `± coefficient · 10 ^ scale`.
-/

namespace Delimited

/-- A numeral taken apart. -/
structure Numeral where
  /-- Does it start with a minus sign? -/
  negative : Bool
  /-- The digits before the point. -/
  whole : Text
  /-- The digits after the point. -/
  fraction : Text
  /-- The exponent of ten, zero if none is written. -/
  exponent : Int

namespace Numeral

/-- All digits as one number. -/
def coefficient (n : Numeral) : Nat := Digits.value (n.whole ++ n.fraction)

/-- The power of ten of the last digit. -/
def scale (n : Numeral) : Int := n.exponent - n.fraction.length

/-- The digits after a point at the start of the text, if there is a point, and what follows. -/
def takeFraction : Text → Option Text × Text
  | [] => (none, [])
  | c :: rest =>
    if c = .ofChar '.' then
      let (digits, rest) := Digits.span rest
      (some digits, rest)
    else (none, c :: rest)

/-- The exponent that makes up the whole text: nothing, or a letter `e` and an integer. -/
def parseExponent? : Text → Option Int
  | [] => some 0
  | c :: rest =>
    if c = .ofChar 'e' || c = .ofChar 'E' then
      (Integer.parse? rest).map fun (negative, digits) =>
        Integer.signed negative (Digits.value digits)
    else none

/-- Reads a numeral that makes up the whole text. -/
def parse? (t : Text) : Option Numeral :=
  let (negative, unsigned) := Integer.takeSign t
  let (whole, rest) := Digits.span unsigned
  let (fraction, rest) := takeFraction rest
  if whole.isEmpty && (fraction.getD []).isEmpty then none
  else (parseExponent? rest).map fun exponent =>
    { negative, whole, fraction := fraction.getD [], exponent }

end Numeral

end Delimited
