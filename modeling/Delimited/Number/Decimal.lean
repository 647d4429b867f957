import Delimited.Number.Numeral

/-!
# Decimal numbers

A finite decimal is a sign, a coefficient and an exponent of ten: `1.50` and `1.5` differ, and so
do `0` and `-0`. The exponents of its first and its last digit are bounded, though so widely that
the plain digits of some are too many to be held; memory is not counted here. Beside the finite ones
there are infinities and NaNs, which have a notation but no plain text. Numerals are read exactly;
an exponent out of the admitted range is refused.
-/

namespace Delimited

-- Powers are those of core, whatever else is imported.
attribute [local instance (high)] instPowNat

namespace Decimal

/-- The largest exponent that the first digit of a decimal may stand for. -/
def maxAdjusted : Int := 999999999999999999

/-- The smallest exponent that the last digit of a decimal may stand for. -/
def minExponent : Int := -1999999999999999997

/-- The exponent that the first of the coefficient's digits stands for. -/
def adjusted (coefficient : Nat) (exponent : Int) : Int :=
  exponent + Digits.count coefficient - 1

/-- The exponents of the first and the last digit are those of a decimal. -/
def InRange (coefficient : Nat) (exponent : Int) : Prop :=
  adjusted coefficient exponent ≤ maxAdjusted ∧ minExponent ≤ exponent
  deriving Decidable

end Decimal

/-- A decimal number. -/
inductive Decimal where
  /-- The number `± coefficient · 10 ^ exponent`. -/
  | finite (negative : Bool) (coefficient : Nat) (exponent : Int)
    (inRange : Decimal.InRange coefficient exponent)
  /-- An infinity. -/
  | infinite (negative : Bool)
  /-- Not a number: quiet or signaling, with a diagnostic payload. -/
  | nan (negative signaling : Bool) (payload : Nat)
  deriving DecidableEq

namespace Decimal

/-- The decimal of a sign, a coefficient and an exponent, if they are in range. -/
def finite? (negative : Bool) (coefficient : Nat) (exponent : Int) : Option Decimal :=
  if h : InRange coefficient exponent then some (.finite negative coefficient exponent h) else none

/-- The decimal that a numeral writes, digit for digit, if its exponent is in range. -/
def ofNumeral? (n : Numeral) : Option Decimal := finite? n.negative n.coefficient n.scale

/-- A minus sign if the number is negative. -/
def signText (negative : Bool) : Text := if negative then [.ofChar '-'] else []

/-- The digits with a point before which `whole` of them stand; zeros fill the places that the
digits do not reach. -/
def placePoint (digits : Text) (whole : Int) : Text :=
  if whole ≤ 0 then
    .ofDigit 0 :: .ofChar '.' :: (List.replicate (-whole).toNat (.ofDigit 0) ++ digits)
  else if digits.length ≤ whole then
    digits ++ List.replicate (whole.toNat - digits.length) (.ofDigit 0)
  else digits.take whole.toNat ++ .ofChar '.' :: digits.drop whole.toNat

/-- The digits of a finite decimal without an exponent. A zero with a positive exponent is a
single digit. -/
def plainDigits (coefficient : Nat) (exponent : Int) : Text :=
  if coefficient = 0 && 0 < exponent then [.ofDigit 0]
  else
    let digits := Digits.ofNat coefficient
    placePoint digits (exponent + digits.length)

/-- A decimal in plain digits, if it is finite. -/
def plain? : Decimal → Option Text
  | .finite negative coefficient exponent _ =>
    some (signText negative ++ plainDigits coefficient exponent)
  | .infinite _ | .nan .. => none

/-- The least exponent of a first digit that is written without an exponent, if the last digit's
is not positive. -/
def minPlainAdjusted : Int := -6

/-- An exponent with its sign. -/
def exponentText (e : Int) : Text :=
  .ofChar 'E' :: (if e < 0 then .ofChar '-' else .ofChar '+') :: Digits.ofNat e.natAbs

/-- The notation that keeps coefficient and exponent apart: plain where the exponent is not
positive and the number not too small, otherwise one digit before the point and an exponent. -/
def text : Decimal → Text
  | .finite negative coefficient exponent _ =>
    let digits := Digits.ofNat coefficient
    let first := adjusted coefficient exponent
    signText negative ++
      if exponent ≤ 0 && minPlainAdjusted ≤ first then
        placePoint digits (exponent + digits.length)
      else placePoint digits 1 ++ exponentText first
  | .infinite negative => signText negative ++ Text.ofString "Infinity"
  | .nan negative signaling payload =>
    signText negative ++ Text.ofString (if signaling then "sNaN" else "NaN")
      ++ (if payload = 0 then [] else Digits.ofNat payload)

/-- Is the decimal zero, of whatever sign and exponent? -/
def isZero : Decimal → Bool
  | .finite _ coefficient _ _ => coefficient == 0
  | .infinite _ | .nan .. => false

/-- Reads the notation of `text`. -/
def read? (t : Text) : Option Decimal :=
  match Numeral.parse? t with
  | some n => ofNumeral? n
  | none =>
    let (negative, unsigned) := Integer.takeSign t
    if unsigned = Text.ofString "Infinity" then some (.infinite negative)
    else
      let (signaling, rest) :=
        if unsigned.head? = some (.ofChar 's') then (true, unsigned.tail) else (false, unsigned)
      let payload := rest.drop 3
      if rest.take 3 = Text.ofString "NaN" && payload.all CodePoint.isDigit then
        some (.nan negative signaling (Digits.value payload))
      else none

end Decimal

end Delimited
