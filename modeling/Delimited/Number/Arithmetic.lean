import Delimited.Number.Decimal
import Delimited.Number.Rounding

/-!
# Decimal arithmetic

Decimals are read and written exactly, but a sum has at most 28 digits. A longer one is rounded, a
half going to the even digit, and so is one that reaches below the smallest exponent of a result.
A result whose first digit stands for too large a power of ten is a fault; rounding up may be what
makes it so. The whole part of a quotient is exact, or a fault if it has more than 28 digits.
-/

namespace Delimited

-- Powers are those of core, whatever else is imported.
attribute [local instance (high)] instPowNat

/-- Why decimal arithmetic has no result. -/
inductive DecimalFault where
  /-- An operand is a signaling NaN, or infinities have no such result. -/
  | invalid
  /-- The result is too large. -/
  | overflow
  /-- The whole part of a quotient has too many digits. -/
  | longQuotient
  deriving DecidableEq

/-- The wording of a decimal fault. -/
def DecimalFault.message : DecimalFault → Text
  | invalid => "[<class 'decimal.InvalidOperation'>]"
  | overflow => "[<class 'decimal.Overflow'>]"
  | longQuotient => "[<class 'decimal.DivisionImpossible'>]"

/-- The class of a decimal fault. -/
def DecimalFault.errorClass : DecimalFault → ErrorClass
  | invalid | longQuotient => .decimalInvalid
  | overflow => .decimalOverflow

namespace Decimal

/-- The decimal of an integer, if it has so few digits that there is one. -/
def ofInt? (i : Int) : Option Decimal := finite? (i < 0) i.natAbs 0

/-- The most digits of a result. -/
def precision : Nat := 28

/-- The largest exponent that the first digit of a result may stand for. -/
def maxResultAdjusted : Int := 999999

/-- The smallest exponent that the last digit of a result may stand for. -/
def minResultExponent : Int := -999999 - (precision - 1)

/-- How many digits at the end of a coefficient are more than a result may have. -/
def excessDigits (coefficient : Nat) (exponent : Int) : Nat :=
  max (Digits.count coefficient - precision) (minResultExponent - exponent).toNat

/-- The coefficient without its last digits, rounded. Where more digits are dropped than there are,
the power of ten is not computed: what is left is less than a half. -/
def dropDigits (coefficient dropped : Nat) : Nat :=
  if Digits.count coefficient < dropped then 0 else roundDiv coefficient (10 ^ dropped)

/-- The last digit that is kept is not below the smallest exponent of a result. -/
theorem minResultExponent_le (coefficient : Nat) (exponent : Int) :
    minResultExponent ≤ exponent + excessDigits coefficient exponent := by
  unfold excessDigits
  omega

/-- What is in the range of results is in that of decimals. -/
theorem InRange.of_result {coefficient : Nat} {exponent : Int}
    (hexponent : minResultExponent ≤ exponent)
    (hadjusted : adjusted coefficient exponent ≤ maxResultAdjusted) :
    InRange coefficient exponent := by
  have hlow : minResultExponent = -1000026 := by decide
  simp only [maxResultAdjusted] at hadjusted
  simp only [InRange, maxAdjusted, minExponent]
  omega

/-- The only digit of zero is its first one. -/
theorem adjusted_zero (exponent : Int) : adjusted 0 exponent = exponent := by
  have hcount : Digits.count 0 = 1 := by simp [Digits.count, Digits.ofNat, Digits.prepend]
  rw [adjusted, hcount]
  omega

/-- A zero that is taken off is counted by the exponent. -/
theorem adjusted_pow_precision (exponent : Int) :
    adjusted (10 ^ (precision - 1)) (exponent + 1) = adjusted (10 ^ precision) exponent := by
  have hcount : Digits.count (10 ^ precision) = Digits.count (10 ^ (precision - 1)) + 1 := by
    simp [precision, Digits.count, Digits.ofNat, Digits.prepend]
  rw [adjusted, adjusted, hcount]
  omega

/-- A finite result within the precision and the range of results. -/
def rounded (negative : Bool) (coefficient : Nat) (exponent : Int) : Except DecimalFault Decimal :=
  let dropped := excessDigits coefficient exponent
  let kept := dropDigits coefficient dropped
  have hlow : minResultExponent ≤ exponent + dropped := minResultExponent_le coefficient exponent
  let exponent := exponent + dropped
  if kept = 0 then
    .ok (.finite negative 0 (min exponent maxResultAdjusted) (.of_result
      (Int.le_min.2 ⟨hlow, by decide⟩) (adjusted_zero _ ▸ Int.min_le_right ..)))
  else if hhigh : maxResultAdjusted < adjusted kept exponent then .error .overflow
  -- Nines that are rounded up become a one with a zero more than there is room for.
  else if hnines : kept = 10 ^ precision then
    .ok (.finite negative (10 ^ (precision - 1)) (exponent + 1) (.of_result (by omega)
      (by rw [adjusted_pow_precision, ← hnines]; omega)))
  else .ok (.finite negative kept exponent (.of_result hlow (by omega)))

/-- A term `j · 10 ^ f` as it counts in a sum with `i · 10 ^ e`, where `f` is not above `e`. If it
lies wholly below all digits that the sum keeps, only its sign matters, and a one just below them
does as well; so the two coefficients never have to be brought into line over a long distance. -/
def besideLarger (i : Nat) (e : Int) (j : Nat) (f : Int) : Nat × Int :=
  let below := e - 1 + min 0 ((Digits.count i : Int) - precision - 1)
  if i ≠ 0 && adjusted j f < below then (min j 1, below) else (j, f)

/-- The sum of two finite decimals, the second of which has no larger exponent. -/
def alignedSum (m : Bool) (i : Nat) (e : Int) (n : Bool) (j : Nat) (f : Int) :
    Except DecimalFault Decimal :=
  let (j, f) := besideLarger i e j f
  let i := if i = 0 then 0 else i * 10 ^ (e - f).toNat
  let total := Integer.signed m i + Integer.signed n j
  rounded (if total = 0 then m && n else total < 0) total.natAbs f

/-- The sum of two decimals. -/
def sum : Decimal → Decimal → Except DecimalFault Decimal
  | .nan _ true _, _ | _, .nan _ true _ => .error .invalid
  | .nan negative false payload, _ | _, .nan negative false payload =>
    .ok (.nan negative false (payload % 10 ^ precision))
  | .infinite m, .infinite n => if m = n then .ok (.infinite m) else .error .invalid
  | .infinite m, _ | _, .infinite m => .ok (.infinite m)
  | .finite m i e _, .finite n j f _ =>
    if f ≤ e then alignedSum m i e n j f else alignedSum n j f m i e

/-- The whole part of `coefficient · 10 ^ exponent`. The power is not computed where the whole part
has more digits than a result may have. -/
def whole? (coefficient : Nat) (exponent : Int) : Option Nat :=
  let first := adjusted coefficient exponent
  if coefficient = 0 || first < 0 then some 0
  else if precision ≤ first then none
  else if exponent < 0 then some (coefficient / 10 ^ (-exponent).toNat)
  else some (coefficient * 10 ^ exponent.toNat)

/-- An integer with the digits of a result is a decimal. -/
theorem InRange.of_count {coefficient : Nat} (h : Digits.count coefficient ≤ precision) :
    InRange coefficient 0 := by
  simp only [precision] at h
  simp only [InRange, adjusted, maxAdjusted, minExponent]
  omega

/-- The whole part of a decimal divided by a power of ten, rounded towards zero. -/
def quotient (power : Nat) : Decimal → Except DecimalFault Decimal
  | .nan _ true _ | .infinite _ => .error .invalid
  | .nan negative false payload => .ok (.nan negative false (payload % 10 ^ precision))
  | .finite negative coefficient exponent _ =>
    match whole? coefficient (exponent - power) with
    | some whole =>
      if h : Digits.count whole ≤ precision then .ok (.finite negative whole 0 (.of_count h))
      else .error .longQuotient
    | none => .error .longQuotient

end Decimal

end Delimited
