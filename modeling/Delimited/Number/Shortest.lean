import Delimited.Number.Binary64
import Delimited.Number.Decimal

/-!
# The shortest text of a floating-point number

A finite number is written with the fewest digits that read back as the same number; of several
such the nearest, and of two equally near the one with the even last digit. The search walks
through the decimal grids of 1, 2, … 17 digits and tries the number's two neighbours on each.
-/

namespace Delimited

-- Powers are those of core, whatever else is imported.
attribute [local instance (high)] instPowNat

namespace Shortest

/-- A positive decimal number `digits · 10 ^ exponent`. -/
structure Candidate where
  /-- All digits as one number. -/
  digits : Nat
  /-- The power of ten of the last digit. -/
  exponent : Int

/-- Does the candidate read back as the magnitude of this rank? -/
def Candidate.reads (c : Candidate) (rank : Nat) : Bool :=
  Binary64.rankOfDecimal c.digits c.exponent == rank

/-- Decimal places that keep a digit of the smallest magnitude. -/
def places : Nat := 340

/-- The magnitude of a rank as a multiple of `10 ^ exponent`: numerator and denominator. -/
def ratioOnGrid (rank : Nat) (exponent : Int) : Nat × Nat :=
  let n := Binary64.units rank
  if exponent < 0 then (n * 10 ^ (-exponent).toNat, 2 ^ Binary64.unitBits)
  else (n, 2 ^ Binary64.unitBits * 10 ^ exponent.toNat)

/-- How many digits stand before the point in the magnitude of a rank; zeros right after the
point count negatively. -/
def pointPlace (rank : Nat) : Int :=
  let (n, d) := ratioOnGrid rank (-places)
  (Digits.count (n / d) : Int) - places

/-- The neighbour on the grid of `10 ^ exponent` that reads back, the nearer if both do. -/
def onGrid? (rank : Nat) (exponent : Int) : Option Candidate :=
  let (n, d) := ratioOnGrid rank exponent
  let low : Candidate := ⟨n / d, exponent⟩
  let high : Candidate := ⟨n / d + 1, exponent⟩
  let lowFirst := 2 * (n % d) < d || (2 * (n % d) == d && (n / d) % 2 == 0)
  match low.reads rank, high.reads rank with
  | true, true => some (if lowFirst then low else high)
  | true, false => some low
  | false, true => some high
  | false, false => none

/-- The exact decimal expansion of the magnitude of a rank. -/
def exact (rank : Nat) : Candidate :=
  ⟨Binary64.units rank * 5 ^ Binary64.unitBits, -(Binary64.unitBits : Int)⟩

/-- The first hit on the grids of up to 17 digits, from the coarsest on; the exact expansion if
there were none. -/
def search (rank : Nat) (place : Int) : (gridsLeft : Nat) → Candidate
  | 0 => exact rank
  | left + 1 =>
    -- The grid on which the magnitude has `17 - left` digits.
    match onGrid? rank (place - (17 - left)) with
    | some c => c
    | none => search rank place left

/-- The shortest decimal that reads back as the magnitude of a rank. -/
def ofRank (rank : Nat) : Candidate :=
  if rank = 0 then ⟨0, 0⟩ else search rank (pointPlace rank) 17

end Shortest

/-- How floating-point numbers are laid out. -/
structure FloatLayout where
  /-- The least exponent of the first digit that is written without an exponent. -/
  minPlain : Int
  /-- From this exponent of the first digit on the exponent is written. -/
  maxPlain : Int
  /-- The fewest digits of a written exponent. -/
  exponentWidth : Nat

namespace Binary64

/-- Plain digits for first digits from `10 ^ -4` to `10 ^ 15`, always with a digit behind the
point; outside, an exponent of at least two digits with its sign. -/
def layout : FloatLayout := ⟨-4, 16, 2⟩

/-- The digits behind the point, a zero if there are none. -/
def withFraction (t : Text) : Text :=
  if t.contains (.ofChar '.') then t else t ++ [.ofChar '.', .ofDigit 0]

/-- The magnitude of a rank in digits. -/
def magnitudeText (rank : Nat) : Text :=
  let shortest := Shortest.ofRank rank
  let all := Digits.ofNat shortest.digits
  let digits := if rank = 0 then all else Digits.trimZeros all
  let place := if rank = 0 then 1 else shortest.exponent + all.length
  if layout.minPlain < place && place ≤ layout.maxPlain then
    withFraction (Decimal.placePoint digits place)
  else
    let e := place - 1
    Decimal.placePoint digits 1 ++ .ofChar 'e' ::
      (if e < 0 then .ofChar '-' else .ofChar '+') :: Digits.fixed layout.exponentWidth e.natAbs

/-- The text of a number, given the spellings of NaN and of infinity. -/
def text (nanName infinityName : String) : Binary64 → Text
  | .nan => Text.ofString nanName
  | .infinite negative => Decimal.signText negative ++ Text.ofString infinityName
  | .finite negative rank => Decimal.signText negative ++ magnitudeText rank

/-- Reads a numeral, or one of the given spellings of NaN and infinity. -/
def read? (nanName infinityName : String) (t : Text) : Option Binary64 :=
  if t = Text.ofString nanName then some .nan
  else
    let (negative, unsigned) := Integer.takeSign t
    if unsigned = Text.ofString infinityName then some (.infinite negative)
    else (Numeral.parse? t).map ofNumeral

end Binary64

end Delimited
