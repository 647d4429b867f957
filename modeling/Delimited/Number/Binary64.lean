import Delimited.Number.Numeral
import Delimited.Number.Rounding

/-!
# Binary floating-point numbers of 64 bits

The magnitudes of the format, from zero to infinity, are numbered in ascending order: that is
their *rank*, and it equals the magnitude's bit pattern. Every finite magnitude is a whole number
of *units* of `2 ^ -1074`, which `units` gives for each rank, and `rankOfRatio` is the rank
nearest to a ratio of natural numbers, a half going to the even one. All of it is exact
arithmetic on natural numbers.
-/

namespace Delimited

-- Powers are those of core, whatever else is imported.
attribute [local instance (high)] instPowNat

namespace Binary64

/-- Magnitudes per binade, as a power of two. -/
def fractionBits : Nat := 52

/-- The smallest positive magnitude is two to the minus this. -/
def unitBits : Nat := 1074

/-- The rank of infinity; the ranks below it are those of the finite magnitudes. -/
def infinityRank : Nat := 0x7FF0000000000000

/-- The integer significand and the power of two, in units, of the magnitude of a rank. -/
def parts (rank : Nat) : Nat × Nat :=
  if rank < 2 ^ fractionBits then (rank, 0)
  else (2 ^ fractionBits + rank % 2 ^ fractionBits, rank / 2 ^ fractionBits - 1)

/-- The magnitude of a rank, in units. -/
def units (rank : Nat) : Nat :=
  let (significand, power) := parts rank
  significand * 2 ^ power

/-- The rank nearest to `n / d` units, a half going to the even rank; it may exceed the rank of
infinity. -/
def rankOfUnits (n d : Nat) : Nat :=
  let power := Nat.log2 (n / d) - fractionBits
  power * 2 ^ fractionBits + roundDiv n (d * 2 ^ power)

/-- The rank nearest to the ratio `n / d`; it may exceed the rank of infinity. -/
def rankOfRatio (n d : Nat) : Nat := rankOfUnits (n * 2 ^ unitBits) d

/-- No magnitude with this many digits before the point is finite. -/
def maxPointPlace : Int := 400

/-- A number whose first digit stands this far behind the point is nearer to zero than to the
smallest magnitude. -/
def minPointPlace : Int := -400

/-- The rank nearest to `coefficient · 10 ^ exponent`. Far outside the range of the format the
power of ten is not computed. -/
def rankOfDecimal (coefficient : Nat) (exponent : Int) : Nat :=
  let place := exponent + Digits.count coefficient
  if coefficient = 0 then 0
  else if maxPointPlace < place then infinityRank
  else if place < minPointPlace then 0
  else if exponent < 0 then rankOfRatio coefficient (10 ^ (-exponent).toNat)
  else rankOfRatio (coefficient * 10 ^ exponent.toNat) 1

end Binary64

/-- A 64-bit binary floating-point number. The NaNs are one value. -/
inductive Binary64 where
  /-- Not a number. -/
  | nan
  /-- An infinity. -/
  | infinite (negative : Bool)
  /-- The finite number of a sign and a rank. -/
  | finite (negative : Bool) (rank : Fin Binary64.infinityRank)
  deriving DecidableEq

namespace Binary64

/-- The number with this sign and rank, infinite from the rank of infinity on. -/
def ofRank (negative : Bool) (rank : Nat) : Binary64 :=
  if h : rank < infinityRank then .finite negative ⟨rank, h⟩ else .infinite negative

/-- The number nearest to a numeral, infinite beyond the range. -/
def ofNumeral (n : Numeral) : Binary64 :=
  ofRank n.negative (rankOfDecimal n.coefficient n.scale)

/-- The number, if it is finite. -/
def finite? : Binary64 → Option Binary64
  | .finite negative rank => some (.finite negative rank)
  | .nan | .infinite _ => none

/-- The finite number nearest to an integer, if there is one. -/
def ofInt? (i : Int) : Option Binary64 :=
  (ofRank (i < 0) (rankOfUnits (i.natAbs * 2 ^ unitBits) 1)).finite?

/-- Is the number a zero, of either sign? -/
def isZero : Binary64 → Bool
  | .finite _ rank => rank.val == 0
  | .nan | .infinite _ => false

end Binary64

end Delimited
