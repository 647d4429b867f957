/-!
# Rounding

Numbers of bounded precision, binary or decimal, are rounded by one rule: to the nearest, and from
halfway between two to the even one.
-/

namespace Delimited

/-- The quotient rounded to the nearest natural number, a half to the even one. -/
def roundDiv (n d : Nat) : Nat :=
  let q := n / d
  let r := n % d
  if 2 * r < d then q
  else if d < 2 * r then q + 1
  else q + q % 2

end Delimited
