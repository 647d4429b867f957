import Delimited.Failure
import Delimited.Number.Digits

/-!
# Integers as decimal text

An integer is a sign and decimal digits. Conversion between integers and decimal text is limited
to 4300 digits in both directions, since its cost grows with the square of their number; leading
zeros count.
-/

namespace Delimited

/-- The most digits that an integer may have in decimal text. -/
def digitLimit : Nat := 4300

/-- An integer and its text are too long to convert: a text names its number of digits. -/
inductive DigitExcess where
  /-- An integer that would be written with too many digits. -/
  | written
  /-- A text of that many digits. -/
  | read (count : Nat)

/-- The wording of the limit. -/
def DigitExcess.message (e : DigitExcess) : Text :=
  ("Exceeds the limit (" : Text) ++ Digits.ofNat digitLimit
    ++ (" digits) for integer string conversion" : Text)
    ++ (match e with
      | .written => []
      | .read count => (": value has " : Text) ++ Digits.ofNat count ++ (" digits" : Text))
    ++ ("; use sys.set_int_max_str_digits() to increase the limit" : Text)

/-- The class of the limit's failures. -/
def DigitExcess.errorClass (_ : DigitExcess) : ErrorClass := .value

/-- The failure to convert what is too long. -/
def DigitExcess.failure (e : DigitExcess) : Failure := ⟨e.errorClass, some e.message, none⟩

namespace Integer

/-- The decimal text of an integer, however long. -/
def text (i : Int) : Text :=
  if i < 0 then .ofChar '-' :: Digits.ofNat i.natAbs else Digits.ofNat i.natAbs

/-- The decimal text of an integer within the digit limit. -/
def write (i : Int) : Except DigitExcess Text :=
  if Digits.count i.natAbs ≤ digitLimit then .ok (text i) else .error .written

/-- A leading plus or minus sign, taken off: is it a minus, and the rest. -/
def takeSign : Text → Bool × Text
  | [] => (false, [])
  | c :: rest =>
    if c = .ofChar '-' then (true, rest)
    else if c = .ofChar '+' then (false, rest)
    else (false, c :: rest)

/-- The number with this magnitude and sign. -/
def signed (negative : Bool) (magnitude : Nat) : Int :=
  if negative then -(magnitude : Int) else magnitude

/-- The sign and the digits of an integer literal: an optional sign and one or more digits. -/
def parse? (t : Text) : Option (Bool × Text) :=
  let (negative, digits) := takeSign t
  if !digits.isEmpty && digits.all CodePoint.isDigit then some (negative, digits) else none

/-- The value of an integer literal within the digit limit. -/
def evaluate (negative : Bool) (digits : Text) : Except DigitExcess Int :=
  if digits.length ≤ digitLimit then .ok (signed negative (Digits.value digits))
  else .error (.read digits.length)

end Integer

end Delimited
