import Delimited.Number.Arithmetic
import Delimited.Value.Basic

/-!
# Adding and dividing values

Settings and the parts of an instant are added, and the latter divided, before their kinds are
checked. Numbers of matching kinds can be added, and texts, sequences and byte strings joined to
their like; any other two values cannot. A floating-point result is not worked out: it is refused
further on whatever it is, and nothing before that depends on it, so an operand stands for it. All
other results are the values they should be.
-/

namespace Delimited

-- Powers are those of core, whatever else is imported.
attribute [local instance (high)] instPowNat

/-- Why an operation does not apply to two values. -/
inductive OperandError where
  /-- An operation is not defined for values of these kinds. -/
  | unsupported (operation left right : String)
  /-- Only its like can be joined to a text or a sequence. -/
  | join (left right : String)
  /-- Only bytes can be joined to bytes. -/
  | joinBytes (left right : String)
  /-- An integer is too large to be added to a floating-point number. -/
  | overflow
  /-- The operands are decimal numbers without a result. -/
  | decimal (fault : DecimalFault)

/-- The wording of an operand error; an overflow has none. -/
def OperandError.message? : OperandError → Option Text
  | unsupported operation left right =>
    some (("unsupported operand type(s) for " : Text) ++ Text.ofString operation
      ++ (": '" : Text) ++ Text.ofString left ++ ("' and '" : Text) ++ Text.ofString right
      ++ ("'" : Text))
  | join left right =>
    some (("can only concatenate " : Text) ++ Text.ofString left ++ (" (not \"" : Text)
      ++ Text.ofString right ++ ("\") to " : Text) ++ Text.ofString left)
  | joinBytes left right =>
    some (("can't concat " : Text) ++ Text.ofString right ++ (" to " : Text)
      ++ Text.ofString left)
  | overflow => none
  | decimal fault => some fault.message

/-- The class of an operand error. -/
def OperandError.errorClass : OperandError → ErrorClass
  | unsupported .. | join .. | joinBytes .. => .type
  | overflow => .overflow
  | decimal fault => fault.errorClass

namespace Value

/-- The value with a truth value turned into zero or one, as which it counts in sums. -/
def counted : Value → Value
  | bool b => int (if b then 1 else 0)
  | v => v

/-- The result of decimal arithmetic as a value. -/
def decimalResult (r : Except DecimalFault Decimal) : Except OperandError Value :=
  (r.map decimal).mapError .decimal

/-- What an operation makes of an integer, which counts as a decimal beside one. -/
def besideInt (i : Int) (operation : Decimal → Except DecimalFault Decimal) :
    Except DecimalFault Decimal :=
  (Decimal.ofInt? i).elim (.error .invalid) operation

/-- The sum of two values. -/
def sum (a b : Value) : Except OperandError Value :=
  match a.counted, b.counted with
  | int i, int j => .ok (int (i + j))
  | float x, float _ => .ok (float x)
  | float x, int i | int i, float x =>
    if (Binary64.ofInt? i).isSome then .ok (float x) else .error .overflow
  | decimal d, decimal e => decimalResult (d.sum e)
  | decimal d, int i => decimalResult (besideInt i d.sum)
  | int i, decimal d => decimalResult (besideInt i (·.sum d))
  | text s, text t => .ok (text (s ++ t))
  | text _, _ => .error (.join a.qualifiedKindName b.qualifiedKindName)
  | sequence .tuple xs, sequence .tuple ys => .ok (sequence .tuple (xs ++ ys))
  | sequence .list xs, sequence .list ys => .ok (sequence .list (xs ++ ys))
  | sequence .tuple _, _ | sequence .list _, _ =>
    .error (.join a.qualifiedKindName b.qualifiedKindName)
  | bytes .view _, _ => .error (.unsupported "+" a.qualifiedKindName b.qualifiedKindName)
  | bytes kind x, bytes _ y => .ok (bytes kind (x ++ y))
  | bytes .., _ => .error (.joinBytes a.qualifiedKindName b.qualifiedKindName)
  | _, _ => .error (.unsupported "+" a.qualifiedKindName b.qualifiedKindName)

/-- The whole part of a value divided by a power of ten. -/
def quotient (v : Value) (power : Nat) : Except OperandError Value :=
  match v.counted with
  | int i => .ok (int (i.fdiv (10 ^ power)))
  | float x => .ok (float x)
  | decimal d => decimalResult (d.quotient power)
  | _ => .error (.unsupported "divmod()" v.qualifiedKindName "int")

end Value

end Delimited
