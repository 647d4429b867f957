import Delimited.Failure
import Delimited.Number.Digits

/-!
# Signatures

An operation that callers name together with a list of arguments takes a certain number of them.
The value that it is applied to counts as an argument, too.
-/

namespace Delimited

/-- The arguments that an operation takes beside the value that it is applied to. -/
structure Signature where
  /-- The name of the operation, as messages write it. -/
  name : String
  /-- The argument that has to be given, if there is one. -/
  required : Option String
  /-- How many arguments may be given beside that one. -/
  optional : Nat

/-- Why a list of arguments does not fit a signature. -/
inductive ArityError where
  /-- The operation lacks the required argument. -/
  | missing (operation argument : String)
  /-- More arguments are given than the operation takes. -/
  | excess (signature : Signature) (given : Nat)

namespace Signature

/-- The fewest arguments, with the value that the operation is applied to. -/
def fewest (s : Signature) : Nat := 1 + s.required.toList.length

/-- The most arguments, with the value that the operation is applied to. -/
def most (s : Signature) : Nat := s.fewest + s.optional

/-- The numbers of arguments that are taken, in words. -/
def counts (s : Signature) : Text :=
  if s.optional = 0 then
    Digits.ofNat s.most ++ (" positional argument" : Text)
      ++ Text.ofString (if s.most = 1 then "" else "s")
  else
    ("from " : Text) ++ Digits.ofNat s.fewest ++ (" to " : Text) ++ Digits.ofNat s.most
      ++ (" positional arguments" : Text)

/-- Checks a number of arguments, the value that the operation is applied to not counted. -/
def check (s : Signature) (given : Nat) : Except ArityError Unit :=
  match s.required, given with
  | some argument, 0 => .error (.missing s.name argument)
  | _, given => if s.most < 1 + given then .error (.excess s (1 + given)) else .ok ()

end Signature

/-- The wording of an arity error. -/
def ArityError.message : ArityError → Text
  | missing operation argument =>
    Text.ofString operation ++ (" missing 1 required positional argument: '" : Text)
      ++ Text.ofString argument ++ ("'" : Text)
  | excess signature given =>
    Text.ofString signature.name ++ (" takes " : Text) ++ signature.counts ++ (" but " : Text)
      ++ Digits.ofNat given ++ (" were given" : Text)

/-- The failure of a call with too few or too many arguments. -/
def ArityError.failure (e : ArityError) : Failure := ⟨.type, some e.message, none⟩

end Delimited
