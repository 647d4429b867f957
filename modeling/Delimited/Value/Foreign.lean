import Delimited.Failure
import Delimited.Number.Integer

/-!
# Values of other classes

A field of a row may hold a value of any class, also of one that no column takes. All that is told
of such a value is the name of its class and how it is shown, and showing it may fail: its class
decides what the notation is, and so does the number of levels that are left to nest notations.
-/

namespace Delimited

/-- Why a value is not shown. -/
inductive ShowFault where
  /-- It holds an integer of too many digits. -/
  | excess (e : DigitExcess)
  /-- Too many values stand within one another. -/
  | tooDeep
  /-- The notation of a class fails. -/
  | raised (errorClass : ErrorClass) (message : Text)

namespace ShowFault

/-- The class of a fault in showing a value. -/
def errorClass : ShowFault → ErrorClass
  | excess e => e.errorClass
  | tooDeep => .recursion
  | raised errorClass _ => errorClass

/-- The wording of a fault in showing a value. -/
def message : ShowFault → Text
  | excess e => e.message
  | tooDeep => "maximum recursion depth exceeded while getting the repr of an object"
  | raised _ message => message

/-- The failure to show a value. -/
def failure (f : ShowFault) : Failure := ⟨f.errorClass, some f.message, none⟩

end ShowFault

/-- A value of another class. -/
structure Foreign where
  /-- The name of its class. -/
  className : String
  /-- The name of its class with the group that it belongs to. -/
  qualifiedName : String
  /-- Its notation where so many levels of notations may still stand within it. -/
  shown : Nat → Except ShowFault Text

/-- A failure whose wording shows a value, or the failure to show the value. -/
def Failure.showing (errorClass : ErrorClass) (message : Except ShowFault Text) : Failure :=
  match message with
  | .ok message => ⟨errorClass, some message, none⟩
  | .error f => f.failure

end Delimited
