import Delimited.Dialect.Settings

/-!
# Setting options by name

Callers name the options that they set. Options are set in the order in which they are given, and
the first name that does not belong is the error.
-/

namespace Delimited

/-- The name of the value under construction, which no option can have. -/
def receiverName : Text := "self"

/-- Why an option cannot be set. -/
inductive OptionError where
  /-- The operation has no argument of that name. -/
  | unknown (operation : String) (name : Text)
  /-- The argument of that name is given already. -/
  | repeated (operation : String) (name : Text)
  /-- What stands where settings are wanted has no options. -/
  | noOptions

/-- The wording of an option error. -/
def OptionError.message : OptionError → Text
  | unknown operation name =>
    Text.ofString operation ++ (" got an unexpected keyword argument '" : Text) ++ name
      ++ ("'" : Text)
  | repeated operation name =>
    Text.ofString operation ++ (" got multiple values for argument '" : Text) ++ name
      ++ ("'" : Text)
  | noOptions => "replace() should be called on dataclass instances"

/-- The failure to set an option. -/
def OptionError.failure (e : OptionError) : Failure := ⟨.type, some e.message, none⟩

/-- The error for a name that is not among the options of an operation. -/
def OptionError.ofName (operation : String) (name : Text) : OptionError :=
  if name = receiverName then .repeated operation name else .unknown operation name

namespace Settings

/-- The operation that makes settings, as messages name it. -/
def maker : String := "CsvConfig.__init__()"

/-- Sets the given options in turn. -/
def setAll (s : Settings) : List (Text × Value) → Except OptionError Settings
  | [] => .ok s
  | (key, v) :: rest =>
    match SettingName.ofKey? key with
    | some name => (s.set name v).setAll rest
    | none => .error (.ofName maker key)

/-- The settings with the given options and defaults for the rest. -/
def ofOptions (options : List (Text × Value)) : Except OptionError Settings :=
  Settings.setAll {} options

end Settings

end Delimited
