import Delimited.Codec.Basic
import Delimited.Dialect.Options
import Delimited.Schema.Text
import Delimited.Value.Instants

/-!
# Building codecs

A codec is built from what a caller gives for a schema and from settings. The settings may be
given as such or overridden option by option. A builder holds both unchecked; checking happens
when the codec is built, the schema first.
-/

namespace Delimited

/-- Why no codec is built. -/
inductive BuildError where
  /-- Options cannot be set on what they are based on. -/
  | override (e : OptionError)
  /-- The overridden second or nanosecond of an instant, which stands where settings are wanted,
  is of a wrong kind. -/
  | instantKind (e : InstantError)
  /-- The overridden second and nanosecond make no instant. -/
  | instantRange (e : InstantError)
  /-- Settings cannot be made of options. -/
  | options (e : OptionError)
  /-- The schema is refused. -/
  | schema (e : SchemaError)
  /-- The settings are refused. -/
  | settings (e : SettingsError)

namespace BuildError

/-- The failure of an override, for a reason worded so. -/
def overrideFailure (reason : Option Text) : Failure :=
  ⟨.configuration, reason.map (("Unknown codec option: " : Text) ++ ·), none⟩

/-- The failure to build a codec. Options of wrong names or kinds are a fault of the configuration,
an instant out of range is not. -/
def failure (levels : Nat) : BuildError → Failure
  | override e => overrideFailure (some e.message)
  | instantKind e => overrideFailure e.message?
  | instantRange e => e.failure
  | options e => e.failure
  | schema e => e.failure levels
  | settings e => e.failure levels

end BuildError

namespace Instant

/-- The operation that makes an instant, as messages name it. -/
def maker : String := "Instant.__init__()"

/-- Replaces a second and a nanosecond by the options of those names. -/
def setParts (second nano : Value) : List (Text × Value) → Except OptionError (Value × Value)
  | [] => .ok (second, nano)
  | (key, v) :: rest =>
    if key = Text.ofString "epoch_second" then setParts v nano rest
    else if key = Text.ofString "nano" then setParts second v rest
    else .error (.ofName maker key)

/-- An instant with its parts overridden. -/
def override (i : Instant) (options : List (Text × Value)) : Except BuildError Instant := do
  let (second, nano) ← (setParts (.int i.second) (.int i.nano) options).mapError .override
  match ofValues second nano with
  | .ok i => return i
  | .error (.secondKind given) => throw (.instantKind (.secondKind given))
  | .error (.nanoKind given) => throw (.instantKind (.nanoKind given))
  | .error e => throw (.instantRange e)

end Instant

/-- What a caller gives for settings. -/
inductive SettingsSource where
  /-- Settings. -/
  | settings (s : Settings)
  /-- Some other value. -/
  | other (v : Value)

namespace SettingsSource

/-- The settings that a caller's value stands for: null for the defaults. -/
def ofValue : Value → SettingsSource
  | .null => settings {}
  | v => other v

/-- The dialect of settings; anything else is refused. -/
def dialect : SettingsSource → Except SettingsError Dialect
  | settings s => s.dialect
  | other v => .error (.notSettings v.kindName)

/-- Overrides options one by one. -/
def override (source : SettingsSource) (options : List (Text × Value)) :
    Except BuildError SettingsSource :=
  match source, options with
  | source, [] => .ok source
  | settings s, options => ((s.setAll options).map settings).mapError .override
  | other (.instant i), options => (i.override options).map fun i => other (.instant i)
  | other _, _ :: _ => .error (.override .noOptions)

/-- Takes the arguments of a building operation out of its options. The schema is given already;
the settings may be given once. -/
def ofArguments (operation : String) (given : Option SettingsSource) :
    List (Text × Value) → Except OptionError (SettingsSource × List (Text × Value))
  | [] => .ok (given.getD (settings {}), [])
  | (key, v) :: rest =>
    if key = Text.ofString "schema" then .error (.repeated operation key)
    else if key = Text.ofString "config" then
      match given with
      | some _ => .error (.repeated operation key)
      | none => ofArguments operation (some (ofValue v)) rest
    else do
      let (source, options) ← ofArguments operation given rest
      return (source, (key, v) :: options)

end SettingsSource

namespace Codec

/-- The codec of a schema and settings. -/
def make (schema : SchemaSpec) (source : SettingsSource) : Except BuildError Codec := do
  let schema ← schema.resolve.mapError .schema
  let dialect ← source.dialect.mapError .settings
  return { schema, dialect }

/-- The codec of a schema and settings in which options are overridden. -/
def build (operation : String) (schema : SchemaSpec) (given : Option SettingsSource)
    (options : List (Text × Value)) : Except BuildError Codec := do
  let (base, options) ←
    (SettingsSource.ofArguments operation given options).mapError .options
  make schema (← base.override options)

end Codec

/-- A codec in the making: each step sets one option and gives a new builder. -/
structure Builder where
  /-- What is given for the schema. -/
  schema : SchemaSpec
  /-- The settings so far. -/
  settings : Settings := {}

namespace Builder

/-- The builder with an option set. -/
def withOption (b : Builder) (name : SettingName) (v : Value) : Builder :=
  { b with settings := b.settings.set name v }

/-- Where the value of a step comes from. -/
inductive Source where
  /-- From the argument of that name. -/
  | required (argument : String)
  /-- From an argument that may be left out. -/
  | optional (default : Value)
  /-- From the step itself. -/
  | fixed (v : Value)

/-- A step: it sets one option. -/
structure Step where
  /-- The name by which callers ask for the step. -/
  name : String
  /-- The option that it sets. -/
  option : SettingName
  /-- The value that it sets the option to. -/
  source : Source

namespace Step

/-- All steps. -/
def all : List Step := [
  ⟨"with_field_delimiter", .fieldDelimiter, .required "delimiter"⟩,
  ⟨"with_array_element_delimiter", .elementDelimiter, .required "delimiter"⟩,
  ⟨"with_line_delimiter", .lineDelimiter, .required "delimiter"⟩,
  ⟨"with_quote_character", .quote, .required "c"⟩,
  ⟨"without_quote_character", .quote, .fixed .null⟩,
  ⟨"with_escape_character", .escape, .required "c"⟩,
  ⟨"with_null_literal", .nullLiteral, .required "literal"⟩,
  ⟨"with_allow_comments", .allowComments, .optional (.bool true)⟩,
  ⟨"with_ignore_parse_errors", .ignoreMalformed, .optional (.bool true)⟩]

/-- The step of a name. -/
def ofName? (name : String) : Option Step := all.find? (·.name == name)

/-- The arguments that a step takes. -/
def signature (s : Step) : Signature where
  name := "CsvRowCodecBuilder." ++ s.name ++ "()"
  required :=
    match s.source with
    | .required argument => some argument
    | .optional _ | .fixed _ => none
  optional :=
    match s.source with
    | .optional _ => 1
    | .required _ | .fixed _ => 0

/-- The value that a step sets its option to. -/
def value (s : Step) (arguments : List Value) : Value :=
  match s.source with
  | .fixed v => v
  | .optional default => arguments.headD default
  | .required _ => arguments.headD .null

end Step

/-- The builder after a step. -/
def apply (b : Builder) (step : Step) (arguments : List Value) : Except ArityError Builder := do
  step.signature.check arguments.length
  return b.withOption step.option (step.value arguments)

/-- The codec of the builder. -/
def build (b : Builder) : Except BuildError Codec := Codec.make b.schema (.settings b.settings)

end Builder

end Delimited
