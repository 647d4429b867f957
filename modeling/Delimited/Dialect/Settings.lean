import Delimited.Dialect.Basic
import Delimited.Value.Literal

/-!
# Settings

Settings are a dialect before it is checked: eight named options with any values. Checking finds
the first option that is of a wrong kind, is ambiguous beside another, or reserves characters
that the null literal uses, and otherwise gives the dialect.
-/

namespace Delimited

/-- The options of a dialect, unchecked. -/
structure Settings where
  /-- Separates the fields of a line. -/
  fieldDelimiter : Value := .text ","
  /-- Separates the leaves of a composite column. -/
  elementDelimiter : Value := .text ";"
  /-- Ends a written line. -/
  lineDelimiter : Value := .text "\n"
  /-- Surrounds fields that hold structural characters; null for no quoting. -/
  quote : Value := .text "\""
  /-- Protects the character behind it; null for none. -/
  escape : Value := .null
  /-- Stands for null; null for none. -/
  nullLiteral : Value := .null
  /-- Are comment lines skipped? -/
  allowComments : Value := .bool false
  /-- Are malformed records dropped? -/
  ignoreMalformed : Value := .bool false

/-- The names of the options. -/
inductive SettingName where
  /-- Separates the fields of a line. -/
  | fieldDelimiter
  /-- Separates the leaves of a composite column. -/
  | elementDelimiter
  /-- Ends a written line. -/
  | lineDelimiter
  /-- Surrounds fields. -/
  | quote
  /-- Protects the character behind it. -/
  | escape
  /-- Stands for null. -/
  | nullLiteral
  /-- Are comment lines skipped? -/
  | allowComments
  /-- Are malformed records dropped? -/
  | ignoreMalformed
  deriving DecidableEq

namespace SettingName

/-- All options. -/
def all : List SettingName :=
  [fieldDelimiter, elementDelimiter, lineDelimiter, quote, escape, nullLiteral, allowComments,
    ignoreMalformed]

/-- The name of an option, as callers and messages write it. -/
def key : SettingName → String
  | fieldDelimiter => "field_delimiter"
  | elementDelimiter => "array_element_delimiter"
  | lineDelimiter => "line_delimiter"
  | quote => "quote_character"
  | escape => "escape_character"
  | nullLiteral => "null_literal"
  | allowComments => "allow_comments"
  | ignoreMalformed => "ignore_parse_errors"

/-- The option of a name. -/
def ofKey? (key : Text) : Option SettingName := all.find? fun name => Text.ofString name.key == key

end SettingName

/-- Why settings make no dialect. -/
inductive SettingsError where
  /-- A value of the given kind stands where settings are wanted. -/
  | notSettings (kind : String)
  /-- The value is no single character. -/
  | notCharacter (name : SettingName) (given : Value)
  /-- The character is a line break. -/
  | lineBreak (name : SettingName)
  /-- Two options are the same character. -/
  | clash (first second : SettingName) (c : CodePoint)
  /-- The value cannot end a line. -/
  | lineDelimiter (given : Value)
  /-- The value cannot stand for null. -/
  | nullLiteral (given : Value)
  /-- The null literal holds characters that structure lines. -/
  | reserved (literal : Text) (characters : List CodePoint)
  /-- The value is no truth value. -/
  | notFlag (name : SettingName) (given : Value)

namespace Settings

/-- What may end a line: nothing, or one of the three line breaks. -/
def lineDelimiters : List Text := ["", "\n", "\r", "\r\n"]

end Settings

namespace SettingsError

/-- The wording of a refusal, with so many levels left to show values. -/
def message (levels : Nat) : SettingsError → Except ShowFault Text
  | notSettings kind => .ok (("Expected CsvConfig, got " : Text) ++ Text.ofString kind)
  | notCharacter name given =>
    (given.literal levels).map fun shown =>
      Text.ofString name.key ++ (" must be a single character, got " : Text) ++ shown
  | lineBreak name => .ok (Text.ofString name.key ++ (" must not be a line break" : Text))
  | clash first second c =>
    .ok (Text.ofString first.key ++ (" and " : Text) ++ Text.ofString second.key
      ++ (" are both " : Text) ++ Text.quoted [c])
  | lineDelimiter given =>
    (given.literal levels).map fun shown =>
      ("line_delimiter must be one of " : Text)
        ++ Value.tupleText (Settings.lineDelimiters.map Text.quoted) ++ (", got " : Text) ++ shown
  | nullLiteral given =>
    (given.literal levels).map (("null_literal must be a string, got " : Text) ++ ·)
  | reserved literal characters =>
    .ok (("null_literal " : Text) ++ literal.quoted ++ (" contains reserved characters " : Text)
      ++ Value.listText (characters.map fun c => Text.quoted [c]))
  | notFlag name given =>
    (given.literal levels).map fun shown =>
      Text.ofString name.key ++ (" must be a bool, got " : Text) ++ shown

/-- The failure to make a dialect. -/
def failure (levels : Nat) (e : SettingsError) : Failure :=
  .showing .configuration (e.message levels)

end SettingsError

namespace Settings

/-- Replaces the value of an option. -/
def set (s : Settings) (name : SettingName) (v : Value) : Settings :=
  match name with
  | .fieldDelimiter => { s with fieldDelimiter := v }
  | .elementDelimiter => { s with elementDelimiter := v }
  | .lineDelimiter => { s with lineDelimiter := v }
  | .quote => { s with quote := v }
  | .escape => { s with escape := v }
  | .nullLiteral => { s with nullLiteral := v }
  | .allowComments => { s with allowComments := v }
  | .ignoreMalformed => { s with ignoreMalformed := v }

/-- The value of an option. -/
def get (s : Settings) : SettingName → Value
  | .fieldDelimiter => s.fieldDelimiter
  | .elementDelimiter => s.elementDelimiter
  | .lineDelimiter => s.lineDelimiter
  | .quote => s.quote
  | .escape => s.escape
  | .nullLiteral => s.nullLiteral
  | .allowComments => s.allowComments
  | .ignoreMalformed => s.ignoreMalformed

/-- The character that the value is. -/
def character (name : SettingName) (v : Value) : Except SettingsError CodePoint :=
  match v with
  | .text [c] => if c.isLineBreak then .error (.lineBreak name) else .ok c
  | v => .error (.notCharacter name v)

/-- The character that the value is, if it is not null. -/
def optionalCharacter (name : SettingName) (v : Value) :
    Except SettingsError (Option CodePoint) :=
  match v with
  | .null => .ok none
  | v => (character name v).map some

/-- Checks that no character is used twice; the clash with the earliest option is reported. -/
def checkDistinct : List (SettingName × CodePoint) → Except SettingsError Unit
  | [] => .ok ()
  | (name, c) :: rest =>
    match rest.find? (·.2 == c) with
    | some (other, _) => .error (.clash name other c)
    | none => checkDistinct rest

/-- The line delimiter that the value is. -/
def checkLineDelimiter (v : Value) : Except SettingsError Text :=
  match v with
  | .text t => if lineDelimiters.contains t then .ok t else .error (.lineDelimiter (.text t))
  | v => .error (.lineDelimiter v)

/-- The null literal that the value is, given the characters that structure a line. -/
def checkNullLiteral (reserved : List CodePoint) (v : Value) :
    Except SettingsError (Option Text) :=
  match v with
  | .null => .ok none
  | .text t =>
    match (reserved.filter t.contains).mergeSort (· ≤ ·) with
    | [] => .ok (some t)
    | clash => .error (.reserved t clash)
  | v => .error (.nullLiteral v)

/-- The truth value that the value is. -/
def flag (name : SettingName) (v : Value) : Except SettingsError Bool :=
  match v with
  | .bool b => .ok b
  | v => .error (.notFlag name v)

/-- An option with its character, if it has one. -/
def named (name : SettingName) (c : Option CodePoint) : List (SettingName × CodePoint) :=
  c.toList.map (name, ·)

/-- The dialect of unambiguous settings. -/
def dialect (s : Settings) : Except SettingsError Dialect := do
  let fieldDelimiter ← character .fieldDelimiter s.fieldDelimiter
  let elementDelimiter ← character .elementDelimiter s.elementDelimiter
  let quote ← optionalCharacter .quote s.quote
  let escape ← optionalCharacter .escape s.escape
  checkDistinct <|
    [(.fieldDelimiter, fieldDelimiter), (.elementDelimiter, elementDelimiter)]
      ++ named .quote quote ++ named .escape escape
  let lineDelimiter ← checkLineDelimiter s.lineDelimiter
  let nullLiteral ←
    checkNullLiteral ([fieldDelimiter, elementDelimiter, .ofChar '\r', .ofChar '\n']
      ++ quote.toList) s.nullLiteral
  let allowComments ← flag .allowComments s.allowComments
  let ignoreMalformed ← flag .ignoreMalformed s.ignoreMalformed
  return { fieldDelimiter, elementDelimiter, lineDelimiter, quote, escape, nullLiteral,
           allowComments, ignoreMalformed }

end Settings

end Delimited
