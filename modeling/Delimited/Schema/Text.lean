import Delimited.Schema.Basic

/-!
# Written schemas

The columns of a written schema are separated by the commas outside of angle brackets. A column
is a type, or a name, a colon and a type; either all columns have names or none.
-/

namespace Delimited

namespace Schema

/-- Puts a character in front of the first part. -/
def consFirst (c : CodePoint) : List Text → List Text
  | [] => [[c]]
  | part :: parts => (c :: part) :: parts

/-- The parts of a text between the commas at bracket depth zero, given the depth before it. The
depth counts brackets without matching them, and may be negative. -/
def cutAtDepth (depth : Int) : Text → List Text
  | [] => [[]]
  | c :: rest =>
    if c = .ofChar '<' then consFirst c (cutAtDepth (depth + 1) rest)
    else if c = .ofChar '>' then consFirst c (cutAtDepth (depth - 1) rest)
    else if c = .ofChar ',' && depth = 0 then [] :: cutAtDepth depth rest
    else consFirst c (cutAtDepth depth rest)

/-- The parts of a written schema that are to be its columns. -/
def columnTexts (t : Text) : List Text := cutAtDepth 0 t

/-- The written name and the written type of a column; without a colon there is no name. -/
def splitColumn (item : Text) : Option Text × Text :=
  match item.dropWhile (· != .ofChar ':') with
  | [] => (none, item)
  | _ :: type => (some (Text.trim (item.takeWhile (· != .ofChar ':'))), type)

/-- Reads one column of the given written schema. -/
def parseColumn (whole part : Text) : Except SchemaError (Option Text × ColumnType) := do
  let item := part.trim
  if item.isEmpty then throw (.emptyColumn whole)
  let (name, type) := splitColumn item
  return (name, ← TypeText.parse type)

/-- Reads a written schema. -/
def parse (t : Text) : Except SchemaError Schema := do
  let columns ← (columnTexts t).mapM (parseColumn t)
  let names := columns.filterMap (·.1)
  if !names.isEmpty && names.length != columns.length then throw (.mixedNames t)
  ofTypes (columns.map (·.2)) (names.map Value.text)

end Schema

/-- What a caller gives for a schema. -/
inductive SchemaSpec where
  /-- A schema. -/
  | schema (s : Schema)
  /-- A list of types. -/
  | types (specs : List TypeSpec)
  /-- Anything that could be given for a type: a row type stands for its fields, a text is a
  written schema, another value may list types. -/
  | single (spec : TypeSpec)

namespace SchemaSpec

/-- The types that are meant as columns, where a text is not taken for a written schema. -/
def columnTypes : SchemaSpec → Except SchemaError (List ColumnType)
  | schema s => .ok s.types
  | types specs => specs.mapM TypeSpec.resolve
  | single (.type (.row first others)) => .ok ((first :: others).map ColumnType.leaf)
  | single spec => do (← spec.listed .schema).mapM TypeSpec.resolve

/-- The schema that is meant. -/
def resolve : SchemaSpec → Except SchemaError Schema
  | schema s => .ok s
  | single (.value (.text t)) => Schema.parse t
  | spec => Schema.create spec.columnTypes .null

end SchemaSpec

/-- The schema of the given types and names, the names looked at first. -/
def Schema.of (specs : List TypeSpec) (names : Value) : Except SchemaError Schema := do
  let given ← listedNames names
  create (specs.mapM TypeSpec.resolve) (.sequence .tuple given)

end Delimited
