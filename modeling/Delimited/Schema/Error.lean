import Delimited.ColumnType
import Delimited.Value.Literal

/-!
# Why there is no such type or schema

The causes for which types and schemas are refused, and their wording. Some of them show what was
given, which is a type or any other value.
-/

namespace Delimited

/-- What a caller gives for a type. -/
inductive TypeSpec where
  /-- A type. -/
  | type (t : ColumnType)
  /-- A value, which is a type only if it is the text of one. -/
  | value (v : Value)

/-- The specification as messages show it. -/
def TypeSpec.literal (levels : Nat) : TypeSpec → Except ShowFault Text
  | type t => .ok t.literal
  | value v => v.literal levels

/-- What types are listed for. -/
inductive TypeOwner where
  /-- The fields of a row type. -/
  | row
  /-- The element of an array type. -/
  | array
  /-- The columns of a schema. -/
  | schema

/-- The name of an owner. -/
def TypeOwner.name : TypeOwner → Text
  | row => ColumnType.rowName
  | array => ColumnType.arrayName
  | schema => "Schema"

/-- What is wrong at a place of a written type. -/
inductive TypeTextFault where
  /-- A certain character has to stand there. -/
  | expected (c : CodePoint)
  /-- A type name has to stand there. -/
  | nameExpected
  /-- The name before that place is no type. -/
  | unknown (name : Text)
  /-- The type is complete before that place. -/
  | trailing

/-- The wording of a fault in a written type. -/
def TypeTextFault.message : TypeTextFault → Text
  | expected c => ("expected " : Text) ++ Text.quoted [c]
  | nameExpected => "expected a type name"
  | unknown name => ("unknown type " : Text) ++ name.quoted
  | trailing => "unexpected trailing text"

/-- Why a type or a schema is refused. -/
inductive SchemaError where
  /-- A written type is malformed. -/
  | typeText (text : Text) (position : Nat) (fault : TypeTextFault)
  /-- In a written type too many composites stand within one another. -/
  | tooDeep
  /-- A composite within a composite. -/
  | nested (owner : TypeOwner) (inner : ColumnType)
  /-- A value that is no type. -/
  | unsupported (given : Value)
  /-- Something that is no list of types. -/
  | notTypes (owner : TypeOwner) (given : TypeSpec)
  /-- A row type without fields. -/
  | noField
  /-- A schema without columns. -/
  | noColumn
  /-- A blank between the commas of a written schema. -/
  | emptyColumn (text : Text)
  /-- Some, but not all columns of a written schema have names. -/
  | mixedNames (text : Text)
  /-- Not as many names as columns. -/
  | nameCount (columns names : Nat)
  /-- A value that is no column name. -/
  | badName (given : Value)
  /-- A name that two columns have. -/
  | duplicateName (name : Text)
  /-- The names are of a kind that cannot be walked through. -/
  | namesNotListed (kind : String)

namespace SchemaError

/-- The wording of a refusal, with so many levels left to show values. -/
def message (levels : Nat) : SchemaError → Except ShowFault Text
  | typeText text position fault =>
    .ok (("Invalid type string " : Text) ++ text.quoted ++ (" at " : Text) ++ Digits.ofNat position
      ++ (": " : Text) ++ fault.message)
  | tooDeep => .ok "maximum recursion depth exceeded while calling a Python object"
  | nested owner inner =>
    .ok (owner.name ++ (" may only contain leaf types; nested " : Text) ++ inner.text
      ++ (" is not supported" : Text))
  | unsupported given => (given.literal levels).map (("Unsupported type: " : Text) ++ ·)
  | notTypes owner given =>
    (given.literal levels).map fun shown =>
      owner.name ++ (" fields must be a sequence of types, got " : Text) ++ shown
  | noField => .ok "ROW type requires at least one field"
  | noColumn => .ok "Schema requires at least one column"
  | emptyColumn text => .ok (("Empty column in schema string " : Text) ++ text.quoted)
  | mixedNames text =>
    .ok (("Schema string " : Text) ++ text.quoted ++ (" mixes named and unnamed columns" : Text))
  | nameCount columns names =>
    .ok (("Schema has " : Text) ++ Digits.ofNat columns ++ (" columns but " : Text)
      ++ Digits.ofNat names ++ (" names" : Text))
  | badName given => (given.literal levels).map (("Invalid column name: " : Text) ++ ·)
  | duplicateName name => .ok (("Duplicate column name: " : Text) ++ name.quoted)
  | namesNotListed kind =>
    .ok (("'" : Text) ++ Text.ofString kind ++ ("' object is not iterable" : Text))

/-- The class of a refusal. -/
def errorClass : SchemaError → ErrorClass
  | tooDeep => .recursion
  | namesNotListed _ => .type
  | typeText .. | nested .. | unsupported _ | notTypes .. | noField | noColumn | emptyColumn _
  | mixedNames _ | nameCount .. | badName _ | duplicateName _ => .configuration

/-- The failure to make a type or a schema. -/
def failure (levels : Nat) (e : SchemaError) : Failure := .showing e.errorClass (e.message levels)

end SchemaError

/-- The single value that a composite type is to hold; composites do not nest. -/
def ColumnType.asLeaf (owner : TypeOwner) : ColumnType → Except SchemaError LeafType
  | .leaf type => .ok type
  | inner => .error (.nested owner inner)

/-- The row type of these fields. -/
def ColumnType.ofFields (fields : List LeafType) : Except SchemaError ColumnType :=
  match fields with
  | [] => .error .noField
  | first :: others => .ok (.row first others)

end Delimited
