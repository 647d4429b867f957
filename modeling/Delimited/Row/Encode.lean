import Delimited.Field.Quoting
import Delimited.Leaf.Write
import Delimited.Row.Error
import Delimited.Schema.Basic

/-!
# Encoding rows

A row is encoded column by column. A leaf is written as its type says, a composite column as its
leaves with the element delimiter between them, each quoted where it has to be. The text of a
column is then quoted as a field. Null is the null literal, or nothing, and never quoted.
-/

namespace Delimited

/-- The error of a leaf as that of its column. -/
def WriteError.ofColumn : WriteError → ColumnError
  | refused r => .refused (.leaf r)
  | overflow => .overflow

namespace Dialect

/-- The text of a leaf within a composite column. -/
def nestedText (d : Dialect) (type : LeafType) (v : Value) : Except ColumnError Text :=
  match v with
  | .null => .ok d.nullText
  | v =>
    match type.write v with
    | .ok t => .ok (d.leafText type t)
    | .error e => .error e.ofColumn

/-- The leaves of a composite column joined. -/
def compositeText (d : Dialect) (leaves : List (LeafType × Value)) : Except ColumnError Text := do
  let parts ← leaves.mapM fun (type, v) => d.nestedText type v
  return Text.join [d.elementDelimiter] parts

/-- The items of a value that is to fill a composite column. -/
def compositeItems (v : Value) : Except ColumnError (List Value) :=
  match v.items? with
  | some items => .ok items
  | none => .error (.refused (.notSequence v.kindName))

/-- The text of a value that is not null in a column, before it is quoted as a field. -/
def columnText (d : Dialect) (type : ColumnType) (v : Value) : Except ColumnError Text :=
  match type with
  | .leaf type => (type.write v).mapError WriteError.ofColumn
  | .row first others => do
    let items ← compositeItems v
    let fields := first :: others
    if items.length = fields.length then d.compositeText (fields.zip items)
    else throw (.refused (.leafCount items.length fields.length))
  | .array element => do
    let items ← compositeItems v
    d.compositeText (items.map (element, ·))

/-- The refusal of a column's text that holds surrogates. -/
def checkEncodable (t : Text) : Except ColumnError Unit :=
  match Utf8.unencodable? t with
  | some u => .error (.refused (.unencodable u))
  | none => .ok ()

/-- What comes of a column's error: a mismatch, if it is a failure of one of two classes. -/
def columnMismatch (index : Nat) (c : Column) (v : Value) (e : ColumnError) : EncodeError :=
  if e.failure.errorClass.isAmong [.type, .value] then
    .mismatch ⟨some ⟨index, c.name⟩, v, .column c.type e⟩
  else .escaped e

/-- The text of a column in the line. -/
def writeColumn (d : Dialect) (index : Nat) (c : Column) (v : Value) : Except EncodeError Text :=
  match v with
  | .null => .ok d.nullText
  | v =>
    -- The text is checked for surrogates before it is quoted, as quoting would move them.
    match (do let t ← d.columnText c.type v; checkEncodable t; return t) with
    | .ok t => .ok (d.fieldText c.type (index == 0) t)
    | .error e => .error (columnMismatch index c v e)

/-- The texts of the columns from an index on. -/
def writeColumns (d : Dialect) (index : Nat) : List Column → List Value →
    Except EncodeError (List Text)
  | c :: columns, v :: values => do
    let t ← d.writeColumn index c v
    return t :: (← d.writeColumns (index + 1) columns values)
  | _, _ => .ok []

end Dialect

namespace Schema

/-- The values of a row in the order of the columns. A mapping gives them by name, null where it
has no entry; a sequence has to have as many as there are columns. -/
def rowValues (s : Schema) (row : Value) : Except EncodeError (List Value) :=
  match row with
  | .mapping _ entries => .ok (s.names.map (Value.lookup entries))
  | row =>
    match row.items? with
    | none => .error (.mismatch ⟨none, row, .notRow row.kindName⟩)
    | some items =>
      if items.length = s.arity then .ok items
      else .error (.mismatch ⟨none, row, .fieldCount items.length s.arity⟩)

end Schema

end Delimited
