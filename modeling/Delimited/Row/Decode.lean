import Delimited.Field.Decode
import Delimited.Leaf.Read
import Delimited.Row.Error
import Delimited.Schema.Basic

/-!
# Decoding records

A record is split into fields, and each field is decoded as its column's type says. The null
literal is null in every column; blanks around it, and around all leaves but texts, do not count.
Columns that the record does not reach are null.
-/

namespace Delimited

namespace Dialect

/-- Does a field stand for null in a column of this type? -/
def standsForNull (d : Dialect) (type : ColumnType) (t : Text) : Bool :=
  match d.nullLiteral with
  | none => false
  | some literal => if type.isFreeText then t == literal else t.trim == literal

/-- Decodes a leaf. -/
def readLeaf (d : Dialect) (type : LeafType) (t : Text) : Except ReadError Value :=
  if type = .null || d.standsForNull (.leaf type) t then .ok .null
  else type.read (if type = .string then t else t.trim)

/-- The leaves of a composite column's text. -/
def elements (d : Dialect) (t : Text) : Except ColumnFault (List Text) :=
  ((d.marks d.elementDelimiter).split false t).mapError .split

/-- Decodes leaves of the given types. -/
def readLeaves (d : Dialect) (leaves : List (LeafType × Text)) :
    Except ColumnFault (List Value) :=
  leaves.mapM fun (type, t) => (d.readLeaf type t).mapError .leaf

/-- Decodes a field as a column of the given type. The empty text is an empty array, and a null
row. -/
def readColumn (d : Dialect) (type : ColumnType) (t : Text) : Except ColumnFault Value :=
  if d.standsForNull type t then .ok .null
  else
    match type with
    | .leaf type => (d.readLeaf type t).mapError .leaf
    | .array element => do
      if t.isEmpty then return .sequence .list []
      let parts ← d.elements t
      return .sequence .list (← d.readLeaves (parts.map (element, ·)))
    | .row first others => do
      if t.isEmpty then return .null
      let parts ← d.elements t
      let fields := first :: others
      if parts.length = fields.length then
        return .sequence .tuple (← d.readLeaves (fields.zip parts))
      else throw (.leafCount parts.length fields.length)

/-- The classes of failures that make a field malformed. -/
def caughtInColumn : List ErrorClass := [.value, .arithmetic]

/-- Decodes the fields of the columns from an index on; missing fields are null. -/
def readColumns (d : Dialect) (index : Nat) : List Column → List Text →
    Except DecodeError (List Value)
  | [], _ => .ok []
  | _ :: columns, [] => do return .null :: (← d.readColumns (index + 1) columns [])
  | c :: columns, t :: fields =>
    match d.readColumn c.type t with
    | .ok v => do return v :: (← d.readColumns (index + 1) columns fields)
    | .error f =>
      .error (.ofCaught caughtInColumn f.failure ⟨some ⟨index, c.name⟩, t, .column c.type f⟩)

/-- The fields of a record. -/
def recordFields (d : Dialect) (t : Text) : Except SplitFault (List Text) :=
  (d.marks d.fieldDelimiter).split true t

end Dialect

namespace Schema

/-- Decodes the text of a record. -/
def decodeRecord (s : Schema) (d : Dialect) (t : Text) : Except DecodeError (List Value) :=
  match d.recordFields t with
  | .error f => .error (.ofCaught [.value] f.failure ⟨none, t, .split f⟩)
  | .ok fields =>
    if fields.length ≤ s.arity then d.readColumns 0 s.columns fields
    else .error (.malformed ⟨none, t, .columnCount fields.length s.arity⟩)

end Schema

end Delimited
