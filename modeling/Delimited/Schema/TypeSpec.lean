import Delimited.Schema.TypeText

/-!
# Types as callers give them

A caller gives a type as such, as text, or as some other value, which is refused. Lists of types
come as any value that can be walked through, texts and fixed bytes excepted: those are taken for
a mistake.
-/

namespace Delimited

namespace TypeSpec

/-- The type that is meant. -/
def resolve : TypeSpec → Except SchemaError ColumnType
  | type t => .ok t
  | value (.text t) => TypeText.parse t
  | value v => .error (.unsupported v)

/-- The leaf type that is meant, for a part of a composite. -/
def resolveLeaf (owner : TypeOwner) (spec : TypeSpec) : Except SchemaError LeafType := do
  (← spec.resolve).asLeaf owner

/-- The specifications that a single one stands for where a list of types is wanted. -/
def listed (owner : TypeOwner) (spec : TypeSpec) : Except SchemaError (List TypeSpec) :=
  match spec with
  | type _ | value (.text _) | value (.bytes .fixed _) => .error (.notTypes owner spec)
  | value v =>
    match v.members? with
    | some members => .ok (members.map value)
    | none => .error (.notTypes owner spec)

end TypeSpec

namespace ColumnType

/-- The row type of the given fields. -/
def rowOf (fields : List TypeSpec) : Except SchemaError ColumnType := do
  ofFields (← fields.mapM (·.resolveLeaf .row))

/-- The row type of a value that lists its fields. -/
def rowOfValue (fields : Value) : Except SchemaError ColumnType := do
  rowOf (← (TypeSpec.value fields).listed .row)

/-- The array type of the given element. -/
def arrayOf (element : TypeSpec) : Except SchemaError ColumnType := do
  return .array (← element.resolveLeaf .array)

end ColumnType

end Delimited
