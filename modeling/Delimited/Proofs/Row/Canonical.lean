import Delimited.Proofs.Leaf.Canonical
import Delimited.Proofs.Row.Columns

/-!
# Canonical rows

The canonical form of a row has its values in the order of the columns, each leaf in canonical form,
the rows among the columns as tuples and the arrays as lists. A row and its canonical form are
encoded as the same line.
-/

namespace Delimited

/-- Null is canonical in every leaf. -/
theorem LeafType.canonical_null (type : LeafType) : type.canonical .null = .null := by
  cases type <;> rfl

/-- The canonical forms of the leaves of a column's value. -/
def ColumnType.canonicalLeaves (type : ColumnType) (v : Value) : List Value :=
  (type.leaves v).map fun leaf => leaf.1.canonical leaf.2

/-- The value that is read back for a value of a column. -/
def ColumnType.canonical (type : ColumnType) (v : Value) : Value :=
  match type, v with
  | _, .null => .null
  | leaf type, v => type.canonical v
  | row first others, v => .sequence .tuple ((row first others).canonicalLeaves v)
  | array element, v => .sequence .list ((array element).canonicalLeaves v)

/-- The values that are read back for the values of a row. -/
def Schema.canonical (s : Schema) (values : List Value) : List Value :=
  List.zipWith (fun c v => c.type.canonical v) s.columns values

namespace ColumnType

variable {v : Value} {items : List Value}

/-- A value with items is not null. -/
theorem ne_null_of_items? (h : v.items? = some items) : v ≠ .null := by
  rintro rfl
  cases h

/-- The canonical form of a leaf that is not null. -/
theorem canonical_leaf (type : LeafType) (v : Value) :
    (leaf type).canonical v = type.canonical v := by
  cases v with
  | null => rw [LeafType.canonical_null]; rfl
  | _ => rfl

/-- The canonical form of a row. -/
theorem canonical_row {first : LeafType} {others : List LeafType} (hv : v ≠ .null) :
    (row first others).canonical v = .sequence .tuple ((row first others).canonicalLeaves v) := by
  cases v <;> first | rfl | exact absurd rfl hv

/-- The canonical form of an array. -/
theorem canonical_array {element : LeafType} (hv : v ≠ .null) :
    (array element).canonical v = .sequence .list ((array element).canonicalLeaves v) := by
  cases v <;> first | rfl | exact absurd rfl hv

/-- The leaves of a row are its items with the types. -/
theorem leaves_row {first : LeafType} {others : List LeafType} (h : v.items? = some items) :
    (row first others).leaves v = (first :: others).zip items := by
  simp [leaves, h]

/-- The leaves of an array are its items with the type. -/
theorem leaves_array {element : LeafType} (h : v.items? = some items) :
    (array element).leaves v = items.map (element, ·) := by
  simp [leaves, h]

/-- Types zipped with what a function makes of them and of items: the function made of each pair. -/
theorem zip_map_zip {α β : Type} (f : α × β → β) {as : List α} {bs : List β}
    (h : bs.length = as.length) :
    as.zip ((as.zip bs).map f) = (as.zip bs).map fun p => (p.1, f p) := by
  induction as generalizing bs with
  | nil => rfl
  | cons a as ih =>
    obtain ⟨b, bs, rfl⟩ := List.exists_cons_of_length_eq_add_one h
    simpa using ih (by simpa using h)

end ColumnType

namespace Dialect

variable {d : Dialect}

/-- A leaf and its canonical form are written alike within a composite column. -/
theorem Nests.canonical {leaf : LeafType × Value} {t part : Text} (h : d.Nests leaf t part) :
    d.Nests (leaf.1, leaf.1.canonical leaf.2) t part := by
  cases h with
  | null type =>
    simp only [LeafType.canonical_null]
    exact .null type
  | leaf hv h => exact .leaf (h.canonical_ne_null hv) h.canonical

/-- Leaves and their canonical forms are written alike within a composite column. -/
theorem forall₂_nests_canonical {leaves : List (LeafType × Value)} {parts : List Text}
    (h : List.Forall₂ (fun leaf part => ∃ inner, d.Nests leaf inner part) leaves parts) :
    List.Forall₂ (fun leaf part => ∃ inner, d.Nests leaf inner part)
      (leaves.map fun leaf => (leaf.1, leaf.1.canonical leaf.2)) parts :=
  List.forall₂_map_left_iff.2 (h.imp fun _ _ ⟨inner, hnests⟩ => ⟨inner, hnests.canonical⟩)

/-- A value and its canonical form have the same text in a column. -/
theorem Fills.canonical {type : ColumnType} {v : Value} {t : Text} (h : d.Fills type v t) :
    d.Fills type (type.canonical v) t := by
  cases h with
  | leaf h =>
    rw [ColumnType.canonical_leaf]
    exact .leaf h.canonical
  | @row first others _ items parts hitems hlength hparts =>
    rw [ColumnType.canonical_row (ColumnType.ne_null_of_items? hitems), ColumnType.canonicalLeaves,
      ColumnType.leaves_row hitems]
    refine .row rfl ?_ ?_
    · simp only [List.length_map, List.length_zip, hlength, Nat.min_self]
    · rw [ColumnType.zip_map_zip _ hlength]
      exact forall₂_nests_canonical hparts
  | @array element _ items parts hitems hparts =>
    -- The items of the canonical form, with their type, are the canonical leaves with theirs.
    rw [ColumnType.canonical_array (ColumnType.ne_null_of_items? hitems),
      ColumnType.canonicalLeaves, ColumnType.leaves_array hitems]
    refine .array rfl ?_
    have hforall := forall₂_nests_canonical hparts
    rw [List.map_map] at hforall ⊢
    rw [List.map_map]
    exact hforall

/-- Only null has null as its canonical form in a column. -/
theorem Fills.canonical_ne_null {type : ColumnType} {v : Value} {t : Text} (h : d.Fills type v t)
    (hv : v ≠ .null) : type.canonical v ≠ .null := by
  cases h with
  | leaf h =>
    rw [ColumnType.canonical_leaf]
    exact h.canonical_ne_null hv
  | row =>
    rw [ColumnType.canonical_row hv]
    exact fun heq => nomatch heq
  | array =>
    rw [ColumnType.canonical_array hv]
    exact fun heq => nomatch heq

/-- A value and its canonical form stand alike in a line. -/
theorem Stands.canonical {first : Bool} {type : ColumnType} {v : Value} {t field : Text}
    (h : d.Stands first type v t field) : d.Stands first type (type.canonical v) t field := by
  cases h with
  | null => cases type <;> exact .null
  | text hv h hencodable => exact .text (h.canonical_ne_null hv) h.canonical hencodable

/-- The values of a row and their canonical forms make the same line. -/
theorem Lines.canonical {first : Bool} {columns : List Column} {values : List Value}
    {ts fields : List Text} (h : d.Lines first columns values ts fields) :
    d.Lines first columns (List.zipWith (fun c v => c.type.canonical v) columns values) ts
      fields := by
  induction h with
  | nil => exact .nil
  | cons h _ ih => exact .cons h.canonical ih

end Dialect

/-- The canonical form of a row is encoded as the row is. -/
theorem Codec.encodeText_canonical {c : Codec} {values : List Value} {ts fields : List Text}
    (h : c.dialect.Lines true c.schema.columns values ts fields) :
    c.encodeText (.sequence .tuple (c.schema.canonical values))
      = .ok (Text.join [c.dialect.fieldDelimiter] fields ++ c.dialect.lineDelimiter) := by
  have hlines := h.canonical
  exact encodeText_eq_ok.2 ⟨_, ts, fields, Schema.rowValues_tuple hlines.length_eq.1, hlines, rfl⟩

end Delimited
