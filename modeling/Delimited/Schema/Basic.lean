import Delimited.Schema.TypeSpec

/-!
# Schemas

A schema is a list of columns, each with a name and a type: at least one, and no two of one name.
It is built from types and names, where columns without given names are `f0`, `f1` and so on, or
read from text: `id:LONG, tags:ARRAY<STRING>`.
-/

namespace Delimited

/-- A column of a schema. -/
structure Column where
  /-- The name. -/
  name : Text
  /-- The type. -/
  type : ColumnType
  deriving DecidableEq

/-- The columns of a row, in order. -/
structure Schema where
  /-- The columns. -/
  columns : List Column
  /-- There is a column. -/
  columns_ne_nil : columns ≠ []
  /-- Every column has a name. -/
  name_ne_nil : ∀ c ∈ columns, c.name ≠ []
  /-- No two columns have the same name. -/
  names_nodup : (columns.map Column.name).Nodup

namespace Schema

/-- The names of the columns. -/
def names (s : Schema) : List Text := s.columns.map Column.name

/-- The types of the columns. -/
def types (s : Schema) : List ColumnType := s.columns.map Column.type

/-- How many columns there are. -/
def arity (s : Schema) : Nat := s.columns.length

/-- A column as it is written. -/
def columnText (c : Column) : Text := c.name ++ .ofChar ':' :: c.type.text

/-- The schema as it is written. -/
def text (s : Schema) : Text := Text.join ", " (s.columns.map columnText)

/-- The names of columns that were given none: `f` and the index. -/
def defaultNames (count : Nat) : List Text :=
  (List.range count).map fun i => .ofChar 'f' :: Digits.ofNat i

/-- The values as column names, which are distinct texts with at least one character. The first
value that is no name, or repeats one, is reported. -/
def checkNames : (seen : List Text) → List Value → Except SchemaError (List Text)
  | _, [] => .ok []
  | seen, v :: rest =>
    match v with
    | .text (c :: name) =>
      if seen.contains (c :: name) then .error (.duplicateName (c :: name))
      else (checkNames ((c :: name) :: seen) rest).map ((c :: name) :: ·)
    | v => .error (.badName v)

/-- What `checkNames` lets through is distinct, not empty, and avoids the names seen before. -/
theorem checkNames_ok {seen : List Text} {values : List Value} {names : List Text}
    (h : checkNames seen values = .ok names) :
    names.Nodup ∧ (∀ n ∈ names, n ≠ [] ∧ n ∉ seen) ∧ names.length = values.length := by
  induction values generalizing seen names with
  | nil => cases h; simp
  | cons v rest ih =>
    unfold checkNames at h
    split at h
    · next c name =>
      split at h
      · cases h
      · next hseen =>
        cases hrest : checkNames ((c :: name) :: seen) rest with
        | error e => rw [hrest] at h; cases h
        | ok ns =>
          rw [hrest] at h
          cases h
          obtain ⟨hnd, hmem, hlen⟩ := ih hrest
          refine ⟨List.nodup_cons.2 ⟨fun hc => (hmem _ hc).2 (by simp), hnd⟩, ?_, by simp [hlen]⟩
          intro n hn
          rcases List.mem_cons.1 hn with rfl | hn
          · exact ⟨by simp, by simpa using hseen⟩
          · exact ⟨(hmem n hn).1, fun hs => (hmem n hn).2 (by simp [hs])⟩
    · cases h

/-- The column names that a value lists; a value that counts as absent lists none. -/
def listedNames (names : Value) : Except SchemaError (List Value) :=
  if names.isEmptyOrZero then .ok []
  else
    match names.members? with
    | some members => .ok members
    | none => .error (.namesNotListed names.qualifiedKindName)

/-- Columns made of names and as many types have these names. -/
theorem map_name_zipWith {names : List Text} {types : List ColumnType}
    (h : names.length = types.length) :
    (List.zipWith Column.mk names types).map Column.name = names := by
  induction names generalizing types with
  | nil => simp
  | cons n ns ih =>
    cases types with
    | nil => simp at h
    | cons t ts => simp [ih (by simpa using h)]

/-- The columns of a non-empty list of types and as many distinct, non-empty names. -/
def ofColumns (names : List Text) (types : List ColumnType) (hlen : names.length = types.length)
    (hne : types ≠ []) (hname : ∀ n ∈ names, n ≠ []) (hnodup : names.Nodup) : Schema where
  columns := List.zipWith Column.mk names types
  columns_ne_nil := by
    intro h
    rcases List.zipWith_eq_nil_iff.1 h with h | h
    · exact hne (List.length_eq_zero_iff.1 (by rw [← hlen, h]; rfl))
    · exact hne h
  name_ne_nil := by
    intro c hc
    have : c.name ∈ (List.zipWith Column.mk names types).map Column.name := List.mem_map_of_mem hc
    rw [map_name_zipWith hlen] at this
    exact hname _ this
  names_nodup := by rwa [map_name_zipWith hlen]

/-- The schema of these types with these names, or with default names if no name is given. -/
def ofTypes (types : List ColumnType) (given : List Value) : Except SchemaError Schema :=
  let values := if given.isEmpty then (defaultNames types.length).map Value.text else given
  if hlen : values.length = types.length then
    match hnames : checkNames [] values with
    | .error e => .error e
    | .ok names =>
      if hne : types = [] then .error .noColumn
      else
        have hok := checkNames_ok hnames
        .ok (ofColumns names types (hok.2.2.trans hlen) hne (fun n hn => (hok.2.1 n hn).1) hok.1)
  else .error (.nameCount types.length values.length)

/-- The schema of the given types and names. The types are looked at first. -/
def create (types : Except SchemaError (List ColumnType)) (names : Value) :
    Except SchemaError Schema := do
  let types ← types
  if types.isEmpty then throw .noColumn
  ofTypes types (← listedNames names)

end Schema

end Delimited
