import Delimited.Proofs.Result
import Delimited.Schema.Basic

/-!
# Schemas from names and types

A list of values is accepted as column names if they are distinct texts that are not empty. With as
many types, such names make the schema that has them, `ofTypes_eq_ok`; the default names are used
where none is given.
-/

namespace Delimited

namespace Schema

/-- A schema is its columns. -/
theorem eq_of_columns {s s' : Schema} (h : s.columns = s'.columns) : s = s' := by
  cases s
  cases s'
  simpa using h

/-- Columns are their names and types. -/
theorem zipWith_names_types (s : Schema) : List.zipWith Column.mk s.names s.types = s.columns := by
  rw [names, types, List.zipWith_map, List.zipWith_self]
  exact List.map_id' s.columns

/-- A schema has at least one type. -/
theorem types_ne_nil (s : Schema) : s.types ≠ [] := by
  unfold types
  exact fun h => s.columns_ne_nil (List.map_eq_nil_iff.1 h)

/-- There are as many names as types. -/
theorem length_names (s : Schema) : s.names.length = s.types.length := by
  rw [names, types, List.length_map, List.length_map]

/-- The names of a schema are not empty. -/
theorem ne_nil_of_mem_names {s : Schema} : ∀ n ∈ s.names, n ≠ [] :=
  List.forall_mem_map.2 s.name_ne_nil

/-- Only texts are accepted as names, as they are. -/
theorem eq_map_text_of_checkNames {seen : List Text} {values : List Value} {names : List Text}
    (h : checkNames seen values = .ok names) : values = names.map Value.text := by
  induction values generalizing seen names with
  | nil =>
    cases h
    rfl
  | cons v values ih =>
    unfold checkNames at h
    split at h
    · next c name =>
      split at h
      · cases h
      · obtain ⟨names, hnames, rfl⟩ := Except.map_eq_ok.1 h
        rw [List.map_cons, ← ih hnames]
    · cases h

/-- Distinct texts are accepted as names if they are neither empty nor seen. -/
theorem checkNames_map_text {seen names : List Text} (hnodup : names.Nodup)
    (hnames : ∀ n ∈ names, n ≠ [] ∧ n ∉ seen) :
    checkNames seen (names.map Value.text) = .ok names := by
  induction names generalizing seen with
  | nil => rfl
  | cons n names ih =>
    obtain ⟨⟨hne, hseen⟩, htail⟩ := List.forall_mem_cons.1 hnames
    obtain ⟨hn, hnodup_tail⟩ := List.nodup_cons.1 hnodup
    obtain ⟨c, name, rfl⟩ := List.exists_cons_of_ne_nil hne
    have hrest : ∀ m ∈ names, m ≠ [] ∧ m ∉ (c :: name) :: seen := by
      intro m hm
      refine ⟨(htail m hm).1, fun hmem => ?_⟩
      rcases List.mem_cons.1 hmem with rfl | hmem
      · exact hn hm
      · exact (htail m hm).2 hmem
    rw [List.map_cons, checkNames, if_neg (by simpa using hseen), ih hnodup_tail hrest]
    rfl

/-- The columns of names and types have these names. -/
theorem names_ofColumns {names : List Text} {types : List ColumnType}
    (hlen : names.length = types.length) (hne : types ≠ []) (hname : ∀ n ∈ names, n ≠ [])
    (hnodup : names.Nodup) : (ofColumns names types hlen hne hname hnodup).names = names :=
  map_name_zipWith hlen

/-- The columns of names and types have these types. -/
theorem types_ofColumns {names : List Text} {types : List ColumnType}
    (hlen : names.length = types.length) (hne : types ≠ []) (hname : ∀ n ∈ names, n ≠ [])
    (hnodup : names.Nodup) : (ofColumns names types hlen hne hname hnodup).types = types := by
  show (List.zipWith Column.mk names types).map Column.type = types
  rw [← List.map_uncurry_zip_eq_zipWith, List.map_map]
  exact List.map_snd_zip (Nat.le_of_eq hlen.symm)

/-- The values that are used as names: the given ones, or the default names if none is given. -/
def namesFor (types : List ColumnType) (given : List Value) : List Value :=
  if given.isEmpty then (defaultNames types.length).map Value.text else given

/-- Given names are used. -/
theorem namesFor_map_text {names : List Text} (h : names ≠ []) (types : List ColumnType) :
    namesFor types (names.map Value.text) = names.map Value.text := by
  rw [namesFor, if_neg]
  simpa using h

/-- How a schema is made, with the values that are used as names. -/
theorem ofTypes_eq (types : List ColumnType) (given : List Value) :
    ofTypes types given =
      if hlen : (namesFor types given).length = types.length then
        match hnames : checkNames [] (namesFor types given) with
        | .error e => .error e
        | .ok names =>
          if hne : types = [] then .error .noColumn
          else
            have hok := checkNames_ok hnames
            .ok (ofColumns names types (hok.2.2.trans hlen) hne (fun n hn => (hok.2.1 n hn).1)
              hok.1)
      else .error (.nameCount types.length (namesFor types given).length) :=
  rfl

/-- Types and names make a schema if it has them; without names it has the default names. -/
theorem ofTypes_eq_ok {types : List ColumnType} {given : List Value} {s : Schema} :
    ofTypes types given = .ok s ↔
      s.types = types ∧ s.names.map Value.text = namesFor types given := by
  rw [ofTypes_eq]
  constructor
  · intro h
    split at h
    · split at h
      · cases h
      · next names hnames =>
        split at h
        · cases h
        · cases h
          rw [types_ofColumns, names_ofColumns, eq_map_text_of_checkNames hnames]
          exact ⟨rfl, rfl⟩
    · cases h
  · rintro ⟨rfl, hvalues⟩
    have hcheck : checkNames [] (namesFor s.types given) = .ok s.names := by
      rw [← hvalues]
      exact checkNames_map_text s.names_nodup fun n hn =>
        ⟨ne_nil_of_mem_names n hn, List.not_mem_nil⟩
    rw [dif_pos (by rw [← hvalues, List.length_map, s.length_names])]
    split
    · next h => cases h.symm.trans hcheck
    · next h =>
      cases h.symm.trans hcheck
      rw [dif_neg s.types_ne_nil]
      exact congrArg Except.ok (eq_of_columns s.zipWith_names_types)

end Schema

end Delimited
