import Delimited.Proofs.Field.Terminator
import Delimited.Proofs.Row.RoundTrip
import Delimited.Proofs.Schema.Basic
import Mathlib.Data.List.Nodup

/-!
# Rows given by names

A row may be given as a mapping from the names of its columns or as a sequence. Both are turned into
the values of the columns before anything else is done, so it is enough that these are the same:
`Value.Sends` says when a mapping has a value for a name, and null counts as one that is left out.
In the other direction, the names of a schema are distinct keys, so that no value of a decoded row
is lost when it is given by names.
-/

namespace Delimited

namespace Value

/-- Entries send a name to a value if all those of that name have the value, and there is one, unless
the value is null. -/
def Sends (entries : List (Value × Value)) (name : Text) (v : Value) : Prop :=
  (∀ w, (text name, w) ∈ entries → w = v) ∧ ((text name, v) ∈ entries ∨ v = null)

/-- The value that a name is sent to is looked up. -/
theorem Sends.lookup {entries : List (Value × Value)} {name : Text} {v : Value}
    (h : Sends entries name v) : lookup entries name = v := by
  unfold Value.lookup
  split
  · next entry hentry =>
    obtain ⟨key, w⟩ := entry
    have hkey := List.find?_some hentry
    have hmem := List.mem_of_find?_eq_some hentry
    simp only at hkey
    split at hkey
    · rw [beq_iff_eq.1 hkey] at hmem
      exact h.1 w hmem
    · cases hkey
  · next hnone =>
    rcases h.2 with hmem | hnull
    · have hkey := List.find?_eq_none.1 hnone _ hmem
      simp at hkey
    · exact hnull.symm

end Value

namespace Schema

variable {s : Schema}

/-- A mapping that sends each name to a value is the row of these values. -/
theorem rowValues_mapping {kind : MappingKind} {entries : List (Value × Value)}
    {values : List Value} (h : List.Forall₂ (Value.Sends entries) s.names values) :
    s.rowValues (.mapping kind entries) = .ok values := by
  have hvalues : List.Forall₂ Eq (s.names.map (Value.lookup entries)) values :=
    List.forall₂_map_left_iff.2 (h.imp fun _ _ hsends => hsends.lookup)
  rw [List.forall₂_eq_eq_eq] at hvalues
  exact congrArg Except.ok hvalues

/-- The keys of the names together with values are the names. -/
theorem map_fst_zip_names {values : List Value} (h : values.length = s.arity) :
    ((s.names.map Value.text).zip values).map Prod.fst = s.names.map Value.text :=
  List.map_fst_zip (by rw [List.length_map, names, List.length_map, h, arity])

/-- No two names of a schema are the same key. -/
theorem nodup_map_text_names : (s.names.map Value.text).Nodup :=
  List.Nodup.map (fun _ _ => Value.text.inj) s.names_nodup

/-- Each name of a schema is sent to its value by the entries of the names and the values. -/
theorem forall₂_sends_zip {values : List Value} (h : values.length = s.arity) :
    List.Forall₂ (Value.Sends ((s.names.map Value.text).zip values)) s.names values := by
  have hlength : s.names.length = values.length := by rw [h, names, List.length_map, arity]
  have hnodup : (((s.names.map Value.text).zip values).map Prod.fst).Nodup := by
    rw [map_fst_zip_names h]
    exact nodup_map_text_names
  refine List.forall₂_iff_zip.2 ⟨hlength, fun {name v} hmem => ?_⟩
  have hentry : (Value.text name, v) ∈ (s.names.map Value.text).zip values := by
    rw [List.zip_map_left]
    exact List.mem_map_of_mem hmem
  exact ⟨fun w hw => congrArg Prod.snd (List.inj_on_of_nodup_map hnodup hw hentry rfl), .inl hentry⟩

end Schema

namespace Codec

/-- Rows with the same values are encoded alike. -/
theorem encodeText_congr {c : Codec} {row row' : Value}
    (h : c.schema.rowValues row = c.schema.rowValues row') :
    c.encodeText row = c.encodeText row' := by
  rw [encodeText, encodeText, h]

/-- Rows given by names and rows given by position agree.

The names of a schema are distinct, at least one, and as many as the types. A mapping that sends
each name to the value at its place has the outcome of the sequence, the same line or the same
error: the order of the keys, other keys and missing nulls make no difference. A decoded row, given
by names, has one entry for each column, in the order of the columns, and the outcome of the row. -/
theorem encodeText_mapping (c : Codec) :
    (c.schema.names ≠ [] ∧ c.schema.names.Nodup ∧
      c.schema.names.length = c.schema.types.length) ∧
    (∀ (row : Value) (values : List Value) (kind : MappingKind) (entries : List (Value × Value)),
      row.items? = some values → values.length = c.schema.arity →
      List.Forall₂ (Value.Sends entries) c.schema.names values →
        c.encodeText (.mapping kind entries) = c.encodeText row) ∧
    ∀ (message : Value) (values : List Value), c.decode message = .ok (.row values) →
      ∃ entries, c.asMapping values = .mapping .dictionary entries ∧
        entries.map Prod.fst = c.schema.names.map Value.text ∧ (entries.map Prod.fst).Nodup ∧
        entries.map Prod.snd = values ∧
        c.encodeText (c.asMapping values) = c.encodeText (.sequence .tuple values) ∧
        c.encode (c.asMapping values) = c.encode (.sequence .tuple values) := by
  have hagree : ∀ (row : Value) (values : List Value) (kind : MappingKind)
      (entries : List (Value × Value)), row.items? = some values →
      values.length = c.schema.arity →
      List.Forall₂ (Value.Sends entries) c.schema.names values →
        c.encodeText (.mapping kind entries) = c.encodeText row :=
    fun row values kind entries hitems hlength hsends => encodeText_congr
      ((Schema.rowValues_mapping hsends).trans (Schema.rowValues_of_items? hitems hlength).symm)
  refine ⟨⟨?_, c.schema.names_nodup, c.schema.length_names⟩, hagree, fun message values h => ?_⟩
  · exact fun hnil => c.schema.columns_ne_nil (List.map_eq_nil_iff.1 hnil)
  · obtain ⟨t, -, hrecord⟩ := decode_eq_row.1 h
    have hlength := Schema.length_of_decodeRecord hrecord
    have hkeys := Schema.map_fst_zip_names hlength
    have htext : c.encodeText (c.asMapping values) = c.encodeText (.sequence .tuple values) :=
      hagree (.sequence .tuple values) values .dictionary _ rfl hlength
        (Schema.forall₂_sends_zip hlength)
    refine ⟨_, rfl, hkeys, ?_, List.map_snd_zip ?_, htext, ?_⟩
    · rw [hkeys]
      exact Schema.nodup_map_text_names
    · rw [List.length_map, c.schema.length_names, Schema.types, List.length_map]
      exact Nat.le_of_eq hlength
    · rw [encode, encode, htext]

/-- The columns in another order, with a key that is no name and without the last column, which is
null; a message with one field, the row of which has three nulls. -/
theorem encodeText_mapping_mixed :
    (Codec.mk .mixed .protective).encodeText (.mapping .dictionary
        [(.text "c", .sequence .tuple []), (.int 7, .text "lost"), (.text "b", .null),
          (.text "a", .text "#\n")])
      = (Codec.mk .mixed .protective).encodeText
        (.sequence .list [.text "#\n", .null, .sequence .tuple [], .null]) ∧
    (Codec.mk .mixed .protective).decode (.text "x") = .ok (.row [.text "x", .null, .null, .null]) ∧
    (Codec.mk .mixed .protective).encode ((Codec.mk .mixed .protective).asMapping
        [.text "x", .null, .null, .null])
      = (Codec.mk .mixed .protective).encode
        (.sequence .tuple [.text "x", .null, .null, .null]) := by
  obtain ⟨-, hagree, hdecoded⟩ := encodeText_mapping (Codec.mk .mixed .protective)
  have hfields : Dialect.protective.recordFields "x" = .ok ["x"] :=
    Marks.split_of_field_nil rfl rfl
  have hdecode : (Codec.mk .mixed .protective).decode (.text "x")
      = .ok (.row [.text "x", .null, .null, .null]) :=
    decode_eq_row.2 ⟨_, ⟨rfl, rfl⟩, Schema.decodeRecord_eq_ok.2 ⟨_, hfields, by decide, rfl⟩⟩
  obtain ⟨-, -, -, -, -, -, hencode⟩ := hdecoded _ _ hdecode
  refine ⟨hagree _ _ _ _ rfl rfl ?_, hdecode, hencode⟩
  have hab : ("a" : Text) ≠ "b" := by decide
  have hac : ("a" : Text) ≠ "c" := by decide
  have hbc : ("b" : Text) ≠ "c" := by decide
  have hd : ("d" : Text) ≠ "a" ∧ ("d" : Text) ≠ "b" ∧ ("d" : Text) ≠ "c" := by decide
  refine .cons ?_ (.cons ?_ (.cons ?_ (.cons ?_ .nil)))
  · simp [Value.Sends, hab, hac]
  · simp [Value.Sends, hab.symm, hbc]
  · simp [Value.Sends, hac.symm, hbc.symm]
  · simp [Value.Sends, hd]

end Codec

end Delimited
