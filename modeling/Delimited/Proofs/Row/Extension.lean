import Delimited.Proofs.Row.Comment
import Delimited.Proofs.Row.Decoding

/-!
# Columns behind the others

A record need not reach all columns, so a schema may get further ones at its end: as long as there
are no more fields than the schema had columns before, a message is what it was, with null in the
new columns, and malformed messages have the same fault (`decode_append`). A message with more
fields is one that the schema did not take before. `decode_more_columns` says the same of rows, from
the shorter schema to the longer one and back.
-/

namespace Delimited

/-- What a message is, with some nulls behind the values of its row. -/
def Outcome.padded (count : Nat) : Outcome → Outcome
  | row values => row (values ++ List.replicate count .null)
  | comment t => comment t
  | dropped f => dropped f

/-- Fields that do not reach further columns are decoded as they are without these, and null is
added for each of them. -/
theorem Dialect.readColumns_append {d : Dialect} {index : Nat} {columns : List Column}
    (more : List Column) {fields : List Text} (h : fields.length ≤ columns.length) :
    d.readColumns index (columns ++ more) fields
      = (d.readColumns index columns fields).map (· ++ List.replicate more.length .null) := by
  induction columns generalizing index fields with
  | nil =>
    obtain rfl := List.length_eq_zero_iff.1 (Nat.le_zero.1 h)
    rw [List.nil_append, readColumns_nil, readColumns_nil]
    rfl
  | cons c columns ih =>
    cases fields with
    | nil =>
      rw [readColumns_nil, readColumns_nil, List.length_append, List.replicate_add]
      rfl
    | cons t fields =>
      rw [List.cons_append, readColumns, readColumns]
      cases d.readColumn c.type t with
      | error fault => rfl
      | ok v =>
        simp only
        rw [ih (Nat.le_of_succ_le_succ h)]
        cases d.readColumns (index + 1) columns fields <;> rfl

section

variable {narrow wide : Schema} {more : List Column} {d : Dialect} {message : Value}

/-- A record of no more fields than a schema has columns is decoded by a longer schema as it is by
this one. -/
theorem Schema.decodeRecord_append (hcolumns : wide.columns = narrow.columns ++ more) {t : Text}
    (hfit : ∀ fields, d.recordFields t = .ok fields → fields.length ≤ narrow.arity) :
    wide.decodeRecord d t
      = (narrow.decodeRecord d t).map (· ++ List.replicate more.length .null) := by
  unfold decodeRecord
  cases hfields : d.recordFields t with
  | error f => rfl
  | ok fields =>
    have hnarrow : fields.length ≤ narrow.arity := hfit fields hfields
    have hwide : fields.length ≤ wide.arity := by
      rw [arity, hcolumns, List.length_append]
      exact Nat.le_add_right_of_le hnarrow
    simp only
    rw [if_pos hnarrow, if_pos hwide, hcolumns, Dialect.readColumns_append more hnarrow]

namespace Codec

/-- A message is split into no more fields than there are columns, if it is split at all. -/
def Fits (c : Codec) (message : Value) : Prop :=
  ∀ t fields, c.HasRecord message t → c.dialect.recordFields t = .ok fields →
    fields.length ≤ c.schema.arity

/-- A message that fits a schema is under a longer one what it is under this one: a row with nulls
behind it, a comment, or malformed for the same reason and in the same place. -/
theorem decodeStrict_append (hcolumns : wide.columns = narrow.columns ++ more)
    (hfit : (Codec.mk narrow d).Fits message) :
    (Codec.mk wide d).decodeStrict message
      = ((Codec.mk narrow d).decodeStrict message).map (Outcome.padded more.length) := by
  rcases hasRecord_cases ⟨narrow, d⟩ message with
    ⟨e, htext, hrun⟩ | ⟨t, htext, hallow, hcomment, hrun⟩ | ⟨t, ht⟩
  · rw [decodeStrict, decodeStrict, hrun, runStrict, htext]
    rfl
  · have hskip : (d.allowComments && t.isComment) = true :=
      Bool.and_eq_true_iff.2 ⟨hallow, hcomment⟩
    rw [decodeStrict, decodeStrict, hrun, runStrict, htext]
    simp only [hskip, if_true]
    rfl
  · have hwide : (Codec.mk wide d).HasRecord message t := ⟨ht.text, ht.comment⟩
    rw [decodeStrict_of_hasRecord ht, decodeStrict_of_hasRecord hwide]
    simp only
    rw [Schema.decodeRecord_append hcolumns fun fields => hfit t fields ht]
    cases narrow.decodeRecord d t <;> rfl

/-- So it is if malformed messages are dropped. -/
theorem decode_append (hcolumns : wide.columns = narrow.columns ++ more)
    (hfit : (Codec.mk narrow d).Fits message) :
    (Codec.mk wide d).decode message
      = ((Codec.mk narrow d).decode message).map (Outcome.padded more.length) := by
  rw [decode_eq, decode_eq, decodeStrict_append hcolumns hfit]
  cases (Codec.mk narrow d).decodeStrict message with
  | ok outcome => rfl
  | error e =>
    cases e with
    | notText given => rfl
    | malformed f => cases d.ignoreMalformed <;> rfl
    | escaped f => rfl

/-- Only a message that fits is decoded to a row. -/
theorem fits_of_decode {c : Codec} {values : List Value}
    (h : c.decode message = .ok (.row values)) : c.Fits message := by
  obtain ⟨t, ht, hrecord⟩ := decode_eq_row.1 h
  obtain ⟨fields, hfields, hlength, -⟩ := Schema.decodeRecord_eq_ok.1 hrecord
  intro t' fields' ht' hfields'
  cases ht.text.symm.trans ht'.text
  cases hfields.symm.trans hfields'
  exact hlength

/-- A schema may get further columns at its end. Where malformed records are errors, every message
that is a row under the shorter schema is that row under the longer one, with null in each of the
further columns. Every message that is a row under the longer schema is a record; if this has no
more fields than the shorter schema has columns, it is the row of the first values under that, and
otherwise it is malformed there, at no column, as it has too many. -/
theorem decode_more_columns (hstrict : d.ignoreMalformed = false)
    (hcolumns : wide.columns = narrow.columns ++ more) (message : Value) :
    (∀ values, (Codec.mk narrow d).decode message = .ok (.row values) →
      (Codec.mk wide d).decode message
        = .ok (.row (values ++ List.replicate more.length .null))) ∧
    ∀ values, (Codec.mk wide d).decode message = .ok (.row values) → ∃ t fields,
      messageText message = .ok t ∧ d.recordFields t = .ok fields ∧
        (fields.length ≤ narrow.arity →
          (Codec.mk narrow d).decode message = .ok (.row (values.take narrow.arity))) ∧
        (narrow.arity < fields.length → (Codec.mk narrow d).decode message
          = .error (.malformed ⟨none, t, .columnCount fields.length narrow.arity⟩)) := by
  constructor
  · intro values h
    rw [decode_append hcolumns (fits_of_decode h), h]
    rfl
  · intro values h
    obtain ⟨t, ht, hrecord⟩ := decode_eq_row.1 h
    obtain ⟨fields, hfields, -, -⟩ := Schema.decodeRecord_eq_ok.1 hrecord
    have hnarrow : (Codec.mk narrow d).HasRecord message t := ⟨ht.text, ht.comment⟩
    refine ⟨t, fields, ht.text, hfields, fun hlength => ?_, fun hlength => ?_⟩
    · have hfit : ∀ fields, d.recordFields t = .ok fields → fields.length ≤ narrow.arity := by
        intro fields' hfields'
        cases hfields.symm.trans hfields'
        exact hlength
      rw [Schema.decodeRecord_append hcolumns hfit] at hrecord
      obtain ⟨first, hfirst, rfl⟩ := Except.map_eq_ok.1 hrecord
      -- The further values are the nulls, so the first ones are what the shorter schema reads.
      rw [List.take_left' (Schema.length_of_decodeRecord hfirst)]
      exact decode_eq_row.2 ⟨t, hnarrow, hfirst⟩
    · have hmalformed := (Malformed.record hnarrow hfields hlength).decodeStrict
      rw [decode_eq, hmalformed]
      simp only [hstrict, Bool.false_eq_true, if_false]

end Codec

end

/-- The line of one text is a row of two columns whose second value is null. -/
theorem Codec.decode_more_columns_text :
    (Codec.mk (.single (.leaf .string)) .standard).decode (.text "x\n") = .ok (.row [.text "x"]) ∧
      (Codec.mk .twoTexts .standard).decode (.text "x\n") = .ok (.row [.text "x", .null]) := by
  have hfields : Dialect.standard.recordFields "x\n" = .ok ["x"] := by cbv
  have hrow : (Codec.mk (.single (.leaf .string)) .standard).decode (.text "x\n")
      = .ok (.row [.text "x"]) :=
    Codec.decode_of_recordFields rfl hfields (Nat.le_refl 1) rfl
  have hstrict : Dialect.standard.ignoreMalformed = false := rfl
  have hcolumns : Schema.twoTexts.columns
      = (Schema.single (.leaf .string)).columns ++ [⟨"b", .leaf .string⟩] := rfl
  obtain ⟨hpadded, -⟩ := Codec.decode_more_columns hstrict hcolumns (.text "x\n")
  exact ⟨hrow, hpadded _ hrow⟩

end Delimited
