import Delimited.Proofs.Row.RoundTrip

/-!
# Rows of nulls

Null is written as the null literal, and that as it is, in every column. Settings are refused a null
literal with structural characters in it, but two things can still change the literal on its way
back: an escape in it may be left out, or protect what follows, and blanks around it are taken off
in all columns but texts. `PreservesNull` says that nothing of the kind happens, and
`decode_nulls_iff` that this is exactly what it takes for rows of nulls to be read back.
-/

namespace Delimited

/-- Only where nothing but null is allowed a text is read as null. -/
theorem LeafType.read_ne_null {type : LeafType} (htype : type ≠ .null) (t : Text) :
    type.read t ≠ .ok .null := by
  intro h
  cases type with
  | null => exact htype rfl
  | string => cases h
  | _ =>
    obtain ⟨_, -, h⟩ := Except.map_eq_ok.1 h
    cases h

namespace Dialect

variable {d : Dialect} {literal : Text}

/-- A null literal that is read back as it is written. -/
structure PreservesNull (d : Dialect) (literal : Text) : Prop where
  /-- There are no blanks around it. -/
  trim : literal.trim = literal
  /-- No escape stands in front of an escape in it. -/
  escape_pair : ∀ e, d.escape = some e → ¬ [e, e] <:+: literal
  /-- It does not end with an escape. -/
  escape_last : ∀ e, d.escape = some e → literal.getLast? ≠ some e

/-! ## The literal as a field -/

/-- No null literal starts with a quote. -/
theorem IsChecked.head?_nullLiteral (hd : d.IsChecked) (hnull : d.nullLiteral = some literal) :
    ∀ c, literal.head? = some c → (d.marks d.fieldDelimiter).quote ≠ some c := fun c hc =>
  (hd.nullLiteral_plain literal hnull c (List.mem_of_mem_head? hc)).2.2.2

/-- No field ends within a null literal. -/
theorem IsChecked.isStop_nullLiteral (hd : d.IsChecked) (hnull : d.nullLiteral = some literal) :
    ∀ c ∈ literal, (d.marks d.fieldDelimiter).isStop true c = false := by
  intro c hc
  obtain ⟨hfield, -, hbreak, -⟩ := hd.nullLiteral_plain literal hnull c hc
  simp [Marks.isStop, marks, hbreak, Ne.symm hfield]

/-- A null literal stands for itself outside of quotes if no escape in it has something to protect.
-/
theorem IsChecked.isBare_nullLiteral_iff (hd : d.IsChecked) (hnull : d.nullLiteral = some literal) :
    (d.marks d.fieldDelimiter).IsBare true literal ↔
      ∀ e, d.escape = some e → ¬ [e, e] <:+: literal ∧ literal.getLast? ≠ some e := by
  constructor
  · intro h e he
    refine ⟨fun hrun => ?_, fun hlast => h.getLast?_ne_escape e hlast he⟩
    have hpair : (d.marks d.fieldDelimiter).isBarePair e e = true :=
      Marks.isBarePair_iff.2 ⟨he, .inr (.inr he)⟩
    rw [h.isBarePair_eq_false e e hrun] at hpair
    cases hpair
  · intro h
    refine ⟨hd.head?_nullLiteral hnull, hd.isStop_nullLiteral hnull, fun c x hrun => ?_,
      fun c hc he => (h c he).2 hc⟩
    -- Of what an escape may protect only an escape can stand in the literal.
    obtain ⟨hfield, -, -, hquote⟩ := hd.nullLiteral_plain literal hnull x (hrun.subset (by simp))
    refine Bool.eq_false_iff.2 fun hpair => ?_
    obtain ⟨hc, hx | hx | hx⟩ := Marks.isBarePair_iff.1 hpair
    · exact hfield (Option.some.inj hx).symm
    · exact hquote hx
    · obtain rfl : c = x := Option.some.inj (hc.symm.trans hx)
      exact (h c hc).1 hrun

/-- A preserved null literal is framed as it is. -/
theorem PreservesNull.frames (h : d.PreservesNull literal) (hd : d.IsChecked)
    (hnull : d.nullLiteral = some literal) :
    (d.marks d.fieldDelimiter).Frames true literal literal :=
  .bare ((hd.isBare_nullLiteral_iff hnull).2 fun e he => ⟨h.escape_pair e he, h.escape_last e he⟩)

/-! ## Lines of nulls -/

/-- The columns of a row of nulls are null literals. -/
theorem lines_nulls (d : Dialect) (first : Bool) (columns : List Column) :
    d.Lines first columns (List.replicate columns.length .null)
      (List.replicate columns.length d.nullText) (List.replicate columns.length d.nullText) := by
  induction columns generalizing first with
  | nil => exact .nil
  | cons c columns ih => exact .cons .null (ih false)

/-- Null literals that are read as null make a row of nulls. -/
theorem readColumns_nulls (h : ∀ type, d.readColumn type d.nullText = .ok .null) (index : Nat)
    (columns : List Column) :
    d.readColumns index columns (List.replicate columns.length d.nullText)
      = .ok (List.replicate columns.length .null) := by
  induction columns generalizing index with
  | nil => rfl
  | cons c columns ih =>
    rw [List.length_cons, List.replicate_succ, List.replicate_succ, readColumns, h]
    simp only [ih]
    rfl

/-- A row of nulls is read back if the null literal is preserved. -/
theorem PreservesNull.decode_nulls (h : d.PreservesNull literal) (hd : d.IsChecked)
    (hnull : d.nullLiteral = some literal) (hcomments : d.allowComments = false) {schema : Schema}
    {row : Value} (hrow : schema.rowValues row = .ok (List.replicate schema.arity .null)) :
    ∃ line, (Codec.mk schema d).encodeText row = .ok line ∧
      (Codec.mk schema d).decode (.text line)
        = .ok (.row (List.replicate schema.arity .null)) := by
  have htext : d.nullText = literal := by simp [nullText, hnull]
  refine ⟨_, Codec.encodeText_eq_ok.2 ⟨_, _, _, hrow, d.lines_nulls true schema.columns, rfl⟩, ?_⟩
  -- The line is split into null literals, each of which is read as null.
  have hne : List.replicate schema.columns.length d.nullText ≠ [] := fun hnil =>
    schema.columns_ne_nil (List.length_eq_zero_iff.1 ((List.replicate_eq_nil_iff _).1 hnil))
  have hframes : List.Forall₂ ((d.marks d.fieldDelimiter).Frames true)
      (List.replicate schema.columns.length d.nullText)
      (List.replicate schema.columns.length d.nullText) :=
    List.forall₂_same.2 fun t ht => by
      rw [List.eq_of_mem_replicate ht, htext]
      exact h.frames hd hnull
  have hfields := recordFields_join hd hne hframes
  have hread := d.readColumns_nulls (fun type => readColumn_literal hnull h.trim type) 0
    schema.columns
  refine Codec.decode_of_decodeRecord rfl (fun hallow => ?_) (Schema.decodeRecord_eq_ok.2
    ⟨_, hfields, Nat.le_of_eq List.length_replicate, hread⟩)
  rw [hcomments] at hallow
  cases hallow

/-! ## What rows of nulls say of the literal -/

/-- A field that is read as null stands for null, if its type allows anything else. -/
theorem standsForNull_of_readColumn {type : LeafType} (htype : type ≠ .null) {t : Text}
    (h : d.readColumn (.leaf type) t = .ok .null) : d.standsForNull (.leaf type) t = true := by
  refine Bool.not_eq_false _ ▸ fun hstands => ?_
  unfold readColumn readLeaf at h
  simp only [hstands, htype, decide_false, Bool.or_self, Bool.false_eq_true, if_false] at h
  exact LeafType.read_ne_null htype _ (Except.mapError_eq_ok.1 h)

/-- If two nulls in columns of texts are read back, the null literal stands for itself. -/
theorem isBare_of_decode_nulls (hd : d.IsChecked) (hnull : d.nullLiteral = some literal)
    (h : (Codec.mk .twoTexts d).decode
        (.text (literal ++ d.fieldDelimiter :: (literal ++ d.lineDelimiter)))
      = .ok (.row [.null, .null])) :
    (d.marks d.fieldDelimiter).IsBare true literal := by
  obtain ⟨t, ht, hrecord⟩ := Codec.decode_eq_row.1 h
  cases ht.text
  obtain ⟨fields, hfields, -, hread⟩ := Schema.decodeRecord_eq_ok.1 hrecord
  obtain ⟨raw, after, t, rest, hfield, hdecode, rfl⟩ := Marks.exists_field_of_split hfields
  obtain ⟨v, values, hcolumn, -, heq⟩ := readColumns_cons_eq_ok.1 hread
  cases heq
  -- The first field is read as a null text, so it is the null literal.
  have hstands := standsForNull_of_readColumn (by decide) hcolumn
  have hliteral : t = literal := by
    simpa [standsForNull, hnull, ColumnType.isFreeText] using hstands
  exact Marks.isBare_of_field hd.isDistinct_field rfl (hd.head?_nullLiteral hnull)
    (hd.isStop_nullLiteral hnull) hfield (hliteral ▸ hdecode)

/-- If a null in a column of truth values is read back, there are no blanks around the null literal.
-/
theorem trim_of_decode_null (hd : d.IsChecked) (hnull : d.nullLiteral = some literal)
    (hframes : (d.marks d.fieldDelimiter).Frames true literal literal)
    (h : (Codec.mk (.single (.leaf .boolean)) d).decode (.text (literal ++ d.lineDelimiter))
      = .ok (.row [.null])) : literal.trim = literal := by
  obtain ⟨t, ht, hrecord⟩ := Codec.decode_eq_row.1 h
  cases ht.text
  obtain ⟨fields, hfields, -, hread⟩ := Schema.decodeRecord_eq_ok.1 hrecord
  cases (recordFields_of_frames hd hframes).symm.trans hfields
  obtain ⟨v, values, hcolumn, -, heq⟩ := readColumns_cons_eq_ok.1 hread
  cases heq
  have hstands := standsForNull_of_readColumn (by decide) hcolumn
  simpa [standsForNull, hnull, ColumnType.isFreeText] using hstands

/-- If every row of nulls is read back, the null literal is preserved. -/
theorem preservesNull_of_forall (hd : d.IsChecked) (hnull : d.nullLiteral = some literal)
    (h : ∀ schema row, schema.rowValues row = .ok (List.replicate schema.arity .null) →
      ∃ line, (Codec.mk schema d).encodeText row = .ok line ∧
        (Codec.mk schema d).decode (.text line)
          = .ok (.row (List.replicate schema.arity .null))) : d.PreservesNull literal := by
  have htext : d.nullText = literal := by simp [nullText, hnull]
  obtain ⟨line, hline, hdecode⟩ := h .twoTexts (.sequence .tuple [.null, .null]) rfl
  cases (encodeText_twoTexts .null .null).symm.trans hline
  rw [htext] at hdecode
  have hbare := isBare_of_decode_nulls hd hnull hdecode
  -- One null in a column that is not of texts shows that nothing is taken off.
  obtain ⟨line, hline, hdecode⟩ := h (.single (.leaf .boolean)) (.sequence .tuple [.null]) rfl
  have hsingle : (Codec.mk (.single (.leaf .boolean)) d).encodeText (.sequence .tuple [.null])
      = .ok (d.nullText ++ d.lineDelimiter) := by
    refine Codec.encodeText_eq_ok.2 ⟨[.null], _, _, rfl, .cons .null .nil, ?_⟩
    rw [Text.join, List.intercalate_singleton]
  cases hsingle.symm.trans hline
  rw [htext] at hdecode
  have hescape := (hd.isBare_nullLiteral_iff hnull).1 hbare
  exact ⟨trim_of_decode_null hd hnull (.bare hbare) hdecode, fun e he => (hescape e he).1,
    fun e he => (hescape e he).2⟩

end Dialect

/-- For a dialect with a null literal that reads no comments: the row that is null in every column
is read back for every schema, if and only if there are no blanks around the null literal, no escape
stands in front of an escape in it, and it does not end with one. -/
theorem Settings.decode_nulls_iff {s : Settings} {d : Dialect} {literal : Text}
    (h : s.dialect = .ok d) (hnull : d.nullLiteral = some literal)
    (hcomments : d.allowComments = false) :
    (∀ schema row, schema.rowValues row = .ok (List.replicate schema.arity .null) →
      ∃ line, (Codec.mk schema d).encodeText row = .ok line ∧
        (Codec.mk schema d).decode (.text line)
          = .ok (.row (List.replicate schema.arity .null))) ↔ d.PreservesNull literal := by
  have hd := isChecked_of_dialect h
  constructor
  · exact fun hall => Dialect.preservesNull_of_forall hd hnull hall
  · exact fun hpreserves schema row hrow => hpreserves.decode_nulls hd hnull hcomments hrow

/-- Default settings with a backslash as escape make a dialect with a null literal. -/
theorem Settings.dialect_backslash (literal : Text)
    (hplain : literal.Forall fun c => c ≠ .ofChar ',' ∧ c ≠ .ofChar ';' ∧ c.isLineBreak = false ∧
      some (CodePoint.ofChar '"') ≠ some c) :
    ({ escape := .text [92], nullLiteral := .text literal } : Settings).dialect
      = .ok { Dialect.standard with escape := some 92, nullLiteral := some literal } := by
  have h : ({ escape := .text [92] } : Settings).dialect
      = .ok { Dialect.standard with escape := some 92 } := rfl
  exact dialect_set_nullLiteral h (List.forall_iff_forall_mem.1 hplain)

/-- A backslash and a letter as null literal: the backslash is the escape, but it protects nothing.
-/
theorem Settings.decode_nulls_letter :
    ∃ (d : Dialect) (line : Text),
      ({ escape := .text [92], nullLiteral := .text [92, 78] } : Settings).dialect = .ok d ∧
      (Codec.mk .mixed d).encodeText (.mapping .dictionary []) = .ok line ∧
      (Codec.mk .mixed d).decode (.text line) = .ok (.row [.null, .null, .null, .null]) := by
  have h := dialect_backslash [92, 78] (by decide)
  have hpreserves : Dialect.PreservesNull
      { Dialect.standard with escape := some 92, nullLiteral := some [92, 78] } [92, 78] := by
    refine ⟨rfl, fun e he => ?_, fun e he => ?_⟩
    · cases he
      decide
    · cases he
      decide
  obtain ⟨line, hline, hdecode⟩ :=
    (Settings.decode_nulls_iff h rfl rfl).2 hpreserves .mixed (.mapping .dictionary []) rfl
  exact ⟨_, line, h, hline, hdecode⟩

/-- A lone backslash as null literal protects the delimiter and the line break behind it, so that
two nulls are read as a text and a null. -/
theorem Settings.decode_nulls_lone :
    ∃ (d : Dialect) (line : Text),
      ({ escape := .text [92], nullLiteral := .text [92] } : Settings).dialect = .ok d ∧
      d.nullLiteral = some [92] ∧ d.allowComments = false ∧
      Schema.twoTexts.rowValues (.sequence .tuple [.null, .null])
        = .ok (List.replicate Schema.twoTexts.arity .null) ∧
      (Codec.mk .twoTexts d).encodeText (.sequence .tuple [.null, .null]) = .ok line ∧
      (Codec.mk .twoTexts d).decode (.text line) = .ok (.row [.text ",\\\n", .null]) := by
  refine ⟨_, [92, 44, 92, 10], dialect_backslash [92] (by decide), rfl, rfl, rfl, rfl, ?_⟩
  -- No stop is left in the line, so that it is one field.
  have hfields : Marks.fields
      ⟨some Dialect.standard.fieldDelimiter, Dialect.standard.quote, some 92⟩ true
      [92, 44, 92, 10] = .ok [[92, 44, 92, 10]] := Marks.fields_of_field_nil rfl
  have hdecoded : Dialect.recordFields { Dialect.standard with
      escape := some 92, nullLiteral := some [92] } [92, 44, 92, 10] = .ok [[44, 92, 10]] := by
    simp only [Dialect.recordFields, Dialect.marks, Marks.split, Marks.rawFields, hfields]
    rfl
  exact Codec.decode_of_recordFields rfl hdecoded (by decide) rfl

end Delimited
