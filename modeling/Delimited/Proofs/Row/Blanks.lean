import Delimited.Proofs.Field.Blanks
import Delimited.Proofs.Row.Terminator

/-!
# Blanks around a column

Blanks around a column of one leaf do not count, unless it is a text: what is read is the trimmed
text, be it null or not. In a message they may be put behind the raw field, whether it has quotes or
not, and in front of it if it does not start with a quote. `decode_insert_blanks` says that the row
stays the same. In front of a quote they may not, because a quote behind a blank opens nothing
(`decode_insert_blank_quoted`).
-/

namespace Delimited

namespace Dialect

variable {d : Dialect}

/-- Blanks that are no structural characters are neither stops nor marks. -/
theorem isPadding_of_isSpecial {ws : Text}
    (h : ∀ c ∈ ws, c.isBlank = true ∧ d.isSpecial d.fieldDelimiter c = false) :
    (d.marks d.fieldDelimiter).IsPadding true ws := by
  intro c hc
  obtain ⟨hblank, hspecial⟩ := h c hc
  simp only [isSpecial, Bool.or_eq_false_iff, beq_eq_false_iff_ne] at hspecial
  obtain ⟨⟨⟨hdelimiter, hquote⟩, hbreak⟩, hescape⟩ := hspecial
  have hne : (d.marks d.fieldDelimiter).delimiter ≠ some c := fun hd =>
    hdelimiter (Option.some.inj hd).symm
  exact ⟨hblank, by simp [Marks.isStop, hne, hbreak], hne, hquote, hescape⟩

/-- A column of a leaf that is no text is read from its trimmed text. -/
theorem readColumn_of_trim_eq {type : LeafType} (htype : type ≠ .string) {x y : Text}
    (h : y.trim = x.trim) : d.readColumn (.leaf type) y = d.readColumn (.leaf type) x := by
  rw [readColumn_leaf, readColumn_leaf, readLeaf_of_trim_eq htype h]

end Dialect

/-- The schema of two columns of one leaf each. -/
def Schema.pair (first second : LeafType) : Schema where
  columns := [⟨"a", .leaf first⟩, ⟨"b", .leaf second⟩]
  columns_ne_nil := by simp
  name_ne_nil := by
    simp only [List.forall_mem_cons]
    exact ⟨by decide, by decide, List.forall_mem_nil _⟩
  names_nodup := by
    simp only [List.map_cons, List.map_nil]
    decide

namespace Settings

/-- Blanks around a column of one leaf that is no text are nothing to the row. For every dialect,
every text that is decoded to a row and every raw field of it in such a column: with any blanks that
are no structural characters behind the raw field, the text is decoded to the same row, and so it is
with the blanks in front of the raw field, unless that starts with a quote. -/
theorem decode_insert_blanks {s : Settings} {d : Dialect} (h : s.dialect = .ok d) {schema : Schema}
    {t : Text} {values : List Value}
    (hdecode : (Codec.mk schema d).decode (.text t) = .ok (.row values)) {raws : List Text}
    (hraws : (d.marks d.fieldDelimiter).rawFields true t = .ok raws) {index : Nat} {raw : Text}
    (hraw : raws[index]? = some raw) {column : Column}
    (hcolumn : schema.columns[index]? = some column) {type : LeafType}
    (htype : column.type = .leaf type) (hstring : type ≠ .string) :
    ∃ after, t = Marks.inFront d.fieldDelimiter raws index ++ raw ++ after ∧
      ∀ ws, (∀ c ∈ ws, c.isBlank = true ∧ d.isSpecial d.fieldDelimiter c = false) →
        (Codec.mk schema d).decode
            (.text (Marks.inFront d.fieldDelimiter raws index ++ (raw ++ ws) ++ after))
          = .ok (.row values) ∧
        ((∀ q, d.quote = some q → raw.head? ≠ some q) →
          (Codec.mk schema d).decode
              (.text (Marks.inFront d.fieldDelimiter raws index ++ (ws ++ raw) ++ after))
            = .ok (.row values)) := by
  have hdistinct := (isChecked_of_dialect h).isDistinct_field
  obtain ⟨ts, hts, hlength, hread⟩ := Schema.decodeRecord_eq_ok.1
    ((Codec.decode_eq_row_iff rfl hdecode).1 hdecode)
  obtain ⟨after, init, x, rest, hline, rfl, hindex, hpad⟩ :=
    Marks.exists_split_pad hdistinct rfl hraws hts hraw
  -- The column reads what is left when the blanks are trimmed.
  have hlt : init.length < schema.columns.length := by
    rw [List.length_append, List.length_cons] at hlength
    exact Nat.lt_of_lt_of_le (Nat.lt_add_of_pos_right (Nat.succ_pos _)) hlength
  obtain ⟨column', w, hcolumn', hw, hreplace⟩ := Dialect.readColumns_append_cons_iff hread hlt
  rw [hindex, hcolumn] at hcolumn'
  cases hcolumn'
  rw [htype] at hw hreplace
  have hrow : ∀ {t' y : Text}, t'.isComment = t.isComment → y.trim = x.trim →
      (d.marks d.fieldDelimiter).split true t' = .ok (init ++ y :: rest) →
      (Codec.mk schema d).decode (.text t') = .ok (.row values) := by
    intro t' y hcomment htrim hsplit
    rw [Codec.decode_eq_row_iff hcomment hdecode, Schema.decodeRecord_eq_ok]
    refine ⟨_, hsplit, ?_, (hreplace y).2 ((Dialect.readColumn_of_trim_eq hstring htrim).trans hw)⟩
    rwa [List.length_append, List.length_cons] at hlength ⊢
  refine ⟨after, hline, fun ws hws => ?_⟩
  have hblank : ∀ c ∈ ws, c.isBlank = true := fun c hc => (hws c hc).1
  obtain ⟨⟨y, hy, hback⟩, hfront⟩ := hpad ws (Dialect.isPadding_of_isSpecial hws)
  refine ⟨hrow ?_ hy hback, fun hhead => ?_⟩
  · have hinsert := Text.isComment_insert hblank
      (Marks.inFront d.fieldDelimiter raws index ++ raw) after
    rw [hline]
    simpa only [List.append_assoc] using hinsert
  · obtain ⟨z, hz, hsplit⟩ := hfront hhead
    refine hrow ?_ hz hsplit
    have hinsert := Text.isComment_insert hblank
      (Marks.inFront d.fieldDelimiter raws index) (raw ++ after)
    rw [hline]
    simpa only [List.append_assoc] using hinsert

/-- A blank and a tab behind a quoted integer, behind an unquoted one, and in front of that. -/
theorem decode_insert_blanks_int :
    (Codec.mk (.pair .string .int) .standard).decode (.text "a,\"1\" \t\n")
        = .ok (.row [.text "a", .int 1]) ∧
      (Codec.mk (.pair .string .int) .standard).decode (.text "a,1 \t\n")
        = .ok (.row [.text "a", .int 1]) ∧
      (Codec.mk (.pair .string .int) .standard).decode (.text "a, \t1\n")
        = .ok (.row [.text "a", .int 1]) := by
  have hws : ∀ c ∈ Text.ofString " \t",
      c.isBlank = true ∧ Dialect.standard.isSpecial (.ofChar ',') c = false :=
    List.forall_iff_forall_mem.1 (by decide)
  have hrow : ∀ {t : Text}, Dialect.standard.recordFields t = .ok ["a", "1"] →
      (Codec.mk (.pair .string .int) .standard).decode (.text t)
        = .ok (.row [.text "a", .int 1]) := fun hfields =>
    Codec.decode_of_recordFields rfl hfields (Nat.le_refl 2) rfl
  have hquoted := hrow (t := "a,\"1\"\n") (by cbv)
  have hplain := hrow (t := "a,1\n") (by cbv)
  have hraws : (Dialect.standard.marks (.ofChar ',')).rawFields true "a,\"1\"\n"
      = .ok ["a", "\"1\""] := by cbv
  have hraws' : (Dialect.standard.marks (.ofChar ',')).rawFields true "a,1\n"
      = .ok ["a", "1"] := by cbv
  obtain ⟨after, hline, hpad⟩ := decode_insert_blanks dialect_default hquoted hraws
    (show _[1]? = some _ from rfl) (show _[1]? = some _ from rfl) rfl (by decide)
  obtain ⟨after', hline', hpad'⟩ := decode_insert_blanks dialect_default hplain hraws'
    (show _[1]? = some _ from rfl) (show _[1]? = some _ from rfl) rfl (by decide)
  cases hline
  cases hline'
  refine ⟨(hpad _ hws).1, (hpad' _ hws).1, (hpad' _ hws).2 fun q hq => ?_⟩
  cases hq
  decide

/-- A blank in front of a quoted integer makes it an unquoted field, which is no integer. -/
theorem decode_insert_blank_quoted :
    ({} : Settings).dialect = .ok .standard ∧
      (Codec.mk (.single (.leaf .int)) .standard).decode (.text "\"1\"") = .ok (.row [.int 1]) ∧
      (Dialect.standard.marks (.ofChar ',')).rawFields true "\"1\"" = .ok ["\"1\""] ∧
      CodePoint.isBlank (.ofChar ' ') = true ∧
      Dialect.standard.isSpecial (.ofChar ',') (.ofChar ' ') = false ∧
      ∀ values, (Codec.mk (.single (.leaf .int)) .standard).decode (.text " \"1\"")
        ≠ .ok (.row values) := by
  have hfields : Dialect.standard.recordFields "\"1\"" = .ok ["1"] := by cbv
  have hrow : (Codec.mk (.single (.leaf .int)) .standard).decode (.text "\"1\"")
      = .ok (.row [.int 1]) :=
    Codec.decode_of_recordFields rfl hfields (Nat.le_refl 1) rfl
  refine ⟨dialect_default, hrow, by cbv, by decide, by decide, fun values h => ?_⟩
  obtain ⟨t, ht, hrecord⟩ := Codec.decode_eq_row.1 h
  cases ht.text
  obtain ⟨fields, hfields', -, hread⟩ := Schema.decodeRecord_eq_ok.1 hrecord
  have hblank : Dialect.standard.recordFields " \"1\"" = .ok [" \"1\""] := by cbv
  cases hblank.symm.trans hfields'
  cases hread

end Settings

end Delimited
