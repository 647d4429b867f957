import Delimited.Proofs.Field.Framing
import Delimited.Proofs.Field.Terminator
import Delimited.Proofs.Row.Comment
import Delimited.Proofs.Row.Decoding

/-!
# Line breaks behind a message

A message may end with line breaks or not: its row should be the same. So it is if no escape
protects the first of the line breaks. An escape at the very end of a message stands for itself, but
with a line break behind it the two are read as one unit of the last field. Whether that shows
depends on the column. Blanks around a leaf do not count, unless it is a text, and a quoted leaf
ends at its closing quote. `IgnoresBreak` lists the cases, and `decode_append_iff` says that these
are all.
-/

namespace Delimited

/-- The leaf type that the last text of a column is read as. -/
def ColumnType.lastLeaf : ColumnType → LeafType
  | leaf type | array type => type
  | row first others => (first :: others).getLast (List.cons_ne_nil first others)

/-- The texts of the leaves of a column, the last one after the others. -/
theorem ColumnType.exists_typed_concat (type : ColumnType) {init : List Text} {x : Text}
    (h : type.HasLeaves (init ++ [x]).length) :
    ∃ front, ∀ y, type.typed (init ++ [y]) = front ++ [(type.lastLeaf, y)] := by
  cases type with
  | leaf type | array type =>
    refine ⟨init.map (type, ·), fun y => ?_⟩
    rw [typed, List.map_append, List.map_singleton]
    rfl
  | row first others =>
    have hne : first :: others ≠ [] := List.cons_ne_nil first others
    have hlength : (first :: others).dropLast.length = init.length := by
      unfold HasLeaves at h
      rw [List.length_append, List.length_singleton] at h
      rw [List.length_dropLast, ← h, Nat.add_sub_cancel]
    refine ⟨(first :: others).dropLast.zip init, fun y => ?_⟩
    have hsplit := List.dropLast_concat_getLast hne
    calc (first :: others).zip (init ++ [y])
        = ((first :: others).dropLast ++ [(first :: others).getLast hne]).zip (init ++ [y]) := by
          rw [hsplit]
      _ = (first :: others).dropLast.zip init ++ [((first :: others).getLast hne, y)] := by
          rw [List.zip_append hlength]
          rfl

namespace Dialect

variable {d : Dialect}

/-! ## Leaves -/

/-- What ends with a line break does not stand for null, unless it does without. -/
theorem IsChecked.standsForNull_concat (hd : d.IsChecked) {b : CodePoint}
    (hb : b.isLineBreak = true) (type : ColumnType) (t : Text) :
    d.standsForNull type (t ++ [b]) = (!type.isFreeText && d.standsForNull type t) := by
  unfold standsForNull
  cases hnull : d.nullLiteral with
  | none => rw [Bool.and_false]
  | some literal =>
    cases hfree : type.isFreeText with
    | false => simp [Text.trim_concat (CodePoint.isBlank_of_isLineBreak hb)]
    | true =>
      -- There is no line break in the null literal.
      have hne : t ++ [b] ≠ literal := by
        rintro rfl
        obtain ⟨-, -, hbreak, -⟩ := hd.nullLiteral_plain _ hnull b (by simp)
        rw [hb] at hbreak
        cases hbreak
      simpa using hne

/-- A leaf that is no text is read from its trimmed text. -/
theorem readLeaf_of_trim_eq {type : LeafType} (htype : type ≠ .string) {x y : Text}
    (h : y.trim = x.trim) : d.readLeaf type y = d.readLeaf type x := by
  have hfree : ColumnType.isFreeText (.leaf type) = false := by
    simpa [ColumnType.isFreeText] using htype
  have hstands : d.standsForNull (.leaf type) y = d.standsForNull (.leaf type) x := by
    simp only [standsForNull, hfree, h, Bool.false_eq_true, if_false]
  rw [readLeaf, readLeaf, hstands, if_neg htype, if_neg htype, h]

/-- A line break at its end makes a difference to a text, and to no other leaf. -/
theorem IsChecked.readLeaf_concat_iff (hd : d.IsChecked) {b : CodePoint}
    (hb : b.isLineBreak = true) (type : LeafType) (t : Text) :
    d.readLeaf type (t ++ [b]) = d.readLeaf type t ↔ type ≠ .string := by
  by_cases htype : type = .string
  · subst htype
    refine iff_of_false (fun heq => ?_) (fun hne => hne rfl)
    unfold readLeaf at heq
    rw [hd.standsForNull_concat hb (.leaf .string) t] at heq
    simp only [ColumnType.isFreeText, LeafType.read, reduceCtorEq, decide_false, beq_self_eq_true,
      Bool.not_true, Bool.false_and, Bool.or_self, Bool.false_eq_true, if_false, if_true,
      Bool.false_or] at heq
    split at heq
    · cases heq
    · simp at heq
  · have htrim := Text.trim_concat (CodePoint.isBlank_of_isLineBreak hb) t
    exact iff_of_true (readLeaf_of_trim_eq htype htrim) htype

/-! ## Columns -/

/-- The last leaf of a composite column's text stands between quotes. -/
def EndsInQuotes (d : Dialect) (x : Text) : Prop :=
  ∃ before units blanks,
    (d.marks d.elementDelimiter).IsForm false x ⟨before ++ [.quoted units blanks], []⟩

/-- A column that reads a text as it reads the text with a line break behind it. -/
structure IgnoresBreak (d : Dialect) (type : ColumnType) (x : Text) : Prop where
  /-- A composite column does not read the text as null, which it would not be with a line break. -/
  nullLiteral : type.isComposite = true → d.nullLiteral ≠ some x
  /-- If the last leaf is a text, it stands between quotes within a composite column. -/
  text : type.lastLeaf = .string → type.isComposite = true ∧ d.EndsInQuotes x

/-- The leaves of a composite column's text with a line break behind it: the same ones, if the last
one is quoted, and otherwise the last one ends with the line break. -/
theorem IsChecked.elements_concat (hd : d.IsChecked) {b : CodePoint} (hb : b.isLineBreak = true)
    {x : Text} {inners : List Text} (h : d.elements x = .ok inners) :
    (d.EndsInQuotes x ∧ d.elements (x ++ [b]) = .ok inners) ∨
      ∃ init y, ¬ d.EndsInQuotes x ∧ inners = init ++ [y] ∧
        d.elements (x ++ [b]) = .ok (init ++ [y ++ [b]]) := by
  have hdistinct := hd.isDistinct_element
  have hsplit := Except.mapError_eq_ok.1 h
  obtain ⟨raws, hraws, -⟩ := Except.bind_eq_ok.1 hsplit
  obtain ⟨⟨fields, ends⟩, hform, -⟩ :=
    Marks.exists_forms_of_fields rfl (Except.mapError_eq_ok.1 hraws)
  obtain rfl : ends = [] := hform.breaks_eq_nil rfl
  obtain ⟨g, others, hcons⟩ := hform.isFields.exists_cons
  have hne : fields ≠ [] := by
    rintro rfl
    cases hcons
  rw [← List.dropLast_concat_getLast hne] at hform
  generalize fields.dropLast = before at hform
  generalize fields.getLast hne = f at hform
  cases f with
  | quoted units blanks =>
    have hpush := Marks.split_push_quoted hdistinct rfl hform hb hsplit
    exact .inl ⟨⟨before, units, blanks, hform⟩, Except.mapError_eq_ok.2 hpush⟩
  | bare units =>
    have hstop : (d.marks d.elementDelimiter).isStop false b = false := by
      have hne : d.elementDelimiter ≠ b := by
        rintro rfl
        rw [hd.elementDelimiter_break] at hb
        cases hb
      simp [Marks.isStop, marks, hne]
    obtain ⟨init, -, hinners, hpush⟩ := Marks.split_push_bare hdistinct rfl hform
      (List.forall_mem_singleton.2 hb) (fun _ => rfl) (.inl hstop) hsplit
    refine .inr ⟨init, _, ?_, hinners, Except.mapError_eq_ok.2 hpush⟩
    -- The text has one form, and its last field is not quoted.
    rintro ⟨before', units', blanks, hform'⟩
    have hfields := congrArg LineForm.fields (Marks.isForm_unique hdistinct rfl hform hform')
    cases List.append_inj_right' hfields rfl

/-- Leaves are read, the last one after the others. -/
theorem readLeaves_concat_eq_ok {front : List (LeafType × Text)} {type : LeafType} {t : Text}
    {items : List Value} : d.readLeaves (front ++ [(type, t)]) = .ok items ↔
      ∃ others v, d.readLeaves front = .ok others ∧ d.readLeaf type t = .ok v ∧
        items = others ++ [v] := by
  unfold readLeaves
  rw [Except.mapM_concat_eq_ok]
  simp only [Except.mapError_eq_ok]

/-- A composite column that is not null is read with a line break behind it as it is without, if and
only if its last leaf is quoted or no text. -/
theorem IsChecked.readColumn_composite_concat_iff (hd : d.IsChecked) {b : CodePoint}
    (hb : b.isLineBreak = true) {type : ColumnType} (htype : type.isComposite = true) {x : Text}
    (hx : x ≠ []) (hstands : d.standsForNull type x = false) {w : Value}
    (h : d.readColumn type x = .ok w) :
    d.readColumn type (x ++ [b]) = .ok w ↔ (type.lastLeaf = .string → d.EndsInQuotes x) := by
  have hxb : x ++ [b] ≠ [] := List.append_ne_nil_of_left_ne_nil hx [b]
  have hstandsb : d.standsForNull type (x ++ [b]) = false := by
    rw [hd.standsForNull_concat hb, hstands, Bool.and_false]
  obtain ⟨inners, items, helements, hcount, hread, rfl⟩ :=
    (readColumn_composite_eq_ok htype hstands hx).1 h
  rw [readColumn_composite_eq_ok htype hstandsb hxb]
  rcases hd.elements_concat hb helements with ⟨hquotes, hsame⟩ | ⟨init, y, hquotes, rfl, hnew⟩
  · exact iff_of_true ⟨inners, items, hsame, hcount, hread, rfl⟩ fun _ => hquotes
  · obtain ⟨front, hfront⟩ := type.exists_typed_concat hcount
    rw [hfront, readLeaves_concat_eq_ok] at hread
    obtain ⟨others, u, hothers, hu, rfl⟩ := hread
    have hcountb : type.HasLeaves (init ++ [y ++ [b]]).length := by
      simpa using hcount
    have hleaf := hd.readLeaf_concat_iff hb type.lastLeaf y
    constructor
    · rintro ⟨innersb, itemsb, helementsb, -, hreadb, heq⟩ hstring
      cases hnew.symm.trans helementsb
      cases heq
      rw [hfront, readLeaves_concat_eq_ok] at hreadb
      obtain ⟨_, ub, -, hub, heq⟩ := hreadb
      cases List.append_inj_right' heq rfl
      exact absurd hstring (hleaf.1 (hub.trans hu.symm))
    · intro hstring
      have hne : type.lastLeaf ≠ .string := fun heq => hquotes (hstring heq)
      have hub : d.readLeaf type.lastLeaf (y ++ [b]) = .ok u := (hleaf.2 hne).trans hu
      refine ⟨_, others ++ [u], hnew, hcountb, ?_, rfl⟩
      rw [hfront, readLeaves_concat_eq_ok]
      exact ⟨others, u, hothers, hub, rfl⟩

/-- A column is read with a line break behind its text as it is without, if and only if it ignores
the line break. -/
theorem IsChecked.readColumn_concat_iff (hd : d.IsChecked) {b : CodePoint}
    (hb : b.isLineBreak = true) {type : ColumnType} {x : Text} (hx : x ≠ []) {w : Value}
    (h : d.readColumn type x = .ok w) :
    d.readColumn type (x ++ [b]) = .ok w ↔ d.IgnoresBreak type x := by
  by_cases htype : type.isComposite = true
  · have hfree : type.isFreeText = true := by
      cases type with
      | leaf => cases htype
      | row | array => rfl
    by_cases hliteral : d.nullLiteral = some x
    · have hstands : d.standsForNull type x = true := by simp [standsForNull, hliteral, hfree]
      cases (readColumn_of_standsForNull hstands).symm.trans h
      refine iff_of_false (fun hread => ?_) fun hignores => hignores.nullLiteral htype hliteral
      -- With a line break the text is a sequence.
      have hstandsb : d.standsForNull type (x ++ [b]) = false := by
        rw [hd.standsForNull_concat hb, hfree]
        rfl
      obtain ⟨_, _, _, _, _, heq⟩ := (readColumn_composite_eq_ok htype hstandsb
        (List.append_ne_nil_of_left_ne_nil hx [b])).1 hread
      cases heq
    · have hstands : d.standsForNull type x = false := by
        unfold standsForNull
        rw [hfree]
        cases hnull : d.nullLiteral with
        | none => rfl
        | some literal =>
          have hne : x ≠ literal := fun heq => hliteral (heq ▸ hnull)
          simpa using hne
      rw [hd.readColumn_composite_concat_iff hb htype hx hstands h]
      constructor
      · exact fun hquotes => ⟨fun _ => hliteral, fun hstring => ⟨htype, hquotes hstring⟩⟩
      · exact fun hignores hstring => (hignores.text hstring).2
  · cases type with
    | row | array => exact absurd rfl htype
    | leaf type =>
      rw [readColumn_leaf, Except.mapError_eq_ok] at h ⊢
      rw [← h, hd.readLeaf_concat_iff hb]
      constructor
      · exact fun hne => ⟨fun hcomposite => absurd hcomposite htype,
          fun hstring => absurd hstring hne⟩
      · exact fun hignores hstring => htype (hignores.text hstring).1

end Dialect

/-! ## Messages -/

/-- Line breaks do not make a comment of a text, nor do they make it none. -/
theorem Text.isComment_append_breaks {breaks : Text} (h : ∀ c ∈ breaks, c.isLineBreak = true)
    (t : Text) : isComment (t ++ breaks) = t.isComment := by
  have hinsert := isComment_insert (fun c hc => CodePoint.isBlank_of_isLineBreak (h c hc)) t []
  rwa [List.append_nil, List.append_nil] at hinsert

/-- Line breaks behind a message make no difference to its row, unless they are protected. For every
dialect, every text that is decoded to a row and every run of line breaks, among them the three that
end lines: with the line breaks behind it the text is decoded to the same row, if and only if it
does not end, outside of quotes, with an escape that has nothing to protect, or the column of the
last field ignores a line break at its end. A column of one leaf does so if it is none of texts. -/
theorem Settings.decode_append_iff {s : Settings} {d : Dialect} (h : s.dialect = .ok d)
    {schema : Schema} {t : Text} {values : List Value}
    (hdecode : (Codec.mk schema d).decode (.text t) = .ok (.row values)) {breaks : Text}
    (hne : breaks ≠ []) (hbreaks : ∀ c ∈ breaks, c.isLineBreak = true) :
    (Codec.mk schema d).decode (.text (t ++ breaks)) = .ok (.row values) ↔
      ∀ before x column, (d.marks d.fieldDelimiter).EndsInEscape t before x →
        schema.columns[before.length]? = some column → d.IgnoresBreak column.type x := by
  have hd := isChecked_of_dialect h
  have hdistinct := hd.isDistinct_field
  obtain ⟨ts, hts, hlength, hread⟩ := Schema.decodeRecord_eq_ok.1
    ((Codec.decode_eq_row_iff rfl hdecode).1 hdecode)
  -- The line breaks do not make a comment of the text, so it is its record that counts.
  rw [Codec.decode_eq_row_iff (Text.isComment_append_breaks hbreaks t) hdecode,
    Schema.decodeRecord_eq_ok]
  by_cases hescape : ∃ before x, (d.marks d.fieldDelimiter).EndsInEscape t before x
  · obtain ⟨before, x, units, hform, hleaves, rfl⟩ := hescape
    obtain ⟨b, rest, rfl⟩ := List.exists_cons_of_ne_nil hne
    have hb := hbreaks b List.mem_cons_self
    obtain ⟨init, hinit, rfl, hpush⟩ := Marks.split_push_bare hdistinct rfl hform hbreaks
      (nofun : true = false → _) (.inr hleaves) hts
    have hx := hleaves.meaning_ne_nil
    -- Only the last field differs, so it is for its column to ignore the line break.
    have hlt : init.length < schema.columns.length := by
      rw [List.length_append, List.length_singleton] at hlength
      exact hlength
    obtain ⟨column, w, hcolumn, hw, hiff⟩ := Dialect.readColumns_append_cons_iff hread hlt
    have hignores := hd.readColumn_concat_iff hb hx hw
    constructor
    · rintro ⟨tsb, htsb, -, hreadb⟩ before' x column' ⟨units', hform', -, rfl⟩ hcolumn'
      cases hpush.symm.trans htsb
      -- The record has one form, so this is its last field.
      have hforms := congrArg LineForm.fields (Marks.isForm_unique hdistinct rfl hform hform')
      obtain ⟨rfl, hlast⟩ := List.append_inj' hforms rfl
      cases hlast
      rw [← hinit, hcolumn] at hcolumn'
      cases hcolumn'
      exact hignores.1 ((hiff _).1 hreadb)
    · intro hall
      have hends : (d.marks d.fieldDelimiter).EndsInEscape t before _ :=
        ⟨units, hform, hleaves, rfl⟩
      have hreadb := (hiff _).2 (hignores.2 (hall before _ column hends (hinit ▸ hcolumn)))
      refine ⟨_, hpush, ?_, hreadb⟩
      rwa [List.length_append, List.length_singleton] at hlength ⊢
  · have hsame := Marks.split_append_breaks hdistinct rfl
      (fun before x hends => hescape ⟨before, x, hends⟩) hbreaks hts
    refine iff_of_true ⟨ts, hsame, hlength, hread⟩ fun before x column hends => ?_
    exact absurd ⟨before, x, hends⟩ hescape

/-- The standard dialect with a backslash as its escape. -/
def Dialect.escaping : Dialect := { Dialect.standard with escape := some (.ofChar '\\') }

/-- The settings of that dialect. -/
theorem Settings.dialect_escaping :
    ({ escape := .text "\\" } : Settings).dialect = .ok .escaping := rfl

/-- A column in which only null is allowed ignores the escape at the end of the message, and the
line break that it protects. -/
theorem Settings.decode_append_null :
    ({ escape := .text "\\" } : Settings).dialect = .ok .escaping ∧
      (Codec.mk (.single (.leaf .null)) .escaping).decode (.text "a\\") = .ok (.row [.null]) ∧
      (Codec.mk (.single (.leaf .null)) .escaping).decode (.text "a\\\r\n")
        = .ok (.row [.null]) := by
  have hfields : Dialect.escaping.recordFields "a\\" = .ok ["a\\"] :=
    Marks.split_of_field_nil rfl rfl
  have hdecode : (Codec.mk (.single (.leaf .null)) .escaping).decode (.text "a\\")
      = .ok (.row [.null]) :=
    Codec.decode_of_recordFields rfl hfields (Nat.le_refl 1) rfl
  have hbreaks : ∀ c ∈ Text.ofString "\r\n", c.isLineBreak = true :=
    List.forall_iff_forall_mem.1 (by decide)
  refine ⟨Settings.dialect_escaping, hdecode, (Settings.decode_append_iff
    Settings.dialect_escaping hdecode (List.cons_ne_nil _ _) hbreaks).2
      fun before x column hends hcolumn => ?_⟩
  have htype : column.type = .leaf .null := by
    have hmem := List.mem_of_getElem? hcolumn
    rw [List.mem_singleton.1 hmem]
  rw [htype]
  exact ⟨fun hcomposite => (nomatch hcomposite), fun hstring => (nomatch hstring)⟩

/-- A text that ends with an escape is decoded to itself; with a line break behind it, to itself and
the line break. -/
theorem Settings.decode_append_text :
    ({ escape := .text "\\" } : Settings).dialect = .ok .escaping ∧
      (Codec.mk (.single (.leaf .string)) .escaping).decode (.text "a\\")
        = .ok (.row [.text "a\\"]) ∧
      (Codec.mk (.single (.leaf .string)) .escaping).decode (.text "a\\\n")
        = .ok (.row [.text "a\\\n"]) := by
  have hread : ∀ t, Dialect.escaping.recordFields t = .ok [t] →
      (Codec.mk (.single (.leaf .string)) .escaping).decode (.text t) = .ok (.row [.text t]) :=
    fun t hfields => Codec.decode_of_recordFields rfl hfields (Nat.le_refl 1) rfl
  exact ⟨Settings.dialect_escaping, hread _ (Marks.split_of_field_nil rfl rfl),
    hread _ (Marks.split_of_field_nil rfl rfl)⟩

end Delimited
