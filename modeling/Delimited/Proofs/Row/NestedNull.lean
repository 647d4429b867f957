import Delimited.Proofs.Row.Composite
import Delimited.Proofs.Row.NullLiteral

/-!
# Nulls within composite columns

The null literal marks a null leaf and a null column alike. As the text of a composite column is its
leaves with delimiters between them, and no delimiter stands in the null literal, the two are told
apart if there are two leaves or more: the nulls of a composite column keep their places. A
composite of one null, though, is written as the null column is, and read back as null.
`decode_nested_nulls_iff` says both, for every row that such a column stands in.
-/

namespace Delimited

namespace Dialect

variable {d : Dialect}

/-- With a null literal a leaf that is written within a composite column is read there, be it as
null. -/
theorem HasPlainNull.readsLeaves (h : d.HasPlainNull) {literal : Text}
    (hnull : d.nullLiteral = some literal) (type : ColumnType) (v : Value) :
    d.ReadsLeaves type v := by
  intro leaf _ t part hnests
  by_cases ht : d.nullLiteral = some t
  · have hstands := standsForNull_nullText ht (h t ht).1 (.leaf leaf.1)
    rw [nullText, ht, Option.getD_some] at hstands
    exact ⟨.null, by simp [readLeaf, hstands]⟩
  · refine ⟨_, h.readLeaf_of_nests ⟨fun _ hnone => ?_, fun hv t' ht' => ?_⟩ hnests⟩
    · rw [hnull] at hnone
      cases hnone
    · cases hnests with
      | null => exact absurd rfl hv
      | leaf _ hwrites =>
        cases (LeafType.write_of_writes hwrites).symm.trans ht'
        exact ht

/-! ## Composite values with nulls -/

/-- A composite value of a column's type with a null among its items, each other item of which is
written, and not as the null literal. -/
structure HoldsNull (d : Dialect) (type : ColumnType) (v : Value) (items : List Value) : Prop where
  /-- The type is composite. -/
  composite : type.isComposite = true
  /-- The value has the shape that the type wants. -/
  shape : ∀ r, ¬ type.Misshapes v r
  /-- The value has the items. -/
  items_eq : v.items? = some items
  /-- There is a null among them. -/
  null : .null ∈ items
  /-- The others are written, and not as the null literal. -/
  leaf : ∀ leaf ∈ type.leaves v, leaf.2 ≠ .null →
    ∃ t, leaf.1.write leaf.2 = .ok t ∧ d.nullLiteral ≠ some t

namespace HoldsNull

variable {type : ColumnType} {v : Value} {items : List Value}

/-- The leaves are the items with their types. -/
theorem map_leaves (h : d.HoldsNull type v items) : (type.leaves v).map Prod.snd = items :=
  ColumnType.map_leaves h.composite h.shape h.items_eq

/-- The value has a text in the column. -/
theorem exists_fills (h : d.HoldsNull type v items) : ∃ t, d.Fills type v t := by
  refine exists_fills_of_shape (ColumnType.ne_null_of_items? h.items_eq) h.shape
    fun leaf hleaf hv => ?_
  obtain ⟨t, ht, -⟩ := h.leaf leaf hleaf hv
  exact ⟨t, ht⟩

/-- The leaves are not taken for null unless they are. -/
theorem isClearLeaf (h : d.HoldsNull type v items) {literal : Text}
    (hnull : d.nullLiteral = some literal) : ∀ leaf ∈ type.leaves v, d.IsClearLeaf leaf := by
  refine fun leaf hleaf => ⟨fun _ hnone => ?_, fun hv t ht => ?_⟩
  · cases hnull.symm.trans hnone
  · obtain ⟨t', ht', hne⟩ := h.leaf leaf hleaf hv
    cases ht'.symm.trans ht
    exact hne

/-- Two leaves have a delimiter between them. -/
theorem elementDelimiter_mem (h : d.HoldsNull type v items) (hcount : 2 ≤ items.length) {t : Text}
    (ht : d.columnText type v = .ok t) : d.elementDelimiter ∈ t := by
  rw [columnText_of_shape h.composite h.shape] at ht
  obtain ⟨parts, hparts, rfl⟩ := compositeText_eq_ok.1 ht
  have hlength : parts.length = items.length := by
    rw [← hparts.length_eq, ← h.map_leaves, List.length_map]
  match parts, hlength ▸ hcount with
  | a :: b :: parts, _ =>
    rw [Text.join, List.intercalate_cons_cons]
    simp

/-- Two leaves or more are not taken for null. -/
theorem isClear (h : d.HoldsNull type v items) (hd : d.IsChecked) {literal : Text}
    (hnull : d.nullLiteral = some literal) (hcount : 2 ≤ items.length) : d.IsClear type v := by
  refine ⟨h.isClearLeaf hnull, fun _ hnone => ?_, fun _ _ t ht => ?_⟩
  · cases hnull.symm.trans hnone
  · -- The delimiter in the text is neither in the null literal nor in the empty text.
    have hmem := h.elementDelimiter_mem hcount ht
    refine ⟨fun hliteral => ?_, fun hnil => ?_⟩
    · exact (hd.nullLiteral_plain t hliteral _ hmem).2.1 rfl
    · cases hnil ▸ hmem

/-- One leaf, which is null, is written as the null column is. -/
theorem columnText_eq_nullText (h : d.HoldsNull type v items) (hcount : items.length = 1) :
    d.columnText type v = .ok d.nullText := by
  obtain ⟨item, rfl⟩ := List.length_eq_one_iff.1 hcount
  obtain rfl := List.mem_singleton.1 h.null
  obtain ⟨⟨type', _⟩, hleaves, rfl⟩ := List.map_eq_singleton_iff.1 h.map_leaves
  rw [columnText_of_shape h.composite h.shape, hleaves]
  exact compositeText_eq_ok.2
    ⟨[d.nullText], .cons ⟨_, .null type'⟩ .nil, List.intercalate_singleton⟩

end HoldsNull

end Dialect

/-- The items of a value are as many as the given ones, and null where these are. -/
def Value.KeepsNulls (v : Value) (items : List Value) : Prop :=
  ∃ kept, v.items? = some kept ∧ kept.length = items.length ∧
    ∀ k : Nat, kept[k]? = some .null ↔ items[k]? = some .null

namespace Dialect

variable {d : Dialect} {type : ColumnType} {v : Value} {items : List Value}

/-- The canonical form of a composite value keeps its nulls. -/
theorem HoldsNull.keepsNulls_canonical (h : d.HoldsNull type v items) :
    (type.canonical v).KeepsNulls items := by
  have hv := ColumnType.ne_null_of_items? h.items_eq
  have hcomposite := h.composite
  have hkept : (type.canonical v).items? = some (type.canonicalLeaves v) := by
    cases type with
    | leaf => cases hcomposite
    | row => rw [ColumnType.canonical_row hv, Value.items?]
    | array => rw [ColumnType.canonical_array hv, Value.items?]
  refine ⟨_, hkept, ?_, fun k => ?_⟩
  · rw [ColumnType.canonicalLeaves, List.length_map, ← h.map_leaves, List.length_map]
  · rw [ColumnType.canonicalLeaves, ← h.map_leaves, List.getElem?_map, List.getElem?_map]
    cases hleaf : (type.leaves v)[k]? with
    | none => exact Iff.rfl
    | some leaf =>
      simp only [Option.map_some, Option.some.injEq]
      refine ⟨fun hcanonical => Classical.byContradiction fun hne => ?_, fun hnull => ?_⟩
      · obtain ⟨t, ht, -⟩ := h.leaf leaf (List.mem_of_getElem? hleaf) hne
        exact (LeafType.writes_of_write ht).canonical_ne_null hne hcanonical
      · rw [hnull, LeafType.canonical_null]

/-- A composite value with nulls keeps them if it has two leaves or more, and is read as null if it
has one. -/
theorem HoldsNull.keepsNulls_iff (h : d.HoldsNull type v items) (hd : d.IsChecked) {q : CodePoint}
    (hq : d.quote = some q) {literal : Text} (hnull : d.nullLiteral = some literal)
    (hplain : d.HasPlainNull) {first : Bool} {t field : Text}
    (hstands : d.Stands first type v t field) {w : Value} (hw : d.readColumn type t = .ok w) :
    (w.KeepsNulls items ↔ 2 ≤ items.length) ∧ (items.length = 1 → w = .null) := by
  have hpos := List.length_pos_of_mem h.null
  by_cases hcount : 2 ≤ items.length
  · have hread := hplain.readColumn_of_stands hd hq (h.isClear hd hnull hcount) hstands
    cases hw.symm.trans hread
    exact ⟨iff_of_true h.keepsNulls_canonical hcount, fun hone => by omega⟩
  · have hone : items.length = 1 := by omega
    have ht : t = d.nullText := by
      cases hstands with
      | null => rfl
      | text _ hfills =>
        exact Except.ok.inj ((columnText_eq_ok.2 hfills).symm.trans (h.columnText_eq_nullText hone))
    rw [ht, readColumn_literal hnull (hplain literal hnull).1 type] at hw
    cases hw
    exact ⟨iff_of_false (fun ⟨_, hitems, _⟩ => nomatch hitems) hcount, fun _ => rfl⟩

/-- A composite value with nulls is taken by its column unless there is a surrogate in its text. -/
theorem HoldsNull.takes_iff (h : d.HoldsNull type v items) :
    ∃ t, d.columnText type v = .ok t ∧ (d.Takes type v ↔ ∀ c ∈ t, c.isSurrogate = false) := by
  obtain ⟨t, hfills⟩ := h.exists_fills
  exact ⟨t, columnText_eq_ok.2 hfills, hfills.takes_iff (ColumnType.ne_null_of_items? h.items_eq)⟩

end Dialect

/-- The nulls of a composite column keep their places if it has two leaves or more. For a dialect
that reads no comments, with a quote, a ceiling above the line breaks and a null literal without
escapes in it and blanks around it: let a row have a composite value with nulls in one of its
columns, whose other leaves are written, and not as the null literal. Then the row is encoded if
each column takes its value, as that one does unless there is a surrogate in its text; and what is
read back in the place of the composite value has as many leaves, null in the same places, if and
only if there are two or more. A composite of one null is read back as null. -/
theorem Settings.decode_nested_nulls_iff {s : Settings} {d : Dialect} {q : CodePoint}
    {literal : Text} (h : s.dialect = .ok d) (hq : d.quote = some q) (hceiling : 13 ≤ d.highestMark)
    (hcomments : d.allowComments = false) (hnull : d.nullLiteral = some literal)
    (hplain : d.HasPlainNull) {schema : Schema} {row : Value} {values : List Value}
    (hrow : schema.rowValues row = .ok values) {j : Nat} {column : Column} {v : Value}
    {items : List Value} (hcolumn : schema.columns[j]? = some column) (hvalue : values[j]? = some v)
    (hholds : d.HoldsNull column.type v items) :
    (∃ t, d.columnText column.type v = .ok t ∧
      (d.Takes column.type v ↔ ∀ c ∈ t, c.isSurrogate = false)) ∧
    ((∃ line, (Codec.mk schema d).encodeText row = .ok line) ↔
      ∀ p ∈ schema.columns.zip values, d.Takes p.1.type p.2) ∧
    ∀ line, (Codec.mk schema d).encodeText row = .ok line → ∃ (back : List Value) (w : Value),
      (Codec.mk schema d).decode (.text line) = .ok (.row back) ∧ back[j]? = some w ∧
        (w.KeepsNulls items ↔ 2 ≤ items.length) ∧ (items.length = 1 → w = .null) := by
  have hd := isChecked_of_dialect h
  refine ⟨hholds.takes_iff, Codec.exists_encodeText_iff hrow, fun line hline => ?_⟩
  obtain ⟨values', ts, fields, hvalues', hlines, rfl⟩ := Codec.encodeText_eq_ok.1 hline
  cases hrow.symm.trans hvalues'
  -- Every column of the line is read, the one of the composite value from its text.
  obtain ⟨back, hback⟩ := hplain.exists_readColumns_of_lines hd hq
    (fun p _ => hplain.readsLeaves hnull p.1.type p.2) hlines 0
  obtain ⟨w, t, first, field, hw, hstands, hread⟩ := hlines.exists_readColumn hback hcolumn hvalue
  have hdecode := (Codec.decode_line_eq_row hd hq hceiling hcomments hplain hlines).2 hback
  exact ⟨back, w, hdecode, hw, hholds.keepsNulls_iff hd hq hnull hplain hstands hread⟩

/-- In a row with an array of an empty text, a null and a text that is quoted, the null stays in its
place. -/
theorem Settings.decode_nested_nulls_mixed :
    ∃ (d : Dialect) (line : Text) (back : List Value) (w : Value),
      ({ escape := .text [92], nullLiteral := .text "NA" } : Settings).dialect = .ok d ∧
      (Codec.mk .mixed d).encodeText .mixed = .ok line ∧
      (Codec.mk .mixed d).decode (.text line) = .ok (.row back) ∧ back[2]? = some w ∧
      w.KeepsNulls [.text [], .null, .text "x;\\"] := by
  have h := dialect_backslash (.ofString "NA") (by decide)
  have hplain : Dialect.HasPlainNull
      { Dialect.standard with escape := some 92, nullLiteral := some "NA" } := by
    rintro literal hliteral
    cases hliteral
    refine ⟨rfl, fun e he => ?_⟩
    cases he
    decide
  have hholds : Dialect.HoldsNull
      { Dialect.standard with escape := some 92, nullLiteral := some "NA" }
      (.array .string) (.sequence .tuple [.text [], .null, .text "x;\\"])
      [.text [], .null, .text "x;\\"] := by
    refine ⟨rfl, fun r hr => by cases hr; contradiction, rfl, by simp, ?_⟩
    refine List.forall_mem_cons.2 ⟨fun _ => ⟨_, rfl, by decide⟩, List.forall_mem_cons.2
      ⟨fun hne => absurd rfl hne, List.forall_mem_singleton.2 fun _ => ⟨_, rfl, by decide⟩⟩⟩
  have hrow : Schema.mixed.rowValues .mixed = .ok _ := rfl
  obtain ⟨-, -, hdecode⟩ := Settings.decode_nested_nulls_iff h rfl (by decide) rfl rfl hplain hrow
    (j := 2) rfl rfl hholds
  obtain ⟨back, w, hback, hw, hkeeps, -⟩ := hdecode _ rfl
  exact ⟨_, _, back, w, h, rfl, hback, hw, hkeeps.2 (by decide)⟩

/-- An array of one null is written as the null column is, and read back as null. -/
theorem Settings.decode_nested_nulls_lone :
    ∃ d : Dialect, ({ nullLiteral := .text "null" } : Settings).dialect = .ok d ∧
      d.quote = some (.ofChar '"') ∧ 13 ≤ d.highestMark ∧ d.allowComments = false ∧
      d.nullLiteral = some "null" ∧ d.HasPlainNull ∧
      d.HoldsNull (.array .byte) (.sequence .list [.null]) [.null] ∧
      (Codec.mk (.single (.array .byte)) d).encodeText (.sequence .tuple [.sequence .list [.null]])
        = .ok "null\n" ∧
      (Codec.mk (.single (.array .byte)) d).decode (.text "null\n") = .ok (.row [.null]) := by
  have h : ({ nullLiteral := .text "null" } : Settings).dialect
      = .ok { Dialect.standard with nullLiteral := some "null" } :=
    dialect_set_nullLiteral dialect_default (List.forall_iff_forall_mem.1 (by decide))
  have hplain : Dialect.HasPlainNull
      { Dialect.standard with nullLiteral := some "null" } := by
    rintro literal hliteral
    cases hliteral
    exact ⟨rfl, fun e he => by cases he⟩
  have hholds : Dialect.HoldsNull
      { Dialect.standard with nullLiteral := some "null" }
      (.array .byte) (.sequence .list [.null]) [.null] :=
    ⟨rfl, fun r hr => by cases hr; contradiction, rfl, List.mem_singleton_self _,
      List.forall_mem_singleton.2 fun hne => absurd rfl hne⟩
  refine ⟨_, h, rfl, by decide, rfl, rfl, hplain, hholds, rfl, ?_⟩
  have hd := isChecked_of_dialect h
  have hfields := Dialect.recordFields_of_frames hd (hplain.frames_nullText hd (.inl rfl) true)
  exact Codec.decode_of_recordFields rfl hfields (Nat.le_refl 1) rfl

end Delimited
