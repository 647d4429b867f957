import Delimited.Proofs.Field.Quoting
import Delimited.Proofs.Row.Canonical
import Delimited.Proofs.Row.Comment
import Delimited.Proofs.Row.Decoding

/-!
# Encoded rows are decoded again

A line is split into the texts of its columns, since these are framed, and the text of a composite
column into those of its leaves, for the same reason one level down. Each text is then read back in
canonical form. What can go wrong is null: a value whose text is the null literal, or a null that
reads as something else. `IsClear` says of a column's value that it is not so, and `HasPlainNull` of
a dialect that its null literal is not changed by what surrounds it.
-/

namespace Delimited

namespace Dialect

variable {d : Dialect}

/-- The null literal has no blanks around it, and there is no escape in it. -/
def HasPlainNull (d : Dialect) : Prop :=
  ∀ literal, d.nullLiteral = some literal → literal.trim = literal ∧
    ∀ e, d.escape = some e → e ∉ literal

/-- A leaf is not taken for null unless it is null, and null for nothing else. -/
structure IsClearLeaf (d : Dialect) (leaf : LeafType × Value) : Prop where
  /-- Without a null literal null stands only where nothing else is allowed. -/
  null : leaf.2 = .null → d.nullLiteral = none → leaf.1 = .null
  /-- No text of a value is the null literal. -/
  text : leaf.2 ≠ .null → ∀ t, leaf.1.write leaf.2 = .ok t → d.nullLiteral ≠ some t

/-- A column's value is not taken for null unless it is null, and null for nothing else. -/
structure IsClear (d : Dialect) (type : ColumnType) (v : Value) : Prop where
  /-- The leaves are clear. -/
  leaves : ∀ leaf ∈ type.leaves v, d.IsClearLeaf leaf
  /-- Without a null literal no array is null. -/
  array : v = .null → d.nullLiteral = none → ∀ element, type ≠ .array element
  /-- The text of a composite column is not the null literal, and not empty but for an empty array.
  -/
  text : type.isComposite = true → v ≠ .null → ∀ t, d.columnText type v = .ok t →
    d.nullLiteral ≠ some t ∧ (t = [] → v.items? = some [])

/-! ## Framed texts -/

/-- The null literal is framed as it is. -/
theorem HasPlainNull.frames_nullText (h : d.HasPlainNull) (hd : d.IsChecked) {delimiter : CodePoint}
    (hdelimiter : delimiter = d.fieldDelimiter ∨ delimiter = d.elementDelimiter) (record : Bool) :
    (d.marks delimiter).Frames record d.nullText d.nullText := by
  refine frames_bare fun c hc => ?_
  cases hnull : d.nullLiteral with
  | none => simp [nullText, hnull] at hc
  | some literal =>
    rw [nullText, hnull, Option.getD_some] at hc
    obtain ⟨hfield, helement, hbreak, hquote⟩ := hd.nullLiteral_plain literal hnull c hc
    have hne : c ≠ delimiter := by
      rcases hdelimiter with rfl | rfl
      · exact hfield
      · exact helement
    have hescape : d.escape ≠ some c := fun he => (h literal hnull).2 c he hc
    simp [isSpecial, hne, hbreak, hquote, hescape]

/-- What is written for a leaf within a composite column is framed. -/
theorem HasPlainNull.frames_nests (h : d.HasPlainNull) (hd : d.IsChecked) {q : CodePoint}
    (hq : d.quote = some q) {leaf : LeafType × Value} {t part : Text}
    (hnests : d.Nests leaf t part) :
    (d.marks d.elementDelimiter).Frames false part t := by
  cases hnests with
  | null => exact h.frames_nullText hd (.inr rfl) false
  | leaf => exact frames_leafText hq _ t

/-- A column as it stands in a line is framed. -/
theorem HasPlainNull.frames_stands (h : d.HasPlainNull) (hd : d.IsChecked) {q : CodePoint}
    (hq : d.quote = some q) (hceiling : 13 ≤ d.highestMark) {first : Bool} {type : ColumnType}
    {v : Value} {t field : Text} (hstands : d.Stands first type v t field) :
    (d.marks d.fieldDelimiter).Frames true field t := by
  cases hstands with
  | null => exact h.frames_nullText hd (.inl rfl) true
  | text =>
    exact frames_fieldText hq
      (mustQuoteField_or_isLineBreak (isQuoting_of_quote hq) hceiling type first t)

/-- The columns of a line are framed. -/
theorem HasPlainNull.frames_lines (h : d.HasPlainNull) (hd : d.IsChecked) {q : CodePoint}
    (hq : d.quote = some q) (hceiling : 13 ≤ d.highestMark) {first : Bool} {columns : List Column}
    {values : List Value} {ts fields : List Text}
    (hlines : d.Lines first columns values ts fields) :
    List.Forall₂ ((d.marks d.fieldDelimiter).Frames true) fields ts := by
  induction hlines with
  | nil => exact .nil
  | cons hstands _ ih => exact .cons (h.frames_stands hd hq hceiling hstands) ih

/-- A line is split into the texts of its columns. -/
theorem HasPlainNull.recordFields_of_lines (h : d.HasPlainNull) (hd : d.IsChecked) {q : CodePoint}
    (hq : d.quote = some q) (hceiling : 13 ≤ d.highestMark) {columns : List Column}
    (hcolumns : columns ≠ []) {values : List Value} {ts fields : List Text}
    (hlines : d.Lines true columns values ts fields) :
    d.recordFields (Text.join [d.fieldDelimiter] fields ++ d.lineDelimiter) = .ok ts := by
  have hne : fields ≠ [] := by
    rintro rfl
    exact hcolumns (List.length_eq_zero_iff.1 hlines.length_eq.2.2.symm)
  exact recordFields_join hd hne (h.frames_lines hd hq hceiling hlines)

/-! ## Leaves -/

/-- The null literal stands for null if there are no blanks around it. -/
theorem standsForNull_nullText {literal : Text} (hnull : d.nullLiteral = some literal)
    (htrim : literal.trim = literal) (type : ColumnType) :
    d.standsForNull type d.nullText = true := by
  simp [standsForNull, nullText, hnull, htrim]

/-- A text that is not the null literal does not stand for null, whether it is trimmed or has not to
be. -/
theorem standsForNull_eq_false {type : ColumnType} {t : Text}
    (htrim : type.isFreeText = false → t.trim = t) (h : d.nullLiteral ≠ some t) :
    d.standsForNull type t = false := by
  unfold standsForNull
  split
  · rfl
  · next literal hnull =>
    have hne : t ≠ literal := fun heq => h (heq ▸ hnull)
    split
    · simpa using hne
    · next hfree =>
      rw [htrim (by simpa using hfree)]
      simpa using hne

/-- What a leaf type writes is trimmed, unless it is a text. -/
theorem trim_of_writes {type : LeafType} {v : Value} {t : Text} (h : type.Writes v t) :
    (ColumnType.leaf type).isFreeText = false → t.trim = t := fun hfree =>
  (h.isPhrase (by simpa [ColumnType.isFreeText] using hfree)).trim_eq_self

/-- A leaf's text is read back in canonical form. -/
theorem readLeaf_of_writes {type : LeafType} {v : Value} {t : Text} (hv : v ≠ .null)
    (h : type.Writes v t) (hnull : d.nullLiteral ≠ some t) :
    d.readLeaf type t = .ok (type.canonical v) := by
  have htype : type ≠ .null := by
    rintro rfl
    exact hv (LeafType.eq_null_of_writes h)
  have htrim : (if type = .string then t else t.trim) = t := by
    split
    · rfl
    · next hstring => exact (h.isPhrase hstring).trim_eq_self
  rw [readLeaf, standsForNull_eq_false (trim_of_writes h) hnull, htrim]
  simp [htype, LeafType.read_of_writes h]

/-- A leaf is read back in canonical form within a composite column. -/
theorem HasPlainNull.readLeaf_of_nests (h : d.HasPlainNull) {leaf : LeafType × Value}
    {t part : Text} (hclear : d.IsClearLeaf leaf) (hnests : d.Nests leaf t part) :
    d.readLeaf leaf.1 t = .ok (leaf.1.canonical leaf.2) := by
  cases hnests with
  | null type =>
    rw [LeafType.canonical_null, readLeaf]
    cases hnull : d.nullLiteral with
    | none =>
      have htype : type = .null := hclear.null rfl hnull
      simp [htype]
    | some literal => simp [standsForNull_nullText hnull (h literal hnull).1]
  | leaf hv hwrites =>
    exact readLeaf_of_writes hv hwrites (hclear.text hv _ (LeafType.write_of_writes hwrites))

/-! ## Composite columns -/

/-- Leaves within a composite column have texts that they are framed for, with any property that the
texts of written leaves have. -/
theorem HasPlainNull.exists_inners (h : d.HasPlainNull) (hd : d.IsChecked) {q : CodePoint}
    (hq : d.quote = some q) {P : LeafType × Value → Text → Prop}
    {leaves : List (LeafType × Value)} {parts : List Text}
    (hP : ∀ leaf ∈ leaves, ∀ inner part, d.Nests leaf inner part → P leaf inner)
    (hparts : List.Forall₂ (fun leaf part => ∃ inner, d.Nests leaf inner part) leaves parts) :
    ∃ inners, List.Forall₂ ((d.marks d.elementDelimiter).Frames false) parts inners ∧
      List.Forall₂ P leaves inners := by
  induction hparts with
  | nil => exact ⟨[], .nil, .nil⟩
  | cons hnests _ ih =>
    obtain ⟨hleaf, hleaves⟩ := List.forall_mem_cons.1 hP
    obtain ⟨inner, hnests⟩ := hnests
    obtain ⟨inners, hframes, hinners⟩ := ih hleaves
    exact ⟨inner :: inners, .cons (h.frames_nests hd hq hnests) hframes,
      .cons (hleaf _ _ hnests) hinners⟩

/-- Joined leaves are split into their texts. -/
theorem elements_join (hd : d.IsChecked) {parts inners : List Text} (hne : parts ≠ [])
    (hframes : List.Forall₂ ((d.marks d.elementDelimiter).Frames false) parts inners) :
    d.elements (Text.join [d.elementDelimiter] parts) = .ok inners := by
  have hbreaks : ∀ c ∈ ([] : Text), c.isLineBreak = true := by simp
  have hsplit := Marks.split_join hd.isDistinct_element rfl hbreaks (fun _ => rfl) hne hframes
  rw [List.append_nil] at hsplit
  exact Except.mapError_eq_ok.2 hsplit

/-- Texts with the types of leaves are read back as their canonical forms. -/
theorem readLeaves_of_forall₂ {leaves : List (LeafType × Value)} {inners : List Text}
    (h : List.Forall₂ (fun leaf inner => d.readLeaf leaf.1 inner = .ok (leaf.1.canonical leaf.2))
      leaves inners) :
    d.readLeaves ((leaves.map Prod.fst).zip inners)
      = .ok (leaves.map fun leaf => leaf.1.canonical leaf.2) := by
  refine Except.mapM_eq_ok.2 ?_
  induction h with
  | nil => exact .nil
  | cons hread _ ih => exact .cons (Except.mapError_eq_ok.2 hread) ih

/-- The joined text of leaves is split into their texts, with any property that the texts of written
leaves have. -/
theorem HasPlainNull.exists_elements (h : d.HasPlainNull) (hd : d.IsChecked) {q : CodePoint}
    (hq : d.quote = some q) {P : LeafType × Value → Text → Prop}
    {leaves : List (LeafType × Value)} {parts : List Text}
    (hP : ∀ leaf ∈ leaves, ∀ inner part, d.Nests leaf inner part → P leaf inner)
    (hne : parts ≠ [])
    (hparts : List.Forall₂ (fun leaf part => ∃ inner, d.Nests leaf inner part) leaves parts) :
    ∃ inners, d.elements (Text.join [d.elementDelimiter] parts) = .ok inners ∧
      List.Forall₂ P leaves inners := by
  obtain ⟨inners, hframes, hinners⟩ := h.exists_inners hd hq hP hparts
  exact ⟨inners, elements_join hd hne hframes, hinners⟩

/-- The joined text of clear leaves is split into as many texts, which are read back in canonical
form. -/
theorem HasPlainNull.exists_elements_canonical (h : d.HasPlainNull) (hd : d.IsChecked)
    {q : CodePoint} (hq : d.quote = some q) {leaves : List (LeafType × Value)} {parts : List Text}
    (hclear : ∀ leaf ∈ leaves, d.IsClearLeaf leaf) (hne : parts ≠ [])
    (hparts : List.Forall₂ (fun leaf part => ∃ inner, d.Nests leaf inner part) leaves parts) :
    ∃ inners, d.elements (Text.join [d.elementDelimiter] parts) = .ok inners ∧
      inners.length = leaves.length ∧ d.readLeaves ((leaves.map Prod.fst).zip inners)
        = .ok (leaves.map fun leaf => leaf.1.canonical leaf.2) := by
  obtain ⟨inners, helements, hread⟩ := h.exists_elements hd hq
    (fun leaf hleaf _ _ hnests => h.readLeaf_of_nests (hclear leaf hleaf) hnests) hne hparts
  exact ⟨inners, helements, hread.length_eq.symm, readLeaves_of_forall₂ hread⟩

/-- The text of a row that is not null is read back in canonical form. -/
theorem HasPlainNull.readColumn_row (h : d.HasPlainNull) (hd : d.IsChecked) {q : CodePoint}
    (hq : d.quote = some q) {first : LeafType} {others : List LeafType} {v : Value}
    {items : List Value} {parts : List Text} (hitems : v.items? = some items)
    (hlength : items.length = (first :: others).length)
    (hparts : List.Forall₂ (fun leaf part => ∃ inner, d.Nests leaf inner part)
      ((first :: others).zip items) parts)
    (hclear : d.IsClear (.row first others) v) :
    d.readColumn (.row first others) (Text.join [d.elementDelimiter] parts)
      = .ok ((ColumnType.row first others).canonical v) := by
  have hv := ColumnType.ne_null_of_items? hitems
  have hleaves : (ColumnType.row first others).leaves v = (first :: others).zip items :=
    ColumnType.leaves_row hitems
  have hcount : ((first :: others).zip items).length = (first :: others).length := by
    rw [List.length_zip, hlength, Nat.min_self]
  have hfst : ((first :: others).zip items).map Prod.fst = first :: others :=
    List.map_fst_zip (Nat.le_of_eq hlength.symm)
  have hne : parts ≠ [] := by
    rintro rfl
    cases List.forall₂_nil_right_iff.1 hparts ▸ hcount
  obtain ⟨inners, helements, hinners, hread⟩ :=
    h.exists_elements_canonical hd hq (hleaves ▸ hclear.leaves) hne hparts
  rw [hcount] at hinners
  rw [hfst] at hread
  -- The text is neither the null literal nor empty, so its leaves are what is read.
  obtain ⟨hliteral, hempty⟩ :=
    hclear.text rfl hv _ (columnText_eq_ok.2 (.row hitems hlength hparts))
  have hnull : d.standsForNull (.row first others) (Text.join [d.elementDelimiter] parts) = false :=
    standsForNull_eq_false (by intro hfree; cases hfree) hliteral
  have ht : Text.join [d.elementDelimiter] parts ≠ [] := by
    intro hnil
    cases hitems.symm.trans (hempty hnil)
    cases hlength
  rw [ColumnType.canonical_row hv, ColumnType.canonicalLeaves, hleaves]
  exact readColumn_row_of_elements hnull ht helements hinners hread

/-- The items of an array with their type, and the texts of the leaves with the types of these. -/
theorem map_element_eq_zip {element : LeafType} {items : List Value} {inners : List Text}
    (h : inners.length = items.length) :
    inners.map (element, ·) = ((items.map (element, ·)).map Prod.fst).zip inners := by
  induction items generalizing inners with
  | nil => simp [List.length_eq_zero_iff.1 h]
  | cons v items ih =>
    obtain ⟨t, inners, rfl⟩ := List.exists_cons_of_length_eq_add_one h
    simpa using ih (by simpa using h)

/-- The text of an array that is not null is read back in canonical form. -/
theorem HasPlainNull.readColumn_array (h : d.HasPlainNull) (hd : d.IsChecked) {q : CodePoint}
    (hq : d.quote = some q) {element : LeafType} {v : Value} {items : List Value}
    {parts : List Text} (hitems : v.items? = some items)
    (hparts : List.Forall₂ (fun leaf part => ∃ inner, d.Nests leaf inner part)
      (items.map (element, ·)) parts)
    (hclear : d.IsClear (.array element) v) :
    d.readColumn (.array element) (Text.join [d.elementDelimiter] parts)
      = .ok ((ColumnType.array element).canonical v) := by
  have hv := ColumnType.ne_null_of_items? hitems
  have hleaves : (ColumnType.array element).leaves v = items.map (element, ·) :=
    ColumnType.leaves_array hitems
  obtain ⟨hliteral, hnil⟩ := hclear.text rfl hv _ (columnText_eq_ok.2 (.array hitems hparts))
  have hnull : d.standsForNull (.array element) (Text.join [d.elementDelimiter] parts) = false :=
    standsForNull_eq_false (by intro hfree; cases hfree) hliteral
  rw [ColumnType.canonical_array hv, ColumnType.canonicalLeaves, hleaves]
  by_cases ht : Text.join [d.elementDelimiter] parts = []
  · -- The empty text is that of the empty array.
    cases hitems.symm.trans (hnil ht)
    rw [ht] at hnull ⊢
    exact readColumn_array_nil hnull
  · have hne : parts ≠ [] := by
      rintro rfl
      exact ht rfl
    obtain ⟨inners, helements, hinners, hread⟩ :=
      h.exists_elements_canonical hd hq (hleaves ▸ hclear.leaves) hne hparts
    rw [List.length_map] at hinners
    rw [← map_element_eq_zip hinners] at hread
    exact readColumn_array_of_elements hnull ht helements hread

/-! ## Columns -/

/-- The null literal is read back as null in every column if there are no blanks around it. -/
theorem readColumn_literal {literal : Text} (hnull : d.nullLiteral = some literal)
    (htrim : literal.trim = literal) (type : ColumnType) :
    d.readColumn type d.nullText = .ok .null :=
  readColumn_of_standsForNull (standsForNull_nullText hnull htrim type)

/-- What is written for null is read back as null. -/
theorem HasPlainNull.readColumn_nullText (h : d.HasPlainNull) {type : ColumnType}
    (hclear : d.IsClear type .null) : d.readColumn type d.nullText = .ok .null := by
  cases hnull : d.nullLiteral with
  | some literal => exact readColumn_literal hnull (h literal hnull).1 type
  | none =>
    have hstands : d.standsForNull type d.nullText = false := by simp [standsForNull, hnull]
    have hnil : d.nullText = [] := by simp [nullText, hnull]
    unfold readColumn
    rw [hstands, hnil]
    cases type with
    | leaf type =>
      have htype : type = .null := (hclear.leaves _ (List.mem_singleton_self _)).null rfl hnull
      simp [htype, readLeaf, Except.mapError_ok]
    | row => rfl
    | array element => exact absurd rfl (hclear.array rfl hnull element)

/-- A column of a line is read back in canonical form. -/
theorem HasPlainNull.readColumn_of_stands (h : d.HasPlainNull) (hd : d.IsChecked) {q : CodePoint}
    (hq : d.quote = some q) {first : Bool} {type : ColumnType} {v : Value} {t field : Text}
    (hclear : d.IsClear type v) (hstands : d.Stands first type v t field) :
    d.readColumn type t = .ok (type.canonical v) := by
  cases hstands with
  | null =>
    have hcanonical : type.canonical .null = .null := by cases type <;> rfl
    rw [hcanonical]
    exact h.readColumn_nullText hclear
  | text hv hfills =>
    cases hfills with
    | @leaf type _ _ hwrites =>
      have hnull := (hclear.leaves _ (List.mem_singleton_self _)).text hv _
        (LeafType.write_of_writes hwrites)
      rw [readColumn, standsForNull_eq_false (trim_of_writes hwrites) hnull,
        ColumnType.canonical_leaf]
      simp [readLeaf_of_writes hv hwrites hnull, Except.mapError_ok]
    | row hitems hlength hparts => exact h.readColumn_row hd hq hitems hlength hparts hclear
    | array hitems hparts => exact h.readColumn_array hd hq hitems hparts hclear

/-- The columns of a line are read back in canonical form. -/
theorem HasPlainNull.readColumns_of_lines (h : d.HasPlainNull) (hd : d.IsChecked) {q : CodePoint}
    (hq : d.quote = some q) {first : Bool} {columns : List Column} {values : List Value}
    {ts fields : List Text}
    (hclear : List.Forall₂ (fun c v => d.IsClear c.type v) columns values)
    (hlines : d.Lines first columns values ts fields) (index : Nat) :
    d.readColumns index columns ts
      = .ok (List.zipWith (fun c v => c.type.canonical v) columns values) := by
  induction hlines generalizing index with
  | nil => rfl
  | cons hstands _ ih =>
    cases hclear with
    | cons hcolumn hcolumns =>
      have hread := h.readColumn_of_stands hd hq hcolumn hstands
      simp only [readColumns, hread, ih hcolumns (index + 1), bind, Except.bind]
      rfl

end Dialect

/-! ## Lines -/

open Dialect

/-- The record of a line is read back in canonical form. -/
theorem Schema.decodeRecord_of_lines {schema : Schema} {d : Dialect} (hd : d.IsChecked)
    {q : CodePoint} (hq : d.quote = some q) (hceiling : 13 ≤ d.highestMark) (h : d.HasPlainNull)
    {values : List Value} {ts fields : List Text}
    (hclear : List.Forall₂ (fun c v => d.IsClear c.type v) schema.columns values)
    (hlines : d.Lines true schema.columns values ts fields) :
    schema.decodeRecord d (Text.join [d.fieldDelimiter] fields ++ d.lineDelimiter)
      = .ok (schema.canonical values) :=
  decodeRecord_eq_ok.2 ⟨ts, h.recordFields_of_lines hd hq hceiling schema.columns_ne_nil hlines,
    Nat.le_of_eq hlines.length_eq.2.1, h.readColumns_of_lines hd hq hclear hlines 0⟩

/-- A line that is no comment, and whose record is read, is a row. -/
theorem Codec.decode_of_decodeRecord {c : Codec} {line : Text} {values : List Value}
    {message : Value} (hmessage : messageText message = .ok line)
    (hcomment : c.dialect.allowComments = true → line.isComment = false)
    (hrecord : c.schema.decodeRecord c.dialect line = .ok values) :
    c.decode message = .ok (.row values) := by
  have hskip : (c.dialect.allowComments && line.isComment) = false := by
    cases hallow : c.dialect.allowComments with
    | false => rfl
    | true => exact hcomment hallow
  exact decode_eq_row.2 ⟨line, ⟨hmessage, hskip⟩, hrecord⟩

/-! ## Encoded lines -/

namespace Dialect

variable {d : Dialect}

/-- No character of a dialect is a surrogate. -/
structure IsEncodable (d : Dialect) : Prop where
  /-- The field delimiter is none. -/
  fieldDelimiter : d.fieldDelimiter.isSurrogate = false
  /-- The element delimiter is none. -/
  elementDelimiter : d.elementDelimiter.isSurrogate = false
  /-- There is none in the line delimiter. -/
  lineDelimiter : ∀ c ∈ d.lineDelimiter, c.isSurrogate = false
  /-- The quote is none. -/
  quote : ∀ q, d.quote = some q → q.isSurrogate = false
  /-- The escape is none. -/
  escape : ∀ e, d.escape = some e → e.isSurrogate = false
  /-- There is none in the null literal. -/
  nullText : ∀ c ∈ d.nullText, c.isSurrogate = false

/-- Quoting a text brings no surrogate into it. -/
theorem IsEncodable.enclose (h : d.IsEncodable) {t : Text} (ht : ∀ c ∈ t, c.isSurrogate = false) :
    ∀ c ∈ d.enclose t, c.isSurrogate = false := by
  intro c hc
  unfold Dialect.enclose at hc
  split at hc
  · next q hq =>
    rcases List.mem_cons.1 hc with rfl | hc
    · exact h.quote _ hq
    · rcases List.mem_append.1 hc with hc | hc
      · obtain ⟨x, hx, hc⟩ := List.mem_flatMap.1 hc
        have hcx : c = x := by
          split at hc
          · simpa using hc
          · simpa using hc
        exact hcx ▸ ht x hx
      · rw [List.mem_singleton.1 hc]
        exact h.quote _ hq
  · exact ht c hc

/-- There is no surrogate in the text of a column if there was none before it was quoted. -/
theorem IsEncodable.fieldText (h : d.IsEncodable) {type : ColumnType} {first : Bool} {t : Text}
    (ht : ∀ c ∈ t, c.isSurrogate = false) :
    ∀ c ∈ d.fieldText type first t, c.isSurrogate = false := by
  unfold Dialect.fieldText
  split
  · exact h.enclose ht
  · exact ht

/-- Nor in the text of a leaf. -/
theorem IsEncodable.leafText (h : d.IsEncodable) {type : LeafType} {t : Text}
    (ht : ∀ c ∈ t, c.isSurrogate = false) : ∀ c ∈ d.leafText type t, c.isSurrogate = false := by
  unfold Dialect.leafText
  split
  · exact h.enclose ht
  · exact ht

/-- There is no surrogate in the columns of a line. -/
theorem IsEncodable.lines (h : d.IsEncodable) {first : Bool} {columns : List Column}
    {values : List Value} {ts fields : List Text}
    (hlines : d.Lines first columns values ts fields) :
    ∀ field ∈ fields, ∀ c ∈ field, c.isSurrogate = false := by
  induction hlines with
  | nil => simp
  | cons hstands _ ih =>
    refine List.forall_mem_cons.2 ⟨?_, ih⟩
    cases hstands with
    | null => exact h.nullText
    | text _ _ hencodable => exact h.fieldText hencodable

/-- Joined texts without surrogates have none. -/
theorem isSurrogate_join {delimiter : CodePoint} (hdelimiter : delimiter.isSurrogate = false)
    {fields : List Text} (h : ∀ field ∈ fields, ∀ c ∈ field, c.isSurrogate = false) :
    ∀ c ∈ Text.join [delimiter] fields, c.isSurrogate = false := by
  induction fields with
  | nil => simp [Text.join]
  | cons field fields ih =>
    obtain ⟨hfield, hfields⟩ := List.forall_mem_cons.1 h
    cases fields with
    | nil => simpa [Text.join] using hfield
    | cons next fields =>
      rw [Text.join, List.intercalate_cons_cons]
      intro c hc
      rcases List.mem_append.1 hc with hc | hc
      · rcases List.mem_append.1 hc with hc | hc
        · exact hfield c hc
        · exact List.mem_singleton.1 hc ▸ hdelimiter
      · exact ih hfields c hc

/-- There is no surrogate in a line. -/
theorem IsEncodable.line (h : d.IsEncodable) {columns : List Column} {values : List Value}
    {ts fields : List Text} (hlines : d.Lines true columns values ts fields) :
    ∀ c ∈ Text.join [d.fieldDelimiter] fields ++ d.lineDelimiter, c.isSurrogate = false :=
  List.forall_mem_append.2
    ⟨isSurrogate_join h.fieldDelimiter (h.lines hlines), h.lineDelimiter⟩

end Dialect

/-- A line without surrogates is encoded in UTF-8. -/
theorem Codec.encode_of_encodeText {c : Codec} {row : Value} {line : Text} {bytes : List UInt8}
    (hline : c.encodeText row = .ok line) (hbytes : Utf8.encode line = .ok bytes) :
    c.encode row = .ok bytes := by
  rw [encode, hline]
  exact Except.mapError_eq_ok.2 hbytes

/-- Bytes that are decoded to a line are the message of that line. -/
theorem Codec.messageText_bytes {kind : BytesKind} {bytes : List UInt8} {line : Text}
    (h : Utf8.decode bytes = .ok line) : messageText (.bytes kind bytes) = .ok line := by
  rw [messageText, h]

/-- The round trip of rows. For a dialect with a quote whose ceiling is above the line breaks, and
which either reads no comments or avoids them: every encoded row, mapping or sequence, whose values
are clear of the null literal is decoded to its canonical form, and the canonical form is encoded as
the same line. The same goes for the line in UTF-8 if no character of the dialect is a surrogate. -/
theorem Settings.decode_encodeText {s : Settings} {d : Dialect} {q : CodePoint}
    (h : s.dialect = .ok d) (hq : d.quote = some q) (hceiling : 13 ≤ d.highestMark)
    (hnull : d.HasPlainNull) (hcomments : d.allowComments = true → d.AvoidsComments)
    {schema : Schema} {row : Value} {line : Text}
    (hline : (Codec.mk schema d).encodeText row = .ok line)
    (hclear : ∀ values, schema.rowValues row = .ok values →
      List.Forall₂ (fun c v => d.IsClear c.type v) schema.columns values) :
    ∃ values, schema.rowValues row = .ok values ∧
      (Codec.mk schema d).decode (.text line) = .ok (.row (schema.canonical values)) ∧
      (Codec.mk schema d).encodeText (.sequence .tuple (schema.canonical values)) = .ok line ∧
      (d.IsEncodable → ∃ bytes, (Codec.mk schema d).encode row = .ok bytes ∧
        (∀ kind, (Codec.mk schema d).decode (.bytes kind bytes)
          = .ok (.row (schema.canonical values))) ∧
        (Codec.mk schema d).encode (.sequence .tuple (schema.canonical values)) = .ok bytes) := by
  have hd := isChecked_of_dialect h
  obtain ⟨values, ts, fields, hvalues, hlines, rfl⟩ := Codec.encodeText_eq_ok.1 hline
  -- The line's record is read back, and the line is no comment.
  have hrecord := Schema.decodeRecord_of_lines hd hq hceiling hnull (hclear values hvalues) hlines
  have hcomment : d.allowComments = true →
      (Text.join [d.fieldDelimiter] fields ++ d.lineDelimiter).isComment = false := fun hallow =>
    (hcomments hallow).isComment_line hd hq hallow schema.columns_ne_nil hlines
  -- The canonical form makes the same line.
  have hagain := Codec.encodeText_canonical (c := ⟨schema, d⟩) hlines
  refine ⟨values, hvalues, Codec.decode_of_decodeRecord rfl hcomment hrecord, hagain,
    fun hencodable => ?_⟩
  -- Without surrogates the bytes of the line are read as the line.
  obtain ⟨bytes, hencode, hdecode⟩ := Utf8.exists_encode_decode (hencodable.line hlines)
  exact ⟨bytes, Codec.encode_of_encodeText hline hencode, fun kind =>
    Codec.decode_of_decodeRecord (Codec.messageText_bytes hdecode) hcomment hrecord,
    Codec.encode_of_encodeText hagain hencode⟩

/-- Settings with an escape, a null literal and comments. -/
def Settings.protective : Settings :=
  { escape := .text [92], nullLiteral := .text "NA", allowComments := .bool true }

/-- The dialect of these settings. -/
def Dialect.protective : Dialect where
  fieldDelimiter := .ofChar ','
  elementDelimiter := .ofChar ';'
  lineDelimiter := "\n"
  quote := some (.ofChar '"')
  escape := some 92
  nullLiteral := some "NA"
  allowComments := true
  ignoreMalformed := false

/-- The settings make the dialect. -/
theorem Settings.dialect_protective : Settings.protective.dialect = .ok .protective := by
  have h : ({ escape := .text [92], allowComments := .bool true } : Settings).dialect
      = .ok { Dialect.protective with nullLiteral := none } := rfl
  exact dialect_set_nullLiteral h (List.forall_iff_forall_mem.1 (by decide))

/-- A schema with a text, a row, an array and a byte string. -/
def Schema.mixed : Schema where
  columns := [⟨"a", .leaf .string⟩, ⟨"b", .row .boolean [.string]⟩, ⟨"c", .array .string⟩,
    ⟨"d", .leaf .byteArray⟩]
  columns_ne_nil := by simp
  name_ne_nil := by decide
  names_nodup := by decide

/-- A row given by names, with a comment sign and structural characters in its texts. -/
def Value.mixed : Value :=
  .mapping .dictionary [(.text "c", .sequence .tuple [.text [], .null, .text "x;\\"]),
    (.text "b", .sequence .list [.bool true, .text ",\""]), (.text "a", .text "#\n")]

/-- The values of the row are not taken for null. -/
theorem Dialect.isClear_mixed {values : List Value}
    (h : Schema.mixed.rowValues .mixed = .ok values) :
    List.Forall₂ (fun c v => Dialect.protective.IsClear c.type v) Schema.mixed.columns values := by
  cases h
  have hleaf : ∀ leaf : LeafType × Value, (leaf.2 ≠ .null → ∀ t, leaf.1.write leaf.2 = .ok t →
      Text.ofString "NA" ≠ t) → Dialect.protective.IsClearLeaf leaf := fun leaf hne =>
    ⟨fun _ hnone => (by cases hnone), fun hv t ht heq => hne hv t ht (Option.some.inj heq)⟩
  have hnull : ∀ type, Dialect.protective.IsClearLeaf (type, .null) := fun type =>
    hleaf _ fun hv => absurd rfl hv
  have htext : ∀ t, Text.ofString "NA" ≠ t →
      Dialect.protective.IsClearLeaf (.string, .text t) := fun t hne =>
    hleaf _ fun _ t' ht' => by cases ht'; exact hne
  have hbool : Dialect.protective.IsClearLeaf (.boolean, .bool true) :=
    hleaf _ fun _ t ht => by cases ht; decide
  refine .cons ⟨?_, ?_, ?_⟩ (.cons ⟨?_, ?_, ?_⟩ (.cons ⟨?_, ?_, ?_⟩ (.cons ⟨?_, ?_, ?_⟩ .nil)))
  -- The text.
  · exact List.forall_mem_singleton.2 (htext _ (by decide))
  · exact fun hv => nomatch hv
  · exact fun hcomposite => nomatch hcomposite
  -- The row.
  · exact List.forall_mem_cons.2 ⟨hbool, List.forall_mem_singleton.2 (htext _ (by decide))⟩
  · exact fun hv => nomatch hv
  · rintro - - t ht
    cases ht
    exact ⟨by decide, fun hnil => by cases hnil⟩
  -- The array.
  · exact List.forall_mem_cons.2 ⟨htext _ (by decide), List.forall_mem_cons.2
      ⟨hnull _, List.forall_mem_singleton.2 (htext _ (by decide))⟩⟩
  · exact fun hv => nomatch hv
  · rintro - - t ht
    cases ht
    exact ⟨by decide, fun hnil => by cases hnil⟩
  -- The null of the byte string.
  · exact List.forall_mem_singleton.2 (hnull _)
  · exact fun _ hnone => by cases hnone
  · exact fun hcomposite => nomatch hcomposite

/-- The row is read back with a tuple for the row, a list for the array and null for the value that
is left out. -/
theorem Settings.decode_encodeText_mixed :
    ∃ line, (Codec.mk .mixed .protective).encodeText .mixed = .ok line ∧
      (Codec.mk .mixed .protective).decode (.text line) = .ok (.row
        [.text "#\n", .sequence .tuple [.bool true, .text ",\""],
          .sequence .list [.text [], .null, .text "x;\\"], .null]) := by
  have hline : (Codec.mk .mixed .protective).encodeText .mixed = .ok _ := rfl
  have hnull : Dialect.protective.HasPlainNull := by
    rintro literal hliteral
    cases hliteral
    refine ⟨rfl, fun e he => ?_⟩
    cases he
    decide
  have havoids : Dialect.protective.AvoidsComments := by
    refine ⟨by decide, fun q hq => ?_, rfl, fun _ => .inl (by decide)⟩
    cases hq
    exact ⟨by decide, rfl⟩
  obtain ⟨values, hvalues, hdecode, -⟩ := Settings.decode_encodeText Settings.dialect_protective rfl
    (by decide) hnull (fun _ => havoids) hline fun _ => Dialect.isClear_mixed
  cases hvalues
  exact ⟨_, rfl, hdecode⟩

end Delimited
