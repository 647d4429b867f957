import Delimited.Proofs.Row.Composite

/-!
# Composite columns that are empty texts

Without a null literal the empty text of a composite column is the empty array, and the null row. So
no other composite may be written as nothing. Leaves in between have delimiters, and a lone empty
text is put between quotes; but a lone empty byte string is not, and is lost.
`decode_composites_iff` says that it is the only composite without nulls that is.
-/

namespace Delimited

/-- Joined texts are empty if there are none, or only one, which is empty. -/
theorem Text.join_eq_nil_iff {delimiter : CodePoint} {parts : List Text} :
    Text.join [delimiter] parts = [] ↔ parts = [] ∨ parts = [[]] := by
  match parts with
  | [] => simp [join]
  | [part] => simp [join]
  | a :: b :: parts => simp [join, List.intercalate_cons_cons]

/-- Only the empty byte string is encoded as nothing. -/
theorem Base64.eq_nil_of_encode {b : List UInt8} (h : encode b = []) : b = [] := by
  match b with
  | [] => rfl
  | [_] | [_, _] | _ :: _ :: _ :: _ => cases h

namespace LeafType

/-- Nothing is read of the empty text but null, a text and a byte string. -/
theorem eq_of_read_nil {type : LeafType} {v : Value} (h : type.read [] = .ok v) :
    type = null ∨ type = string ∨ type = byteArray := by
  cases type with
  | null => exact .inl rfl
  | string => exact .inr (.inl rfl)
  | byteArray => exact .inr (.inr rfl)
  | _ => cases h

/-- Of what is not null only empty texts and empty byte strings are written as nothing. -/
theorem Writes.eq_of_nil {type : LeafType} {v : Value} (h : type.Writes v []) (hv : v ≠ .null) :
    type = .string ∨ type = .byteArray ∧ ∃ kind, v = .bytes kind [] := by
  rcases eq_of_read_nil (read_of_writes h) with rfl | rfl | rfl
  · exact absurd (eq_null_of_writes h) hv
  · exact .inl rfl
  · refine .inr ⟨rfl, ?_⟩
    generalize ht : ([] : Text) = t at h
    cases h with
    | @byteArray kind _ b => exact ⟨kind, by rw [Base64.eq_nil_of_encode ht.symm]⟩
    | ranged htype => cases htype
    | float htype | floatOfInt htype | date htype => rcases htype with htype | htype <;> cases htype

end LeafType

namespace Dialect

variable {d : Dialect}

/-- A leaf is nothing within a composite column if its text is empty and it is no text. -/
theorem leafText_eq_nil_iff {q : CodePoint} (hq : d.quote = some q) {type : LeafType} {t : Text} :
    d.leafText type t = [] ↔ t = [] ∧ type ≠ .string := by
  have hquoting := isQuoting_of_quote hq
  unfold leafText
  split
  · next hmust =>
    have henclosed : d.enclose t ≠ [] := by
      simp [enclose, hq, Quoting.enclose]
    refine iff_of_false henclosed ?_
    rintro ⟨rfl, hstring⟩
    simp [mustQuoteLeaf, hstring] at hmust
  · next hmust =>
    refine ⟨?_, fun h => h.1⟩
    rintro rfl
    simpa [mustQuoteLeaf, hquoting] using hmust

end Dialect

/-! ## Composite values without nulls -/

namespace ColumnType

/-- A composite value of a column's type without a null among its items, all of which are written.
-/
structure Holds (type : ColumnType) (v : Value) (items : List Value) : Prop where
  /-- The type is composite. -/
  composite : type.isComposite = true
  /-- The value has the shape that the type wants. -/
  shape : ∀ r, ¬ type.Misshapes v r
  /-- The value has the items. -/
  items_eq : v.items? = some items
  /-- There is no null among them. -/
  null : .null ∉ items
  /-- Each is written. -/
  leaf : ∀ leaf ∈ type.leaves v, ∃ t, leaf.1.write leaf.2 = .ok t

/-- The only leaf of a value is an empty byte string. -/
def IsLoneEmpty (type : ColumnType) (v : Value) : Prop :=
  ∃ kind, type.leaves v = [(.byteArray, .bytes kind [])]

/-- A value is what a composite column of so many leaves is read as: a tuple for a row, and a list
for an array. -/
def HasCount (type : ColumnType) (w : Value) (count : Nat) : Prop :=
  match type with
  | leaf _ => False
  | row .. => ∃ kept, w = .sequence .tuple kept ∧ kept.length = count
  | array _ => ∃ kept, w = .sequence .list kept ∧ kept.length = count

/-- Nothing counts as no leaves at best. -/
theorem not_hasCount_ofNothing (type : ColumnType) {count : Nat} (hcount : 0 < count) :
    ¬ type.HasCount type.ofNothing count := by
  intro h
  cases type with
  | leaf => exact h
  | row =>
    obtain ⟨_, hnull, -⟩ := h
    cases hnull
  | array =>
    obtain ⟨_, hlist, rfl⟩ := h
    cases hlist
    exact absurd hcount (Nat.lt_irrefl 0)

namespace Holds

variable {type : ColumnType} {v : Value} {items : List Value}

/-- The leaves are the items with their types. -/
theorem map_leaves (h : type.Holds v items) : (type.leaves v).map Prod.snd = items :=
  ColumnType.map_leaves h.composite h.shape h.items_eq

/-- No leaf is null. -/
theorem leaf_ne_null (h : type.Holds v items) : ∀ leaf ∈ type.leaves v, leaf.2 ≠ .null := by
  rintro leaf hleaf hnull
  refine h.null ?_
  rw [← h.map_leaves, ← hnull]
  exact List.mem_map_of_mem hleaf

/-- The canonical form has as many leaves. -/
theorem hasCount_canonical (h : type.Holds v items) :
    type.HasCount (type.canonical v) items.length := by
  have hv := ne_null_of_items? h.items_eq
  have hcomposite := h.composite
  have hlength : (type.canonicalLeaves v).length = items.length := by
    rw [canonicalLeaves, List.length_map, ← h.map_leaves, List.length_map]
  cases type with
  | leaf => cases hcomposite
  | row => exact ⟨_, canonical_row hv, hlength⟩
  | array => exact ⟨_, canonical_array hv, hlength⟩

/-- A lone empty byte string is one item. -/
theorem length_eq_one (h : type.Holds v items) (hlone : type.IsLoneEmpty v) :
    items.length = 1 := by
  obtain ⟨kind, hleaves⟩ := hlone
  rw [← h.map_leaves, hleaves]
  rfl

end Holds

end ColumnType

namespace Dialect

variable {d : Dialect} {type : ColumnType} {v : Value} {items : List Value}

/-- The text of a composite value is empty if there are no items, or just an empty byte string. -/
theorem columnText_eq_nil {q : CodePoint} (hq : d.quote = some q) (h : type.Holds v items)
    (ht : d.columnText type v = .ok []) : items = [] ∨ type.IsLoneEmpty v := by
  rw [columnText_of_shape h.composite h.shape] at ht
  obtain ⟨parts, hparts, hjoin⟩ := compositeText_eq_ok.1 ht
  rcases Text.join_eq_nil_iff.1 hjoin with rfl | rfl
  · left
    rw [← h.map_leaves, List.forall₂_nil_right_iff.1 hparts]
    rfl
  · right
    -- The one part is a leaf that is neither null nor quoted, so it is written as nothing.
    obtain ⟨leaf, _, ⟨inner, hnests⟩, hnil, hleaves⟩ := List.forall₂_cons_right_iff.1 hparts
    rw [List.forall₂_nil_right_iff.1 hnil] at hleaves
    have hv := h.leaf_ne_null leaf (hleaves ▸ List.mem_singleton_self leaf)
    generalize hpart : ([] : Text) = part at hnests
    cases hnests with
    | null => exact absurd rfl hv
    | @leaf leafType leafValue _ _ hwrites =>
      obtain ⟨rfl, hstring⟩ := (leafText_eq_nil_iff hq).1 hpart.symm
      rcases hwrites.eq_of_nil hv with hstring' | ⟨rfl, kind, rfl⟩
      · exact absurd hstring' hstring
      · exact ⟨kind, hleaves⟩

/-- A lone empty byte string is written as nothing. -/
theorem columnText_of_isLoneEmpty {q : CodePoint} (hq : d.quote = some q)
    (h : type.Holds v items) (hlone : type.IsLoneEmpty v) : d.columnText type v = .ok [] := by
  obtain ⟨kind, hleaves⟩ := hlone
  have hwrite := h.leaf (.byteArray, .bytes kind []) (hleaves ▸ List.mem_singleton_self _)
  obtain ⟨t, ht⟩ := hwrite
  have hwrites := LeafType.writes_of_write ht
  have htext : t = [] := by
    cases hwrites
    rfl
  have hleaf : d.leafText .byteArray t = [] := (leafText_eq_nil_iff hq).2 ⟨htext, by decide⟩
  have hnests : d.Nests (.byteArray, .bytes kind []) t (d.leafText .byteArray t) :=
    .leaf (by simp) hwrites
  rw [hleaf] at hnests
  rw [columnText_of_shape h.composite h.shape, hleaves]
  exact compositeText_eq_ok.2 ⟨[[]], .cons ⟨t, hnests⟩ .nil, rfl⟩

/-- A composite value that is not written as nothing is clear of null. -/
theorem isClear_of_holds (hnull : d.nullLiteral = none) {q : CodePoint} (hq : d.quote = some q)
    (h : type.Holds v items) (hlone : ¬ type.IsLoneEmpty v) : d.IsClear type v := by
  have hliteral : ∀ t, d.nullLiteral ≠ some t := by
    intro t
    rw [hnull]
    exact nofun
  refine ⟨fun leaf hleaf => ⟨fun hv => absurd hv (h.leaf_ne_null leaf hleaf),
    fun _ t _ => hliteral t⟩, fun hv => ?_, fun _ _ t ht => ⟨hliteral t, ?_⟩⟩
  · exact absurd hv (ColumnType.ne_null_of_items? h.items_eq)
  · rintro rfl
    rw [h.items_eq, (columnText_eq_nil hq h ht).resolve_right hlone]

/-- What is written for leaves is read without a null literal, if the types of those that are null
read the empty text. -/
theorem readsLeaves_of_read_nil (hnull : d.nullLiteral = none)
    (h : ∀ leaf ∈ type.leaves v, leaf.2 = .null → ∃ w, leaf.1.read [] = .ok w) :
    d.ReadsLeaves type v := by
  intro leaf hleaf t part hnests
  cases hnests with
  | null type =>
    obtain ⟨w, hw⟩ := h _ hleaf rfl
    have hstands : d.standsForNull (.leaf type) d.nullText = false := by rw [standsForNull, hnull]
    have hnil : d.nullText = [] := by rw [nullText, hnull, Option.getD_none]
    have htrim : (if type = .string then ([] : Text) else Text.trim []) = [] := ite_self _
    unfold readLeaf
    rw [hstands, hnil, htrim, hw]
    split
    · exact ⟨_, rfl⟩
    · exact ⟨w, rfl⟩
  | leaf hv hwrites =>
    refine ⟨_, readLeaf_of_writes hv hwrites ?_⟩
    rw [hnull]
    exact (Option.some_ne_none _).symm

/-- A composite value without nulls is read as one of as many leaves, but for a lone empty byte
string, which is read as nothing. -/
theorem hasCount_iff (hd : d.IsChecked) {q : CodePoint} (hq : d.quote = some q)
    (hnull : d.nullLiteral = none) (hplain : d.HasPlainNull) (h : type.Holds v items) {first : Bool}
    {t field : Text} (hstands : d.Stands first type v t field) {w : Value}
    (hw : d.readColumn type t = .ok w) :
    (type.HasCount w items.length ↔ ¬ type.IsLoneEmpty v) ∧
      (type.IsLoneEmpty v → w = type.ofNothing) := by
  by_cases hlone : type.IsLoneEmpty v
  · -- The text is empty, and nothing counts as no leaves.
    have ht : t = [] := by
      cases hstands with
      | null => exact absurd rfl (ColumnType.ne_null_of_items? h.items_eq)
      | text _ hfills =>
        have htext := (columnText_eq_ok.2 hfills).symm.trans (columnText_of_isLoneEmpty hq h hlone)
        exact Except.ok.inj htext
    have hstandsForNull : d.standsForNull type [] = false := by rw [standsForNull, hnull]
    rw [ht, readColumn_nil h.composite hstandsForNull] at hw
    cases hw
    have hpos : 0 < items.length := by
      rw [h.length_eq_one hlone]
      exact Nat.one_pos
    exact ⟨iff_of_false (type.not_hasCount_ofNothing hpos) (not_not_intro hlone), fun _ => rfl⟩
  · -- The value is not taken for null, so it is read back in canonical form.
    have hread := hplain.readColumn_of_stands hd hq (isClear_of_holds hnull hq h hlone) hstands
    cases hw.symm.trans hread
    exact ⟨iff_of_true h.hasCount_canonical hlone, fun hlone' => absurd hlone' hlone⟩

end Dialect

/-- Composite columns without nulls keep their leaves, but for a lone empty byte string. For a
dialect that reads no comments, with a quote, a ceiling above the line breaks and no null literal:
let a row have a composite value in one of its columns, all leaves of which are written, none of
them being null. Then the row is encoded if each column takes its value, as that one does unless
there is a surrogate in its text, and the line is decoded if the type of each null leaf reads the
empty text. What is read in the place of the composite value is a tuple or a list of as many leaves,
if and only if the value is not one of a single empty byte string; that one is read as the empty
list or the null row. -/
theorem Settings.decode_composites_iff {s : Settings} {d : Dialect} {q : CodePoint}
    (h : s.dialect = .ok d) (hq : d.quote = some q) (hceiling : 13 ≤ d.highestMark)
    (hcomments : d.allowComments = false) (hnull : d.nullLiteral = none) {schema : Schema}
    {row : Value} {values : List Value} (hrow : schema.rowValues row = .ok values) {j : Nat}
    {column : Column} {v : Value} {items : List Value} (hcolumn : schema.columns[j]? = some column)
    (hvalue : values[j]? = some v) (hholds : column.type.Holds v items) :
    (∃ t, d.columnText column.type v = .ok t ∧
      (d.Takes column.type v ↔ ∀ c ∈ t, c.isSurrogate = false)) ∧
    ((∃ line, (Codec.mk schema d).encodeText row = .ok line) ↔
      ∀ p ∈ schema.columns.zip values, d.Takes p.1.type p.2) ∧
    ∀ line, (Codec.mk schema d).encodeText row = .ok line →
      ((∀ p ∈ schema.columns.zip values, ∀ leaf ∈ p.1.type.leaves p.2, leaf.2 = .null →
          ∃ w, leaf.1.read [] = .ok w) →
        ∃ back, (Codec.mk schema d).decode (.text line) = .ok (.row back)) ∧
      ∀ back, (Codec.mk schema d).decode (.text line) = .ok (.row back) →
        ∃ w, back[j]? = some w ∧
          (column.type.HasCount w items.length ↔ ¬ column.type.IsLoneEmpty v) ∧
          (column.type.IsLoneEmpty v → w = column.type.ofNothing) := by
  have hd := isChecked_of_dialect h
  have hv := ColumnType.ne_null_of_items? hholds.items_eq
  have hplain : d.HasPlainNull := by
    intro literal hliteral
    cases hnull.symm.trans hliteral
  refine ⟨?_, Codec.exists_encodeText_iff hrow, fun line hline => ?_⟩
  · obtain ⟨t, hfills⟩ := Dialect.exists_fills_of_shape (d := d) hv hholds.shape
      fun leaf hleaf _ => hholds.leaf leaf hleaf
    exact ⟨t, Dialect.columnText_eq_ok.2 hfills, hfills.takes_iff hv⟩
  obtain ⟨values', ts, fields, hvalues', hlines, rfl⟩ := Codec.encodeText_eq_ok.1 hline
  cases hrow.symm.trans hvalues'
  -- The line is no comment, and its fields are the texts of the columns.
  have hdecode : ∀ back, (Codec.mk schema d).decode
      (.text (Text.join [d.fieldDelimiter] fields ++ d.lineDelimiter)) = .ok (.row back) ↔
        d.readColumns 0 schema.columns ts = .ok back :=
    fun back => Codec.decode_line_eq_row hd hq hceiling hcomments hplain hlines
  constructor
  · intro hnulls
    obtain ⟨back, hback⟩ := hplain.exists_readColumns_of_lines hd hq
      (fun p hp => Dialect.readsLeaves_of_read_nil hnull (hnulls p hp)) hlines 0
    exact ⟨back, (hdecode back).2 hback⟩
  · intro back hback
    obtain ⟨w, t, first, field, hw, hstands, hread⟩ :=
      hlines.exists_readColumn ((hdecode back).1 hback) hcolumn hvalue
    exact ⟨w, hw, Dialect.hasCount_iff hd hq hnull hplain hholds hstands hread⟩

/-- Under the default settings the row of a truth value and a text keeps its leaves, beside an array
with a null text and a null byte string. -/
theorem Settings.decode_composites_mixed :
    ∃ (line : Text) (back : List Value) (w : Value),
      (Codec.mk .mixed .standard).encodeText .mixed = .ok line ∧
      (Codec.mk .mixed .standard).decode (.text line) = .ok (.row back) ∧ back[1]? = some w ∧
      (ColumnType.row .boolean [.string]).HasCount w 2 := by
  have hholds : (ColumnType.row .boolean [.string]).Holds
      (.sequence .list [.bool true, .text ",\""]) [.bool true, .text ",\""] := by
    refine ⟨rfl, fun r hr => ?_, rfl, by simp, ?_⟩
    · cases hr with
      | row hitems => cases hitems
      | rowLength hitems hlength =>
        cases hitems
        exact hlength rfl
    · exact List.forall_mem_cons.2 ⟨⟨_, rfl⟩, List.forall_mem_singleton.2 ⟨_, rfl⟩⟩
  have hnulls : ∀ values, Schema.mixed.rowValues .mixed = .ok values →
      ∀ p ∈ Schema.mixed.columns.zip values, ∀ leaf ∈ p.1.type.leaves p.2, leaf.2 = .null →
        ∃ w, leaf.1.read [] = .ok w := by
    intro values hvalues
    cases hvalues
    have htext : ∃ w, LeafType.string.read [] = .ok w := ⟨_, rfl⟩
    have hbytes : ∃ w, LeafType.byteArray.read [] = .ok w := ⟨_, rfl⟩
    refine List.forall_mem_cons.2 ⟨?_, List.forall_mem_cons.2 ⟨?_, List.forall_mem_cons.2
      ⟨?_, List.forall_mem_singleton.2 ?_⟩⟩⟩
    · exact List.forall_mem_singleton.2 fun _ => htext
    · exact List.forall_mem_cons.2 ⟨nofun, List.forall_mem_singleton.2 fun _ => htext⟩
    · intro leaf hleaf _
      obtain ⟨v, -, rfl⟩ := List.mem_map.1 hleaf
      exact htext
    · exact List.forall_mem_singleton.2 fun _ => hbytes
  have hrow : Schema.mixed.rowValues .mixed = .ok _ := rfl
  obtain ⟨-, -, hdecode⟩ := Settings.decode_composites_iff Settings.dialect_default rfl (by decide)
    rfl rfl hrow (j := 1) rfl rfl hholds
  obtain ⟨hexists, hall⟩ := hdecode _ rfl
  obtain ⟨back, hback⟩ := hexists (hnulls _ hrow)
  obtain ⟨w, hw, hcount, -⟩ := hall back hback
  refine ⟨_, back, w, rfl, hback, hw, hcount.2 ?_⟩
  rintro ⟨kind, hleaves⟩
  cases hleaves

/-- An array of an empty byte string is written as nothing, and read back as the empty array; a row
of one is read back as null. -/
theorem Settings.decode_composites_lone :
    ({} : Settings).dialect = .ok .standard ∧ Dialect.standard.quote = some (.ofChar '"') ∧
      13 ≤ Dialect.standard.highestMark ∧ Dialect.standard.allowComments = false ∧
      Dialect.standard.nullLiteral = none ∧
      (ColumnType.array .byteArray).Holds (.sequence .list [.bytes .fixed []]) [.bytes .fixed []] ∧
      (Codec.mk (.single (.array .byteArray)) .standard).encodeText
          (.sequence .tuple [.sequence .list [.bytes .fixed []]]) = .ok "\n" ∧
      (Codec.mk (.single (.array .byteArray)) .standard).decode (.text "\n")
        = .ok (.row [.sequence .list []]) ∧
      (Codec.mk (.single (.row .byteArray [])) .standard).encodeText
          (.sequence .tuple [.sequence .tuple [.bytes .fixed []]]) = .ok "\n" ∧
      (Codec.mk (.single (.row .byteArray [])) .standard).decode (.text "\n")
        = .ok (.row [.null]) := by
  have hholds : (ColumnType.array .byteArray).Holds (.sequence .list [.bytes .fixed []])
      [.bytes .fixed []] := by
    refine ⟨rfl, fun r hr => by cases hr; contradiction, rfl, by simp, ?_⟩
    exact List.forall_mem_singleton.2 ⟨_, rfl⟩
  have hfields : Dialect.standard.recordFields "\n" = .ok [[]] :=
    Dialect.recordFields_of_frames (Settings.isChecked_of_dialect Settings.dialect_default)
      (Dialect.frames_bare (List.forall_mem_nil _))
  refine ⟨Settings.dialect_default, rfl, by decide, rfl, rfl, hholds, rfl, ?_, rfl, ?_⟩
  · exact Codec.decode_of_recordFields rfl hfields (Nat.le_refl 1) rfl
  · exact Codec.decode_of_recordFields rfl hfields (Nat.le_refl 1) rfl

end Delimited
