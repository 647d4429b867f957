import Delimited.Proofs.Row.Encoding

/-!
# Composite values in the lines of rows

A composite value has a text if it has the shape of its column's type and each of its leaves is null
or written. How it is read back hangs on that text alone, but the row that it stands in is read only
if every other column is, too. `ReadsLeaves` is what this takes of a column, and
`exists_readColumns_of_lines` says that it is enough.
-/

namespace Delimited

/-- The leaves of a composite value are its items with their types. -/
theorem ColumnType.map_leaves {type : ColumnType} (hcomposite : type.isComposite = true) {v : Value}
    (hshape : ∀ r, ¬ type.Misshapes v r) {items : List Value} (hitems : v.items? = some items) :
    (type.leaves v).map Prod.snd = items := by
  cases type with
  | leaf => cases hcomposite
  | row first others =>
    have hlength : items.length = (first :: others).length :=
      Classical.byContradiction fun hne => hshape _ (.rowLength hitems hne)
    rw [leaves_row hitems, List.map_snd_zip (Nat.le_of_eq hlength)]
  | array element =>
    rw [leaves_array hitems, List.map_map]
    exact List.map_id items

/-- What a composite column is read as if its text is empty. -/
def ColumnType.ofNothing : ColumnType → Value
  | leaf _ | row .. => .null
  | array _ => .sequence .list []

namespace Dialect

variable {d : Dialect} {type : ColumnType} {v : Value}

/-- A value of the shape of a column's type has a text there if each leaf is null or written. -/
theorem exists_fills_of_shape (hv : v ≠ .null) (hshape : ∀ r, ¬ type.Misshapes v r)
    (hleaves : ∀ leaf ∈ type.leaves v, leaf.2 ≠ .null → ∃ t, leaf.1.write leaf.2 = .ok t) :
    ∃ t, d.Fills type v t := by
  cases htext : d.columnText type v with
  | ok t => exact ⟨t, columnText_eq_ok.1 htext⟩
  | error e =>
    -- An error is one of the shape, or one of the first leaf that is not written.
    rcases (columnText_eq_error hv).1 htext with ⟨r, hr, -⟩ | ⟨-, k, leaf, hfirst⟩
    · exact absurd hr (hshape r)
    · obtain ⟨hne, w, hw, -⟩ := nestedText_eq_error.1 hfirst.error
      obtain ⟨t, ht⟩ := hleaves leaf (List.mem_of_getElem? hfirst.item) hne
      cases ht.symm.trans hw

/-- A value with a text is taken by its column unless there is a surrogate in the text. -/
theorem Fills.takes_iff {t : Text} (h : d.Fills type v t) (hv : v ≠ .null) :
    d.Takes type v ↔ ∀ c ∈ t, c.isSurrogate = false := by
  constructor
  · rintro (hnull | ⟨t', hfills, hencodable⟩)
    · exact absurd hnull hv
    · have heq := (columnText_eq_ok.2 h).symm.trans (columnText_eq_ok.2 hfills)
      exact Except.ok.inj heq ▸ hencodable
  · exact fun hencodable => .inr ⟨t, h, hencodable⟩

/-! ## Columns that are read -/

/-- A composite column of an empty text is read as nothing, unless the empty text is the null
literal. -/
theorem readColumn_nil (hcomposite : type.isComposite = true)
    (hnull : d.standsForNull type [] = false) : d.readColumn type [] = .ok type.ofNothing := by
  cases type with
  | leaf => cases hcomposite
  | row first others => exact readColumn_row_nil first others
  | array element => exact readColumn_array_nil hnull

/-- What is written for the leaves of a column's value is read, be it as null. -/
def ReadsLeaves (d : Dialect) (type : ColumnType) (v : Value) : Prop :=
  ∀ leaf ∈ type.leaves v, ∀ t part, d.Nests leaf t part → ∃ w, d.readLeaf leaf.1 t = .ok w

/-- Leaves that are read one by one are read together. -/
theorem exists_readLeaves {leaves : List (LeafType × Value)} {inners : List Text}
    (h : List.Forall₂ (fun leaf inner => ∃ w, d.readLeaf leaf.1 inner = .ok w) leaves inners) :
    ∃ ws, d.readLeaves ((leaves.map Prod.fst).zip inners) = .ok ws := by
  have hread : ∃ ws, List.Forall₂
      (fun p w => (d.readLeaf p.1 p.2).mapError ColumnFault.leaf = .ok w)
      ((leaves.map Prod.fst).zip inners) ws := by
    induction h with
    | nil => exact ⟨[], .nil⟩
    | cons hleaf _ ih =>
      obtain ⟨w, hw⟩ := hleaf
      obtain ⟨ws, hws⟩ := ih
      exact ⟨w :: ws, .cons (Except.mapError_eq_ok.2 hw) hws⟩
  obtain ⟨ws, hws⟩ := hread
  exact ⟨ws, Except.mapM_eq_ok.2 hws⟩

/-- The joined text of leaves is split into as many texts, which are read, be it as null. -/
theorem HasPlainNull.exists_elements_read (h : d.HasPlainNull) (hd : d.IsChecked) {q : CodePoint}
    (hq : d.quote = some q) {leaves : List (LeafType × Value)}
    (hreads : ∀ leaf ∈ leaves, ∀ t part, d.Nests leaf t part → ∃ w, d.readLeaf leaf.1 t = .ok w)
    {parts : List Text} (hne : parts ≠ [])
    (hparts : List.Forall₂ (fun leaf part => ∃ inner, d.Nests leaf inner part) leaves parts) :
    ∃ inners ws, d.elements (Text.join [d.elementDelimiter] parts) = .ok inners ∧
      inners.length = leaves.length ∧
        d.readLeaves ((leaves.map Prod.fst).zip inners) = .ok ws := by
  obtain ⟨inners, helements, hinners⟩ := h.exists_elements hd hq hreads hne hparts
  obtain ⟨ws, hws⟩ := exists_readLeaves hinners
  exact ⟨inners, ws, helements, hinners.length_eq.symm, hws⟩

/-- A text that does not stand for null is read in its column. -/
theorem HasPlainNull.exists_readColumn_of_fills (h : d.HasPlainNull) (hd : d.IsChecked)
    {q : CodePoint} (hq : d.quote = some q) (hreads : d.ReadsLeaves type v) (hv : v ≠ .null)
    {t : Text} (hfills : d.Fills type v t) (hstands : d.standsForNull type t = false) :
    ∃ w, d.readColumn type t = .ok w := by
  cases hfills with
  | leaf hwrites =>
    obtain ⟨w, hw⟩ := hreads _ (List.mem_singleton_self _) _ _ (.leaf hv hwrites)
    refine ⟨w, ?_⟩
    rw [readColumn, hstands]
    exact Except.mapError_eq_ok.2 hw
  | @row first others _ items parts hitems hlength hparts =>
    by_cases ht : Text.join [d.elementDelimiter] parts = []
    · rw [ht]
      exact ⟨.null, readColumn_row_nil first others⟩
    · have hne : parts ≠ [] := by
        rintro rfl
        exact ht rfl
      rw [ReadsLeaves, ColumnType.leaves_row hitems] at hreads
      obtain ⟨inners, ws, helements, hinners, hread⟩ :=
        h.exists_elements_read hd hq hreads hne hparts
      rw [List.length_zip, hlength, Nat.min_self] at hinners
      rw [List.map_fst_zip (Nat.le_of_eq hlength.symm)] at hread
      exact ⟨_, readColumn_row_of_elements hstands ht helements hinners hread⟩
  | @array element _ items parts hitems hparts =>
    by_cases ht : Text.join [d.elementDelimiter] parts = []
    · rw [ht] at hstands ⊢
      exact ⟨_, readColumn_array_nil hstands⟩
    · have hne : parts ≠ [] := by
        rintro rfl
        exact ht rfl
      rw [ReadsLeaves, ColumnType.leaves_array hitems] at hreads
      obtain ⟨inners, ws, helements, hinners, hread⟩ :=
        h.exists_elements_read hd hq hreads hne hparts
      rw [List.length_map] at hinners
      rw [← map_element_eq_zip hinners] at hread
      exact ⟨_, readColumn_array_of_elements hstands ht helements hread⟩

/-- A null column is read if its type reads what is written for null. -/
theorem HasPlainNull.exists_readColumn_nullText (h : d.HasPlainNull)
    (hreads : d.ReadsLeaves type .null) : ∃ w, d.readColumn type d.nullText = .ok w := by
  cases hnull : d.nullLiteral with
  | some literal => exact ⟨.null, readColumn_literal hnull (h literal hnull).1 type⟩
  | none =>
    -- Null is written as nothing, so it is read as nothing would be.
    have hstands : d.standsForNull type d.nullText = false := by rw [standsForNull, hnull]
    have hnil : d.nullText = [] := by rw [nullText, hnull, Option.getD_none]
    cases type with
    | leaf type =>
      obtain ⟨w, hw⟩ := hreads _ (List.mem_singleton_self _) _ _ (.null type)
      refine ⟨w, ?_⟩
      rw [readColumn, hstands]
      exact Except.mapError_eq_ok.2 hw
    | row first others =>
      rw [hnil]
      exact ⟨.null, readColumn_row_nil first others⟩
    | array element =>
      rw [hnil] at hstands ⊢
      exact ⟨_, readColumn_array_nil hstands⟩

/-- A column that is written is read, be it as null. -/
theorem HasPlainNull.exists_readColumn_of_stands (h : d.HasPlainNull) (hd : d.IsChecked)
    {q : CodePoint} (hq : d.quote = some q) (hreads : d.ReadsLeaves type v) {first : Bool}
    {t field : Text} (hstands : d.Stands first type v t field) :
    ∃ w, d.readColumn type t = .ok w := by
  cases hstands with
  | null => exact h.exists_readColumn_nullText hreads
  | text hv hfills =>
    cases hstandsForNull : d.standsForNull type t with
    | false => exact h.exists_readColumn_of_fills hd hq hreads hv hfills hstandsForNull
    | true => exact ⟨.null, readColumn_of_standsForNull hstandsForNull⟩

/-- The columns of a line are read if what is written for their leaves is. -/
theorem HasPlainNull.exists_readColumns_of_lines (h : d.HasPlainNull) (hd : d.IsChecked)
    {q : CodePoint} (hq : d.quote = some q) {first : Bool} {columns : List Column}
    {values : List Value} {ts fields : List Text}
    (hreads : ∀ p ∈ columns.zip values, d.ReadsLeaves p.1.type p.2)
    (hlines : d.Lines first columns values ts fields) (index : Nat) :
    ∃ back, d.readColumns index columns ts = .ok back := by
  induction hlines generalizing index with
  | nil => exact ⟨[], rfl⟩
  | cons hstands _ ih =>
    obtain ⟨hcolumn, hcolumns⟩ := List.forall_mem_cons.1 hreads
    obtain ⟨w, hw⟩ := h.exists_readColumn_of_stands hd hq hcolumn hstands
    obtain ⟨back, hback⟩ := ih hcolumns (index + 1)
    exact ⟨w :: back, readColumns_cons_eq_ok.2 ⟨w, back, hw, hback, rfl⟩⟩

/-- What is read of a line in the place of a value is read from the text of that value. -/
theorem Lines.exists_readColumn {first : Bool} {columns : List Column} {values : List Value}
    {ts fields : List Text} (hlines : d.Lines first columns values ts fields) {index : Nat}
    {back : List Value} (hback : d.readColumns index columns ts = .ok back) {j : Nat}
    {column : Column} (hcolumn : columns[j]? = some column) (hv : values[j]? = some v) :
    ∃ (w : Value) (t : Text) (first : Bool) (field : Text), back[j]? = some w ∧
      d.Stands first column.type v t field ∧ d.readColumn column.type t = .ok w := by
  induction hlines generalizing index back j with
  | nil => cases hcolumn
  | @cons first c v' t field columns values ts fields hstands _ ih =>
    obtain ⟨w, rest, hw, hrest, rfl⟩ := readColumns_cons_eq_ok.1 hback
    cases j with
    | zero =>
      cases hcolumn
      cases hv
      exact ⟨w, t, first, field, rfl, hstands, hw⟩
    | succ j => exact ih hrest hcolumn hv

end Dialect

/-- The line of a row in a dialect that reads no comments is decoded to what is read of its columns.
-/
theorem Codec.decode_line_eq_row {c : Codec} (hd : c.dialect.IsChecked) {q : CodePoint}
    (hq : c.dialect.quote = some q) (hceiling : 13 ≤ c.dialect.highestMark)
    (hcomments : c.dialect.allowComments = false) (hplain : c.dialect.HasPlainNull)
    {values : List Value} {ts fields : List Text}
    (hlines : c.dialect.Lines true c.schema.columns values ts fields) {back : List Value} :
    c.decode (.text (Text.join [c.dialect.fieldDelimiter] fields ++ c.dialect.lineDelimiter))
      = .ok (.row back) ↔ c.dialect.readColumns 0 c.schema.columns ts = .ok back := by
  have hfields := hplain.recordFields_of_lines hd hq hceiling c.schema.columns_ne_nil hlines
  rw [decode_eq_row]
  constructor
  · rintro ⟨t, ht, hrecord⟩
    cases ht.text
    obtain ⟨ts', hts', -, hback⟩ := Schema.decodeRecord_eq_ok.1 hrecord
    exact Except.ok.inj (hfields.symm.trans hts') ▸ hback
  · intro hback
    refine ⟨_, ⟨rfl, by rw [hcomments, Bool.false_and]⟩, Schema.decodeRecord_eq_ok.2
      ⟨ts, hfields, Nat.le_of_eq hlines.length_eq.2.1, hback⟩⟩

end Delimited
