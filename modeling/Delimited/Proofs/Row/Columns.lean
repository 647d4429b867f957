import Delimited.Codec.Basic
import Delimited.Proofs.Leaf.Written
import Delimited.Proofs.Text.Utf8

/-!
# What a line is made of

An encoded row is the texts of its columns, one for each value, and the text of a composite column
is those of its leaves. The relations here say at each level what is written, without the errors
that stop the encoder: `Nests` for a leaf within a composite column, `Fills` for a column before it
is quoted, `Stands` for a column as it stands in the line, and `Lines` for all columns.
-/

namespace Delimited

/-- The leaves of a column's value with their types. -/
def ColumnType.leaves : ColumnType → Value → List (LeafType × Value)
  | leaf type, v => [(type, v)]
  | row first others, v => (first :: others).zip (v.items?.getD [])
  | array element, v => (v.items?.getD []).map (element, ·)

namespace Dialect

variable {d : Dialect}

/-! ## The leaves of composite columns -/

/-- A leaf's text, and what is written for it within a composite column. -/
inductive Nests (d : Dialect) : LeafType × Value → Text → Text → Prop where
  /-- Null is the null literal. -/
  | null (type : LeafType) : Nests d (type, .null) d.nullText d.nullText
  /-- Anything else is its text, between quotes if it has to be. -/
  | leaf {type : LeafType} {v : Value} {t : Text} (hv : v ≠ .null) (h : type.Writes v t) :
    Nests d (type, v) t (d.leafText type t)

/-- A leaf that is not null is written within a composite column as its type writes it. -/
theorem nestedText_of_ne_null {type : LeafType} {v : Value} (hv : v ≠ .null) :
    d.nestedText type v = ((type.write v).mapError WriteError.ofColumn).map (d.leafText type) := by
  unfold nestedText
  split
  · exact absurd rfl hv
  · cases type.write v <;> rfl

/-- A leaf is written within a composite column if it has a text. -/
theorem nestedText_eq_ok {leaf : LeafType × Value} {part : Text} :
    d.nestedText leaf.1 leaf.2 = .ok part ↔ ∃ t, d.Nests leaf t part := by
  obtain ⟨type, v⟩ := leaf
  by_cases hv : v = .null
  · subst hv
    constructor
    · intro h
      cases h
      exact ⟨_, .null type⟩
    · rintro ⟨t, h⟩
      cases h with
      | null => rfl
      | leaf hv => exact absurd rfl hv
  · rw [nestedText_of_ne_null hv, Except.map_eq_ok]
    constructor
    · rintro ⟨t, hwrite, rfl⟩
      exact ⟨t, .leaf hv (LeafType.writes_of_write (Except.mapError_eq_ok.1 hwrite))⟩
    · rintro ⟨t, h⟩
      cases h with
      | null => exact absurd rfl hv
      | leaf _ h => exact ⟨t, Except.mapError_eq_ok.2 (LeafType.write_of_writes h), rfl⟩

/-- The leaves of a composite column are joined if each has a text. -/
theorem compositeText_eq_ok {leaves : List (LeafType × Value)} {t : Text} :
    d.compositeText leaves = .ok t ↔ ∃ parts,
      List.Forall₂ (fun leaf part => ∃ inner, d.Nests leaf inner part) leaves parts ∧
        Text.join [d.elementDelimiter] parts = t := by
  have hforall : ∀ parts, List.Forall₂ (fun leaf part => d.nestedText leaf.1 leaf.2 = .ok part)
      leaves parts ↔
        List.Forall₂ (fun leaf part => ∃ inner, d.Nests leaf inner part) leaves parts :=
    fun parts => ⟨List.Forall₂.imp fun _ _ => nestedText_eq_ok.1,
      List.Forall₂.imp fun _ _ => nestedText_eq_ok.2⟩
  rw [compositeText, Except.bind_eq_ok]
  constructor
  · rintro ⟨parts, hparts, h⟩
    exact ⟨parts, (hforall parts).1 (Except.mapM_eq_ok.1 hparts), Except.pure_eq_ok.1 h⟩
  · rintro ⟨parts, hparts, rfl⟩
    exact ⟨parts, Except.mapM_eq_ok.2 ((hforall parts).2 hparts), rfl⟩

/-! ## Columns -/

/-- The text of a value in a column, before it is quoted as a field. -/
inductive Fills (d : Dialect) : ColumnType → Value → Text → Prop where
  /-- A leaf. -/
  | leaf {type : LeafType} {v : Value} {t : Text} (h : type.Writes v t) : Fills d (.leaf type) v t
  /-- A row of as many leaves as its type has. -/
  | row {first : LeafType} {others : List LeafType} {v : Value} {items : List Value}
    {parts : List Text} (hitems : v.items? = some items)
    (hlength : items.length = (first :: others).length)
    (hparts : List.Forall₂ (fun leaf part => ∃ inner, d.Nests leaf inner part)
      ((first :: others).zip items) parts) :
    Fills d (.row first others) v (Text.join [d.elementDelimiter] parts)
  /-- An array. -/
  | array {element : LeafType} {v : Value} {items : List Value} {parts : List Text}
    (hitems : v.items? = some items)
    (hparts : List.Forall₂ (fun leaf part => ∃ inner, d.Nests leaf inner part)
      (items.map (element, ·)) parts) :
    Fills d (.array element) v (Text.join [d.elementDelimiter] parts)

/-- The items of a value for a composite column. -/
theorem compositeItems_eq_ok {v : Value} {items : List Value} :
    compositeItems v = .ok items ↔ v.items? = some items := by
  unfold compositeItems
  cases v.items? <;> simp

/-- A value has a text in a column in just these cases. -/
theorem columnText_eq_ok {type : ColumnType} {v : Value} {t : Text} :
    d.columnText type v = .ok t ↔ d.Fills type v t := by
  cases type with
  | leaf type =>
    rw [columnText, Except.mapError_eq_ok, LeafType.write_eq_ok_iff]
    exact ⟨.leaf, fun h => by cases h; assumption⟩
  | row first others =>
    rw [columnText, Except.bind_eq_ok]
    constructor
    · rintro ⟨items, hitems, h⟩
      simp only at h
      split at h
      · next hlength =>
        obtain ⟨parts, hparts, rfl⟩ := compositeText_eq_ok.1 h
        exact .row (compositeItems_eq_ok.1 hitems) hlength hparts
      · cases h
    · intro h
      cases h with
      | @row _ _ _ items parts hitems hlength hparts =>
        refine ⟨items, compositeItems_eq_ok.2 hitems, ?_⟩
        simp only [hlength, if_true]
        exact compositeText_eq_ok.2 ⟨parts, hparts, rfl⟩
  | array element =>
    rw [columnText, Except.bind_eq_ok]
    constructor
    · rintro ⟨items, hitems, h⟩
      obtain ⟨parts, hparts, rfl⟩ := compositeText_eq_ok.1 h
      exact .array (compositeItems_eq_ok.1 hitems) hparts
    · intro h
      cases h with
      | @array _ _ items parts hitems hparts =>
        exact ⟨items, compositeItems_eq_ok.2 hitems, compositeText_eq_ok.2 ⟨parts, hparts, rfl⟩⟩

/-- A value's text in a column, and how it stands in the line. -/
inductive Stands (d : Dialect) (first : Bool) (type : ColumnType) : Value → Text → Text → Prop where
  /-- Null is the null literal. -/
  | null : Stands d first type .null d.nullText d.nullText
  /-- Anything else is its text, without surrogates, between quotes if it has to be. -/
  | text {v : Value} {t : Text} (hv : v ≠ .null) (h : d.Fills type v t)
    (hencodable : ∀ c ∈ t, c.isSurrogate = false) :
    Stands d first type v t (d.fieldText type first t)

/-- A text passes the check for surrogates if there are none. -/
theorem checkEncodable_eq_ok {t : Text} {u : Unit} :
    checkEncodable t = .ok u ↔ ∀ c ∈ t, c.isSurrogate = false := by
  rw [← Utf8.unencodable?_eq_none, checkEncodable]
  cases Utf8.unencodable? t <;> simp

/-- A value that is not null is written in a line as its text, checked and quoted. -/
theorem writeColumn_of_ne_null {index : Nat} {c : Column} {v : Value} (hv : v ≠ .null) :
    d.writeColumn index c v
      = match (do let t ← d.columnText c.type v; checkEncodable t; return t) with
        | .ok t => .ok (d.fieldText c.type (index == 0) t)
        | .error e => .error (columnMismatch index c v e) := by
  cases v <;> first | rfl | exact absurd rfl hv

/-- A value that is not null stands in a line if its text can be encoded. -/
theorem writeColumn_of_ne_null_eq_ok {index : Nat} {c : Column} {v : Value} {field : Text}
    (hv : v ≠ .null) : d.writeColumn index c v = .ok field ↔
      ∃ t, d.columnText c.type v = .ok t ∧ checkEncodable t = .ok () ∧
        d.fieldText c.type (index == 0) t = field := by
  have hsteps : ∀ t, (do let t ← d.columnText c.type v; checkEncodable t; return t) = .ok t ↔
      d.columnText c.type v = .ok t ∧ checkEncodable t = .ok () := by
    intro t
    rw [Except.bind_eq_ok]
    constructor
    · rintro ⟨t', ht, h⟩
      obtain ⟨u, hcheck, h⟩ := Except.bind_eq_ok.1 h
      cases Except.pure_eq_ok.1 h
      exact ⟨ht, hcheck⟩
    · rintro ⟨ht, hcheck⟩
      exact ⟨t, ht, Except.bind_eq_ok.2 ⟨(), hcheck, rfl⟩⟩
  rw [writeColumn_of_ne_null hv]
  constructor
  · intro h
    split at h
    · next t hsteps' =>
      obtain ⟨ht, hcheck⟩ := (hsteps t).1 hsteps'
      exact ⟨t, ht, hcheck, Except.ok.inj h⟩
    · cases h
  · rintro ⟨t, ht, hcheck, rfl⟩
    rw [(hsteps t).2 ⟨ht, hcheck⟩]

/-- A value stands in a line in just these cases. -/
theorem writeColumn_eq_ok {index : Nat} {c : Column} {v : Value} {field : Text} :
    d.writeColumn index c v = .ok field ↔ ∃ t, d.Stands (index == 0) c.type v t field := by
  by_cases hv : v = .null
  · subst hv
    constructor
    · intro h
      cases h
      exact ⟨_, .null⟩
    · rintro ⟨t, h⟩
      cases h with
      | null => rfl
      | text hv => exact absurd rfl hv
  · rw [writeColumn_of_ne_null_eq_ok hv]
    constructor
    · rintro ⟨t, ht, hcheck, rfl⟩
      exact ⟨t, .text hv (columnText_eq_ok.1 ht) (checkEncodable_eq_ok.1 hcheck)⟩
    · rintro ⟨t, h⟩
      cases h with
      | null => exact absurd rfl hv
      | text _ h hencodable =>
        exact ⟨t, columnText_eq_ok.2 h, checkEncodable_eq_ok.2 hencodable, rfl⟩

/-! ## Lines -/

/-- The texts of the values of a row, and how they stand in the line; the first column of the line
may have to be quoted where others need not be. -/
inductive Lines (d : Dialect) :
    Bool → List Column → List Value → List Text → List Text → Prop where
  /-- There are no columns left. -/
  | nil {first : Bool} : Lines d first [] [] [] []
  /-- A column, and those behind it. -/
  | cons {first : Bool} {c : Column} {v : Value} {t field : Text} {columns : List Column}
    {values : List Value} {ts fields : List Text} (h : d.Stands first c.type v t field)
    (hs : Lines d false columns values ts fields) :
    Lines d first (c :: columns) (v :: values) (t :: ts) (field :: fields)

/-- As many values as columns stand in a line in just these cases. -/
theorem writeColumns_eq_ok {index : Nat} {columns : List Column} {values : List Value}
    {fields : List Text} (hlength : values.length = columns.length) :
    d.writeColumns index columns values = .ok fields ↔
      ∃ ts, d.Lines (index == 0) columns values ts fields := by
  induction columns generalizing index values fields with
  | nil =>
    obtain rfl := List.length_eq_zero_iff.1 hlength
    constructor
    · intro h
      cases h
      exact ⟨[], .nil⟩
    · rintro ⟨ts, h⟩
      cases h
      rfl
  | cons c columns ih =>
    obtain ⟨v, values, rfl⟩ := List.exists_cons_of_length_eq_add_one hlength
    have hrest : values.length = columns.length := by simpa using hlength
    rw [writeColumns, Except.bind_eq_ok]
    constructor
    · rintro ⟨field, hfield, h⟩
      obtain ⟨fields, hfields, h⟩ := Except.bind_eq_ok.1 h
      cases Except.pure_eq_ok.1 h
      obtain ⟨t, hstands⟩ := writeColumn_eq_ok.1 hfield
      obtain ⟨ts, hlines⟩ := (ih hrest).1 hfields
      exact ⟨t :: ts, .cons hstands hlines⟩
    · rintro ⟨ts, h⟩
      cases h with
      | cons hstands hlines =>
        exact ⟨_, writeColumn_eq_ok.2 ⟨_, hstands⟩, Except.bind_eq_ok.2
          ⟨_, (ih hrest).2 ⟨_, hlines⟩, rfl⟩⟩

/-- A line has a field and a text for each column, and for each value. -/
theorem Lines.length_eq {first : Bool} {columns : List Column} {values : List Value}
    {ts fields : List Text} (h : d.Lines first columns values ts fields) :
    values.length = columns.length ∧ ts.length = columns.length ∧
      fields.length = columns.length := by
  induction h with
  | nil => exact ⟨rfl, rfl, rfl⟩
  | cons _ _ ih => simpa using ih

end Dialect

/-- A row has as many values as the schema has columns. -/
theorem Schema.length_of_rowValues {s : Schema} {row : Value} {values : List Value}
    (h : s.rowValues row = .ok values) : values.length = s.columns.length := by
  unfold rowValues at h
  split at h
  · cases h
    simp [names]
  · split at h
    · cases h
    · split at h
      · next hlength => cases h; exact hlength
      · cases h

/-- The values of a row given by a sequence are its items. -/
theorem Schema.rowValues_of_items? {s : Schema} {row : Value} {values : List Value}
    (hitems : row.items? = some values) (hlength : values.length = s.columns.length) :
    s.rowValues row = .ok values := by
  have harity : values.length = s.arity := hlength
  unfold rowValues
  split
  · cases hitems
  · simp only [hitems, if_pos harity]

/-- The values of a row given by a tuple are those of the tuple. -/
theorem Schema.rowValues_tuple {s : Schema} {values : List Value}
    (h : values.length = s.columns.length) :
    s.rowValues (.sequence .tuple values) = .ok values :=
  rowValues_of_items? rfl h

/-- The schema of one column. -/
def Schema.single (type : ColumnType) : Schema where
  columns := [⟨"a", type⟩]
  columns_ne_nil := by simp
  name_ne_nil := by simp; decide
  names_nodup := by simp

/-- A row is encoded as the line that its values make. -/
theorem Codec.encodeText_eq_ok {c : Codec} {row : Value} {line : Text} :
    c.encodeText row = .ok line ↔ ∃ values ts fields, c.schema.rowValues row = .ok values ∧
      c.dialect.Lines true c.schema.columns values ts fields ∧
        Text.join [c.dialect.fieldDelimiter] fields ++ c.dialect.lineDelimiter = line := by
  rw [encodeText, Except.bind_eq_ok]
  constructor
  · rintro ⟨values, hvalues, h⟩
    obtain ⟨fields, hfields, h⟩ := Except.bind_eq_ok.1 h
    obtain ⟨ts, hlines⟩ :=
      (Dialect.writeColumns_eq_ok (Schema.length_of_rowValues hvalues)).1 hfields
    exact ⟨values, ts, fields, hvalues, hlines, Except.pure_eq_ok.1 h⟩
  · rintro ⟨values, ts, fields, hvalues, hlines, rfl⟩
    have hfields : c.dialect.writeColumns 0 c.schema.columns values = .ok fields :=
      (Dialect.writeColumns_eq_ok (Schema.length_of_rowValues hvalues)).2 ⟨ts, hlines⟩
    exact ⟨values, hvalues, Except.bind_eq_ok.2 ⟨fields, hfields, rfl⟩⟩

/-- The line of the value in a schema of one column. -/
theorem Codec.encodeText_single {d : Dialect} {type : ColumnType} {v : Value} {t field : Text}
    (h : d.Stands true type v t field) :
    (Codec.mk (.single type) d).encodeText (.sequence .tuple [v])
      = .ok (field ++ d.lineDelimiter) := by
  refine encodeText_eq_ok.2 ⟨[v], [t], [field], rfl, .cons h .nil, ?_⟩
  rw [Text.join, List.intercalate_singleton]

end Delimited
