import Delimited.Proofs.Leaf.Range
import Delimited.Proofs.Row.RoundTrip

/-!
# Why a row is not encoded

A row that does not fit the schema is a mismatch, and if a column is at fault, it is the first one
that does not take its value. Not every failure is a mismatch, though: a leaf may be out of range,
the row or the value at fault may have no notation to be shown in, and the dialect may bring
surrogates into the line. `Escapes` lists these cases, and `encode_outcomes` says that there are no
others.
-/

namespace Delimited

namespace Value

/-- The value has a notation, with so many levels left. -/
def IsShown (levels : Nat) (v : Value) : Prop := ∃ t, v.literal levels = .ok t

/-- The empty list within so many others. -/
def nested : Nat → Value
  | 0 => .sequence .list []
  | depth + 1 => .sequence .list [nested depth]

/-- A list within as many others as there are levels is not shown. -/
theorem literal_nested {levels depth : Nat} (h : levels ≤ depth) :
    (nested depth).literal levels = .error .tooDeep := by
  induction levels generalizing depth with
  | zero => rfl
  | succ levels ih =>
    cases depth with
    | zero => cases h
    | succ depth =>
      have hinner := ih (Nat.le_of_succ_le_succ h)
      simp only [nested, literal, List.mapM_cons, hinner]
      rfl

end Value

/-! ## Composite columns -/

namespace ColumnType

/-- A value that is no sequence of leaves for a composite column, and how the column refuses it. -/
inductive Misshapes : ColumnType → Value → ColumnRefusal → Prop where
  /-- A row is no sequence. -/
  | row {first : LeafType} {others : List LeafType} {v : Value} (h : v.items? = none) :
    Misshapes (.row first others) v (.notSequence v.kindName)
  /-- A row has not as many leaves as its type. -/
  | rowLength {first : LeafType} {others : List LeafType} {v : Value} {items : List Value}
    (h : v.items? = some items) (hlength : items.length ≠ (first :: others).length) :
    Misshapes (.row first others) v (.leafCount items.length (first :: others).length)
  /-- An array is no sequence. -/
  | array {element : LeafType} {v : Value} (h : v.items? = none) :
    Misshapes (.array element) v (.notSequence v.kindName)

/-- A value whose first leaf that is not written is out of range. -/
structure Exceeds (type : ColumnType) (v : Value) : Prop where
  /-- The value has the shape that the type wants. -/
  shape : ∀ r, ¬ type.Misshapes v r
  /-- A leaf is out of range, and those before it are null or written. -/
  leaf : ∃ (k : Nat) (leaf : LeafType × Value), (type.leaves v)[k]? = some leaf ∧
    leaf.1.Exceeds leaf.2 ∧ ∀ (i : Nat) (other : LeafType × Value), i < k →
      (type.leaves v)[i]? = some other → other.2 = .null ∨ ∃ t, other.1.Writes other.2 t

end ColumnType

namespace Dialect

variable {d : Dialect}

/-- A leaf is not written within a composite column if its type does not write it. -/
theorem nestedText_eq_error {leaf : LeafType × Value} {e : ColumnError} :
    d.nestedText leaf.1 leaf.2 = .error e ↔
      leaf.2 ≠ .null ∧ ∃ w, leaf.1.write leaf.2 = .error w ∧ w.ofColumn = e := by
  obtain ⟨type, v⟩ := leaf
  by_cases hv : v = .null
  · subst hv
    exact iff_of_false (fun h => nomatch h) fun h => h.1 rfl
  · rw [nestedText_of_ne_null hv]
    cases type.write v <;> simp [Except.mapError_ok, Except.mapError_error, Except.map, hv]

/-- A leaf is written within a composite column if it is null or has a text. -/
theorem exists_nestedText_eq_ok {leaf : LeafType × Value} :
    (∃ part, d.nestedText leaf.1 leaf.2 = .ok part) ↔
      leaf.2 = .null ∨ ∃ t, leaf.1.Writes leaf.2 t := by
  constructor
  · rintro ⟨part, h⟩
    obtain ⟨t, h⟩ := nestedText_eq_ok.1 h
    cases h with
    | null => exact .inl rfl
    | leaf _ hwrites => exact .inr ⟨_, hwrites⟩
  · obtain ⟨type, v⟩ := leaf
    by_cases hv : v = .null
    · subst hv
      exact fun _ => ⟨_, nestedText_eq_ok.2 ⟨_, .null type⟩⟩
    · rintro (h | ⟨t, h⟩)
      · exact absurd h hv
      · exact ⟨_, nestedText_eq_ok.2 ⟨t, .leaf hv h⟩⟩

/-- Leaves are not joined because of the first one that is not written. -/
theorem compositeText_eq_error {leaves : List (LeafType × Value)} {e : ColumnError} :
    d.compositeText leaves = .error e ↔
      ∃ k leaf, Except.FirstError (fun _ leaf => d.nestedText leaf.1 leaf.2) leaves k leaf e := by
  rw [compositeText, Except.bind_eq_error, ← Except.mapM_eq_error]
  refine or_iff_left ?_
  rintro ⟨_, _, h⟩
  cases h

/-- A value without the shape of a column's type is refused. -/
theorem columnText_of_misshapes {type : ColumnType} {v : Value} {r : ColumnRefusal}
    (h : type.Misshapes v r) : d.columnText type v = .error (.refused r) := by
  cases h with
  | row h | array h =>
    simp only [columnText, compositeItems, h]
    rfl
  | rowLength h hlength =>
    simp only [columnText, compositeItems, h, bind, Except.bind, if_neg hlength]
    rfl

/-- A value of the shape of a composite column is written as its leaves. -/
theorem columnText_of_shape {type : ColumnType} (htype : type.isComposite = true) {v : Value}
    (h : ∀ r, ¬ type.Misshapes v r) : d.columnText type v = d.compositeText (type.leaves v) := by
  cases type with
  | leaf => cases htype
  | row first others =>
    cases hitems : v.items? with
    | none => exact absurd (.row hitems) (h _)
    | some items =>
      have hlength : items.length = (first :: others).length :=
        Classical.byContradiction fun hne => h _ (.rowLength hitems hne)
      simp only [columnText, compositeItems, hitems, bind, Except.bind, if_pos hlength,
        ColumnType.leaves, Option.getD_some]
  | array element =>
    cases hitems : v.items? with
    | none => exact absurd (.array hitems) (h _)
    | some items =>
      simp only [columnText, compositeItems, hitems, bind, Except.bind, ColumnType.leaves,
        Option.getD_some]

/-- A value that is not null has no text in a column because of its shape, or because of its first
leaf that is not written. -/
theorem columnText_eq_error {type : ColumnType} {v : Value} (hv : v ≠ .null) {e : ColumnError} :
    d.columnText type v = .error e ↔ (∃ r, type.Misshapes v r ∧ e = .refused r) ∨
      (∀ r, ¬ type.Misshapes v r) ∧ ∃ k leaf,
        Except.FirstError (fun _ leaf => d.nestedText leaf.1 leaf.2) (type.leaves v) k leaf e := by
  by_cases hshape : ∃ r, type.Misshapes v r
  · obtain ⟨r, hr⟩ := hshape
    rw [columnText_of_misshapes hr]
    constructor
    · intro h
      cases h
      exact .inl ⟨r, hr, rfl⟩
    · rintro (⟨r', hr', rfl⟩ | ⟨h, -⟩)
      · exact (columnText_of_misshapes (d := d) hr).symm.trans (columnText_of_misshapes hr')
      · exact absurd hr (h r)
  · have hnone : ¬ ∃ r, type.Misshapes v r ∧ e = .refused r := by
      rintro ⟨r, hr, -⟩
      exact hshape ⟨r, hr⟩
    have hshape : ∀ r, ¬ type.Misshapes v r := fun r hr => hshape ⟨r, hr⟩
    rw [or_iff_right hnone, and_iff_right hshape, ← compositeText_eq_error]
    cases type with
    | leaf type =>
      -- A column of one leaf fails as a composite of that leaf does.
      simp only [ColumnType.leaves, columnText, compositeText, List.mapM_cons, List.mapM_nil,
        nestedText_of_ne_null hv]
      cases type.write v with
      | error w => exact Iff.rfl
      | ok t =>
        constructor
        · intro h
          cases h
        · intro h
          cases h
    | row | array => rw [columnText_of_shape rfl hshape]

/-- A value that is not null is out of range in a column if its first leaf that is not written is.
-/
theorem columnText_eq_overflow {type : ColumnType} {v : Value} (hv : v ≠ .null) :
    d.columnText type v = .error .overflow ↔ type.Exceeds v := by
  rw [columnText_eq_error hv, or_iff_right fun ⟨r, _, h⟩ => nomatch h]
  constructor
  · rintro ⟨hshape, k, leaf, h⟩
    obtain ⟨-, w, hwrite, hw⟩ := nestedText_eq_error.1 h.error
    cases w with
    | refused r => cases hw
    | overflow =>
      exact ⟨hshape, k, leaf, h.item, LeafType.write_eq_overflow_iff.1 hwrite,
        fun i other hi hother => exists_nestedText_eq_ok.1 (h.before i other hi hother)⟩
  · rintro ⟨hshape, k, leaf, hitem, hleaf, hbefore⟩
    exact ⟨hshape, k, leaf, hitem,
      nestedText_eq_error.2 ⟨hleaf.ne_null, .overflow, hleaf.write, rfl⟩,
      fun i other hi hother => exists_nestedText_eq_ok.2 (hbefore i other hi hother)⟩

end Dialect

/-! ## Columns -/

/-- A refusal by a leaf type is a failure of a kind that makes a mismatch. -/
theorem Refusal.isAmong_caught (r : Refusal) : r.errorClass.isAmong [.type, .value] = true := by
  cases r <;> rfl

/-- A refusal by a column is a failure of a kind that makes a mismatch. -/
theorem ColumnRefusal.isAmong_caught (r : ColumnRefusal) :
    r.errorClass.isAmong [.type, .value] = true := by
  cases r with
  | leaf r => exact r.isAmong_caught
  | notSequence | leafCount | unencodable => rfl

namespace Dialect

variable {d : Dialect}

/-- A column takes null, and each value that has a text without surrogates. -/
def Takes (d : Dialect) (type : ColumnType) (v : Value) : Prop :=
  v = .null ∨ ∃ t, d.Fills type v t ∧ ∀ c ∈ t, c.isSurrogate = false

/-- A column refuses a value, or the text that it has for it. -/
def Refuses (d : Dialect) (type : ColumnType) (v : Value) (r : ColumnRefusal) : Prop :=
  d.columnText type v = .error (.refused r) ∨
    ∃ t u, d.columnText type v = .ok t ∧ Utf8.unencodable? t = some u ∧ r = .unencodable u

/-- What a column refuses is not out of range. -/
theorem Refuses.not_exceeds {type : ColumnType} {v : Value} (hv : v ≠ .null) {r : ColumnRefusal}
    (h : d.Refuses type v r) : ¬ type.Exceeds v := by
  intro hexceeds
  have htext := (columnText_eq_overflow (d := d) hv).2 hexceeds
  rcases h with h | ⟨t, u, h, -, -⟩
  · cases htext.symm.trans h
  · cases htext.symm.trans h

/-- A column is written if it takes its value. -/
theorem exists_writeColumn_eq_ok {index : Nat} {c : Column} {v : Value} :
    (∃ field, d.writeColumn index c v = .ok field) ↔ d.Takes c.type v := by
  constructor
  · rintro ⟨field, h⟩
    obtain ⟨t, h⟩ := writeColumn_eq_ok.1 h
    cases h with
    | null => exact .inl rfl
    | text _ hfills hencodable => exact .inr ⟨t, hfills, hencodable⟩
  · by_cases hv : v = .null
    · subst hv
      exact fun _ => ⟨_, writeColumn_eq_ok.2 ⟨_, .null⟩⟩
    · rintro (h | ⟨t, hfills, hencodable⟩)
      · exact absurd h hv
      · exact ⟨_, writeColumn_eq_ok.2 ⟨t, .text hv hfills hencodable⟩⟩

/-- Each column of a line takes its value. -/
theorem Lines.takes {first : Bool} {columns : List Column} {values : List Value}
    {ts fields : List Text} (h : d.Lines first columns values ts fields) :
    ∀ p ∈ columns.zip values, d.Takes p.1.type p.2 := by
  induction h with
  | nil => simp
  | cons hstands _ ih =>
    refine List.forall_mem_cons.2 ⟨?_, ih⟩
    cases hstands with
    | null => exact .inl rfl
    | text _ hfills hencodable => exact .inr ⟨_, hfills, hencodable⟩

/-- A refusal by a column makes a mismatch. -/
theorem columnMismatch_refused (index : Nat) (c : Column) (v : Value) (r : ColumnRefusal) :
    columnMismatch index c v (.refused r)
      = .mismatch ⟨some ⟨index, c.name⟩, v, .column c.type (.refused r)⟩ :=
  if_pos r.isAmong_caught

/-- A column that is not written has a value out of range, or refuses it. -/
theorem writeColumn_eq_error {index : Nat} {c : Column} {v : Value} (hv : v ≠ .null)
    {e : EncodeError} : d.writeColumn index c v = .error e ↔
      (c.type.Exceeds v ∧ e = .escaped .overflow) ∨ ∃ r, d.Refuses c.type v r ∧
        e = .mismatch ⟨some ⟨index, c.name⟩, v, .column c.type (.refused r)⟩ := by
  have hoverflow : columnMismatch index c v .overflow = .escaped .overflow := rfl
  simp only [← columnText_eq_overflow (d := d) hv, Refuses, writeColumn_of_ne_null hv]
  cases htext : d.columnText c.type v with
  | error f =>
    cases f <;> simp [bind, Except.bind, columnMismatch_refused, hoverflow, eq_comm]
  | ok t =>
    cases hunencodable : Utf8.unencodable? t with
    | none => simp [bind, Except.bind, checkEncodable, hunencodable, pure, Except.pure]
    | some u =>
      simp [bind, Except.bind, checkEncodable, hunencodable, columnMismatch_refused, eq_comm]

/-- The columns of a row are not written because of the first one that is not. -/
theorem writeColumns_eq_error {index : Nat} {columns : List Column} {values : List Value}
    {e : EncodeError} : d.writeColumns index columns values = .error e ↔
      ∃ j p, Except.FirstError (fun i p => d.writeColumn (index + i) p.1 p.2) (columns.zip values)
        j p e := by
  induction columns generalizing index values with
  | nil => exact iff_of_false (fun h => nomatch h) fun ⟨_, _, h⟩ => Except.not_firstError_nil h
  | cons c columns ih =>
    cases values with
    | nil => exact iff_of_false (fun h => nomatch h) fun ⟨_, _, h⟩ => Except.not_firstError_nil h
    | cons v values =>
      have hshift : (fun i (p : Column × Value) => d.writeColumn (index + (i + 1)) p.1 p.2)
          = fun i p => d.writeColumn (index + 1 + i) p.1 p.2 := by
        funext i p
        rw [Nat.add_assoc, Nat.add_comm 1 i]
      rw [writeColumns, Except.bind_eq_error]
      simp only [List.zip_cons_cons, Except.firstError_cons, hshift, Nat.add_zero]
      constructor
      · rintro (h | ⟨t, ht, h⟩)
        · exact ⟨0, (c, v), .inl ⟨rfl, rfl, h⟩⟩
        · rcases Except.bind_eq_error.1 h with h | ⟨_, _, h⟩
          · obtain ⟨k, p, hfirst⟩ := ih.1 h
            exact ⟨k + 1, p, .inr ⟨k, t, rfl, ht, hfirst⟩⟩
          · cases h
      · rintro ⟨j, p, ⟨-, -, h⟩ | ⟨k, t, -, ht, hfirst⟩⟩
        · exact .inl h
        · exact .inr ⟨t, ht, Except.bind_eq_error.2 (.inl (ih.2 ⟨k, p, hfirst⟩))⟩

/-- The first column that does not take its value, with its index and the value. -/
structure FirstMisfit (d : Dialect) (columns : List Column) (values : List Value) (j : Nat)
    (c : Column) (v : Value) : Prop where
  /-- The column and the value stand there. -/
  item : (columns.zip values)[j]? = some (c, v)
  /-- The column does not take the value. -/
  misfit : ¬ d.Takes c.type v
  /-- The columns before it take theirs. -/
  before : ∀ i b w, i < j → (columns.zip values)[i]? = some (b, w) → d.Takes b.type w

/-- The first column that is not written is the first one that does not take its value. -/
theorem firstMisfit_iff {columns : List Column} {values : List Value} {j : Nat} {c : Column}
    {v : Value} {e : EncodeError} :
    Except.FirstError (fun i p => d.writeColumn i p.1 p.2) (columns.zip values) j (c, v) e ↔
      d.FirstMisfit columns values j c v ∧ d.writeColumn j c v = .error e := by
  constructor
  · intro h
    refine ⟨⟨h.item, fun htakes => ?_, fun i b w hi hb => ?_⟩, h.error⟩
    · have hfield : ∃ field, d.writeColumn j c v = .ok field := exists_writeColumn_eq_ok.2 htakes
      obtain ⟨field, hfield⟩ := hfield
      cases h.error.symm.trans hfield
    · exact exists_writeColumn_eq_ok.1 (h.before i (b, w) hi hb)
  · rintro ⟨h, he⟩
    exact ⟨h.item, he, fun i p hi hp => exists_writeColumn_eq_ok.2 (h.before i p.1 p.2 hi hp)⟩

/-- No column misfits null. -/
theorem FirstMisfit.ne_null {columns : List Column} {values : List Value} {j : Nat} {c : Column}
    {v : Value} (h : d.FirstMisfit columns values j c v) : v ≠ .null := fun hv => h.misfit (.inl hv)

end Dialect

/-- No character of the standard dialect is a surrogate. -/
theorem Dialect.isEncodable_standard : Dialect.standard.IsEncodable where
  fieldDelimiter := by decide
  elementDelimiter := by decide
  lineDelimiter := List.forall_iff_forall_mem.1 (by decide)
  quote := by
    intro q hq
    cases hq
    decide
  escape := by
    intro e he
    cases he
  nullText := List.forall_mem_nil _

/-! ## Rows -/

/-- What is no row of the schema is a mismatch at no column. -/
theorem Schema.exists_mismatch_of_rowValues {s : Schema} {row : Value} {e : EncodeError}
    (h : s.rowValues row = .error e) : ∃ reason, e = .mismatch ⟨none, row, reason⟩ := by
  unfold rowValues at h
  split at h
  · cases h
  · split at h
    · cases h
      exact ⟨_, rfl⟩
    · split at h
      · cases h
      · cases h
        exact ⟨_, rfl⟩

namespace Codec

variable {c : Codec} {row : Value}

/-- The failures of a row that does not fit the schema, each with what it tells. -/
inductive Mismatches (levels : Nat) (c : Codec) (row : Value) : Failure → Prop where
  /-- What is no row of the schema is at no column. -/
  | row {reason : MismatchReason} {shown : Text}
    (hrow : c.schema.rowValues row = .error (.mismatch ⟨none, row, reason⟩))
    (h : row.literal levels = .ok shown) :
    Mismatches levels c row (.inContext .mismatch ⟨none, shown⟩ reason.message)
  /-- A refused value is at the first column that does not take its value. -/
  | value {values : List Value} {j : Nat} {column : Column} {v : Value} {r : ColumnRefusal}
    {shown : Text} (hvalues : c.schema.rowValues row = .ok values)
    (hfirst : c.dialect.FirstMisfit c.schema.columns values j column v)
    (hrefuses : c.dialect.Refuses column.type v r) (h : v.literal levels = .ok shown) :
    Mismatches levels c row (.inContext .mismatch ⟨some ⟨j, column.name⟩, shown⟩
      (MismatchReason.column column.type (.refused r)).message)

/-- The failures for another reason than a mismatch. -/
inductive Escapes (levels : Nat) (c : Codec) (row : Value) : Failure → Prop where
  /-- What is no row of the schema is not shown. -/
  | row {fault : ShowFault} (hrow : ∀ values, c.schema.rowValues row ≠ .ok values)
    (h : row.literal levels = .error fault) : Escapes levels c row fault.failure
  /-- The value at fault is not shown. -/
  | value {values : List Value} {j : Nat} {column : Column} {v : Value} {fault : ShowFault}
    (hvalues : c.schema.rowValues row = .ok values)
    (hfirst : c.dialect.FirstMisfit c.schema.columns values j column v)
    (hrange : ¬ column.type.Exceeds v) (h : v.literal levels = .error fault) :
    Escapes levels c row fault.failure
  /-- A number or an instant at fault is out of range. -/
  | overflow {values : List Value} {j : Nat} {column : Column} {v : Value}
    (hvalues : c.schema.rowValues row = .ok values)
    (hfirst : c.dialect.FirstMisfit c.schema.columns values j column v)
    (h : column.type.Exceeds v) : Escapes levels c row ⟨.overflow, none, none⟩
  /-- The line holds surrogates. -/
  | line {line : Text} {u : Utf8.Unencodable} (hline : c.encodeText row = .ok line)
    (h : Utf8.unencodable? line = some u) : Escapes levels c row u.failure

/-- There is no line of a row because it is none, or because of its first column that is not
written. -/
theorem encodeText_eq_error {e : EncodeError} : c.encodeText row = .error e ↔
    c.schema.rowValues row = .error e ∨
      ∃ values j column v, c.schema.rowValues row = .ok values ∧
        c.dialect.FirstMisfit c.schema.columns values j column v ∧
        c.dialect.writeColumn j column v = .error e := by
  rw [encodeText, Except.bind_eq_error]
  refine or_congr_right ⟨?_, ?_⟩
  · rintro ⟨values, hvalues, h⟩
    rcases Except.bind_eq_error.1 h with h | ⟨_, _, h⟩
    · obtain ⟨j, ⟨column, v⟩, hfirst⟩ := Dialect.writeColumns_eq_error.1 h
      simp only [Nat.zero_add] at hfirst
      obtain ⟨hmisfit, herror⟩ := Dialect.firstMisfit_iff.1 hfirst
      exact ⟨values, j, column, v, hvalues, hmisfit, herror⟩
    · cases h
  · rintro ⟨values, j, column, v, hvalues, hmisfit, herror⟩
    refine ⟨values, hvalues, Except.bind_eq_error.2 (.inl (Dialect.writeColumns_eq_error.2
      ⟨j, (column, v), ?_⟩))⟩
    simp only [Nat.zero_add]
    exact Dialect.firstMisfit_iff.2 ⟨hmisfit, herror⟩

/-- There is a line of a row if and only if each column takes its value. -/
theorem exists_encodeText_iff {values : List Value}
    (hvalues : c.schema.rowValues row = .ok values) :
    (∃ line, c.encodeText row = .ok line) ↔
      ∀ p ∈ c.schema.columns.zip values, c.dialect.Takes p.1.type p.2 := by
  constructor
  · rintro ⟨line, hline⟩
    obtain ⟨values', ts, fields, hvalues', hlines, -⟩ := encodeText_eq_ok.1 hline
    cases hvalues.symm.trans hvalues'
    exact hlines.takes
  · intro htakes
    cases hline : c.encodeText row with
    | ok line => exact ⟨line, rfl⟩
    | error e =>
      rcases encodeText_eq_error.1 hline with h | ⟨values', j, column, v, h, hfirst, -⟩
      · cases hvalues.symm.trans h
      · cases hvalues.symm.trans h
        exact absurd (htakes (column, v) (List.mem_of_getElem? hfirst.item)) hfirst.misfit

/-- A row is not encoded because it is none, or because of its first column that is not written, or
because its line has no encoding. -/
theorem encode_eq_error {e : EncodeError} : c.encode row = .error e ↔
    c.schema.rowValues row = .error e ∨
      (∃ values j column v, c.schema.rowValues row = .ok values ∧
        c.dialect.FirstMisfit c.schema.columns values j column v ∧
        c.dialect.writeColumn j column v = .error e) ∨
      ∃ line u, c.encodeText row = .ok line ∧ Utf8.unencodable? line = some u ∧
        e = .unencodable u := by
  rw [encode, Except.bind_eq_error, encodeText_eq_error, or_assoc]
  refine or_congr_right (or_congr_right ⟨?_, ?_⟩)
  · rintro ⟨line, hline, h⟩
    obtain ⟨u, hu, rfl⟩ := Except.mapError_eq_error.1 h
    unfold Utf8.encode at hu
    split at hu
    · next hu' =>
      cases hu
      exact ⟨line, u, hline, hu', rfl⟩
    · cases hu
  · rintro ⟨line, u, hline, hu, rfl⟩
    refine ⟨line, hline, Except.mapError_eq_error.2 ⟨u, ?_, rfl⟩⟩
    rw [Utf8.encode, hu]

/-- A row fails because it is not encoded. -/
theorem serialize_eq_error {levels : Nat} {f : Failure} :
    c.serialize levels row = .error f ↔
      ∃ e, c.encode row = .error e ∧ e.failure levels = f :=
  Except.mapError_eq_error

/-- A mismatch fails as such if its value is shown, and with the fault in showing it if not. -/
theorem failure_of_mismatch {levels : Nat} {m : Mismatch} {f : Failure} :
    (EncodeError.mismatch m).failure levels = f ↔
      (∃ shown, m.found.literal levels = .ok shown ∧
        f = .inContext .mismatch ⟨m.place, shown⟩ m.reason.message) ∨
      ∃ fault, m.found.literal levels = .error fault ∧ f = fault.failure := by
  rw [EncodeError.failure, Mismatch.failure]
  cases m.found.literal levels <;> simp [eq_comm]

/-- A row that fails is a mismatch, or it escapes. -/
theorem mismatches_or_escapes {levels : Nat} {f : Failure}
    (h : c.serialize levels row = .error f) :
    c.Mismatches levels row f ∨ c.Escapes levels row f := by
  obtain ⟨e, he, hf⟩ := serialize_eq_error.1 h
  rcases encode_eq_error.1 he with he | ⟨values, j, column, v, hvalues, hfirst, he⟩ |
    ⟨line, u, hline, hu, rfl⟩
  · obtain ⟨reason, rfl⟩ := Schema.exists_mismatch_of_rowValues he
    rcases failure_of_mismatch.1 hf with ⟨shown, hshown, rfl⟩ | ⟨fault, hfault, rfl⟩
    · exact .inl (.row he hshown)
    · refine .inr (.row (fun values hvalues => ?_) hfault)
      cases he.symm.trans hvalues
  · rcases (Dialect.writeColumn_eq_error hfirst.ne_null).1 he with ⟨hrange, rfl⟩ | ⟨r, hr, rfl⟩
    · subst hf
      exact .inr (.overflow hvalues hfirst hrange)
    · rcases failure_of_mismatch.1 hf with ⟨shown, hshown, rfl⟩ | ⟨fault, hfault, rfl⟩
      · exact .inl (.value hvalues hfirst hr hshown)
      · exact .inr (.value hvalues hfirst (hr.not_exceeds hfirst.ne_null) hfault)
  · subst hf
    exact .inr (.line hline hu)

/-- A row that is a mismatch fails as such. -/
theorem Mismatches.serialize {levels : Nat} {f : Failure} (h : c.Mismatches levels row f) :
    c.serialize levels row = .error f := by
  refine serialize_eq_error.2 ?_
  cases h with
  | row hrow hshown =>
    exact ⟨_, encode_eq_error.2 (.inl hrow), failure_of_mismatch.2 (.inl ⟨_, hshown, rfl⟩)⟩
  | @value values j column v r shown hvalues hfirst hrefuses hshown =>
    have hwrite : c.dialect.writeColumn j column v
        = .error (.mismatch ⟨some ⟨j, column.name⟩, v, .column column.type (.refused r)⟩) :=
      (Dialect.writeColumn_eq_error hfirst.ne_null).2 (.inr ⟨r, hrefuses, rfl⟩)
    exact ⟨_, encode_eq_error.2 (.inr (.inl ⟨_, _, _, _, hvalues, hfirst, hwrite⟩)),
      failure_of_mismatch.2 (.inl ⟨_, hshown, rfl⟩)⟩

/-- A row that escapes fails so. -/
theorem Escapes.serialize {levels : Nat} {f : Failure} (h : c.Escapes levels row f) :
    c.serialize levels row = .error f := by
  refine serialize_eq_error.2 ?_
  cases h with
  | row hrow hfault =>
    cases hvalues : c.schema.rowValues row with
    | ok values => exact absurd hvalues (hrow values)
    | error e =>
      obtain ⟨reason, rfl⟩ := Schema.exists_mismatch_of_rowValues hvalues
      exact ⟨_, encode_eq_error.2 (.inl hvalues), failure_of_mismatch.2 (.inr ⟨_, hfault, rfl⟩)⟩
  | @value values j column v fault hvalues hfirst hrange hfault =>
    -- The column does not take the value, so there is a reason, which is not that of its range.
    cases herror : c.dialect.writeColumn j column v with
    | ok field => exact absurd (Dialect.exists_writeColumn_eq_ok.1 ⟨field, herror⟩) hfirst.misfit
    | error e =>
      have hencode := encode_eq_error.2 (.inr (.inl ⟨_, _, _, _, hvalues, hfirst, herror⟩))
      rcases (Dialect.writeColumn_eq_error hfirst.ne_null).1 herror with ⟨hexceeds, -⟩ | ⟨r, -, rfl⟩
      · exact absurd hexceeds hrange
      · exact ⟨_, hencode, failure_of_mismatch.2 (.inr ⟨_, hfault, rfl⟩)⟩
  | @overflow values j column v hvalues hfirst hexceeds =>
    have hwrite : c.dialect.writeColumn j column v = .error (.escaped .overflow) :=
      (Dialect.writeColumn_eq_error hfirst.ne_null).2 (.inl ⟨hexceeds, rfl⟩)
    exact ⟨_, encode_eq_error.2 (.inr (.inl ⟨_, _, _, _, hvalues, hfirst, hwrite⟩)), rfl⟩
  | line hline hu => exact ⟨_, encode_eq_error.2 (.inr (.inr ⟨_, _, hline, hu, rfl⟩)), rfl⟩

/-- What may be at fault in a row is shown: the row itself, if it is none of the schema's, and
otherwise its values. -/
structure IsShown (levels : Nat) (c : Codec) (row : Value) : Prop where
  /-- What is no row of the schema is shown. -/
  notRow : (∀ values, c.schema.rowValues row ≠ .ok values) → row.IsShown levels
  /-- The values of a row are shown. -/
  values : ∀ values, c.schema.rowValues row = .ok values → ∀ v ∈ values, v.IsShown levels

/-- No leaf of a row is out of range. -/
def IsInRange (c : Codec) (row : Value) : Prop :=
  ∀ values, c.schema.rowValues row = .ok values → ∀ p ∈ c.schema.columns.zip values,
    ∀ leaf ∈ p.1.type.leaves p.2, ¬ leaf.1.Exceeds leaf.2

/-- A row does not escape if what may be at fault is shown, no leaf of it is out of range and no
character of the dialect is a surrogate. -/
theorem not_escapes {levels : Nat} (hencodable : c.dialect.IsEncodable)
    (hshown : c.IsShown levels row) (hrange : c.IsInRange row) (f : Failure) :
    ¬ c.Escapes levels row f := by
  intro h
  cases h with
  | row hrow hfault =>
    obtain ⟨t, ht⟩ := hshown.notRow hrow
    cases ht.symm.trans hfault
  | value hvalues hfirst _ hfault =>
    have hmem := (List.of_mem_zip (List.mem_of_getElem? hfirst.item)).2
    obtain ⟨t, ht⟩ := hshown.values _ hvalues _ hmem
    cases ht.symm.trans hfault
  | overflow hvalues hfirst hexceeds =>
    obtain ⟨k, leaf, hitem, hleaf, -⟩ := hexceeds.leaf
    exact hrange _ hvalues _ (List.mem_of_getElem? hfirst.item) leaf (List.mem_of_getElem? hitem)
      hleaf
  | line hline hu =>
    obtain ⟨values, ts, fields, -, hlines, rfl⟩ := encodeText_eq_ok.1 hline
    rw [Utf8.unencodable?_eq_none.2 (hencodable.line hlines)] at hu
    cases hu

/-- What becomes of a row, however many levels are left to show values. Its line is returned, or it
fails as a mismatch, or it escapes with another failure, and `Mismatches` and `Escapes` say exactly
when and what each failure tells. A mismatch is at no column if the row is none of the schema's, and
otherwise at the first column that does not take its value, with its index and name. No row escapes
if what may be at fault is shown, no leaf is out of range and no character of the dialect is a
surrogate. -/
theorem encode_outcomes (levels : Nat) (c : Codec) (row : Value) :
    (∀ f, c.serialize levels row = .error f ↔
        c.Mismatches levels row f ∨ c.Escapes levels row f) ∧
      (∀ f, c.Mismatches levels row f → f.errorClass = .mismatch ∧
        ∃ context, f.context? = some context ∧
          ((context.place = none ∧ ∀ values, c.schema.rowValues row ≠ .ok values) ∨
          ∃ values j column v, c.schema.rowValues row = .ok values ∧
            c.dialect.FirstMisfit c.schema.columns values j column v ∧
            context.place = some ⟨j, column.name⟩)) ∧
      (c.dialect.IsEncodable → c.IsShown levels row → c.IsInRange row →
        (∃ bytes, c.serialize levels row = .ok bytes) ∨
          ∃ f, c.serialize levels row = .error f ∧ c.Mismatches levels row f) := by
  refine ⟨fun f => ⟨mismatches_or_escapes, ?_⟩, fun f h => ?_, fun hencodable hshown hrange => ?_⟩
  · rintro (h | h)
    · exact h.serialize
    · exact h.serialize
  · cases h with
    | row hrow _ =>
      refine ⟨rfl, _, rfl, .inl ⟨rfl, fun values hvalues => ?_⟩⟩
      cases hrow.symm.trans hvalues
    | value hvalues hfirst _ _ =>
      exact ⟨rfl, _, rfl, .inr ⟨_, _, _, _, hvalues, hfirst, rfl⟩⟩
  · cases h : c.serialize levels row with
    | ok bytes => exact .inl ⟨bytes, rfl⟩
    | error f =>
      have hmismatches := (mismatches_or_escapes h).resolve_right
        (not_escapes hencodable hshown hrange f)
      exact .inr ⟨f, rfl, hmismatches⟩

/-- A truth value in the second of two columns of texts is a mismatch there. -/
theorem encode_outcomes_second : ∃ f context,
    (Codec.mk .twoTexts .standard).serialize 1 (.sequence .tuple [.text "x", .bool true])
        = .error f ∧
      f.errorClass = .mismatch ∧ f.context? = some context ∧ context.place = some ⟨1, "b"⟩ := by
  obtain ⟨-, hplace, hmismatch⟩ :=
    encode_outcomes 1 ⟨.twoTexts, .standard⟩ (.sequence .tuple [.text "x", .bool true])
  have hshown : (Codec.mk .twoTexts .standard).IsShown 1
      (.sequence .tuple [.text "x", .bool true]) := by
    refine ⟨fun hrow => absurd rfl (hrow _), fun values hvalues => ?_⟩
    cases hvalues
    exact List.forall_mem_cons.2 ⟨⟨_, rfl⟩, List.forall_mem_singleton.2 ⟨_, rfl⟩⟩
  have hrange : (Codec.mk .twoTexts .standard).IsInRange
      (.sequence .tuple [.text "x", .bool true]) := by
    intro values hvalues
    cases hvalues
    refine List.forall_mem_cons.2 ⟨?_, List.forall_mem_singleton.2 ?_⟩
    · exact List.forall_mem_singleton.2 fun he => nomatch he
    · exact List.forall_mem_singleton.2 fun he => nomatch he
  rcases hmismatch Dialect.isEncodable_standard hshown hrange with ⟨bytes, h⟩ | ⟨f, h, hf⟩
  · cases h
  · obtain ⟨hclass, context, hcontext, ⟨-, hnone⟩ | ⟨values, j, column, v, hvalues, hfirst, hj⟩⟩ :=
      hplace f hf
    · exact absurd rfl (hnone _)
    · refine ⟨f, context, h, hclass, hcontext, ?_⟩
      cases hvalues
      rcases j with _ | _ | j
      · cases hfirst.item
        exact absurd (.inr ⟨"x", .leaf (.string _), List.forall_iff_forall_mem.1 (by decide)⟩)
          hfirst.misfit
      · cases hfirst.item
        exact hj
      · cases hfirst.item

/-- The second behind the last year, in a column of instants under the default settings, is no
mismatch. -/
theorem encode_endSecond : ({} : Settings).dialect = .ok .standard ∧
    ∀ levels, (Codec.mk (.single (.leaf .instant)) .standard).serialize levels
      (.sequence .tuple [.instant ⟨253402300800, 0, by decide⟩])
        = .error ⟨.overflow, none, none⟩ :=
  ⟨rfl, fun _ => rfl⟩

/-- However many levels are left, a list nested so deep in a column of integers is no mismatch, as
it is not shown. -/
theorem serialize_nested {levels depth : Nat} (h : levels ≤ depth) :
    (Codec.mk (.single (.leaf .int)) .standard).serialize levels
      (.sequence .tuple [.nested depth]) = .error ShowFault.tooDeep.failure := by
  have hencode : ∃ reason, (Codec.mk (.single (.leaf .int)) .standard).encode
      (.sequence .tuple [.nested depth])
        = .error (.mismatch ⟨some ⟨0, "a"⟩, .nested depth, reason⟩) := by
    cases depth with
    | zero => exact ⟨_, rfl⟩
    | succ depth => exact ⟨_, rfl⟩
  obtain ⟨reason, hencode⟩ := hencode
  exact serialize_eq_error.2 ⟨_, hencode,
    failure_of_mismatch.2 (.inr ⟨_, Value.literal_nested h, rfl⟩)⟩

end Codec

end Delimited
