import Delimited.Proofs.Field.Characters
import Delimited.Proofs.Leaf.Domain
import Delimited.Proofs.Row.Composite

/-!
# Decoded rows are encoded

What a column is read as has the shape that the column is written in, and its leaves are null or in
the domains of their types, all of which are written. So a row that was decoded is encoded again.
Surrogates cannot come in between: there are none in decoded bytes, and fields are made of the
characters of their line.
-/

namespace Delimited

/-! ## The domains of columns -/

namespace ColumnType

/-- The values that a column is read as, null apart: a row has a leaf for each of its types. -/
inductive Domain : ColumnType → Value → Prop where
  /-- A leaf. -/
  | leaf {type : LeafType} {v : Value} (h : type.Domain v) : Domain (.leaf type) v
  /-- A tuple of leaves. -/
  | row {first : LeafType} {others : List LeafType} {items : List Value}
    (h : List.Forall₂ (fun type v => v = .null ∨ type.Domain v) (first :: others) items) :
    Domain (.row first others) (.sequence .tuple items)
  /-- A list of leaves. -/
  | array {element : LeafType} {items : List Value}
    (h : ∀ v ∈ items, v = .null ∨ element.Domain v) :
    Domain (.array element) (.sequence .list items)

variable {type : ColumnType} {v : Value}

/-- The leaves of null are null, if there are any. -/
theorem eq_null_of_mem_leaves (type : ColumnType) : ∀ leaf ∈ type.leaves .null, leaf.2 = .null := by
  cases type with
  | leaf type => exact List.forall_mem_singleton.2 rfl
  | row first others => exact List.forall_mem_nil _
  | array element => exact List.forall_mem_nil _

/-- Null is in no domain. -/
theorem Domain.ne_null (h : type.Domain v) : v ≠ .null := by
  rintro rfl
  cases h with
  | leaf h => cases h

/-- What is in the domain of a column has the column's shape. -/
theorem Domain.not_misshapes (h : type.Domain v) (r : ColumnRefusal) : ¬ type.Misshapes v r := by
  intro hr
  cases h with
  | leaf => cases hr
  | row h =>
    cases hr with
    | row hitems => cases hitems
    | rowLength hitems hlength =>
      cases hitems
      exact hlength h.length_eq.symm
  | array =>
    cases hr with
    | array hitems => cases hitems

/-- The leaves of what is in the domain of a column are null or in the domains of their types. -/
theorem Domain.leaf_domain (h : type.Domain v) :
    ∀ leaf ∈ type.leaves v, leaf.2 = .null ∨ leaf.1.Domain leaf.2 := by
  cases h with
  | leaf h => exact List.forall_mem_singleton.2 (.inr h)
  | @row first others items h =>
    have hitems : (Value.sequence .tuple items).items? = some items := rfl
    rw [leaves_row hitems]
    rintro ⟨type, v⟩ hleaf
    exact (List.forall₂_iff_zip.1 h).2 hleaf
  | @array element items h =>
    have hitems : (Value.sequence .list items).items? = some items := rfl
    rw [leaves_array hitems]
    intro leaf hleaf
    obtain ⟨v, hv, rfl⟩ := List.mem_map.1 hleaf
    exact h v hv

/-- What a composite column is read as if its text is empty is null, or in the column's domain. -/
theorem domain_ofNothing (htype : type.isComposite = true) :
    type.ofNothing = .null ∨ type.Domain type.ofNothing := by
  cases type with
  | leaf => cases htype
  | row => exact .inl rfl
  | array => exact .inr (.array (List.forall_mem_nil _))

end ColumnType

namespace Dialect

variable {d : Dialect} {type : ColumnType} {v : Value}

/-! ## What is read -/

/-- A leaf that is read of a text without surrogates is null or in the domain of its type. -/
theorem domain_of_readLeaf {type : LeafType} {t : Text} (ht : ∀ c ∈ t, c.isSurrogate = false)
    (h : d.readLeaf type t = .ok v) : v = .null ∨ type.Domain v := by
  unfold readLeaf at h
  split at h
  · cases h
    exact .inl rfl
  · refine LeafType.domain_of_read (fun c hc => ht c ?_) h
    split at hc
    · exact hc
    · exact t.trim_subset hc

/-- So are leaves that are read one after another. -/
theorem domain_of_readLeaves {leaves : List (LeafType × Text)} {items : List Value}
    (hleaves : ∀ leaf ∈ leaves, ∀ c ∈ leaf.2, c.isSurrogate = false)
    (h : d.readLeaves leaves = .ok items) :
    List.Forall₂ (fun type v => v = .null ∨ type.Domain v) (leaves.map Prod.fst) items := by
  have hforall := Except.mapM_eq_ok.1 h
  clear h
  induction hforall with
  | nil => exact .nil
  | cons hread _ ih =>
    obtain ⟨hleaf, hrest⟩ := List.forall_mem_cons.1 hleaves
    exact .cons (domain_of_readLeaf hleaf (Except.mapError_eq_ok.1 hread)) (ih hrest)

/-- A composite column that is read as a sequence is read as one of its domain. -/
theorem domain_of_readLeaves_typed (htype : type.isComposite = true) {inners : List Text}
    {items : List Value} (hcount : type.HasLeaves inners.length)
    (hinners : ∀ inner ∈ inners, ∀ c ∈ inner, c.isSurrogate = false)
    (h : d.readLeaves (type.typed inners) = .ok items) :
    type.Domain (.sequence type.sequenceKind items) := by
  cases type with
  | leaf => cases htype
  | row first others =>
    have hlength : inners.length = (first :: others).length := hcount
    have hforall := domain_of_readLeaves
      (fun leaf hleaf => hinners leaf.2 (List.of_mem_zip hleaf).2) h
    rw [List.map_fst_zip (Nat.le_of_eq hlength.symm)] at hforall
    exact .row hforall
  | array element =>
    refine .array fun v hv => ?_
    obtain ⟨leaf, hleaf, hread⟩ := Except.exists_of_mapM h v hv
    obtain ⟨inner, hinner, rfl⟩ := List.mem_map.1 hleaf
    exact domain_of_readLeaf (hinners inner hinner) (Except.mapError_eq_ok.1 hread)

/-- A column that is read of a text without surrogates is null or in the domain of its type. -/
theorem domain_of_readColumn {t : Text} (ht : ∀ c ∈ t, c.isSurrogate = false)
    (h : d.readColumn type t = .ok v) : v = .null ∨ type.Domain v := by
  by_cases hnull : d.standsForNull type t = true
  · rw [readColumn_of_standsForNull hnull] at h
    exact .inl (Except.ok.inj h).symm
  rw [Bool.not_eq_true] at hnull
  cases htype : type.isComposite with
  | false =>
    cases type with
    | leaf type =>
      rw [readColumn_leaf] at h
      exact (domain_of_readLeaf ht (Except.mapError_eq_ok.1 h)).imp_right .leaf
    | row | array => cases htype
  | true =>
    by_cases hnil : t = []
    · subst hnil
      rw [readColumn_nil htype hnull] at h
      exact Except.ok.inj h ▸ ColumnType.domain_ofNothing htype
    · obtain ⟨inners, items, helements, hcount, hread, rfl⟩ :=
        (readColumn_composite_eq_ok htype hnull hnil).1 h
      have hsubset := Marks.subset_of_split (Except.mapError_eq_ok.1 helements)
      exact .inr (domain_of_readLeaves_typed htype hcount
        (fun inner hinner c hc => ht c (hsubset inner hinner hc)) hread)

/-- Columns that are read of fields without surrogates are null or in the domains of their types. -/
theorem domain_of_readColumns {index : Nat} {columns : List Column} {ts : List Text}
    {values : List Value} (hts : ∀ t ∈ ts, ∀ c ∈ t, c.isSurrogate = false)
    (h : d.readColumns index columns ts = .ok values) :
    List.Forall₂ (fun c v => v = .null ∨ c.type.Domain v) columns values := by
  induction columns generalizing index ts values with
  | nil =>
    cases h
    exact .nil
  | cons c columns ih =>
    cases ts with
    | nil =>
      -- The record does not reach this column, nor those behind it.
      rw [readColumns_nil, List.length_cons, List.replicate_succ] at h
      cases h
      exact .cons (.inl rfl) (ih hts (readColumns_nil (index + 1) columns))
    | cons t ts =>
      obtain ⟨ht, hts⟩ := List.forall_mem_cons.1 hts
      obtain ⟨v, rest, hv, hrest, rfl⟩ := readColumns_cons_eq_ok.1 h
      exact .cons (domain_of_readColumn ht hv) (ih hts hrest)

/-! ## What is written -/

/-- There is no surrogate in what is written for leaves of the domains of their types. -/
theorem IsEncodable.nests (h : d.IsEncodable) {leaves : List (LeafType × Value)}
    {parts : List Text} (hleaves : ∀ leaf ∈ leaves, leaf.2 = .null ∨ leaf.1.Domain leaf.2)
    (hparts : List.Forall₂ (fun leaf part => ∃ inner, d.Nests leaf inner part) leaves parts) :
    ∀ part ∈ parts, ∀ c ∈ part, c.isSurrogate = false := by
  induction hparts with
  | nil => exact List.forall_mem_nil _
  | cons hnests _ ih =>
    obtain ⟨hleaf, hrest⟩ := List.forall_mem_cons.1 hleaves
    refine List.forall_mem_cons.2 ⟨?_, ih hrest⟩
    obtain ⟨inner, hnests⟩ := hnests
    cases hnests with
    | null => exact h.nullText
    | leaf hv hwrites =>
      have hdomain := hleaf.resolve_left hv
      exact h.leafText (hdomain.isSurrogate_eq_false hwrites)

/-- There is no surrogate in the text of a value of a column's domain. -/
theorem IsEncodable.fills (h : d.IsEncodable) (hdomain : type.Domain v) {t : Text}
    (hfills : d.Fills type v t) : ∀ c ∈ t, c.isSurrogate = false := by
  cases htype : type.isComposite with
  | false =>
    cases hfills with
    | leaf hwrites =>
      cases hdomain with
      | leaf hdomain => exact hdomain.isSurrogate_eq_false hwrites
    | row | array => cases htype
  | true =>
    have htext := columnText_eq_ok.2 hfills
    rw [columnText_of_shape htype hdomain.not_misshapes] at htext
    obtain ⟨parts, hparts, rfl⟩ := compositeText_eq_ok.1 htext
    exact isSurrogate_join h.elementDelimiter (h.nests hdomain.leaf_domain hparts)

/-- A column takes null and the values of its domain. -/
theorem IsEncodable.takes (h : d.IsEncodable) (hv : v = .null ∨ type.Domain v) :
    d.Takes type v := by
  rcases hv with hnull | hdomain
  · exact .inl hnull
  · -- The value has the shape of the column, so it has a text as each of its leaves has one.
    obtain ⟨t, hfills⟩ := exists_fills_of_shape (d := d) hdomain.ne_null hdomain.not_misshapes
      fun leaf hleaf hne => by
        have hleafDomain := (hdomain.leaf_domain leaf hleaf).resolve_left hne
        obtain ⟨t, hwrites⟩ := hleafDomain.exists_writes
        exact ⟨t, LeafType.write_of_writes hwrites⟩
    exact .inr ⟨t, hfills, h.fills hdomain hfills⟩

end Dialect

namespace Codec

variable {c : Codec} {message : Value}

/-- There is no surrogate in the text of a message, if there is none in a message that is a text. -/
theorem isSurrogate_of_messageText
    (hmessage : ∀ t, message = .text t → ∀ c ∈ t, c.isSurrogate = false) {t : Text}
    (h : messageText message = .ok t) : ∀ c ∈ t, c.isSurrogate = false := by
  unfold messageText at h
  split at h
  · cases h
    exact hmessage t rfl
  · split at h
    · next hdecode =>
      cases h
      exact Utf8.isSurrogate_of_decode hdecode
    · cases h
  · cases h

/-- A row with a line is encoded if there is no surrogate in the dialect. -/
theorem exists_encode_of_encodeText (hencodable : c.dialect.IsEncodable) {row : Value}
    {line : Text} (hline : c.encodeText row = .ok line) : ∃ bytes, c.encode row = .ok bytes := by
  obtain ⟨values, ts, fields, -, hlines, rfl⟩ := encodeText_eq_ok.1 hline
  obtain ⟨bytes, hbytes, -⟩ := Utf8.exists_encode_decode (hencodable.line hlines)
  exact ⟨bytes, encode_of_encodeText hline hbytes⟩

/-- Everything decoded can be encoded. For a dialect and a message without surrogates: if the
message is decoded to a row, each value of the row is null or in the domain of its column, and the
row is encoded. -/
theorem encode_of_decode (hencodable : c.dialect.IsEncodable)
    (hmessage : ∀ t, message = .text t → ∀ c ∈ t, c.isSurrogate = false) {values : List Value}
    (hrow : c.decode message = .ok (.row values)) :
    List.Forall₂ (fun column v => v = .null ∨ column.type.Domain v) c.schema.columns values ∧
      ∃ bytes, c.encode (.sequence .tuple values) = .ok bytes := by
  obtain ⟨t, ht, hrecord⟩ := decode_eq_row.1 hrow
  obtain ⟨fields, hfields, -, hread⟩ := Schema.decodeRecord_eq_ok.1 hrecord
  -- There is no surrogate in the message, so there is none in its fields.
  have hsubset := Marks.subset_of_split hfields
  have htext := isSurrogate_of_messageText hmessage ht.text
  have hdomains := Dialect.domain_of_readColumns
    (fun field hfield x hx => htext x (hsubset field hfield hx)) hread
  have hvalues := Schema.rowValues_tuple (Schema.length_of_decodeRecord hrecord)
  obtain ⟨line, hline⟩ := (exists_encodeText_iff hvalues).2 fun p hp =>
    hencodable.takes ((List.forall₂_iff_zip.1 hdomains).2 hp)
  exact ⟨hdomains, exists_encode_of_encodeText hencodable hline⟩

/-- Under the default settings the bytes of a line with the least and the greatest integer of 8 bits
are decoded to a list of both, which is encoded. -/
theorem encode_of_decode_bounds :
    (Codec.mk (.single (.array .byte)) .standard).decode
        (.bytes .fixed [45, 49, 50, 56, 59, 49, 50, 55, 10])
      = .ok (.row [.sequence .list [.int (-128), .int 127]]) ∧
    (ColumnType.array .byte).Domain (.sequence .list [.int (-128), .int 127]) ∧
    ∃ bytes, (Codec.mk (.single (.array .byte)) .standard).encode
      (.sequence .tuple [.sequence .list [.int (-128), .int 127]]) = .ok bytes := by
  have hd := Settings.isChecked_of_dialect Settings.dialect_default
  have hfields : Dialect.standard.recordFields "-128;127\n" = .ok ["-128;127"] :=
    Dialect.recordFields_of_frames hd
      (Dialect.frames_bare (t := "-128;127") (List.forall_iff_forall_mem.1 (by decide)))
  have hframes : List.Forall₂ ((Dialect.standard.marks ';').Frames false)
      ["-128", "127"] ["-128", "127"] :=
    .cons (Dialect.frames_bare (List.forall_iff_forall_mem.1 (by decide)))
      (.cons (Dialect.frames_bare (List.forall_iff_forall_mem.1 (by decide))) .nil)
  have helements : Dialect.standard.elements "-128;127" = .ok ["-128", "127"] :=
    Dialect.elements_join hd (List.cons_ne_nil _ _) hframes
  have hcolumn : Dialect.standard.readColumn (.array .byte) "-128;127"
      = .ok (.sequence .list [.int (-128), .int 127]) :=
    Dialect.readColumn_array_of_elements rfl (by decide) helements rfl
  have hrow : (Codec.mk (.single (.array .byte)) .standard).decode
      (.bytes .fixed [45, 49, 50, 56, 59, 49, 50, 55, 10])
        = .ok (.row [.sequence .list [.int (-128), .int 127]]) :=
    decode_eq_row.2 ⟨"-128;127\n", ⟨rfl, rfl⟩, Schema.decodeRecord_eq_ok.2
      ⟨_, hfields, by decide, Dialect.readColumns_cons_eq_ok.2 ⟨_, [], hcolumn, rfl, rfl⟩⟩⟩
  have hmessage : ∀ t, Value.bytes .fixed [45, 49, 50, 56, 59, 49, 50, 55, 10] = .text t →
      ∀ c ∈ t, c.isSurrogate = false := by
    intro t ht
    cases ht
  obtain ⟨hdomains, hencode⟩ := encode_of_decode Dialect.isEncodable_standard hmessage hrow
  cases hdomains with
  | cons hdomain _ => exact ⟨hrow, hdomain.resolve_left (fun hnull => by cases hnull), hencode⟩

end Codec

end Delimited
