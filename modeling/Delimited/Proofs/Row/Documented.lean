import Delimited.Proofs.Leaf.Instants
import Delimited.Proofs.Row.Reencoding

/-!
# Rows that are encoded

A leaf type is there for the values that it reads, and it takes some that it reads back as others:
integers where fractions or decimals are wanted, a date and time at an offset as the instant that it
is, the bytes of a buffer. `Admits` is both. What is encoded has the shape of its columns, and its
leaves are admitted, with one exception: the types of times of day take a time at an offset from
UTC, and leave the offset out of the text. `admits_of_encodeText` says that this is the only one.
-/

namespace Delimited

/-- A time of day at an offset from UTC. -/
def Value.IsZonedTime (v : Value) : Prop := ∃ t offset, v = .time t (some offset)

namespace LeafType

/-- The values that a leaf type takes though it reads none like them. -/
inductive Converts : LeafType → Value → Prop where
  /-- An integer as a floating-point number. -/
  | floatOfInt {type : LeafType} (htype : type.isFloat) (i : Int) : Converts type (.int i)
  /-- An integer as a decimal. -/
  | decimalOfInt (i : Int) : Converts decimal (.int i)
  /-- A date and time at an offset as an instant in one of the years that have dates. -/
  | instantOfDateTime {t : DateTime} {offset : ZoneOffset}
    (h : ¬ (Instant.ofDateTime t offset).IsBeyondYears) :
    Converts instant (.dateTime t (some offset))
  /-- Changeable bytes as fixed ones. -/
  | byteArray (b : List UInt8) : Converts byteArray (.bytes .buffer b)

/-- The values that a leaf type is there for, null apart: those that it reads, and those that it
converts. -/
def Admits (type : LeafType) (v : Value) : Prop := type.Domain v ∨ type.Converts v

/-- The times of day at an offset that the types of times of day take as well. -/
def TakesZoned (type : LeafType) (v : Value) : Prop :=
  (type = time ∨ type = localTime) ∧ v.IsZonedTime

variable {type : LeafType} {v : Value}

/-- No leaf type is there for times of day at an offset. -/
theorem Admits.not_isZonedTime (h : type.Admits v) : ¬ v.IsZonedTime := by
  rintro ⟨t, offset, rfl⟩
  rcases h with h | h
  · cases h
  · cases h

/-- What is written without surrogates is admitted, or a time of day at an offset. -/
theorem Writes.admits_or_takesZoned {t : Text} (h : type.Writes v t) (hv : v ≠ .null)
    (ht : ∀ c ∈ t, c.isSurrogate = false) : type.Admits v ∨ type.TakesZoned v := by
  cases h with
  | null => exact absurd rfl hv
  | boolean b => exact .inl (.inl (.boolean b))
  | ranged htype hrange => exact .inl (.inl (domain_of_intRange? htype hrange))
  | bigInt hcount => exact .inl (.inl (.bigInt hcount))
  | float htype x => exact .inl (.inl (.float htype x))
  | floatOfInt htype => exact .inl (.inr (.floatOfInt htype _))
  | @decimal d t hplain =>
    cases d with
    | finite negative coefficient exponent inRange =>
      exact .inl (.inl (.decimal negative coefficient exponent inRange))
    | infinite => cases hplain
    | nan => cases hplain
  | decimalOfInt => exact .inl (.inr (.decimalOfInt _))
  | string => exact .inl (.inl (.string ht))
  | date htype d => exact .inl (.inl (.date htype d))
  | time t offset =>
    cases offset with
    | none => exact .inl (.inl (.time (.inl rfl) t))
    | some offset => exact .inr ⟨.inl rfl, t, offset, rfl⟩
  | localTime t offset =>
    cases offset with
    | none => exact .inl (.inl (.time (.inr rfl) t))
    | some offset => exact .inr ⟨.inr rfl, t, offset, rfl⟩
  | timestamp t => exact .inl (.inl (.dateTime (.inl rfl) t))
  | localDateTime t => exact .inl (.inl (.dateTime (.inr rfl) t))
  | instant h => exact .inl (.inl (.instant (exists_writeInstant_iff.1 ⟨_, h⟩)))
  | instantOfDateTime h =>
    exact .inl (.inr (.instantOfDateTime (exists_writeInstant_iff.1 ⟨_, h⟩)))
  | @byteArray kind hkind b =>
    cases kind with
    | fixed => exact .inl (.inl (.byteArray b))
    | buffer => exact .inl (.inr (.byteArray b))
    | view => exact absurd rfl hkind

end LeafType

/-- A value that has the shape of a column, and whose leaves are null or as they are wanted. A row
has a leaf for each of its types. -/
inductive ColumnType.Consists (wanted : LeafType → Value → Prop) : ColumnType → Value → Prop where
  /-- A leaf. -/
  | leaf {type : LeafType} {v : Value} (h : wanted type v) : Consists wanted (.leaf type) v
  /-- A sequence of leaves of the types. -/
  | row {first : LeafType} {others : List LeafType} {v : Value} {items : List Value}
    (hitems : v.items? = some items)
    (h : List.Forall₂ (fun type item => item = .null ∨ wanted type item) (first :: others) items) :
    Consists wanted (.row first others) v
  /-- A sequence of leaves of one type. -/
  | array {element : LeafType} {v : Value} {items : List Value} (hitems : v.items? = some items)
    (h : ∀ item ∈ items, item = .null ∨ wanted element item) : Consists wanted (.array element) v

/-- The characters of a text are among those of what it is joined to. -/
theorem Text.subset_join {delimiter : CodePoint} {parts : List Text} :
    ∀ part ∈ parts, part ⊆ Text.join [delimiter] parts := by
  induction parts with
  | nil => exact List.forall_mem_nil _
  | cons first parts ih =>
    cases parts with
    | nil =>
      rw [join, List.intercalate_singleton]
      exact List.forall_mem_singleton.2 (List.Subset.refl _)
    | cons next parts =>
      rw [join, List.intercalate_cons_cons, List.append_assoc]
      refine List.forall_mem_cons.2 ⟨List.subset_append_left _ _, fun part hpart => ?_⟩
      exact List.subset_append_of_subset_right _
        (List.subset_append_of_subset_right _ (ih part hpart))

namespace Dialect

variable {d : Dialect} {type : ColumnType} {v : Value} {wanted : LeafType → Value → Prop}

/-- The characters of a text are among those between the quotes. -/
theorem subset_enclose (d : Dialect) (t : Text) : t ⊆ d.enclose t := by
  unfold enclose
  split
  · next q _ =>
    intro c hc
    refine List.mem_cons_of_mem q (List.mem_append_left [q] (List.mem_flatMap.2 ⟨c, hc, ?_⟩))
    split
    · exact List.mem_cons_self
    · exact List.mem_cons_self
  · exact List.Subset.refl t

/-- The characters of a leaf's text are among those that stand for it within a composite column. -/
theorem subset_leafText (d : Dialect) (type : LeafType) (t : Text) : t ⊆ d.leafText type t := by
  unfold leafText
  split
  · exact d.subset_enclose t
  · exact List.Subset.refl t

/-- The leaves of a composite column whose text has no surrogates are null, or have texts without
any. -/
theorem exists_writes_of_nests {leaves : List (LeafType × Value)} {parts : List Text}
    (h : List.Forall₂ (fun leaf part => ∃ inner, d.Nests leaf inner part) leaves parts)
    (hparts : ∀ part ∈ parts, ∀ c ∈ part, c.isSurrogate = false) :
    ∀ leaf ∈ leaves, leaf.2 = .null ∨
      ∃ t, leaf.1.Writes leaf.2 t ∧ ∀ c ∈ t, c.isSurrogate = false := by
  induction h with
  | nil => exact List.forall_mem_nil _
  | cons hnests _ ih =>
    obtain ⟨hpart, hparts⟩ := List.forall_mem_cons.1 hparts
    refine List.forall_mem_cons.2 ⟨?_, ih hparts⟩
    obtain ⟨inner, hnests⟩ := hnests
    cases hnests with
    | null => exact .inl rfl
    | leaf _ hwrites =>
      exact .inr ⟨inner, hwrites, fun c hc => hpart c (d.subset_leafText _ inner hc)⟩

/-- So are the leaves of every value that a column takes. -/
theorem Takes.exists_writes (h : d.Takes type v) : ∀ leaf ∈ type.leaves v, leaf.2 = .null ∨
    ∃ t, leaf.1.Writes leaf.2 t ∧ ∀ c ∈ t, c.isSurrogate = false := by
  rcases h with rfl | ⟨t, hfills, ht⟩
  · exact fun leaf hleaf => .inl (type.eq_null_of_mem_leaves leaf hleaf)
  · have hjoin : ∀ {parts : List Text},
        (∀ c ∈ Text.join [d.elementDelimiter] parts, c.isSurrogate = false) →
        ∀ part ∈ parts, ∀ c ∈ part, c.isSurrogate = false :=
      fun hjoined part hpart c hc => hjoined c (Text.subset_join part hpart hc)
    cases hfills with
    | leaf hwrites => exact List.forall_mem_singleton.2 (.inr ⟨t, hwrites, ht⟩)
    | row hitems _ hparts =>
      rw [ColumnType.leaves_row hitems]
      exact exists_writes_of_nests hparts (hjoin ht)
    | array hitems hparts =>
      rw [ColumnType.leaves_array hitems]
      exact exists_writes_of_nests hparts (hjoin ht)

/-- A value that a column takes has the column's shape, so it is as wanted if its leaves are. -/
theorem Takes.consists_iff (h : d.Takes type v) : (v = .null ∨ type.Consists wanted v) ↔
    ∀ leaf ∈ type.leaves v, leaf.2 = .null ∨ wanted leaf.1 leaf.2 := by
  by_cases hv : v = .null
  · subst hv
    exact iff_of_true (.inl rfl) fun leaf hleaf => .inl (type.eq_null_of_mem_leaves leaf hleaf)
  rw [or_iff_right hv]
  obtain ⟨t, hfills, -⟩ := h.resolve_left hv
  constructor
  · intro hconsists
    cases hconsists with
    | leaf hwanted => exact List.forall_mem_singleton.2 (.inr hwanted)
    | row hitems hwanted =>
      rw [ColumnType.leaves_row hitems]
      exact fun leaf hleaf => (List.forall₂_iff_zip.1 hwanted).2 hleaf
    | array hitems hwanted =>
      rw [ColumnType.leaves_array hitems]
      exact List.forall_mem_map.2 hwanted
  · intro hleaves
    cases hfills with
    | leaf => exact .leaf ((List.forall_mem_singleton.1 hleaves).resolve_left hv)
    | row hitems hlength =>
      rw [ColumnType.leaves_row hitems] at hleaves
      exact .row hitems (List.forall₂_iff_zip.2 ⟨hlength.symm, fun hleaf => hleaves _ hleaf⟩)
    | array hitems =>
      rw [ColumnType.leaves_array hitems] at hleaves
      exact .array hitems (List.forall_mem_map.1 hleaves)

/-- Each leaf of a value that a column takes is null, or admitted, or a time of day at an offset. -/
theorem Takes.admits_or_takesZoned (h : d.Takes type v) : ∀ leaf ∈ type.leaves v,
    leaf.2 = .null ∨ leaf.1.Admits leaf.2 ∨ leaf.1.TakesZoned leaf.2 := by
  intro leaf hleaf
  by_cases hnull : leaf.2 = .null
  · exact .inl hnull
  · obtain ⟨t, hwrites, ht⟩ := (h.exists_writes leaf hleaf).resolve_left hnull
    exact .inr (hwrites.admits_or_takesZoned hnull ht)

/-- Each leaf of a value that a column takes is null or admitted, if and only if it is no time of
day at an offset. -/
theorem Takes.admits_iff (h : d.Takes type v) : ∀ leaf ∈ type.leaves v,
    (leaf.2 = .null ∨ leaf.1.Admits leaf.2) ↔ ¬ leaf.2.IsZonedTime := by
  intro leaf hleaf
  constructor
  · rintro (hnull | hadmits)
    · rw [hnull]
      rintro ⟨t, offset, hzoned⟩
      cases hzoned
    · exact hadmits.not_isZonedTime
  · intro hzoned
    rcases h.admits_or_takesZoned leaf hleaf with hnull | hadmits | htakes
    · exact .inl hnull
    · exact .inr hadmits
    · exact absurd htakes.2 hzoned

end Dialect

namespace Codec

/-- What is encoded is what its columns are there for, times of day at an offset apart. The values
of every row that is encoded are null or have the shapes of their columns, a row within a column
the length of its type, and each leaf is null, or admitted by its type, or a time of day at an
offset in a type of times of day. They are all admitted if and only if there is no such time. -/
theorem admits_of_encodeText {c : Codec} {row : Value} {line : Text}
    (h : c.encodeText row = .ok line) : ∃ values, c.schema.rowValues row = .ok values ∧
      List.Forall₂ (fun column v => v = .null ∨
          column.type.Consists (fun type v => type.Admits v ∨ type.TakesZoned v) v)
        c.schema.columns values ∧
      (List.Forall₂ (fun column v => v = .null ∨ column.type.Consists LeafType.Admits v)
          c.schema.columns values ↔
        ∀ p ∈ c.schema.columns.zip values, ∀ leaf ∈ p.1.type.leaves p.2,
          ¬ leaf.2.IsZonedTime) := by
  obtain ⟨values, ts, fields, hvalues, hlines, -⟩ := encodeText_eq_ok.1 h
  have htakes := hlines.takes
  have hlength : c.schema.columns.length = values.length := hlines.length_eq.1.symm
  refine ⟨values, hvalues, List.forall₂_iff_zip.2 ⟨hlength, fun {column v} hp => ?_⟩, ?_⟩
  · have hcolumn := htakes (column, v) hp
    exact hcolumn.consists_iff.2 hcolumn.admits_or_takesZoned
  · have hcolumn : ∀ p ∈ c.schema.columns.zip values,
        ((p.2 = .null ∨ p.1.type.Consists LeafType.Admits p.2) ↔
          ∀ leaf ∈ p.1.type.leaves p.2, ¬ leaf.2.IsZonedTime) := by
      intro p hp
      rw [(htakes p hp).consists_iff]
      exact forall₂_congr (htakes p hp).admits_iff
    rw [List.forall₂_iff_zip, and_iff_right hlength, ← forall₂_congr hcolumn]
    exact ⟨fun hall p hp => hall hp, fun hall column v hp => hall (column, v) hp⟩

/-- Half a second past noon of a leap day. -/
def leapNoon : DateTime where
  date := ⟨2024, 2, 29, by decide, by decide, by decide⟩
  time := ⟨12, 0, 0, 500000, by decide, by decide, by decide, by decide⟩

/-- That time an hour east of UTC, in a list of instants, is admitted as the instant that it is. -/
theorem admits_of_encodeText_instants :
    (Codec.mk (.single (.array .instant)) .standard).encodeText
        (.sequence .tuple [.sequence .tuple [.null, .dateTime leapNoon (some 3600000000)]])
      = .ok "\";2024-02-29 11:00:00.5Z\"\n" ∧
    (ColumnType.array .instant).Consists LeafType.Admits
      (.sequence .tuple [.null, .dateTime leapNoon (some 3600000000)]) := by
  have hline : (Codec.mk (.single (.array .instant)) .standard).encodeText
        (.sequence .tuple [.sequence .tuple [.null, .dateTime leapNoon (some 3600000000)]])
      = .ok "\";2024-02-29 11:00:00.5Z\"\n" := by
    have hinstant : Instant.ofDateTime leapNoon 3600000000
        = ⟨1709204400, 500000000, by decide⟩ := rfl
    have htext : LeafType.writeInstant ⟨1709204400, 500000000, by decide⟩
        = .ok "2024-02-29 11:00:00.5Z" := by cbv
    have hwrites : LeafType.instant.Writes (.dateTime leapNoon (some 3600000000))
        "2024-02-29 11:00:00.5Z" := .instantOfDateTime (hinstant ▸ htext)
    have hfills : Dialect.standard.Fills (.array .instant)
        (.sequence .tuple [.null, .dateTime leapNoon (some 3600000000)])
        (Text.join [.ofChar ';'] [[], "2024-02-29 11:00:00.5Z"]) :=
      .array rfl (.cons ⟨_, .null _⟩ (.cons ⟨_, .leaf (by simp) hwrites⟩ .nil))
    exact encodeText_single (.text (by simp) hfills (List.forall_iff_forall_mem.1 (by decide)))
  obtain ⟨values, hvalues, -, hiff⟩ := admits_of_encodeText hline
  cases hvalues
  have hzoned : ∀ leaf ∈ (ColumnType.array .instant).leaves
      (.sequence .tuple [.null, .dateTime leapNoon (some 3600000000)]), ¬ leaf.2.IsZonedTime := by
    rintro leaf hleaf ⟨t, offset, htime⟩
    simp only [ColumnType.leaves, Value.items?, Option.getD_some, List.map_cons, List.map_nil,
      List.mem_cons, List.not_mem_nil, or_false] at hleaf
    rcases hleaf with rfl | rfl
    · cases htime
    · cases htime
  cases hiff.2 (List.forall_mem_singleton.2 hzoned) with
  | cons hcolumn _ => exact ⟨hline, hcolumn.resolve_left (by simp)⟩

/-- Noon an hour east of UTC, in a column of times of day, is encoded like noon, though the type is
not there for it. -/
theorem encodeText_zonedTime : ({} : Settings).dialect = .ok .standard ∧
    (Codec.mk (.single (.leaf .time)) .standard).encodeText
        (.sequence .tuple [.time leapNoon.time.toSecond (some 3600000000)])
      = .ok "12:00:00\n" ∧
    ¬ LeafType.time.Admits (.time leapNoon.time.toSecond (some 3600000000)) := by
  have hfills : Dialect.standard.Fills (.leaf .time)
      (.time leapNoon.time.toSecond (some 3600000000)) "12:00:00" := by
    have htext : leapNoon.time.toSecond.text = "12:00:00" := by cbv
    exact htext ▸ .leaf (.time _ _)
  have hline : (Codec.mk (.single (.leaf .time)) .standard).encodeText
      (.sequence .tuple [.time leapNoon.time.toSecond (some 3600000000)]) = .ok "12:00:00\n" :=
    encodeText_single (.text (by simp) hfills (List.forall_iff_forall_mem.1 (by decide)))
  exact ⟨rfl, hline, fun h => h.not_isZonedTime ⟨_, _, rfl⟩⟩

end Codec

end Delimited
