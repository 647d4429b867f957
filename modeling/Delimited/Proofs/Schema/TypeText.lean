import Delimited.Proofs.Result
import Delimited.Proofs.Schema.Tokens

/-!
# Types and their tokens

What a text says about its type is in the kinds of its tokens. A type is read from a text exactly
if these are the kinds that the type is written with, `parse_eq_ok`: the reader takes the tokens of
the type and nothing else. Two texts of one type can differ in case and blanks, but not in their
commas and angle brackets.
-/

namespace Delimited

open CodePoint (ofChar)

namespace LeafType

/-- A name is looked up as the leaf type that is written so. -/
theorem ofName?_eq_some {name : Text} {type : LeafType} :
    ofName? name = some type ↔ name = type.text := by
  constructor
  · intro h
    unfold ofName? at h
    have hname := List.find?_some h
    exact (beq_iff_eq.1 hname).symm
  · rintro rfl
    cases type <;> decide

/-- No leaf type is written like a row type. -/
theorem text_ne_rowName (type : LeafType) : type.text ≠ ColumnType.rowName := by
  cases type <;> decide

/-- No leaf type is written like an array type. -/
theorem text_ne_arrayName (type : LeafType) : type.text ≠ ColumnType.arrayName := by
  cases type <;> decide

end LeafType

/-- A type counts as a leaf type if it is one. -/
theorem ColumnType.asLeaf_eq_ok {owner : TypeOwner} {type : ColumnType} {leaf : LeafType} :
    type.asLeaf owner = .ok leaf ↔ type = .leaf leaf := by
  cases type <;> simp [asLeaf]

/-- Types count as leaf types if they are leaf types. -/
theorem ColumnType.mapM_asLeaf_eq_ok {owner : TypeOwner} {types : List ColumnType}
    {leaves : List LeafType} :
    types.mapM (·.asLeaf owner) = .ok leaves ↔ types = leaves.map .leaf := by
  simp only [Except.mapM_eq_ok, asLeaf_eq_ok]
  rw [← List.forall₂_map_right_iff (R := Eq), List.forall₂_eq_eq_eq]

/-- Fields make a row type if there is one. -/
theorem ColumnType.ofFields_eq_ok {fields : List LeafType} {type : ColumnType} :
    ofFields fields = .ok type ↔
      ∃ first others, fields = first :: others ∧ type = row first others := by
  cases fields with
  | nil => simp [ofFields]
  | cons first others => simp [ofFields, eq_comm]

namespace TypeText

/-! ## The tokens of a type -/

/-- The kinds of the tokens of the further fields of a row. -/
def fieldKinds (others : List LeafType) : List TokenKind :=
  others.flatMap fun type => [.sign (ofChar ','), .name type.text]

/-- The name that a type starts with. -/
def headName : ColumnType → Text
  | .leaf type => type.text
  | .row .. => ColumnType.rowName
  | .array _ => ColumnType.arrayName

/-- The kinds of the tokens of a type. -/
def kinds : ColumnType → List TokenKind
  | .leaf type => [.name type.text]
  | .row first others =>
    [.name ColumnType.rowName, .sign (ofChar '<'), .name first.text]
      ++ fieldKinds others ++ [.sign (ofChar '>')]
  | .array element =>
    [.name ColumnType.arrayName, .sign (ofChar '<'), .name element.text, .sign (ofChar '>')]

namespace Source

variable {s : Source} {depth : Nat} {ts after : List Token}

/-- A step reads the value and leaves the tokens after it. -/
def Reads {α : Type} {bound : Nat} (step : Except SchemaError (Reading α bound)) (value : α)
    (after : List Token) : Prop :=
  ∃ h, step = .ok ⟨value, after, h⟩

/-- A reading is read. -/
theorem reads_ok {α : Type} {value value' : α} {bound : Nat} {rest : List Token}
    {h : rest.length < bound} :
    Reads (.ok ⟨value', rest, h⟩) value after ↔ value = value' ∧ after = rest := by
  constructor
  · rintro ⟨_, heq⟩
    cases heq
    exact ⟨rfl, rfl⟩
  · rintro ⟨rfl, rfl⟩
    exact ⟨h, rfl⟩

/-- Nothing is read from a fault. -/
theorem not_reads_error {α : Type} {value : α} {bound : Nat} {e : SchemaError} :
    ¬ Reads (.error e : Except SchemaError (Reading α bound)) value after := by
  rintro ⟨_, h⟩
  cases h

/-- A sign is read if it is the next token. -/
theorem reads_expect {c : CodePoint} :
    Reads (s.expect c ts) () after ↔ ∃ token, ts = token :: after ∧ token.kind = .sign c := by
  unfold expect
  cases ts with
  | nil => simp [not_reads_error]
  | cons token rest =>
    by_cases hkind : token.kind = .sign c
    · simp [hkind, reads_ok, eq_comm]
    · simp only [if_neg hkind, not_reads_error, List.cons.injEq, false_iff]
      rintro ⟨_, ⟨rfl, -⟩, h⟩
      exact hkind h

/-- A composite is gone into below the greatest depth. -/
theorem enter_eq_ok : enter depth = .ok () ↔ depth < maxDepth := by
  simp [enter]

section Step

variable {token : Token} {rest : List Token} {value : ColumnType}

/-- What is read after the name of row types. -/
theorem reads_readType_row (hkind : token.kind = .name ColumnType.rowName) :
    Reads (s.readType depth (token :: rest)) value after ↔
      depth < maxDepth ∧ ∃ type types afterOpening afterFirst afterFields,
        value = .row type types ∧
        Reads (s.expect (ofChar '<') rest) () afterOpening ∧
        Reads (s.readType (depth + 1) afterOpening) (.leaf type) afterFirst ∧
        Reads (s.readFields (depth + 1) afterFirst) (types.map .leaf) afterFields ∧
        Reads (s.expect (ofChar '>') afterFields) () after := by
  rw [readType]
  simp only [hkind, if_true]
  constructor
  · rintro ⟨_, h⟩
    obtain ⟨_, henter, h⟩ := Except.bind_eq_ok.1 h
    obtain ⟨⟨_, afterOpening, _⟩, hopening, h⟩ := Except.bind_eq_ok.1 h
    obtain ⟨⟨first, afterFirst, _⟩, hfirst, h⟩ := Except.bind_eq_ok.1 h
    obtain ⟨⟨others, afterFields, _⟩, hothers, h⟩ := Except.bind_eq_ok.1 h
    obtain ⟨⟨_, afterClosing, _⟩, hclosing, h⟩ := Except.bind_eq_ok.1 h
    obtain ⟨fields, hfields, h⟩ := Except.bind_eq_ok.1 h
    obtain ⟨_, hrow, h⟩ := Except.bind_eq_ok.1 h
    cases Except.pure_eq_ok.1 h
    obtain ⟨type, types, rfl, rfl⟩ := ColumnType.ofFields_eq_ok.1 hrow
    obtain ⟨rfl, rfl⟩ := List.cons.inj (ColumnType.mapM_asLeaf_eq_ok.1 hfields)
    exact ⟨enter_eq_ok.1 henter, type, types, afterOpening, afterFirst, afterFields, rfl,
      ⟨_, hopening⟩, ⟨_, hfirst⟩, ⟨_, hothers⟩, ⟨_, hclosing⟩⟩
  · rintro ⟨hdepth, type, types, afterOpening, afterFirst, afterFields, rfl, ⟨_, hopening⟩,
      ⟨_, hfirst⟩, ⟨_, hothers⟩, ⟨_, hclosing⟩⟩
    refine ⟨by simp only [List.length_cons]; omega, ?_⟩
    refine Except.bind_eq_ok.2 ⟨(), enter_eq_ok.2 hdepth, ?_⟩
    refine Except.bind_eq_ok.2 ⟨_, hopening, Except.bind_eq_ok.2 ⟨_, hfirst, ?_⟩⟩
    refine Except.bind_eq_ok.2 ⟨_, hothers, Except.bind_eq_ok.2 ⟨_, hclosing, ?_⟩⟩
    exact Except.bind_eq_ok.2 ⟨type :: types, ColumnType.mapM_asLeaf_eq_ok.2 rfl, rfl⟩

/-- What is read after the name of array types. -/
theorem reads_readType_array (hkind : token.kind = .name ColumnType.arrayName) :
    Reads (s.readType depth (token :: rest)) value after ↔
      depth < maxDepth ∧ ∃ type afterOpening afterElement,
        value = .array type ∧
        Reads (s.expect (ofChar '<') rest) () afterOpening ∧
        Reads (s.readType (depth + 1) afterOpening) (.leaf type) afterElement ∧
        Reads (s.expect (ofChar '>') afterElement) () after := by
  rw [readType]
  simp only [hkind, if_true, if_neg (show ColumnType.arrayName ≠ ColumnType.rowName by decide)]
  constructor
  · rintro ⟨_, h⟩
    obtain ⟨_, henter, h⟩ := Except.bind_eq_ok.1 h
    obtain ⟨⟨_, afterOpening, _⟩, hopening, h⟩ := Except.bind_eq_ok.1 h
    obtain ⟨⟨element, afterElement, _⟩, helement, h⟩ := Except.bind_eq_ok.1 h
    obtain ⟨⟨_, afterClosing, _⟩, hclosing, h⟩ := Except.bind_eq_ok.1 h
    obtain ⟨type, htype, h⟩ := Except.bind_eq_ok.1 h
    cases Except.pure_eq_ok.1 h
    cases ColumnType.asLeaf_eq_ok.1 htype
    exact ⟨enter_eq_ok.1 henter, type, afterOpening, afterElement, rfl, ⟨_, hopening⟩,
      ⟨_, helement⟩, ⟨_, hclosing⟩⟩
  · rintro ⟨hdepth, type, afterOpening, afterElement, rfl, ⟨_, hopening⟩, ⟨_, helement⟩,
      ⟨_, hclosing⟩⟩
    refine ⟨by simp only [List.length_cons]; omega, ?_⟩
    refine Except.bind_eq_ok.2 ⟨(), enter_eq_ok.2 hdepth, ?_⟩
    refine Except.bind_eq_ok.2 ⟨_, hopening, Except.bind_eq_ok.2 ⟨_, helement, ?_⟩⟩
    exact Except.bind_eq_ok.2 ⟨_, hclosing, rfl⟩

/-- Any other token has to be the name of a leaf type. -/
theorem reads_readType_other (hrow : token.kind ≠ .name ColumnType.rowName)
    (harray : token.kind ≠ .name ColumnType.arrayName) :
    Reads (s.readType depth (token :: rest)) value after ↔
      ∃ type : LeafType, value = .leaf type ∧ after = rest ∧ token.kind = .name type.text := by
  rw [readType]
  split
  · next c hkind => simp [hkind, not_reads_error]
  · next name hkind =>
    rw [hkind, Ne, TokenKind.name.injEq] at hrow harray
    rw [if_neg hrow, if_neg harray]
    simp only [hkind, TokenKind.name.injEq, ← LeafType.ofName?_eq_some]
    cases LeafType.ofName? name with
    | none => simp [not_reads_error]
    | some type => simp [reads_ok]

/-- A type takes a token. -/
theorem exists_cons_of_reads (hread : Reads (s.readType depth ts) value after) :
    ∃ token rest, ts = token :: rest := by
  cases ts with
  | nil => exact absurd hread.1 (Nat.not_lt_zero _)
  | cons token rest => exact ⟨token, rest, rfl⟩

/-- The first token of a type is its name. -/
theorem kind_eq_of_reads (hread : Reads (s.readType depth (token :: rest)) value after) :
    token.kind = .name (headName value) := by
  by_cases hrow : token.kind = .name ColumnType.rowName
  · obtain ⟨-, _, _, _, _, _, rfl, -⟩ := (reads_readType_row hrow).1 hread
    exact hrow
  by_cases harray : token.kind = .name ColumnType.arrayName
  · obtain ⟨-, _, _, _, rfl, -⟩ := (reads_readType_array harray).1 hread
    exact harray
  obtain ⟨_, rfl, -, hkind⟩ := (reads_readType_other hrow harray).1 hread
  exact hkind

/-- No further field is read where no comma is next. -/
theorem reads_readFields_stop {values : List ColumnType}
    (hstop : ∀ token ∈ ts.head?, token.kind ≠ .sign (ofChar ',')) :
    Reads (s.readFields depth ts) values after ↔ values = [] ∧ after = ts := by
  cases ts with
  | nil => rw [readFields, reads_ok]
  | cons token rest => rw [readFields, if_neg (hstop token rfl), reads_ok]

/-- What is read after a comma. -/
theorem reads_readFields_comma {values : List ColumnType}
    (hkind : token.kind = .sign (ofChar ',')) :
    Reads (s.readFields depth (token :: rest)) values after ↔
      ∃ field others afterField, values = field :: others ∧
        Reads (s.readType depth rest) field afterField ∧
        Reads (s.readFields depth afterField) others after := by
  rw [readFields, if_pos hkind]
  constructor
  · rintro ⟨_, h⟩
    obtain ⟨⟨field, afterField, _⟩, hfield, h⟩ := Except.bind_eq_ok.1 h
    obtain ⟨⟨others, afterFields, _⟩, hothers, h⟩ := Except.bind_eq_ok.1 h
    cases Except.pure_eq_ok.1 h
    exact ⟨field, others, afterField, rfl, ⟨_, hfield⟩, ⟨_, hothers⟩⟩
  · rintro ⟨field, others, afterField, rfl, ⟨_, hfield⟩, ⟨_, hothers⟩⟩
    refine ⟨by simp only [List.length_cons]; omega, ?_⟩
    exact Except.bind_eq_ok.2 ⟨_, hfield, Except.bind_eq_ok.2 ⟨_, hothers, rfl⟩⟩

/-- Either a comma is next or not. -/
theorem comma_or_stop (ts : List Token) :
    (∃ token rest, ts = token :: rest ∧ token.kind = .sign (ofChar ',')) ∨
      ∀ token ∈ ts.head?, token.kind ≠ .sign (ofChar ',') := by
  cases ts with
  | nil => simp
  | cons token rest => simpa using Classical.em _

end Step

/-! ## What is read

A composite accepts nothing but leaf types within it, so what is read there is known before the
composite itself, and the depth does not matter further in. -/

/-- A leaf type is read if its name is the next token. -/
theorem reads_leaf {type : LeafType} :
    Reads (s.readType depth ts) (.leaf type) after ↔
      ∃ token, ts = token :: after ∧ token.kind = .name type.text := by
  have hother : ∀ {token : Token}, token.kind = .name type.text →
      token.kind ≠ .name ColumnType.rowName ∧ token.kind ≠ .name ColumnType.arrayName := by
    intro token hkind
    rw [hkind, Ne, Ne, TokenKind.name.injEq, TokenKind.name.injEq]
    exact ⟨type.text_ne_rowName, type.text_ne_arrayName⟩
  constructor
  · intro hread
    obtain ⟨token, rest, rfl⟩ := exists_cons_of_reads hread
    have hkind := kind_eq_of_reads hread
    obtain ⟨hrow, harray⟩ := hother hkind
    obtain ⟨_, -, rfl, -⟩ := (reads_readType_other hrow harray).1 hread
    exact ⟨token, rfl, hkind⟩
  · rintro ⟨token, rfl, hkind⟩
    obtain ⟨hrow, harray⟩ := hother hkind
    exact (reads_readType_other hrow harray).2 ⟨type, rfl, rfl, hkind⟩

/-- Further leaf types are read if they are next, each after a comma, and no comma follows. -/
theorem reads_leaves {types : List LeafType} :
    Reads (s.readFields depth ts) (types.map .leaf) after ↔
      (∃ read, ts = read ++ after ∧ read.map Token.kind = fieldKinds types) ∧
        ∀ token ∈ after.head?, token.kind ≠ .sign (ofChar ',') := by
  induction types generalizing ts with
  | nil =>
    constructor
    · intro h
      rcases comma_or_stop ts with ⟨comma, rest, rfl, hcomma⟩ | hstop
      · obtain ⟨_, _, _, hvalues, -⟩ := (reads_readFields_comma hcomma).1 h
        cases hvalues
      · obtain ⟨-, rfl⟩ := (reads_readFields_stop hstop).1 h
        exact ⟨⟨[], rfl, rfl⟩, hstop⟩
    · rintro ⟨⟨read, rfl, hread⟩, hstop⟩
      cases List.map_eq_nil_iff.1 hread
      exact (reads_readFields_stop hstop).2 ⟨rfl, rfl⟩
  | cons type types ih =>
    constructor
    · intro h
      -- The fields go on exactly where a comma is next.
      rcases comma_or_stop ts with ⟨comma, rest, rfl, hcomma⟩ | hstop
      · obtain ⟨_, _, _, hvalues, hfield, hothers⟩ := (reads_readFields_comma hcomma).1 h
        cases hvalues
        obtain ⟨name, rfl, hname⟩ := reads_leaf.1 hfield
        obtain ⟨⟨read, rfl, hread⟩, hstop⟩ := ih.1 hothers
        exact ⟨⟨comma :: name :: read, rfl, by simp [fieldKinds, hcomma, hname, hread]⟩, hstop⟩
      · cases ((reads_readFields_stop hstop).1 h).1
    · rintro ⟨⟨read, rfl, hread⟩, hstop⟩
      obtain ⟨comma, read, rfl, hcomma, hread⟩ := List.map_eq_cons_iff.1 hread
      obtain ⟨name, read, rfl, hname, hread⟩ := List.map_eq_cons_iff.1 hread
      refine (reads_readFields_comma hcomma).2 ⟨.leaf type, _, read ++ after, rfl, ?_, ?_⟩
      · exact reads_leaf.2 ⟨name, rfl, hname⟩
      · exact ih.2 ⟨⟨read, rfl, hread⟩, hstop⟩

/-- A row type is read if its tokens are next. -/
theorem reads_row (hdepth : depth < maxDepth) {first : LeafType} {others : List LeafType} :
    Reads (s.readType depth ts) (.row first others) after ↔
      ∃ read, ts = read ++ after ∧ read.map Token.kind = kinds (.row first others) := by
  constructor
  · intro h
    obtain ⟨row, rest, rfl⟩ := exists_cons_of_reads h
    have hrow := kind_eq_of_reads h
    obtain ⟨-, _, _, _, _, _, hvalue, hlt, hfirst, hothers, hgt⟩ := (reads_readType_row hrow).1 h
    cases hvalue
    obtain ⟨opening, rfl, hopening⟩ := reads_expect.1 hlt
    obtain ⟨name, rfl, hname⟩ := reads_leaf.1 hfirst
    obtain ⟨⟨fields, rfl, hfields⟩, -⟩ := reads_leaves.1 hothers
    obtain ⟨closing, rfl, hclosing⟩ := reads_expect.1 hgt
    refine ⟨row :: opening :: name :: (fields ++ [closing]), by simp, ?_⟩
    simp [kinds, hrow, headName, hopening, hname, hfields, hclosing]
  · rintro ⟨read, rfl, hread⟩
    obtain ⟨row, read, rfl, hrow, hread⟩ := List.map_eq_cons_iff.1 hread
    obtain ⟨opening, read, rfl, hopening, hread⟩ := List.map_eq_cons_iff.1 hread
    obtain ⟨name, read, rfl, hname, hread⟩ := List.map_eq_cons_iff.1 hread
    obtain ⟨fields, closings, rfl, hfields, hclosings⟩ := List.map_eq_append_iff.1 hread
    obtain ⟨closing, rfl, hclosing⟩ := List.map_eq_singleton_iff.1 hclosings
    refine (reads_readType_row hrow).2 ⟨hdepth, first, others, name :: fields ++ closing :: after,
      fields ++ closing :: after, closing :: after, rfl, ?_, ?_, ?_, ?_⟩
    · exact reads_expect.2 ⟨opening, by simp, hopening⟩
    · exact reads_leaf.2 ⟨name, rfl, hname⟩
    -- The closing bracket is no comma, so the fields end there.
    · refine reads_leaves.2 ⟨⟨fields, rfl, hfields⟩, fun token htoken => ?_⟩
      cases htoken
      rw [hclosing]
      decide
    · exact reads_expect.2 ⟨closing, rfl, hclosing⟩

/-- An array type is read if its tokens are next. -/
theorem reads_array (hdepth : depth < maxDepth) {element : LeafType} :
    Reads (s.readType depth ts) (.array element) after ↔
      ∃ read, ts = read ++ after ∧ read.map Token.kind = kinds (.array element) := by
  constructor
  · intro h
    obtain ⟨array, rest, rfl⟩ := exists_cons_of_reads h
    have harray := kind_eq_of_reads h
    obtain ⟨-, _, _, _, hvalue, hlt, helement, hgt⟩ := (reads_readType_array harray).1 h
    cases hvalue
    obtain ⟨opening, rfl, hopening⟩ := reads_expect.1 hlt
    obtain ⟨name, rfl, hname⟩ := reads_leaf.1 helement
    obtain ⟨closing, rfl, hclosing⟩ := reads_expect.1 hgt
    refine ⟨[array, opening, name, closing], rfl, ?_⟩
    simp [kinds, harray, headName, hopening, hname, hclosing]
  · rintro ⟨read, rfl, hread⟩
    obtain ⟨array, read, rfl, harray, hread⟩ := List.map_eq_cons_iff.1 hread
    obtain ⟨opening, read, rfl, hopening, hread⟩ := List.map_eq_cons_iff.1 hread
    obtain ⟨name, read, rfl, hname, hread⟩ := List.map_eq_cons_iff.1 hread
    obtain ⟨closing, rfl, hclosing⟩ := List.map_eq_singleton_iff.1 hread
    refine (reads_readType_array harray).2 ⟨hdepth, element, [name, closing] ++ after,
      closing :: after, rfl, ?_, ?_, ?_⟩
    · exact reads_expect.2 ⟨opening, rfl, hopening⟩
    · exact reads_leaf.2 ⟨name, rfl, hname⟩
    · exact reads_expect.2 ⟨closing, rfl, hclosing⟩

/-- A type is read if its tokens are next. -/
theorem reads_type (hdepth : depth < maxDepth) {type : ColumnType} :
    Reads (s.readType depth ts) type after ↔
      ∃ read, ts = read ++ after ∧ read.map Token.kind = kinds type := by
  cases type with
  | leaf type =>
    rw [reads_leaf]
    constructor
    · rintro ⟨token, rfl, hkind⟩
      exact ⟨[token], rfl, by simp [kinds, hkind]⟩
    · rintro ⟨read, rfl, hread⟩
      obtain ⟨token, rfl, hkind⟩ := List.map_eq_singleton_iff.1 hread
      exact ⟨token, rfl, hkind⟩
  | row first others => exact reads_row hdepth
  | array element => exact reads_array hdepth

end Source

/-- A text is accepted as a type if its tokens are those of the type. -/
theorem parse_eq_ok {t : Text} {type : ColumnType} :
    parse t = .ok type ↔ tokenKinds t = kinds type := by
  have hdepth : 0 < maxDepth := by decide
  have hread : ∀ {after : List Token}, Source.Reads (Source.readType ⟨t⟩ 0 (tokens t)) type after ↔
      ∃ read, tokens t = read ++ after ∧ read.map Token.kind = kinds type :=
    Source.reads_type hdepth
  constructor
  · intro h
    obtain ⟨⟨_, after, _⟩, htype, h⟩ := Except.bind_eq_ok.1 h
    dsimp only at h
    split at h
    · next hafter =>
      cases Except.pure_eq_ok.1 h
      cases List.isEmpty_iff.1 hafter
      obtain ⟨read, htokens, hkinds⟩ := hread.1 ⟨_, htype⟩
      rw [tokenKinds, htokens, List.append_nil, hkinds]
    · cases h
  · intro h
    obtain ⟨_, htype⟩ := hread.2 ⟨tokens t, (List.append_nil _).symm, h⟩
    exact Except.bind_eq_ok.2 ⟨_, htype, rfl⟩

/-! ## Written types are read -/

/-- The further fields of a row as they are written. -/
def fieldsText (others : List LeafType) : Text :=
  (others.map LeafType.text).flatMap ((", " : Text) ++ ·)

/-- Further fields do not go on with a name in front of them. -/
theorem isNamePart_head_fieldsText {rest : Text} (hrest : ∀ c ∈ rest.head?, isNamePart c = false)
    (others : List LeafType) : ∀ c ∈ (fieldsText others ++ rest).head?, isNamePart c = false := by
  cases others with
  | nil => exact hrest
  | cons next others =>
    rintro c ⟨⟩
    decide

/-- The name of a leaf type is a token where it ends. -/
theorem tokenKinds_leaf (type : LeafType) {rest : Text}
    (hrest : ∀ c ∈ rest.head?, isNamePart c = false) :
    tokenKinds (type.text ++ rest) = .name type.text :: tokenKinds rest :=
  tokenKinds_tag (text_subset_tagLetters type) (text_ne_nil type) hrest

/-- The tokens of the further fields of a row. -/
theorem tokenKinds_fieldsText {rest : Text} (hrest : ∀ c ∈ rest.head?, isNamePart c = false)
    (others : List LeafType) :
    tokenKinds (fieldsText others ++ rest) = fieldKinds others ++ tokenKinds rest := by
  induction others with
  | nil => rfl
  | cons type others ih =>
    have htext : fieldsText (type :: others) ++ rest =
        ofChar ',' :: ofChar ' ' :: (type.text ++ (fieldsText others ++ rest)) := by
      rw [fieldsText, List.map_cons, List.flatMap_cons, List.append_assoc, List.append_assoc]
      rfl
    rw [htext, tokenKinds_sign (by decide) (by decide), tokenKinds_blank (by decide),
      tokenKinds_leaf type (isNamePart_head_fieldsText hrest others), ih]
    rfl

/-- The tokens of the name of a composite type and of what follows. -/
theorem tokenKinds_composite {name : Text} (hname : name ⊆ tagLetters) (hne : name ≠ [])
    (rest : Text) :
    tokenKinds (name ++ ofChar '<' :: rest) =
      .name name :: .sign (ofChar '<') :: tokenKinds rest := by
  rw [tokenKinds_tag hname hne (by rintro c ⟨⟩; decide), tokenKinds_sign (by decide) (by decide)]

/-- The tokens of a type as it is written. -/
theorem tokenKinds_text (type : ColumnType) : tokenKinds type.text = kinds type := by
  have hclosing : ∀ c ∈ [ofChar '>'].head?, isNamePart c = false := by
    rintro c ⟨⟩
    decide
  have hlast : tokenKinds [ofChar '>'] = [.sign (ofChar '>')] := by
    rw [tokenKinds_sign (by decide) (by decide), tokenKinds_nil]
  cases type with
  | leaf type =>
    have hkinds : tokenKinds (type.text ++ []) = _ := tokenKinds_leaf type (by simp)
    rwa [List.append_nil, tokenKinds_nil] at hkinds
  | row first others =>
    have htext : (ColumnType.row first others).text = ColumnType.rowName ++
        ofChar '<' :: (first.text ++ (fieldsText others ++ [ofChar '>'])) := by
      simp only [ColumnType.text, List.map_cons, Text.join_cons, List.append_assoc]
      rfl
    rw [htext, tokenKinds_composite (by decide) (by decide),
      tokenKinds_leaf first (isNamePart_head_fieldsText hclosing others),
      tokenKinds_fieldsText hclosing, hlast]
    simp [kinds]
  | array element =>
    have htext : (ColumnType.array element).text =
        ColumnType.arrayName ++ ofChar '<' :: (element.text ++ [ofChar '>']) := by
      simp only [ColumnType.text, List.append_assoc]
      rfl
    rw [htext, tokenKinds_composite (by decide) (by decide), tokenKinds_leaf element hclosing,
      hlast]
    rfl

/-- A written type is read as that type. -/
theorem parse_type_text (type : ColumnType) : parse type.text = .ok type :=
  parse_eq_ok.2 (tokenKinds_text type)

/-- A text that is read as a type has the marks of the type. -/
theorem marks_of_parse {t : Text} {type : ColumnType} (h : parse t = .ok type) :
    t.marks = type.text.marks := by
  rw [marks_eq, marks_eq, parse_eq_ok.1 h, tokenKinds_text]

end TypeText

end Delimited
