import Delimited.Proofs.Number.Digits
import Delimited.Proofs.Schema.Basic
import Delimited.Proofs.Schema.Cut
import Delimited.Proofs.Schema.TypeText

/-!
# The normal form of written schemas

A schema is written with its names, in upper case and with one blank behind each comma. `parse_text`
says that this is a normal form: whatever a text looks like that is read as a schema, the schema is
read from its own text again.

Names may hold brackets and commas, so the parts between the commas of a schema's text are not
always its columns. They are where the marks of the columns say so (`IsCut`), and a column has the
same marks however it is written (`ReadsColumn.isReadable`). Names without any marks do not need
another text to be found again (`isCut_of_isPlainName`).
-/

namespace Delimited

open CodePoint (ofChar)

namespace Text

/-- Leading blanks have no marks. -/
theorem marks_dropWhile (t : Text) : marks (t.dropWhile CodePoint.isBlank) = t.marks := by
  have hblank : ∀ c ∈ t.takeWhile CodePoint.isBlank, c.isMark = false := by
    intro c hc
    refine Bool.eq_false_iff.2 fun hmark => ?_
    exact absurd (List.mem_takeWhile_imp hc) (by simp [CodePoint.isBlank_of_isMark hmark])
  calc marks (t.dropWhile CodePoint.isBlank)
      = marks (t.takeWhile CodePoint.isBlank ++ t.dropWhile CodePoint.isBlank) := by
        rw [marks_append, marks_eq_nil hblank, List.nil_append]
    _ = t.marks := by rw [List.takeWhile_append_dropWhile]

/-- Trimming keeps the marks. -/
theorem marks_trim (t : Text) : t.trim.marks = t.marks := by
  have hreverse : ∀ s : Text, marks s.reverse = s.marks.reverse := fun _ => List.filter_reverse
  rw [trim, trimRight, hreverse, marks_dropWhile, hreverse, List.reverse_reverse, trimLeft,
    marks_dropWhile]

end Text

namespace Schema

/-! ## Columns -/

/-- A name that is found in front of a type: no colon is in it and no blank around it. -/
structure IsReadable (name : Text) : Prop where
  /-- The type starts after the first colon. -/
  colon_notMem : ofChar ':' ∉ name
  /-- Names are trimmed. -/
  trim_eq : name.trim = name

/-- A column with a colon is cut at the first one. -/
theorem splitColumn_append {name : Text} (h : ofChar ':' ∉ name) (type : Text) :
    splitColumn (name ++ ofChar ':' :: type) = (some name.trim, type) := by
  have hname : ∀ c ∈ name, (c != ofChar ':') = true := by
    intro c hc
    exact bne_iff_ne.2 fun heq => h (heq ▸ hc)
  rw [splitColumn, List.dropWhile_append_of_pos hname, List.takeWhile_append_of_pos hname]
  simp

/-- A column has a colon or is a type without a name. -/
theorem splitColumn_cases (item : Text) :
    splitColumn item = (none, item) ∨
      ∃ name type, ofChar ':' ∉ name ∧ item = name ++ ofChar ':' :: type := by
  cases hdrop : item.dropWhile (· != ofChar ':') with
  | nil =>
    refine .inl ?_
    rw [splitColumn, hdrop]
  | cons c type =>
    refine .inr ⟨item.takeWhile (· != ofChar ':'), type, fun hmem => ?_, ?_⟩
    · exact absurd (List.mem_takeWhile_imp hmem) (by simp)
    · have hc := List.head?_dropWhile_not (· != ofChar ':') item
      rw [hdrop] at hc
      obtain rfl : c = ofChar ':' := by simpa using hc
      rw [← hdrop, List.takeWhile_append_dropWhile]

/-- A column is read if it is not empty and its type is read. -/
theorem parseColumn_eq_ok {whole part : Text} {name : Option Text} {type : ColumnType} :
    parseColumn whole part = .ok (name, type) ↔ part.trim ≠ [] ∧
      (splitColumn part.trim).1 = name ∧ TypeText.parse (splitColumn part.trim).2 = .ok type := by
  unfold parseColumn
  by_cases hempty : part.trim = []
  · rw [if_pos (List.isEmpty_iff.2 hempty)]
    exact ⟨fun h => (nomatch h), fun h => absurd hempty h.1⟩
  · rw [if_neg fun h => hempty (List.isEmpty_iff.1 h)]
    constructor
    · intro h
      obtain ⟨_, htype, h⟩ := Except.bind_eq_ok.1 h
      cases Except.pure_eq_ok.1 h
      exact ⟨hempty, rfl, htype⟩
    · rintro ⟨-, rfl, htype⟩
      exact Except.bind_eq_ok.2 ⟨type, htype, rfl⟩

/-- A part of a written schema is read as a column, with its name. -/
def ReadsColumn (whole part : Text) (c : Column) : Prop :=
  parseColumn whole part = .ok (some c.name, c.type)

/-- The name of a column that is read is readable, and the part has the marks that the column is
written with. -/
theorem ReadsColumn.isReadable {whole part : Text} {c : Column} (h : ReadsColumn whole part c) :
    IsReadable c.name ∧ part.marks = (columnText c).marks := by
  obtain ⟨-, hname, htype⟩ := parseColumn_eq_ok.1 h
  rcases splitColumn_cases part.trim with hsplit | ⟨name, type, hcolon, hitem⟩
  · rw [hsplit] at hname
    cases hname
  · rw [hitem, splitColumn_append hcolon] at hname htype
    have hname : name.trim = c.name := Option.some.inj hname
    refine ⟨⟨fun hmem => ?_, ?_⟩, ?_⟩
    · exact hcolon (Text.trim_subset name (hname ▸ hmem))
    · rw [← hname, Text.trim_trim]
    · have hmark : (ofChar ':').isMark = false := by decide
      rw [← Text.marks_trim, hitem, columnText, Text.marks_append, Text.marks_append,
        Text.marks_cons hmark, Text.marks_cons hmark, TypeText.marks_of_parse htype, ← hname,
        Text.marks_trim]

/-- A written type does not end with a blank. -/
theorem isBlank_getLast_text (type : ColumnType) :
    ∀ c, type.text.getLast? = some c → c.isBlank = false := by
  intro c hc
  cases type with
  | leaf type =>
    have hletter := TypeText.text_subset_tagLetters type (List.mem_of_getLast? hc)
    exact CodePoint.isBlank_of_isVisible (TypeText.isNamePart_of_mem_tagLetters hletter).1
  | row first others =>
    rw [ColumnType.text, List.getLast?_append] at hc
    cases hc
    decide
  | array element =>
    rw [ColumnType.text, List.getLast?_append] at hc
    cases hc
    decide

/-- A written column with a readable name is trimmed. -/
theorem trim_columnText {c : Column} (hname : IsReadable c.name) (hne : c.name ≠ []) :
    (columnText c).trim = columnText c := by
  have hhead : ∀ x, c.name.head? = some x → x.isBlank = false := by
    rw [← hname.trim_eq]
    exact Text.isBlank_head_trim
  refine Text.trim_eq_self (fun x hx => ?_) fun x hx => ?_
  · rw [columnText, List.head?_append_of_ne_nil _ hne] at hx
    exact hhead x hx
  · rw [columnText, List.getLast?_append, List.getLast?_cons] at hx
    cases hlast : c.type.text.getLast? with
    | none =>
      rw [hlast] at hx
      cases hx
      decide
    | some y =>
      rw [hlast] at hx
      cases hx
      exact isBlank_getLast_text c.type _ hlast

/-- A written column is read. -/
theorem readsColumn_columnText {c : Column} (hname : IsReadable c.name) (hne : c.name ≠ [])
    {part : Text} (hpart : part.trim = columnText c) (whole : Text) :
    ReadsColumn whole part c := by
  rw [ReadsColumn, parseColumn_eq_ok, hpart, columnText, splitColumn_append hname.colon_notMem,
    hname.trim_eq]
  exact ⟨List.append_ne_nil_of_left_ne_nil hne _, rfl, TypeText.parse_type_text c.type⟩

/-! ## Schemas -/

/-- Pairs that all have a first part have those parts. -/
theorem map_fst_eq_map_some {α β : Type} {pairs : List (Option α × β)}
    (h : (pairs.filterMap Prod.fst).length = pairs.length) :
    pairs.map Prod.fst = (pairs.filterMap Prod.fst).map some := by
  have hsome := List.filterMap_length_eq_length.1 h
  rw [List.map_filterMap, ← List.filterMap_eq_map]
  refine List.filterMap_congr fun pair hpair => ?_
  obtain ⟨a, ha⟩ := Option.isSome_iff_exists.1 (hsome pair hpair)
  simp [ha]

/-- Pairs of names and types that a schema has are those of its columns. -/
theorem eq_map_columns {s : Schema} {pairs : List (Option Text × ColumnType)}
    (hnames : pairs.map Prod.fst = s.names.map some) (htypes : pairs.map Prod.snd = s.types) :
    pairs = s.columns.map fun c => (some c.name, c.type) := by
  rw [List.zip_of_prod hnames htypes, names, types, List.map_map, List.zip_map']
  rfl

/-- Different names are different values. -/
theorem eq_of_map_text {names names' : List Text}
    (h : names.map Value.text = names'.map Value.text) : names = names' :=
  (List.map_inj_right fun _ _ => Value.text.inj).1 h

/-- Some, but not all columns have names. -/
theorem isMixed_iff {names : List Text} {count : Nat} :
    (!names.isEmpty && names.length != count) = true ↔
      ¬ (names = [] ∨ names.length = count) := by
  rw [Bool.and_eq_true, bne_iff_ne, Bool.not_eq_true', List.isEmpty_eq_false_iff, not_or]

/-- Columns that are read make a schema if no name is among them or as many as columns. -/
theorem parse_of_columns {t : Text} {columns : List (Option Text × ColumnType)}
    (hcolumns : (columnTexts t).mapM (parseColumn t) = .ok columns)
    (hnames : columns.filterMap Prod.fst = [] ∨
      (columns.filterMap Prod.fst).length = columns.length) :
    parse t =
      ofTypes (columns.map Prod.snd) ((columns.filterMap Prod.fst).map Value.text) := by
  rw [parse, hcolumns]
  exact if_neg fun hmixed => isMixed_iff.1 hmixed hnames

/-- Either no column of a schema that is read has a name or each has. -/
theorem columns_of_parse {t : Text} {s : Schema} (h : parse t = .ok s) :
    ∃ columns, (columnTexts t).mapM (parseColumn t) = .ok columns ∧
      (columns.filterMap Prod.fst = [] ∨
        (columns.filterMap Prod.fst).length = columns.length) := by
  obtain ⟨columns, hcolumns, h⟩ := Except.bind_eq_ok.1 h
  refine ⟨columns, hcolumns, ?_⟩
  by_contra hmixed
  dsimp only at h
  rw [if_pos (isMixed_iff.2 hmixed)] at h
  cases h

/-- A schema that is read has the default names, or each of its columns is read with its name. -/
theorem parse_cases {t : Text} {s : Schema} (h : parse t = .ok s) :
    s.names = defaultNames s.types.length ∨
      List.Forall₂ (ReadsColumn t) (columnTexts t) s.columns := by
  obtain ⟨columns, hcolumns, hnames⟩ := columns_of_parse h
  rw [parse_of_columns hcolumns hnames] at h
  obtain ⟨htypes, hvalues⟩ := ofTypes_eq_ok.1 h
  by_cases hnone : columns.filterMap Prod.fst = []
  -- Without a name, the names are made from the number of the types.
  · rw [hnone, ← htypes] at hvalues
    exact .inl (eq_of_map_text hvalues)
  · have hall := map_fst_eq_map_some (hnames.resolve_left hnone)
    rw [namesFor_map_text hnone] at hvalues
    rw [← eq_of_map_text hvalues] at hall
    rw [eq_map_columns hall htypes.symm] at hcolumns
    have hparts := Except.mapM_eq_ok.1 hcolumns
    exact .inr ((List.forall₂_map_right_iff (R := fun part c => parseColumn t part = .ok c)).1
      hparts)

/-- Columns that are read with their names make their schema. -/
theorem parse_of_named {t : Text} {s : Schema}
    (h : List.Forall₂ (ReadsColumn t) (columnTexts t) s.columns) : parse t = .ok s := by
  have hcolumns : (columnTexts t).mapM (parseColumn t) =
      .ok (s.columns.map fun c => (some c.name, c.type)) :=
    Except.mapM_eq_ok.2 (List.forall₂_map_right_iff.2 h)
  have hnames : (s.columns.map fun c => (some c.name, c.type)).filterMap Prod.fst = s.names := by
    rw [List.filterMap_map]
    exact congrFun List.filterMap_eq_map s.columns
  have htypes : (s.columns.map fun c => (some c.name, c.type)).map Prod.snd = s.types := by
    rw [List.map_map]
    rfl
  have hlen : s.names.length = (s.columns.map fun c => (some c.name, c.type)).length := by
    rw [names, List.length_map, List.length_map]
  rw [parse_of_columns hcolumns (.inr (by rw [hnames, hlen])), hnames, htypes]
  have hne : s.names ≠ [] := by
    unfold names
    exact fun h => s.columns_ne_nil (List.map_eq_nil_iff.1 h)
  exact ofTypes_eq_ok.2 ⟨rfl, (namesFor_map_text hne _).symm⟩

/-! ## The normal form -/

/-- The columns of a schema are found again in its text, all but the first behind a blank. -/
theorem columnTexts_text {s : Schema} {first : Column} {others : List Column}
    (hcolumns : s.columns = first :: others) (hcut : IsCut 0 (s.columns.map columnText)) :
    columnTexts s.text = columnText first :: others.map fun c => ofChar ' ' :: columnText c := by
  have hmark : (ofChar ' ').isMark = false := by decide
  have htext : s.text = Text.join [ofChar ',']
      (columnText first :: others.map fun c => ofChar ' ' :: columnText c) := by
    rw [text, hcolumns, List.map_cons, Text.join_cons, Text.join_cons, List.flatMap_map,
      List.flatMap_map]
    rfl
  -- The blank behind a comma is no mark, so the parts that start with it are cut as well.
  have hparts : IsCut 0 (columnText first :: others.map fun c => ofChar ' ' :: columnText c) := by
    refine hcut.of_marks ?_
    rw [hcolumns, List.map_cons, List.map_cons, List.map_cons, List.map_map, List.map_map]
    refine congrArg _ (List.map_congr_left fun c _ => ?_)
    exact (Text.marks_cons hmark _).symm
  rw [columnTexts, htext, hparts.cutAtDepth_join]

/-- A schema with readable names is read from its text if its columns are cut there. -/
theorem parse_text_of_isCut {s : Schema} (hnames : ∀ c ∈ s.columns, IsReadable c.name)
    (hcut : IsCut 0 (s.columns.map columnText)) : parse s.text = .ok s := by
  obtain ⟨first, others, hcolumns⟩ := List.exists_cons_of_ne_nil s.columns_ne_nil
  have htrim : ∀ c ∈ s.columns, (columnText c).trim = columnText c := fun c hc =>
    trim_columnText (hnames c hc) (s.name_ne_nil c hc)
  have hread : ∀ c ∈ s.columns, ∀ part, part.trim = columnText c →
      ReadsColumn s.text part c := fun c hc _ hpart =>
    readsColumn_columnText (hnames c hc) (s.name_ne_nil c hc) hpart s.text
  refine parse_of_named ?_
  rw [columnTexts_text hcolumns hcut]
  rw [hcolumns] at htrim hread ⊢
  refine .cons (hread first List.mem_cons_self _ (htrim first List.mem_cons_self)) ?_
  refine List.forall₂_map_left_iff.2 (List.forall₂_same.2 fun c hc => ?_)
  have hc : c ∈ first :: others := List.mem_cons_of_mem first hc
  refine hread c hc _ ?_
  rw [Text.trim_cons (by decide), htrim c hc]

/-- A name that says nothing else in a written schema. -/
structure IsPlainName (name : Text) : Prop where
  /-- Neither a colon nor a mark is in it. -/
  ne_sign : ∀ c ∈ name, c ≠ ofChar ',' ∧ c ≠ ofChar ':' ∧ c ≠ ofChar '<' ∧ c ≠ ofChar '>'
  /-- No blank is around it. -/
  trim_eq : name.trim = name

instance (name : Text) : Decidable (IsPlainName name) :=
  decidable_of_iff ((name.all fun c => decide (c ≠ ofChar ',' ∧ c ≠ ofChar ':' ∧ c ≠ ofChar '<' ∧
      c ≠ ofChar '>')) ∧ name.trim = name)
    ⟨fun h => ⟨by simpa using h.1, h.2⟩, fun h => ⟨by simpa using h.ne_sign, h.trim_eq⟩⟩

namespace IsPlainName

variable {name : Text}

/-- A plain name is readable. -/
theorem isReadable (h : IsPlainName name) : IsReadable name :=
  ⟨fun hcolon => (h.ne_sign _ hcolon).2.1 rfl, h.trim_eq⟩

/-- A plain name has no marks. -/
theorem marks_eq_nil (h : IsPlainName name) : name.marks = [] := by
  refine Text.marks_eq_nil fun c hc => Bool.eq_false_iff.2 fun hmark => ?_
  obtain ⟨hcomma, -, hlt, hgt⟩ := h.ne_sign c hc
  rcases CodePoint.isMark_iff.1 hmark with rfl | rfl | rfl
  · exact hlt rfl
  · exact hgt rfl
  · exact hcomma rfl

end IsPlainName

/-- The default names are plain. -/
theorem isPlainName_of_mem_defaultNames {count : Nat} :
    ∀ name ∈ defaultNames count, IsPlainName name := by
  intro name hname
  obtain ⟨i, -, rfl⟩ := List.mem_map.1 hname
  have hdigits := Digits.isDigit_of_mem_ofNat (n := i)
  constructor
  · refine List.forall_mem_cons.2 ⟨by decide, fun c hc => ?_⟩
    have hdigit := hdigits c hc
    refine ⟨?_, ?_, ?_, ?_⟩ <;>
      · rintro rfl
        exact absurd hdigit (by decide)
  · exact (Text.IsWord.cons (by decide) (Text.isWord_of_isDigit hdigits)).trim_eq_self

/-- The brackets of a written type are closed, and its commas stand within them. -/
theorem depthAfter?_text (type : ColumnType) : depthAfter? 0 type.text = some 0 := by
  have hfields : ∀ others, depthAfter? 1 ((TypeText.fieldKinds others).flatMap
      TypeText.TokenKind.marks) = some 1 := by
    intro others
    induction others with
    | nil => rfl
    | cons type others ih => exact ih
  rw [← depthAfter?_marks, TypeText.marks_eq, TypeText.tokenKinds_text]
  cases type with
  | leaf type => rfl
  | row first others =>
    have hopening : ([.name ColumnType.rowName, .sign (ofChar '<'), .name first.text] :
        List TypeText.TokenKind).flatMap TypeText.TokenKind.marks = [ofChar '<'] := rfl
    rw [TypeText.kinds, List.flatMap_append, List.flatMap_append, hopening, depthAfter?,
      List.foldlM_append, List.foldlM_append]
    show (depthAfter? 1 _ >>= _) = _
    rw [hfields]
    rfl
  | array element => rfl

/-- Columns with plain names are cut where they are joined. -/
theorem isCut_of_isPlainName {columns : List Column} (hne : columns ≠ [])
    (hnames : ∀ c ∈ columns, IsPlainName c.name) : IsCut 0 (columns.map columnText) := by
  have hdepth : ∀ c ∈ columns, depthAfter? 0 (columnText c) = some 0 := by
    intro c hc
    rw [← depthAfter?_marks, columnText, Text.marks_append, Text.marks_cons (by decide),
      (hnames c hc).marks_eq_nil, List.nil_append, depthAfter?_marks, depthAfter?_text]
  exact .of_depthAfter? (by simpa using hne) (List.forall_mem_map.2 hdepth)

/-- A schema with plain names is read from its text. -/
theorem parse_text_of_isPlainName {s : Schema} (h : ∀ c ∈ s.columns, IsPlainName c.name) :
    parse s.text = .ok s :=
  parse_text_of_isCut (fun c hc => (h c hc).isReadable) (isCut_of_isPlainName s.columns_ne_nil h)

/-- A schema that is read with its names is read from its own text. -/
theorem parse_text_of_named {t : Text} {s : Schema}
    (h : List.Forall₂ (ReadsColumn t) (columnTexts t) s.columns) : parse s.text = .ok s := by
  have hcolumns : List.Forall₂ (fun c part => IsReadable c.name ∧
      (columnText c).marks = Text.marks part) s.columns (columnTexts t) :=
    h.flip.imp fun _ _ hcolumn => (ReadsColumn.isReadable hcolumn).imp_right Eq.symm
  obtain ⟨hnames, hmarks⟩ := (List.forall₂_and_left _ _).1 hcolumns
  have hmarks : (s.columns.map columnText).map Text.marks = (columnTexts t).map Text.marks := by
    rw [List.map_map, ← List.forall₂_eq_eq_eq, List.forall₂_map_left_iff,
      List.forall₂_map_right_iff]
    exact hmarks
  exact parse_text_of_isCut hnames ((IsCut.cutAtDepth 0 t).of_marks hmarks.symm)

/-- Schemas have a normal form as text. The text of a schema that is read from any text is read as
that schema again, and so is the text of every schema whose names are plain. -/
theorem parse_text :
    (∀ (t : Text) (s : Schema), parse t = .ok s → parse s.text = .ok s) ∧
      ∀ s : Schema, (∀ name ∈ s.names, IsPlainName name) → parse s.text = .ok s := by
  have hplain : ∀ s : Schema, (∀ name ∈ s.names, IsPlainName name) → parse s.text = .ok s :=
    fun s h => parse_text_of_isPlainName (List.forall_mem_map.1 h)
  refine ⟨fun t s h => ?_, hplain⟩
  rcases parse_cases h with hnames | hcolumns
  -- Default names do not stand in the text, but they are plain.
  · refine hplain s ?_
    rw [hnames]
    exact isPlainName_of_mem_defaultNames
  · exact parse_text_of_named hcolumns

/-- A schema with brackets and commas in its names. -/
def bracketed : Schema where
  columns := [⟨"x<,y>", .row .int [.long]⟩, ⟨"b>", .leaf .string⟩]
  columns_ne_nil := by decide
  name_ne_nil := by decide
  names_nodup := by decide

/-- A schema with plain names. -/
def plain : Schema where
  columns := [⟨"id", .leaf .long⟩, ⟨"all tags", .array .string⟩]
  columns_ne_nil := by decide
  name_ne_nil := by decide
  names_nodup := by decide

/-- The schema with brackets in its names is read from a text with other blanks and letters. -/
theorem parse_bracketed : parse "x<,y> :row< int,Long > , b>: String" = .ok bracketed := by
  refine parse_of_named ?_
  have hparts : columnTexts "x<,y> :row< int,Long > , b>: String" =
      ["x<,y> :row< int,Long > ", " b>: String"] := by decide
  rw [hparts]
  refine .cons (parseColumn_eq_ok.2 ⟨by decide, by decide, ?_⟩)
    (.cons (parseColumn_eq_ok.2 ⟨by decide, by decide, ?_⟩) .nil)
  · exact TypeText.parse_eq_ok.2 (by decide +kernel)
  · exact TypeText.parse_eq_ok.2 (by decide +kernel)

/-- Both schemas are read from their own texts. -/
theorem parse_text_bracketed :
    parse "x<,y> :row< int,Long > , b>: String" = .ok bracketed ∧
      parse bracketed.text = .ok bracketed ∧
        (∀ name ∈ plain.names, IsPlainName name) ∧ parse plain.text = .ok plain := by
  have hplain : ∀ name ∈ plain.names, IsPlainName name := by decide
  exact ⟨parse_bracketed, parse_text.1 _ _ parse_bracketed, hplain, parse_text.2 _ hplain⟩

end Schema

end Delimited
