import Delimited.Field.Loose

/-!
# Unchecked settings that are a dialect

Splitting and quoting by unchecked settings is the same as by a dialect where the settings are one:
`split_ofMarks`, `fieldText_ofDialect` and `leafText_ofDialect` say so for all texts. What is shown
of dialects holds of the loose operations, too.
-/

namespace Delimited

/-- A mark, which may be missing, as a value. -/
def Value.ofCharacter : Option CodePoint → Value
  | none => null
  | some c => text [c]

/-- A mark is the character of its value. -/
@[simp]
theorem Value.character?_ofCharacter (c : Option CodePoint) :
    (Value.ofCharacter c).character? = c := by
  cases c <;> rfl

namespace LooseMarks

/-- Marks that are characters as loose ones. -/
def ofMarks (m : Marks) : LooseMarks :=
  ⟨m.delimiter.toList, Value.ofCharacter m.quote, Value.ofCharacter m.escape⟩

/-- All of these marks are characters. -/
@[simp]
theorem characters_ofMarks (m : Marks) : (ofMarks m).characters = m := by
  obtain ⟨d, q, e⟩ := m
  simp only [ofMarks, characters, Value.character?_ofCharacter]
  cases d <;> rfl

/-- Unquoted fields are decoded alike, as the escape is a text or null. -/
theorem decodeBare_ofMarks (m : Marks) (raw : Text) :
    (ofMarks m).decodeBare raw = .ok (m.decodeBare raw) := by
  unfold LooseMarks.decodeBare
  rw [characters_ofMarks]
  obtain ⟨d, q, e⟩ := m
  cases e <;> rfl

/-- Raw fields are decoded alike. -/
theorem decode_ofMarks (m : Marks) (raw : Text) :
    (ofMarks m).decode raw = (m.decode raw).mapError .split := by
  have hbare := decodeBare_ofMarks m raw
  unfold LooseMarks.decode
  cases hq : m.quote with
  | none =>
    have hopened : (ofMarks m).isOpened raw = .ok false := by
      simp [ofMarks, isOpened, hq, Value.ofCharacter]
    rw [hopened]
    show (ofMarks m).decodeBare raw = _
    have hdecode : m.decode raw = .ok (m.decodeBare raw) := by
      cases raw <;> simp [Marks.decode, hq, Marks.decodeBare]
    rw [hbare, hdecode]
    rfl
  | some q =>
    have hopened : (ofMarks m).isOpened raw = .ok ([q].isPrefixOf raw) := by
      simp [ofMarks, isOpened, hq, Value.ofCharacter]
    rw [hopened]
    show (if [q].isPrefixOf raw = true then (ofMarks m).decodeOpened raw
      else (ofMarks m).decodeBare raw) = _
    rw [hbare]
    cases raw with
    | nil => rfl
    | cons c rest =>
      by_cases hc : q = c
      · subst hc
        have hquote : (ofMarks m).quote = .text [q] := by simp [ofMarks, hq, Value.ofCharacter]
        simp only [Marks.decode, hq, LooseMarks.decodeOpened, hquote, Marks.beforeLast?,
          characters_ofMarks, List.isPrefixOf_cons_cons, beq_self_eq_true, List.isPrefixOf_nil_left,
          Bool.and_true, if_true]
        cases Marks.beforeLast? [q] rest <;> rfl
      · have hdecode : m.decode (c :: rest) = .ok (m.decodeBare (c :: rest)) := by
          simp [Marks.decode, hq, hc]
        have hopen : ¬ [q].isPrefixOf (c :: rest) = true := by simp [hc]
        rw [hdecode, if_neg hopen]
        rfl

/-- Lines are split alike. -/
theorem split_ofMarks (m : Marks) (record : Bool) (line : Text) :
    (ofMarks m).split record line = (m.split record line).mapError .split := by
  unfold LooseMarks.split Marks.split LooseMarks.rawFields
  rw [characters_ofMarks]
  cases m.rawFields record line with
  | error f => rfl
  | ok fields =>
    show fields.mapM (ofMarks m).decode = (fields.mapM m.decode).mapError .split
    induction fields with
    | nil => rfl
    | cons f rest ih =>
      rw [List.mapM_cons, List.mapM_cons, ih, decode_ofMarks]
      cases m.decode f with
      | error f => rfl
      | ok t => cases List.mapM m.decode rest <;> rfl

end LooseMarks

namespace Settings

/-- A dialect as settings. -/
def ofDialect (d : Dialect) : Settings where
  fieldDelimiter := .text [d.fieldDelimiter]
  elementDelimiter := .text [d.elementDelimiter]
  lineDelimiter := .text d.lineDelimiter
  quote := Value.ofCharacter d.quote
  escape := Value.ofCharacter d.escape
  nullLiteral := d.nullLiteral.elim .null .text
  allowComments := .bool d.allowComments
  ignoreMalformed := .bool d.ignoreMalformed

/-- The characters of a text, as values, have its code points. -/
theorem mapM_codePoint (t : Text) :
    (t.map fun c => Value.text [c]).mapM codePoint = .ok (t.map Fin.val) := by
  induction t with
  | nil => rfl
  | cons c rest ih =>
    rw [List.map_cons, List.mapM_cons, ih]
    rfl

/-- There is a quote in the settings if there is one in the dialect. -/
theorem isQuoting_ofDialect (d : Dialect) : (ofDialect d).isQuoting = d.isQuoting := by
  unfold isQuoting Dialect.isQuoting ofDialect
  cases d.quote <;> rfl

/-- The highest mark of the settings is that of the dialect. -/
theorem highestMark_ofDialect {d : Dialect} {q : CodePoint} (h : d.quote = some q) :
    (ofDialect d).highestMark = .ok d.highestMark := by
  have hpoints : (Value.text [d.fieldDelimiter] ::
      ((d.lineDelimiter.map fun c => Value.text [c]) ++ [Value.text [q]])).mapM codePoint
      = .ok (((d.fieldDelimiter :: d.lineDelimiter) ++ [q]).map Fin.val) := by
    rw [← mapM_codePoint]
    simp
  simp only [highestMark, ofDialect, Value.members?, h, Value.ofCharacter, hpoints, bind,
    Except.bind, pure, Except.pure, Dialect.highestMark]
  simp

/-- The structural characters of the settings are those of the dialect. -/
theorem specials_ofDialect {d : Dialect} {q : CodePoint} (h : d.quote = some q)
    (delimiter : CodePoint) :
    ∃ marks, (ofDialect d).specials (.text [delimiter]) = .ok marks ∧
      List.contains marks = d.isSpecial delimiter := by
  refine ⟨[delimiter, q] ++ Text.ofString "\r\n" ++ d.escape.toList, ?_, funext fun c => ?_⟩
  · cases he : d.escape <;>
      simp [specials, ofDialect, h, he, Value.ofCharacter, Value.sum, Value.counted,
        Value.isEmptyOrZero, Value.characters, bind, Except.bind, pure, Except.pure] <;>
      rfl
  · have hbreaks : Text.ofString "\r\n" = [.ofChar '\r', .ofChar '\n'] := by decide
    rw [hbreaks, Bool.eq_iff_iff]
    cases he : d.escape <;> simp [Dialect.isSpecial, h, he, CodePoint.isLineBreak] <;> grind

/-- The settings write the quotes of the dialect. -/
theorem enclose_ofDialect {d : Dialect} {q : CodePoint} (h : d.quote = some q) (t : Text) :
    (ofDialect d).enclose t = .ok (d.enclose t) := by
  cases he : d.escape <;>
    simp [enclose, looseMarks, LooseMarks.enclose, LooseMarks.characters, ofDialect, h, he,
      Value.ofCharacter, Value.character?, Dialect.enclose, Quoting.enclose]

/-- The settings quote the columns that the dialect quotes. -/
theorem mustQuoteField_ofDialect (d : Dialect) (type : ColumnType) (first : Bool) (t : Text) :
    (ofDialect d).mustQuoteField type first t = .ok (d.mustQuoteField type first t) := by
  cases hq : d.quote with
  | none =>
    simp [mustQuoteField, isQuoting_ofDialect, hq, Dialect.mustQuoteField, Dialect.isQuoting,
      pure, Except.pure]
  | some q =>
    have hcomments : (ofDialect d).allowComments.isEmptyOrZero = !d.allowComments := rfl
    have hquote : (ofDialect d).quote.character? = d.quote := by simp [ofDialect]
    have hescape : (ofDialect d).escape.character? = d.escape := by simp [ofDialect]
    obtain ⟨marks, hmarks, hspecial⟩ := specials_ofDialect hq d.fieldDelimiter
    have hmarks' : (ofDialect d).specials (ofDialect d).fieldDelimiter = .ok marks := hmarks
    simp only [mustQuoteField, isQuoting_ofDialect, hcomments, hmarks', highestMark_ofDialect hq,
      hquote, hescape, Dialect.mustQuoteField, Dialect.isQuoting, hq, hspecial, Bool.not_not, bind,
      Except.bind]
    cases first && d.allowComments && t.isComment <;> cases type.isOfAnySize
      <;> cases type.isFreeText <;> simp [pure, Except.pure]

/-- The settings write a column as the dialect does. -/
theorem fieldText_ofDialect (d : Dialect) (type : ColumnType) (first : Bool) (t : Text) :
    (ofDialect d).fieldText type first t = .ok (d.fieldText type first t) := by
  simp only [fieldText, mustQuoteField_ofDialect, Dialect.fieldText, bind, Except.bind]
  cases hmust : d.mustQuoteField type first t with
  | false => rfl
  | true =>
    cases hq : d.quote with
    | none => simp [Dialect.mustQuoteField, Dialect.isQuoting, hq] at hmust
    | some q => exact enclose_ofDialect hq t

/-- The settings write a leaf as the dialect does. -/
theorem leafText_ofDialect (d : Dialect) (type : LeafType) (t : Text) :
    (ofDialect d).leafText (.leaf type) t = .ok (d.leafText type t) := by
  cases hq : d.quote with
  | none =>
    simp [leafText, isQuoting_ofDialect, Dialect.leafText, Dialect.mustQuoteLeaf,
      Dialect.isQuoting, hq, pure, Except.pure]
  | some q =>
    obtain ⟨marks, hmarks, hspecial⟩ := specials_ofDialect hq d.elementDelimiter
    have hmarks' : (ofDialect d).specials (ofDialect d).elementDelimiter = .ok marks := hmarks
    have hleaf : (ColumnType.leaf type == .leaf .string) = (type == .string) := by
      cases type <;> decide
    simp only [leafText, isQuoting_ofDialect, Dialect.leafText, Dialect.mustQuoteLeaf,
      Dialect.isQuoting, hq, hmarks', enclose_ofDialect hq, hspecial, hleaf, bind, Except.bind]
    cases (type == .string && t.isEmpty) || t.any (d.isSpecial d.elementDelimiter) <;> rfl

end Settings

end Delimited
