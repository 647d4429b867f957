import Delimited.Field.Decode
import Delimited.Proofs.Result
import Mathlib.Tactic.Tauto

/-!
# The grammar of lines

Splitting a line is two passes with look-ahead of their own: one finds where the fields end, the
other what they stand for. The grammar says both in one place. A line is taken apart into fields,
and a field into *units* of one or two characters, each with its meaning; `IsForm` says which forms
a line has, and `split_eq_ok_iff` that splitting succeeds exactly on the lines that have one, that
there is at most one, and that its meaning is the result.

Each reading function comes with two lemmas: what it reads has a form
(`exists_units_of_quotedSpan?`, `exists_units_of_bareSpan`, `exists_form_of_field`,
`exists_forms_of_fields`), and what has a form is read (`quotedSpan?_units`, `bareSpan_units`,
`field_form`, `fields_forms`). That a form is determined by its text rests on two functions that cut
a text into units again.
-/

namespace Delimited

/-- A unit of a field. -/
inductive FieldUnit where
  /-- A character that stands for itself. -/
  | single (c : CodePoint)
  /-- Two characters that belong together. -/
  | pair (c d : CodePoint)

namespace FieldUnit

/-- The characters of a unit. -/
def text : FieldUnit → Text
  | single c => [c]
  | pair c d => [c, d]

/-- What a unit stands for between quotes: of two characters the second one. -/
def quotedMeaning : FieldUnit → CodePoint
  | single c => c
  | pair _ d => d

/-- What a unit stands for outside of quotes: of two characters the second one, if it is special. -/
def bareMeaning (m : Marks) : FieldUnit → Text
  | single c => [c]
  | pair c d =>
    if m.delimiter = some d ∨ m.quote = some d ∨ m.escape = some d then [d] else [c, d]

/-- The characters of several units. -/
def textOf (units : List FieldUnit) : Text := units.flatMap text

@[simp]
theorem textOf_nil : textOf [] = [] := rfl

@[simp]
theorem textOf_single (c : CodePoint) (units : List FieldUnit) :
    textOf (single c :: units) = c :: textOf units := rfl

@[simp]
theorem textOf_pair (c d : CodePoint) (units : List FieldUnit) :
    textOf (pair c d :: units) = c :: d :: textOf units := rfl

end FieldUnit

open FieldUnit (textOf)

/-- A field taken apart. -/
inductive FieldForm where
  /-- Units between quotes, and blanks behind the closing one. -/
  | quoted (units : List FieldUnit) (blanks : Text)
  /-- Units outside of quotes. -/
  | bare (units : List FieldUnit)

namespace FieldForm

/-- The characters of a field. -/
def text (m : Marks) : FieldForm → Text
  | quoted units blanks => m.quote.toList ++ textOf units ++ m.quote.toList ++ blanks
  | bare units => textOf units

/-- What a field stands for. -/
def meaning (m : Marks) : FieldForm → Text
  | quoted units _ => units.map FieldUnit.quotedMeaning
  | bare units => units.flatMap (FieldUnit.bareMeaning m)

/-- The blanks behind a field's closing quote. -/
def blanks : FieldForm → Text
  | quoted _ blanks => blanks
  | bare _ => []

/-- The characters of several fields, with the delimiter between neighbours. -/
def textOf (m : Marks) (fields : List FieldForm) : Text :=
  Text.join m.delimiter.toList (fields.map (text m))

end FieldForm

/-- A line taken apart. -/
structure LineForm where
  /-- The fields. -/
  fields : List FieldForm
  /-- The line breaks that end it. -/
  breaks : Text

namespace Marks

/-! ## The grammar -/

/-- Units that may stand between quotes: a doubled quote, an escaped quote, an escaped escape, or
any character but a quote and an escape in front of a quote or an escape. -/
inductive QuotedUnits (m : Marks) : List FieldUnit → Prop where
  /-- No units. -/
  | nil : QuotedUnits m []
  /-- A doubled quote first. -/
  | doubledQuote {q : CodePoint} {units : List FieldUnit} (hq : m.quote = some q)
    (h : QuotedUnits m units) : QuotedUnits m (.pair q q :: units)
  /-- An escaped quote first. -/
  | escapedQuote {e q : CodePoint} {units : List FieldUnit} (he : m.escape = some e)
    (hq : m.quote = some q) (h : QuotedUnits m units) : QuotedUnits m (.pair e q :: units)
  /-- An escaped escape first. -/
  | escapedEscape {e : CodePoint} {units : List FieldUnit} (he : m.escape = some e)
    (h : QuotedUnits m units) : QuotedUnits m (.pair e e :: units)
  /-- A character first; what follows is the next unit or the closing quote. -/
  | character {c : CodePoint} {units : List FieldUnit} (hq : m.quote ≠ some c)
    (he : m.escape = some c → ∀ next, (textOf units ++ m.quote.toList).head? = some next →
      m.quote ≠ some next ∧ m.escape ≠ some next)
    (h : QuotedUnits m units) : QuotedUnits m (.single c :: units)

/-- Units that may stand outside of quotes in front of the rest of the line: an escape with any
character behind it, or any character but a stop and an escape; an escape may stand alone at the
very end of the line. -/
inductive BareUnits (m : Marks) (record : Bool) (after : Text) : List FieldUnit → Prop where
  /-- No units. -/
  | nil : BareUnits m record after []
  /-- An escaped character first. -/
  | escaped {e c : CodePoint} {units : List FieldUnit} (he : m.escape = some e)
    (h : BareUnits m record after units) : BareUnits m record after (.pair e c :: units)
  /-- A character first. -/
  | character {c : CodePoint} {units : List FieldUnit} (he : m.escape ≠ some c)
    (hstop : m.isStop record c = false) (h : BareUnits m record after units) :
    BareUnits m record after (.single c :: units)
  /-- An escape at the end of the line. -/
  | lastEscape {e : CodePoint} (he : m.escape = some e) (hend : after = []) :
    BareUnits m record after [.single e]

/-- The fields that may stand in front of the rest of the line. -/
inductive IsField (m : Marks) (record : Bool) (after : Text) : FieldForm → Prop where
  /-- Units between quotes, the second of which no quote follows, and blanks that are no stops. -/
  | quoted {q : CodePoint} {units : List FieldUnit} {blanks : Text} (hq : m.quote = some q)
    (hunits : m.QuotedUnits units)
    (hclosed : ∀ c, (blanks ++ after).head? = some c → m.quote ≠ some c)
    (hblanks : ∀ c ∈ blanks, c.isBlank = true ∧ m.isStop record c = false) :
    IsField m record after (.quoted units blanks)
  /-- Units outside of quotes that do not start with a quote. -/
  | bare {units : List FieldUnit}
    (hhead : ∀ c, (textOf units).head? = some c → m.quote ≠ some c)
    (hunits : m.BareUnits record after units) : IsField m record after (.bare units)

/-- One or more fields in front of the line breaks that end the line. -/
inductive IsFields (m : Marks) (record : Bool) (breaks : Text) : List FieldForm → Prop where
  /-- The last field. -/
  | last {f : FieldForm} (h : m.IsField record breaks f) : IsFields m record breaks [f]
  /-- A field in front of a delimiter. -/
  | cons {f g : FieldForm} {fields : List FieldForm}
    (h : m.IsField record (m.delimiter.toList ++ FieldForm.textOf m (g :: fields) ++ breaks) f)
    (hs : IsFields m record breaks (g :: fields)) : IsFields m record breaks (f :: g :: fields)

/-- The forms of a line: fields with delimiters between them, and in a record any line breaks. -/
structure IsForm (m : Marks) (record : Bool) (line : Text) (r : LineForm) : Prop where
  /-- The fields are fields. -/
  isFields : m.IsFields record r.breaks r.fields
  /-- Only line breaks follow. -/
  isLineBreak : ∀ c ∈ r.breaks, c.isLineBreak = true
  /-- They follow in a record only. -/
  breaks_eq_nil : record = false → r.breaks = []
  /-- The characters are those of the line. -/
  text_eq : FieldForm.textOf m r.fields ++ r.breaks = line

/-- The marks are pairwise distinct, and none of them is a line break. -/
structure IsDistinct (m : Marks) : Prop where
  /-- The quote is not the delimiter. -/
  quote_ne_delimiter : ∀ c, m.delimiter = some c → m.quote ≠ some c
  /-- The escape is not the delimiter. -/
  escape_ne_delimiter : ∀ c, m.delimiter = some c → m.escape ≠ some c
  /-- The escape is not the quote. -/
  escape_ne_quote : ∀ c, m.quote = some c → m.escape ≠ some c
  /-- The delimiter is no line break. -/
  delimiter_break : ∀ c, m.delimiter = some c → c.isLineBreak = false
  /-- The quote is no line break. -/
  quote_break : ∀ c, m.quote = some c → c.isLineBreak = false
  /-- The escape is no line break. -/
  escape_break : ∀ c, m.escape = some c → c.isLineBreak = false

variable {m : Marks} {record : Bool}

/-! ## Stops -/

/-- Nothing follows, or a stop does. -/
def IsStopped (m : Marks) (record : Bool) (t : Text) : Prop :=
  ∀ c, t.head? = some c → m.isStop record c = true

/-- The delimiter is a stop. -/
theorem isStop_delimiter {c : CodePoint} (h : m.delimiter = some c) :
    m.isStop record c = true := by
  simp [isStop, h]

/-- A line break is a stop in a record. -/
theorem isStop_of_isLineBreak {c : CodePoint} (h : c.isLineBreak = true) :
    m.isStop true c = true := by
  simp [isStop, h]

/-- What starts with a stop is stopped. -/
theorem isStopped_cons {c : CodePoint} (h : m.isStop record c = true) (t : Text) :
    m.IsStopped record (c :: t) := by
  rintro x hx
  cases hx
  exact h

/-- Line breaks in a record start with a stop. -/
theorem isStopped_breaks {breaks : Text} (h : ∀ c ∈ breaks, c.isLineBreak = true)
    (hrecord : record = false → breaks = []) : m.IsStopped record breaks := by
  intro c hc
  have hmem : c ∈ breaks := List.mem_of_mem_head? hc
  cases record with
  | true => exact isStop_of_isLineBreak (h c hmem)
  | false => simp [hrecord rfl] at hmem

/-- A quote is no stop. -/
theorem IsDistinct.isStop_quote (h : m.IsDistinct) {c : CodePoint} (hc : m.quote = some c) :
    m.isStop record c = false := by
  have hd : m.delimiter ≠ some c := fun hd => h.quote_ne_delimiter c hd hc
  simp [isStop, hd, h.quote_break c hc]

/-- No quote starts what is stopped. -/
theorem IsDistinct.quote_ne_of_isStopped (h : m.IsDistinct) {t : Text}
    (ht : m.IsStopped record t) {c : CodePoint} (hc : t.head? = some c) : m.quote ≠ some c := by
  intro hq
  have hstop := ht c hc
  rw [h.isStop_quote hq] at hstop
  cases hstop

/-! ## Quoted units -/

/-- When two characters stand for one between quotes. -/
theorem isQuotedPair_iff {c d : CodePoint} : m.isQuotedPair c d = true ↔
    (m.escape = some c ∧ (m.quote = some d ∨ m.escape = some d))
      ∨ (m.quote = some c ∧ m.quote = some d) := by
  simp [isQuotedPair]

/-- A character that is no quote, and no escape in front of a quote or an escape, starts no pair. -/
theorem not_isQuotedPair {c d : CodePoint} (hq : m.quote ≠ some c)
    (he : m.escape = some c → m.quote ≠ some d ∧ m.escape ≠ some d) :
    ¬ m.isQuotedPair c d = true := by
  rw [isQuotedPair_iff, not_or]
  exact ⟨fun h => h.2.elim (he h.1).1 (he h.1).2, fun h => hq h.1⟩

/-- Quoted units are read to the quote behind them. -/
theorem quotedSpan?_units (h : m.IsDistinct) {q : CodePoint} (hq : m.quote = some q)
    {units : List FieldUnit} (hunits : m.QuotedUnits units) {rest : Text}
    (hrest : ∀ c, rest.head? = some c → m.quote ≠ some c) :
    m.quotedSpan? (textOf units ++ q :: rest) = some (textOf units ++ [q], rest) := by
  induction hunits with
  | nil =>
    cases rest with
    | nil => simp [quotedSpan?, hq]
    | cons c rest =>
      have hpair : ¬ m.isQuotedPair q c = true := by
        rw [isQuotedPair_iff, not_or]
        exact ⟨fun hx => h.escape_ne_quote q hq hx.1, fun hx => hrest c rfl hx.2⟩
      simp [quotedSpan?, hq, hpair]
  | doubledQuote hq' _ ih =>
    have hpair := isQuotedPair_iff.2 (.inr ⟨hq', hq'⟩)
    simp [quotedSpan?, hpair, ih]
  | escapedQuote he hq' _ ih =>
    have hpair := isQuotedPair_iff.2 (.inl ⟨he, .inl hq'⟩)
    simp [quotedSpan?, hpair, ih]
  | escapedEscape he _ ih =>
    have hpair := isQuotedPair_iff.2 (.inl ⟨he, .inr he⟩)
    simp [quotedSpan?, hpair, ih]
  | @character c units hcq hce _ ih =>
    -- Something follows the character: at least the closing quote.
    obtain ⟨x, tail, htail⟩ : ∃ x tail, textOf units ++ q :: rest = x :: tail :=
      List.exists_cons_of_ne_nil (by simp)
    have hx : (textOf units ++ m.quote.toList).head? = some x := by
      rw [hq]
      cases hunits : textOf units with
      | nil => simp_all
      | cons y ys => simp_all
    have hpair := not_isQuotedPair hcq fun he => hce he x hx
    rw [htail] at ih
    simp [htail, quotedSpan?, hpair, hcq, ih]

/-- What is read up to a closing quote is made of quoted units, and no quote follows it. -/
theorem exists_units_of_quotedSpan? {t span after : Text}
    (h : m.quotedSpan? t = some (span, after)) :
    ∃ q units, m.quote = some q ∧ m.QuotedUnits units ∧ span = textOf units ++ [q] ∧
      ∀ c, after.head? = some c → m.quote ≠ some c := by
  fun_induction quotedSpan? m t generalizing span after with
  | case1 => cases h
  | case2 c hq =>
    cases h
    exact ⟨c, [], hq, .nil, rfl, by simp⟩
  | case3 => cases h
  | case4 c d rest hpair ih =>
    obtain ⟨⟨span', after'⟩, hspan, heq⟩ := Option.map_eq_some_iff.1 h
    cases heq
    obtain ⟨q, units, hq, hunits, rfl, hafter⟩ := ih hspan
    refine ⟨q, .pair c d :: units, hq, ?_, rfl, hafter⟩
    rcases isQuotedPair_iff.1 hpair with ⟨hc, hd | hd⟩ | ⟨hc, hd⟩
    · exact .escapedQuote hc hd hunits
    · cases hc.symm.trans hd
      exact .escapedEscape hc hunits
    · cases hc.symm.trans hd
      exact .doubledQuote hc hunits
  | case5 c d rest hpair hq =>
    cases h
    refine ⟨c, [], hq, .nil, rfl, fun x hx hx' => ?_⟩
    cases hx
    exact hpair (isQuotedPair_iff.2 (.inr ⟨hq, hx'⟩))
  | case6 c d rest hpair hq ih =>
    obtain ⟨⟨span', after'⟩, hspan, heq⟩ := Option.map_eq_some_iff.1 h
    cases heq
    obtain ⟨q, units, hq', hunits, rfl, hafter⟩ := ih hspan
    refine ⟨q, .single c :: units, hq', .character hq ?_ hunits, rfl, hafter⟩
    -- The next character of the line is the next one of the span.
    have hline := append_of_quotedSpan? hspan
    intro he next hnext
    have hd : next = d := by
      rw [hq'] at hnext
      cases hu : textOf units with
      | nil => simp_all
      | cons y ys => simp_all
    subst hd
    rw [isQuotedPair_iff] at hpair
    exact ⟨fun hx => hpair (.inl ⟨he, .inl hx⟩), fun hx => hpair (.inl ⟨he, .inr hx⟩)⟩

/-- A text between quotes cut into units. -/
def cutQuoted (m : Marks) : Text → List FieldUnit
  | [] => []
  | [c] => [.single c]
  | c :: d :: rest =>
    if m.isQuotedPair c d then .pair c d :: m.cutQuoted rest
    else .single c :: m.cutQuoted (d :: rest)

/-- Cutting finds the units again. -/
theorem cutQuoted_units {units : List FieldUnit} (hunits : m.QuotedUnits units) :
    m.cutQuoted (textOf units) = units := by
  induction hunits with
  | nil => rfl
  | doubledQuote hq _ ih =>
    have hpair := isQuotedPair_iff.2 (.inr ⟨hq, hq⟩)
    simp [cutQuoted, hpair, ih]
  | escapedQuote he hq _ ih =>
    have hpair := isQuotedPair_iff.2 (.inl ⟨he, .inl hq⟩)
    simp [cutQuoted, hpair, ih]
  | escapedEscape he _ ih =>
    have hpair := isQuotedPair_iff.2 (.inl ⟨he, .inr he⟩)
    simp [cutQuoted, hpair, ih]
  | @character c units hcq hce _ ih =>
    cases hunits : textOf units with
    | nil => simp_all [cutQuoted]
    | cons x tail =>
      have hpair := not_isQuotedPair hcq fun he => hce he x (by simp [hunits])
      rw [hunits] at ih
      simp [hunits, cutQuoted, hpair, ih]

/-- Decoding goes by the units between quotes. -/
theorem decodeQuoted_eq_map (m : Marks) (t : Text) :
    m.decodeQuoted t = (m.cutQuoted t).map FieldUnit.quotedMeaning := by
  fun_induction cutQuoted m t with
  | case1 => rfl
  | case2 c => rfl
  | case3 c d rest hpair ih => simp [decodeQuoted, hpair, ih, FieldUnit.quotedMeaning]
  | case4 c d rest hpair ih => simp [decodeQuoted, hpair, ih, FieldUnit.quotedMeaning]

/-! ## Units outside of quotes -/

/-- Units outside of quotes are read up to a stop. -/
theorem bareSpan_units {units : List FieldUnit} {after : Text}
    (hunits : m.BareUnits record after units) (hafter : m.IsStopped record after)
    (hescape : ∀ c, m.escape = some c → m.isStop record c = false) :
    m.bareSpan record (textOf units ++ after) = (textOf units, after) := by
  induction hunits with
  | nil =>
    match after with
    | [] => rfl
    | [c] => simp [bareSpan, hafter c rfl]
    | c :: d :: rest => simp [bareSpan, hafter c rfl]
  | escaped he _ ih => simp [bareSpan, he, hescape _ he, ih]
  | @character c units he hstop _ ih =>
    rw [FieldUnit.textOf_single, List.cons_append]
    cases htail : textOf units ++ after with
    | nil =>
      obtain ⟨hunits, rfl⟩ := List.append_eq_nil_iff.1 htail
      simp [bareSpan, hstop, hunits]
    | cons x tail =>
      rw [htail] at ih
      simp [bareSpan, hstop, he, ih]
  | lastEscape he hend =>
    subst hend
    simp [bareSpan, hescape _ he]

/-- What is read up to a stop is made of units. -/
theorem exists_units_of_bareSpan {t span after : Text} (h : m.bareSpan record t = (span, after)) :
    ∃ units, m.BareUnits record after units ∧ textOf units = span ∧
      m.IsStopped record after := by
  fun_induction bareSpan m record t generalizing span after with
  | case1 =>
    cases h
    exact ⟨[], .nil, rfl, by simp [IsStopped]⟩
  | case2 c hstop =>
    cases h
    exact ⟨[], .nil, rfl, isStopped_cons hstop []⟩
  | case3 c hstop =>
    cases h
    by_cases he : m.escape = some c
    · exact ⟨[.single c], .lastEscape he rfl, rfl, by simp [IsStopped]⟩
    · exact ⟨[.single c], .character he (by simpa using hstop) .nil, rfl, by simp [IsStopped]⟩
  | case4 c d rest hstop =>
    cases h
    exact ⟨[], .nil, rfl, isStopped_cons hstop _⟩
  | case5 c d rest _ he span' after' hspan ih =>
    cases h
    obtain ⟨units, hunits, rfl, hafter⟩ := ih hspan
    exact ⟨.pair c d :: units, .escaped he hunits, rfl, hafter⟩
  | case6 c d rest hstop he span' after' hspan ih =>
    cases h
    obtain ⟨units, hunits, rfl, hafter⟩ := ih hspan
    exact ⟨.single c :: units, .character he (by simpa using hstop) hunits, rfl, hafter⟩

/-- A text outside of quotes cut into units. -/
def cutBare (m : Marks) : Text → List FieldUnit
  | [] => []
  | [c] => [.single c]
  | c :: d :: rest =>
    if m.escape = some c then .pair c d :: m.cutBare rest else .single c :: m.cutBare (d :: rest)

/-- Cutting finds the units again. -/
theorem cutBare_units {units : List FieldUnit} {after : Text}
    (hunits : m.BareUnits record after units) : m.cutBare (textOf units) = units := by
  induction hunits with
  | nil => rfl
  | escaped he _ ih => simp [cutBare, he, ih]
  | @character c units he _ _ ih =>
    cases hunits : textOf units with
    | nil => simp_all [cutBare]
    | cons x tail =>
      rw [hunits] at ih
      simp [hunits, cutBare, he, ih]
  | lastEscape he _ => rfl

/-- When an escape outside of quotes is left out. -/
theorem isBarePair_iff {c d : CodePoint} : m.isBarePair c d = true ↔
    m.escape = some c ∧ (m.delimiter = some d ∨ m.quote = some d ∨ m.escape = some d) := by
  simp only [isBarePair, Bool.and_eq_true, Bool.or_eq_true, beq_iff_eq]
  tauto

/-- Decoding goes by the units outside of quotes. An escape that protects nothing special is passed
by one character only, but the next character is no escape and so starts no pair. -/
theorem decodeBare_eq_flatMap (m : Marks) (t : Text) :
    m.decodeBare t = (m.cutBare t).flatMap (FieldUnit.bareMeaning m) := by
  fun_induction cutBare m t with
  | case1 => rfl
  | case2 c => rfl
  | case3 c d rest he ih =>
    by_cases hd : m.delimiter = some d ∨ m.quote = some d ∨ m.escape = some d
    · have hpair := isBarePair_iff.2 ⟨he, hd⟩
      simp [decodeBare, hpair, ih, FieldUnit.bareMeaning, hd]
    · have hpair : ¬ m.isBarePair c d = true := fun h => hd (isBarePair_iff.1 h).2
      have hrest : m.decodeBare (d :: rest) = d :: m.decodeBare rest := by
        cases rest with
        | nil => rfl
        | cons x rest =>
          have hx : ¬ m.isBarePair d x = true := fun h => hd (.inr (.inr (isBarePair_iff.1 h).1))
          simp [decodeBare, hx]
      simp [decodeBare, hpair, hrest, ih, FieldUnit.bareMeaning, hd]
  | case4 c d rest he ih =>
    have hpair : ¬ m.isBarePair c d = true := fun h => he (isBarePair_iff.1 h).1
    simp [decodeBare, hpair, ih, FieldUnit.bareMeaning]

/-! ## Fields -/

/-- Blanks behind a closing quote are read up to a stop. -/
theorem blanksAfterQuote_append {blanks after : Text}
    (hblanks : ∀ c ∈ blanks, c.isBlank = true ∧ m.isStop record c = false)
    (hafter : m.IsStopped record after) :
    m.blanksAfterQuote record (blanks ++ after) = .ok (blanks, after) := by
  induction blanks with
  | nil =>
    cases after with
    | nil => rfl
    | cons c after => simp [blanksAfterQuote, hafter c rfl]
  | cons c blanks ih =>
    obtain ⟨hblank, hstop⟩ := hblanks c (by simp)
    simp [blanksAfterQuote, hstop, hblank, ih fun x hx => hblanks x (by simp [hx]), Except.map]

/-- What is read behind a closing quote is blank and holds no stop, and a stop follows it. -/
theorem isBlank_of_blanksAfterQuote {t blanks after : Text}
    (h : m.blanksAfterQuote record t = .ok (blanks, after)) :
    (∀ c ∈ blanks, c.isBlank = true ∧ m.isStop record c = false) ∧ m.IsStopped record after := by
  induction t generalizing blanks after with
  | nil =>
    cases h
    exact ⟨by simp, by simp [IsStopped]⟩
  | cons c t ih =>
    unfold blanksAfterQuote at h
    split at h
    · next hstop =>
      cases h
      exact ⟨by simp, isStopped_cons hstop t⟩
    · next hstop =>
      split at h
      · next hblank =>
        obtain ⟨⟨blanks', after'⟩, hrest, heq⟩ := Except.map_eq_ok.1 h
        cases heq
        obtain ⟨hblanks, hafter⟩ := ih hrest
        refine ⟨fun x hx => ?_, hafter⟩
        rcases List.mem_cons.1 hx with rfl | hx
        · exact ⟨hblank, by simpa using hstop⟩
        · exact hblanks x hx
      · cases h

/-- An escape is no stop. -/
theorem IsDistinct.isStop_escape (h : m.IsDistinct) {c : CodePoint} (hc : m.escape = some c) :
    m.isStop record c = false := by
  have hd : m.delimiter ≠ some c := fun hd => h.escape_ne_delimiter c hd hc
  simp [isStop, hd, h.escape_break c hc]

/-- A field in front of a stop is read. -/
theorem field_form (h : m.IsDistinct) {f : FieldForm} {after : Text}
    (hf : m.IsField record after f) (hafter : m.IsStopped record after) :
    m.field record (f.text m ++ after) = .ok (f.text m, after) := by
  cases hf with
  | @quoted q units blanks hq hunits hclosed hblanks =>
    have hspan := quotedSpan?_units h hq hunits hclosed
    have hrest := blanksAfterQuote_append hblanks hafter
    simp [FieldForm.text, field, hq, hspan, hrest, bind, Except.bind, pure, Except.pure]
  | @bare units hhead hunits =>
    have hspan := bareSpan_units hunits hafter fun c hc => h.isStop_escape hc
    show m.field record (textOf units ++ after) = .ok (textOf units, after)
    cases htail : textOf units ++ after with
    | nil =>
      obtain ⟨htext, rfl⟩ := List.append_eq_nil_iff.1 htail
      rw [htext]
      rfl
    | cons c tail =>
      have hc : m.quote ≠ some c := by
        cases htext : textOf units with
        | nil => exact h.quote_ne_of_isStopped hafter (by simp_all)
        | cons x xs => exact hhead c (by simp_all)
      rw [htail] at hspan
      simp [field, hc, hspan]

/-- A field that is read has a form, and a stop follows it. -/
theorem exists_form_of_field {t raw after : Text} (h : m.field record t = .ok (raw, after)) :
    ∃ f : FieldForm, m.IsField record after f ∧ f.text m = raw ∧ m.IsStopped record after := by
  unfold field at h
  split at h
  · cases h
    exact ⟨.bare [], .bare (by simp) .nil, rfl, by simp [IsStopped]⟩
  · next c rest =>
    split at h
    · next hq =>
      split at h
      · cases h
      · next span left hspan =>
        obtain ⟨⟨blanks, after'⟩, hblanks, h⟩ := Except.bind_eq_ok.1 h
        cases h
        obtain ⟨q, units, hq', hunits, rfl, hclosed⟩ := exists_units_of_quotedSpan? hspan
        obtain ⟨hblank, hafter⟩ := isBlank_of_blanksAfterQuote hblanks
        rw [← append_of_blanksAfterQuote hblanks] at hclosed
        cases hq.symm.trans hq'
        exact ⟨.quoted units blanks, .quoted hq hunits hclosed hblank, by simp [FieldForm.text, hq],
          hafter⟩
    · next hq =>
      have hspan : m.bareSpan record (c :: rest) = (raw, after) := Except.ok.inj h
      obtain ⟨units, hunits, rfl, hafter⟩ := exists_units_of_bareSpan hspan
      refine ⟨.bare units, .bare (fun x hx => ?_) hunits, rfl, hafter⟩
      -- The first character of the run is that of the line, which is no quote.
      have hline := append_bareSpan m record (c :: rest)
      rw [hspan] at hline
      cases htext : textOf units with
      | nil => simp [htext] at hx
      | cons y ys =>
        simp only [htext, List.head?_cons, Option.some.injEq, List.cons_append,
          List.cons.injEq] at hx hline
        rwa [← hx, hline.1]

/-- No quote is found where there is none. -/
theorem beforeLast?_of_notMem {q : CodePoint} {t : Text} (h : q ∉ t) :
    beforeLast? [q] t = none := by
  induction t with
  | nil => rfl
  | cons c t ih =>
    obtain ⟨hc, ht⟩ := not_or.1 fun hor => h (List.mem_cons.2 hor)
    simp [beforeLast?, ih ht, hc]

/-- The last quote is found if none follows it. -/
theorem beforeLast?_append {q : CodePoint} (t : Text) {rest : Text} (h : q ∉ rest) :
    beforeLast? [q] (t ++ q :: rest) = some t := by
  induction t with
  | nil => simp [beforeLast?, beforeLast?_of_notMem h]
  | cons c t ih => simp [beforeLast?, ih]

/-- A field stands for its meaning, if the blanks behind a closing quote hold no quote. -/
theorem decode_form {f : FieldForm} {after : Text} (hf : m.IsField record after f)
    (hblanks : ∀ c ∈ f.blanks, m.quote ≠ some c) : m.decode (f.text m) = .ok (f.meaning m) := by
  cases hf with
  | @quoted q units blanks hq hunits _ _ =>
    have hlast : beforeLast? [q] (textOf units ++ q :: blanks) = some (textOf units) :=
      beforeLast?_append _ fun hmem => hblanks q hmem hq
    simp [FieldForm.text, decode, hq, hlast, decodeQuoted_eq_map, cutQuoted_units hunits,
      FieldForm.meaning]
  | @bare units hhead hunits =>
    have hdecode : m.decodeBare (textOf units) = (FieldForm.bare units).meaning m := by
      rw [decodeBare_eq_flatMap, cutBare_units hunits]
      rfl
    show m.decode (textOf units) = _
    rw [← hdecode]
    cases htext : textOf units with
    | nil => rfl
    | cons c tail => simp [decode, hhead c (by simp [htext])]

/-- A field is determined by its characters. -/
theorem form_unique (h : m.IsDistinct) {f g : FieldForm} {after after' : Text}
    (hf : m.IsField record after f) (hg : m.IsField record after' g)
    (heq : f.text m = g.text m) : f = g := by
  cases hf with
  | @quoted q units blanks hq hunits hclosed _ =>
    cases hg with
    | @quoted q' units' blanks' hq' hunits' hclosed' _ =>
      -- Both are read up to the same closing quote.
      have hends : ∀ {b x : Text}, (∀ c, (b ++ x).head? = some c → m.quote ≠ some c) →
          ∀ c, b.head? = some c → m.quote ≠ some c := by
        intro b x hb c hc
        cases b with
        | nil => simp at hc
        | cons y ys => exact hb c (by simpa using hc)
      have hspan := quotedSpan?_units h hq hunits (hends hclosed)
      have hspan' := quotedSpan?_units h hq hunits' (hends hclosed')
      simp only [FieldForm.text, hq, Option.toList_some, List.nil_append, List.cons_append,
        List.append_assoc, List.cons.injEq, true_and] at heq
      rw [heq, hspan'] at hspan
      obtain ⟨htext, rfl⟩ := Prod.mk.inj (Option.some.inj hspan)
      have htext := congrArg m.cutQuoted (List.append_cancel_right htext)
      rw [cutQuoted_units hunits, cutQuoted_units hunits'] at htext
      rw [htext]
    | @bare units' hhead _ =>
      simp only [FieldForm.text, hq, Option.toList_some, List.nil_append,
        List.cons_append] at heq
      exact absurd hq (hhead q (by simp [← heq]))
  | @bare units hhead hunits =>
    cases hg with
    | @quoted q' units' blanks' hq' _ _ _ =>
      simp only [FieldForm.text, hq', Option.toList_some, List.nil_append,
        List.cons_append] at heq
      exact absurd hq' (hhead q' (by simp [heq]))
    | @bare units' _ hunits' =>
      have htext : m.cutBare (textOf units) = m.cutBare (textOf units') := congrArg m.cutBare heq
      rw [cutBare_units hunits, cutBare_units hunits'] at htext
      rw [htext]

/-! ## Lines -/

/-- A field up to the end of the line is the last one. -/
theorem fields_of_field_nil {t f : Text} (h : m.field record t = .ok (f, [])) :
    m.fields record t = .ok [f] := by
  rw [fields]
  split <;> simp_all

/-- A field up to a delimiter is followed by those behind the delimiter. -/
theorem fields_of_field_delimiter {t f rest : Text} {c : CodePoint}
    (h : m.field record t = .ok (f, c :: rest)) (hc : m.delimiter = some c) :
    m.fields record t = (m.fields record rest).map (f :: ·) := by
  rw [fields]
  split <;> simp_all

/-- A field up to another stop is the last one, and only line breaks may follow it. -/
theorem fields_of_field_stop {t f rest : Text} {c : CodePoint}
    (h : m.field record t = .ok (f, c :: rest)) (hc : m.delimiter ≠ some c) :
    m.fields record t = if (c :: rest).all CodePoint.isLineBreak then .ok [f]
      else .error (.afterRecord (c :: rest)) := by
  rw [fields]
  split <;> simp_all

/-- A line has a first field. -/
theorem IsFields.exists_cons {breaks : Text} {fields : List FieldForm}
    (h : m.IsFields record breaks fields) : ∃ f others, fields = f :: others := by
  cases h with
  | last => exact ⟨_, _, rfl⟩
  | cons => exact ⟨_, _, rfl⟩

/-- Several fields are the first one, the delimiter and the others. -/
theorem textOf_cons_cons {d : CodePoint} (hd : m.delimiter = some d) (f g : FieldForm)
    (fields : List FieldForm) :
    FieldForm.textOf m (f :: g :: fields) = f.text m ++ d :: FieldForm.textOf m (g :: fields) := by
  simp [FieldForm.textOf, Text.join, List.intercalate, hd]

/-- Fields in front of line breaks, or of nothing, are read. -/
theorem fields_forms (h : m.IsDistinct) {d : CodePoint} (hd : m.delimiter = some d)
    {breaks : Text} (hbreaks : ∀ c ∈ breaks, c.isLineBreak = true)
    (hrecord : record = false → breaks = []) {fields : List FieldForm}
    (hfields : m.IsFields record breaks fields) :
    m.fields record (FieldForm.textOf m fields ++ breaks)
      = .ok (fields.map (FieldForm.text m)) := by
  induction hfields with
  | @last f hf =>
    have hfield := field_form h hf (isStopped_breaks hbreaks hrecord)
    have htext : FieldForm.textOf m [f] = f.text m := by simp [FieldForm.textOf, Text.join]
    rw [htext]
    cases breaks with
    | nil => exact fields_of_field_nil hfield
    | cons c breaks =>
      have hc : m.delimiter ≠ some c := by
        intro hc
        have hbreak := h.delimiter_break c hc
        rw [hbreaks c (by simp)] at hbreak
        cases hbreak
      rw [fields_of_field_stop hfield hc, if_pos (List.all_eq_true.2 hbreaks)]
      rfl
  | @cons f g fields hf _ ih =>
    have hstop := isStopped_cons (isStop_delimiter hd : m.isStop record d = true)
      (FieldForm.textOf m (g :: fields) ++ breaks)
    simp only [hd, Option.toList_some, List.nil_append, List.cons_append] at hf
    rw [textOf_cons_cons hd, List.append_assoc, List.cons_append,
      fields_of_field_delimiter (field_form h hf hstop) hd, ih]
    rfl

/-- Fields that are read have forms, and only line breaks follow them, in a record only. -/
theorem exists_forms_of_fields {d : CodePoint} (hd : m.delimiter = some d) {t : Text}
    {raws : List Text} (h : m.fields record t = .ok raws) :
    ∃ r : LineForm, m.IsForm record t r ∧ r.fields.map (FieldForm.text m) = raws := by
  fun_induction fields m record t generalizing raws with
  | case1 t o hfield => cases h
  | case2 t raw hfield =>
    cases h
    obtain ⟨f, hf, rfl, -⟩ := exists_form_of_field hfield
    have hline := append_of_field hfield
    exact ⟨⟨[f], []⟩, ⟨.last hf, by simp, fun _ => rfl,
      by simpa [FieldForm.textOf, Text.join] using hline⟩, rfl⟩
  | case3 t raw c rest hfield hc ih =>
    obtain ⟨raws', hraws, rfl⟩ := Except.map_eq_ok.1 h
    obtain ⟨f, hf, rfl, -⟩ := exists_form_of_field hfield
    obtain ⟨⟨fields, breaks⟩, hr, rfl⟩ := ih hraws
    have hline := append_of_field hfield
    cases hd.symm.trans hc
    obtain ⟨g, fields, rfl⟩ := hr.isFields.exists_cons
    have htext : FieldForm.textOf m (g :: fields) ++ breaks = rest := hr.text_eq
    refine ⟨⟨f :: g :: fields, breaks⟩,
      ⟨.cons ?_ hr.isFields, hr.isLineBreak, hr.breaks_eq_nil, ?_⟩, rfl⟩
    · simpa [hd, htext] using hf
    · rw [textOf_cons_cons hd, List.append_assoc, List.cons_append, htext, hline]
  | case4 t raw c rest hfield hc hbreaks =>
    cases h
    obtain ⟨f, hf, rfl, hstop⟩ := exists_form_of_field hfield
    have hline := append_of_field hfield
    refine ⟨⟨[f], c :: rest⟩, ⟨.last hf, List.all_eq_true.1 hbreaks, ?_,
      by simpa [FieldForm.textOf, Text.join] using hline⟩, rfl⟩
    -- The stop is no delimiter, so it is a line break of a record.
    rintro rfl
    have hc' := hstop c rfl
    simp [isStop, hc] at hc'
  | case5 t raw c rest hfield hc hbreaks => cases h

/-- Every field of a line is a field in front of something. -/
theorem IsFields.exists_isField {breaks : Text} {fields : List FieldForm}
    (h : m.IsFields record breaks fields) : ∀ f ∈ fields, ∃ after, m.IsField record after f := by
  induction h with
  | last hf => simpa using ⟨_, hf⟩
  | cons hf _ ih =>
    intro f hmem
    rcases List.mem_cons.1 hmem with rfl | hmem
    · exact ⟨_, hf⟩
    · exact ih f hmem

/-- Fields are determined by their characters. -/
theorem forms_unique (h : m.IsDistinct) {fs gs : List FieldForm}
    (hfs : ∀ f ∈ fs, ∃ after, m.IsField record after f)
    (hgs : ∀ g ∈ gs, ∃ after, m.IsField record after g)
    (heq : fs.map (FieldForm.text m) = gs.map (FieldForm.text m)) : fs = gs := by
  induction fs generalizing gs with
  | nil => exact (List.map_eq_nil_iff.1 heq.symm).symm
  | cons f fs ih =>
    obtain ⟨g, gs', rfl, hg, htail⟩ := List.map_eq_cons_iff.1 heq.symm
    obtain ⟨after, hf⟩ := hfs f (by simp)
    obtain ⟨after', hg'⟩ := hgs g (by simp)
    rw [form_unique h hf hg' hg.symm,
      ih (fun x hx => hfs x (by simp [hx])) (fun x hx => hgs x (by simp [hx])) htail.symm]

/-- A line has at most one form. -/
theorem isForm_unique (h : m.IsDistinct) {d : CodePoint} (hd : m.delimiter = some d) {line : Text}
    {r r' : LineForm} (hr : m.IsForm record line r) (hr' : m.IsForm record line r') : r = r' := by
  have hread := fields_forms h hd hr.isLineBreak hr.breaks_eq_nil hr.isFields
  have hread' := fields_forms h hd hr'.isLineBreak hr'.breaks_eq_nil hr'.isFields
  rw [hr.text_eq] at hread
  rw [hr'.text_eq, hread] at hread'
  have hfields : r.fields = r'.fields := forms_unique h hr.isFields.exists_isField
    hr'.isFields.exists_isField (Except.ok.inj hread')
  have hbreaks : r.breaks = r'.breaks := by
    have hline := hr.text_eq.trans hr'.text_eq.symm
    rw [hfields] at hline
    exact List.append_cancel_left hline
  obtain ⟨fields, breaks⟩ := r
  cases hfields
  cases hbreaks
  rfl

/-- A line with a form is split into the meanings of the fields, if no quote stands in the blanks
behind closing quotes. -/
theorem split_form (h : m.IsDistinct) {d : CodePoint} (hd : m.delimiter = some d) {line : Text}
    {r : LineForm} (hr : m.IsForm record line r)
    (hblanks : ∀ f ∈ r.fields, ∀ c ∈ f.blanks, m.quote ≠ some c) :
    m.split record line = .ok (r.fields.map (FieldForm.meaning m)) := by
  have hread := fields_forms h hd hr.isLineBreak hr.breaks_eq_nil hr.isFields
  rw [hr.text_eq] at hread
  refine Except.bind_eq_ok.2 ⟨_, Except.mapError_eq_ok.2 hread, Except.mapM_eq_ok.2 ?_⟩
  rw [List.forall₂_map_left_iff, List.forall₂_map_right_iff, List.forall₂_same]
  intro f hf
  obtain ⟨after, hfield⟩ := hr.isFields.exists_isField f hf
  exact decode_form hfield (hblanks f hf)

/-- Splitting accepts exactly the lines of the grammar. For distinct marks that are no line breaks,
with a quote that is not blank, a line is split if and only if it has a form; the fields are then
the meanings of the form's fields, and there is no other form. -/
theorem split_eq_ok_iff (h : m.IsDistinct) {d : CodePoint} (hd : m.delimiter = some d)
    (hquote : ∀ q, m.quote = some q → q.isBlank = false) (record : Bool) (line : Text) :
    (∀ texts, m.split record line = .ok texts ↔
        ∃ r, m.IsForm record line r ∧ r.fields.map (FieldForm.meaning m) = texts) ∧
      ∀ r r', m.IsForm record line r → m.IsForm record line r' → r = r' := by
  -- Blanks behind a closing quote hold no quote, as it is not blank.
  have hblanks : ∀ r, m.IsForm record line r →
      ∀ f ∈ r.fields, ∀ c ∈ f.blanks, m.quote ≠ some c := by
    intro r hr f hf c hc hq
    obtain ⟨after, hfield⟩ := hr.isFields.exists_isField f hf
    cases hfield with
    | quoted _ _ _ hblank =>
      have hblank := (hblank c hc).1
      rw [hquote c hq] at hblank
      cases hblank
    | bare _ _ => simp [FieldForm.blanks] at hc
  refine ⟨fun texts => ⟨fun hsplit => ?_, ?_⟩, fun r r' hr hr' => isForm_unique h hd hr hr'⟩
  · obtain ⟨raws, hraws, -⟩ := Except.bind_eq_ok.1 hsplit
    obtain ⟨r, hr, -⟩ := exists_forms_of_fields hd (Except.mapError_eq_ok.1 hraws)
    rw [split_form h hd hr (hblanks r hr)] at hsplit
    exact ⟨r, hr, Except.ok.inj hsplit⟩
  · rintro ⟨r, hr, rfl⟩
    exact split_form h hd hr (hblanks r hr)

/-- A quoted field with a doubled quote and a blank behind it, and an unquoted one with an escaped
delimiter, in a record that a line break ends. -/
theorem split_eq_ok_mixed :
    ∃ m : Marks, m = ⟨some (.ofChar ','), some (.ofChar '"'), some (.ofChar '\\')⟩ ∧
      m.IsDistinct ∧ (∀ q, m.quote = some q → q.isBlank = false) ∧
      m.split true (Text.ofString "\"a\"\"b\" ,c\\,d\n")
        = .ok [Text.ofString "a\"b", Text.ofString "c,d"] := by
  refine ⟨_, rfl, ?_⟩
  generalize hm : (⟨some (.ofChar ','), some (.ofChar '"'), some (.ofChar '\\')⟩ : Marks) = m
  have hdelimiter : m.delimiter = some (.ofChar ',') := by rw [← hm]
  have hq : m.quote = some (.ofChar '"') := by rw [← hm]
  have he : m.escape = some (.ofChar '\\') := by rw [← hm]
  have hdistinct : m.IsDistinct := by
    constructor <;> intro c hc <;> simp only [hdelimiter, hq, he, Option.some.injEq] at hc ⊢ <;>
      subst hc <;> decide
  have hblank : ∀ q, m.quote = some q → q.isBlank = false := by
    intro q hq'
    rw [hq] at hq'
    cases hq'
    decide
  refine ⟨hdistinct, hblank, ((split_eq_ok_iff hdistinct hdelimiter hblank true _).1 _).2
    ⟨⟨[.quoted [.single (.ofChar 'a'), .pair (.ofChar '"') (.ofChar '"'), .single (.ofChar 'b')]
      [.ofChar ' '], .bare [.single (.ofChar 'c'), .pair (.ofChar '\\') (.ofChar ','),
      .single (.ofChar 'd')]], [.ofChar '\n']⟩, ⟨.cons (.quoted hq ?_ ?_ ?_) (.last (.bare ?_ ?_)),
      ?_, ?_, ?_⟩, ?_⟩⟩
  · exact .character (by rw [hq]; decide) (fun h => absurd (he.symm.trans h) (by decide))
      (.doubledQuote hq (.character (by rw [hq]; decide)
        (fun h => absurd (he.symm.trans h) (by decide)) .nil))
  · rw [hq]; rintro c hc; cases hc; decide
  · intro c hc
    cases List.mem_singleton.1 hc
    exact ⟨by decide, by subst hm; decide⟩
  · rw [hq]; rintro c hc; cases hc; decide
  · exact .character (by rw [he]; decide) (by subst hm; decide)
      (.escaped he (.character (by rw [he]; decide) (by subst hm; decide) .nil))
  · intro c hc
    cases List.mem_singleton.1 hc
    decide
  · simp
  · subst hm; decide
  · subst hm; decide

end Marks

end Delimited
