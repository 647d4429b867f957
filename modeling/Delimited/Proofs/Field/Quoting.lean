import Delimited.Proofs.Field.Framing
import Delimited.Row.Decode

/-!
# Quoted where it has to be

What a column writes is one field of the record, and reading it gives the text back: that is what
the quoting policy is for. It holds for every type but one kind. Texts and composites are quoted by
a ceiling, the highest of the characters that structure a line, and the ceiling is above both line
breaks only if it is at least 13, the carriage return. Below that a line break may stay unquoted,
and the record ends at it: `recordFields_fieldText_iff` gives the exact condition.
-/

namespace Delimited

/-- A line break is one of two code points. -/
theorem CodePoint.isLineBreak_iff {c : CodePoint} :
    c.isLineBreak = true ↔ c.val = 10 ∨ c.val = 13 := by
  simp only [isLineBreak, Bool.or_eq_true, beq_iff_eq, Fin.ext_iff]
  rfl

namespace Dialect

variable {d : Dialect}

/-- A dialect with a quote quotes. -/
theorem isQuoting_of_quote {q : CodePoint} (hq : d.quote = some q) : d.isQuoting = true := by
  rw [isQuoting, hq, Option.isSome_some]

/-- The line delimiter is made of line breaks. -/
theorem IsChecked.isLineBreak_of_mem (h : d.IsChecked) :
    ∀ c ∈ d.lineDelimiter, c.isLineBreak = true := by
  have hall : Settings.lineDelimiters
      = [[], [.ofChar '\n'], [.ofChar '\r'], [.ofChar '\r', .ofChar '\n']] := by decide
  have hmem := h.lineDelimiter_mem
  rw [hall] at hmem
  simp only [List.mem_cons, List.not_mem_nil, or_false] at hmem
  have hn : CodePoint.isLineBreak (.ofChar '\n') = true := rfl
  have hr : CodePoint.isLineBreak (.ofChar '\r') = true := rfl
  rcases hmem with hmem | hmem | hmem | hmem <;> simp [hmem, hn, hr]

/-- No structural character is above the highest mark. -/
theorem fieldDelimiter_le_highestMark (d : Dialect) : d.fieldDelimiter.val ≤ d.highestMark := by
  have hle : ∀ (l : List Nat) (n : Nat), n ≤ l.foldl max n := by
    intro l
    induction l with
    | nil => exact fun n => Nat.le_refl n
    | cons a l ih => exact fun n => Nat.le_trans (Nat.le_max_left n a) (ih _)
  exact hle _ _

/-- A column between quotes is a framed text. -/
theorem frames_enclose {q : CodePoint} (hq : d.quote = some q) (delimiter : CodePoint)
    (record : Bool) (t : Text) : (d.marks delimiter).Frames record (d.enclose t) t := by
  have h : (d.marks delimiter).Frames record (Quoting.enclose q d.escape t) t := .enclosed hq t
  simpa [enclose, hq, marks] using h

/-- A text without special characters is framed as it is. -/
theorem frames_bare {delimiter : CodePoint} {record : Bool} {t : Text}
    (h : ∀ c ∈ t, d.isSpecial delimiter c = false) : (d.marks delimiter).Frames record t t := by
  have hspecial : ∀ c ∈ t, c ≠ delimiter ∧ d.quote ≠ some c ∧ c.isLineBreak = false
      ∧ d.escape ≠ some c := by
    intro c hc
    have := h c hc
    simp only [isSpecial, Bool.or_eq_false_iff, beq_eq_false_iff_ne] at this
    exact ⟨this.1.1.1, this.1.1.2, this.1.2, this.2⟩
  refine .bare (Marks.isBare_of_ne_escape ?_ ?_ ?_)
  · intro c hc
    exact (hspecial c (List.mem_of_mem_head? hc)).2.1
  · intro c hc
    obtain ⟨hd, -, hbreak, -⟩ := hspecial c hc
    simp [Marks.isStop, marks, hbreak, Ne.symm hd]
  · intro c hc
    exact (hspecial c hc).2.2.2

/-- What a column does not quote has no special character in it, but for line breaks under a low
ceiling. -/
theorem isSpecial_of_mustQuoteField {type : ColumnType} {first : Bool} {t : Text}
    (hq : d.isQuoting = true) (h : d.mustQuoteField type first t = false) {c : CodePoint}
    (hc : c ∈ t) (hbreak : 13 ≤ d.highestMark ∨ c.isLineBreak = false) :
    d.isSpecial d.fieldDelimiter c = false := by
  simp only [mustQuoteField, hq, Bool.true_and, Bool.or_eq_false_iff] at h
  obtain ⟨-, h⟩ := h
  split at h
  · -- Everything in the text is above the ceiling, which no delimiter is.
    have hany := List.any_eq_false.1 h c hc
    simp only [Bool.or_eq_true, decide_eq_true_eq, beq_iff_eq, not_or] at hany
    obtain ⟨⟨hceiling, hquote⟩, hescape⟩ := hany
    have hdelimiter : c ≠ d.fieldDelimiter := by
      rintro rfl
      have := d.fieldDelimiter_le_highestMark
      omega
    have hline : c.isLineBreak = false := by
      rcases hbreak with hlow | hline
      · rw [← Bool.not_eq_true, CodePoint.isLineBreak_iff]
        omega
      · exact hline
    simp [isSpecial, hdelimiter, hquote, hescape, hline]
  · obtain ⟨hany, -⟩ := Bool.or_eq_false_iff.1 h
    simpa using List.any_eq_false.1 hany c hc

/-- Under a high ceiling no line break stays unquoted. -/
theorem mustQuoteField_or_isLineBreak (hq : d.isQuoting = true) (hceiling : 13 ≤ d.highestMark)
    (type : ColumnType) (first : Bool) (t : Text) :
    d.mustQuoteField type first t = true ∨ ∀ c ∈ t, c.isLineBreak = false := by
  cases h : d.mustQuoteField type first t with
  | true => exact .inl rfl
  | false =>
    refine .inr fun c hc => ?_
    have := isSpecial_of_mustQuoteField hq h hc (.inl hceiling)
    simp only [isSpecial, Bool.or_eq_false_iff] at this
    exact this.1.2

/-- A column's text as it stands in a line is framed, if it is quoted or holds no line break. -/
theorem frames_fieldText {q : CodePoint} (hq : d.quote = some q) {type : ColumnType}
    {first : Bool} {t : Text}
    (h : d.mustQuoteField type first t = true ∨ ∀ c ∈ t, c.isLineBreak = false) :
    (d.marks d.fieldDelimiter).Frames true (d.fieldText type first t) t := by
  unfold fieldText
  split
  · exact frames_enclose hq _ _ t
  · next hmust =>
    refine frames_bare fun c hc => ?_
    exact isSpecial_of_mustQuoteField (isQuoting_of_quote hq) (by simpa using hmust) hc
      (.inr (h.resolve_left hmust c hc))

/-- A leaf is framed within a composite column. -/
theorem frames_leafText {q : CodePoint} (hq : d.quote = some q) (type : LeafType) (t : Text) :
    (d.marks d.elementDelimiter).Frames false (d.leafText type t) t := by
  unfold leafText
  split
  · exact frames_enclose hq _ _ t
  · next hmust =>
    refine frames_bare fun c hc => ?_
    have hquoting := isQuoting_of_quote hq
    simp only [mustQuoteLeaf, hquoting, Bool.true_and, Bool.or_eq_true, not_or,
      Bool.not_eq_true] at hmust
    simpa using List.any_eq_false.1 hmust.2 c hc

/-- A record of framed fields is read back. -/
theorem recordFields_join (h : d.IsChecked) {fs ts : List Text} (hne : fs ≠ [])
    (hframes : List.Forall₂ ((d.marks d.fieldDelimiter).Frames true) fs ts) :
    d.recordFields (Text.join [d.fieldDelimiter] fs ++ d.lineDelimiter) = .ok ts :=
  Marks.split_join h.isDistinct_field rfl h.isLineBreak_of_mem (by simp) hne hframes

/-- A record of one framed field is read back. -/
theorem recordFields_of_frames (h : d.IsChecked) {f t : Text}
    (hf : (d.marks d.fieldDelimiter).Frames true f t) :
    d.recordFields (f ++ d.lineDelimiter) = .ok [t] := by
  have hrecord := recordFields_join h (List.cons_ne_nil f []) (.cons hf .nil)
  rwa [Text.join, List.intercalate_singleton] at hrecord

/-- A record that starts with an unquoted run up to a line break has no field but that run. -/
theorem eq_of_recordFields_break (h : d.IsChecked) {before after : Text} {c : CodePoint}
    (hbefore : ∀ x ∈ before, d.isSpecial d.fieldDelimiter x = false)
    (hc : c.isLineBreak = true) {fields : List Text}
    (hfields : d.recordFields (before ++ c :: after) = .ok fields) : fields = [before] := by
  have hstop : (d.marks d.fieldDelimiter).IsStopped true (c :: after) := by
    rintro x hx
    cases hx
    exact Marks.isStop_of_isLineBreak hc
  have hdelimiter : (d.marks d.fieldDelimiter).delimiter ≠ some c := by
    intro heq
    have := h.isDistinct_field.delimiter_break c heq
    simp [hc] at this
  have hframes : (d.marks d.fieldDelimiter).Frames true before before := frames_bare hbefore
  have hfield := Marks.field_of_frames h.isDistinct_field hframes hstop
  obtain ⟨raw, hraw, hdecode⟩ := Except.bind_eq_ok.1 hfields
  have hraw := Except.mapError_eq_ok.1 hraw
  rw [Marks.fields_of_field_stop hfield hdelimiter] at hraw
  split at hraw
  · cases hraw
    cases Except.mapM_eq_ok.1 hdecode with
    | cons hb hnil =>
      cases hnil
      rw [Marks.decode_of_frames h.isDistinct_field hframes] at hb
      cases hb
      rfl
  · cases hraw

/-- A column is read back if and only if it is quoted or holds no line break. -/
theorem recordFields_fieldText {q : CodePoint} (h : d.IsChecked) (hq : d.quote = some q)
    (type : ColumnType) (first : Bool) (t : Text) :
    d.recordFields (d.fieldText type first t ++ d.lineDelimiter) = .ok [t] ↔
      d.mustQuoteField type first t = true ∨ ∀ c ∈ t, c.isLineBreak = false := by
  refine ⟨fun hread => ?_, fun hframed => recordFields_of_frames h (frames_fieldText hq hframed)⟩
  cases hmust : d.mustQuoteField type first t with
  | true => exact .inl rfl
  | false =>
    refine .inr fun x hx => Bool.eq_false_iff.2 fun hbreak => ?_
    -- The record ends at the first line break, so the field that is read is shorter than the text.
    obtain ⟨c, hfind⟩ := Option.isSome_iff_exists.1
      (List.find?_isSome.2 ⟨x, hx, hbreak⟩ : (t.find? CodePoint.isLineBreak).isSome = true)
    obtain ⟨hc, before, after, rfl, hbefore⟩ := List.find?_eq_some_iff_append.1 hfind
    have hplain : ∀ y ∈ before, d.isSpecial d.fieldDelimiter y = false := by
      intro y hy
      exact isSpecial_of_mustQuoteField (isQuoting_of_quote hq) hmust (List.mem_append_left _ hy)
        (.inr (by simpa using hbefore y hy))
    have hbare : d.fieldText type first (before ++ c :: after) = before ++ c :: after := by
      simp [fieldText, hmust]
    rw [hbare, List.append_assoc, List.cons_append] at hread
    have hshort := eq_of_recordFields_break h hplain hc hread
    simp at hshort

end Dialect

/-- For a dialect with a quote: every text of every column reads back as the one field of its
record, if and only if the highest structural character is at least the carriage return. Then
nothing unquoted is special to the reader; otherwise exactly the unquoted texts with line breaks are
misread. -/
theorem Settings.recordFields_fieldText_iff {s : Settings} {d : Dialect} {q : CodePoint}
    (h : s.dialect = .ok d) (hq : d.quote = some q) :
    ((∀ type first t, d.recordFields (d.fieldText type first t ++ d.lineDelimiter) = .ok [t]) ↔
        13 ≤ d.highestMark) ∧
      (13 ≤ d.highestMark → ∀ type first t, d.mustQuoteField type first t = false →
        ∀ c ∈ t, d.isSpecial d.fieldDelimiter c = false) ∧
      ∀ type first t, d.recordFields (d.fieldText type first t ++ d.lineDelimiter) = .ok [t] ↔
        d.mustQuoteField type first t = true ∨ ∀ c ∈ t, c.isLineBreak = false := by
  have hd := isChecked_of_dialect h
  have hquoting := Dialect.isQuoting_of_quote hq
  have hiff := Dialect.recordFields_fieldText hd hq
  refine ⟨⟨fun hall => ?_, fun hceiling type first t => ?_⟩, fun hceiling type first t hmust c hc =>
    Dialect.isSpecial_of_mustQuoteField hquoting hmust hc (.inl hceiling), hiff⟩
  · -- A text that is a carriage return is read back, so the ceiling made it quoted.
    have hread := (hiff (.leaf .string) false [.ofChar '\r']).1 (hall _ _ _)
    have hbreak : CodePoint.isLineBreak (.ofChar '\r') = true := rfl
    have hmust := hread.resolve_right fun hno => by
      simpa [hbreak] using hno _ (List.mem_singleton_self _)
    have hquote : d.quote ≠ some (.ofChar '\r') := fun heq => by
      simpa [hbreak] using hd.quote_break _ heq
    have hescape : d.escape ≠ some (.ofChar '\r') := fun heq => by
      simpa [hbreak] using hd.escape_break _ heq
    simp [Dialect.mustQuoteField, ColumnType.isOfAnySize, ColumnType.isFreeText, hquote, hescape]
      at hmust
    exact hmust.2
  · exact (hiff type first t).2
      (Dialect.mustQuoteField_or_isLineBreak hquoting hceiling type first t)

/-- The default settings have a ceiling of 44, the comma, so every text reads back. -/
theorem Settings.recordFields_fieldText_default :
    ∃ d : Dialect, ({} : Settings).dialect = .ok d ∧ d.quote = some (.ofChar '"') ∧
      d.highestMark = 44 ∧ ∀ type first t,
        d.recordFields (d.fieldText type first t ++ d.lineDelimiter) = .ok [t] := by
  have h : ({} : Settings).dialect
      = .ok ⟨.ofChar ',', .ofChar ';', "\n", some (.ofChar '"'), none, none, false, false⟩ := rfl
  exact ⟨_, h, rfl, by decide, (Settings.recordFields_fieldText_iff h rfl).1.2 (by decide)⟩

/-- Fields between tabs and a quote below the line breaks: a carriage return in a text is not
quoted, and the record ends there. -/
theorem Settings.recordFields_fieldText_low :
    ∃ d : Dialect,
      ({ fieldDelimiter := .text [9], quote := .text [1] } : Settings).dialect = .ok d ∧
      d.fieldText (.leaf .string) false [97, 13, 98] = [97, 13, 98] ∧
      d.recordFields (d.fieldText (.leaf .string) false [97, 13, 98] ++ d.lineDelimiter)
        ≠ .ok [[97, 13, 98]] := by
  have h : ({ fieldDelimiter := .text [9], quote := .text [1] } : Settings).dialect
      = .ok ⟨9, .ofChar ';', "\n", some 1, none, none, false, false⟩ := rfl
  refine ⟨_, h, rfl, fun hread => ?_⟩
  have hframed := (Dialect.recordFields_fieldText (isChecked_of_dialect h) rfl _ _ _).1 hread
  rcases hframed with hmust | hno
  · cases hmust
  · cases hno 13 (by simp)

end Delimited
