import Delimited.Field.Loose
import Delimited.Proofs.Field.Grammar

/-!
# Raw fields and their line

Splitting a line into raw fields neither loses a character nor makes one up: joined by the delimiter
the fields are the line again, up to the line breaks that end a record, and each field alone is a
line of one field, itself. `join_rawFields` says so for all marks, ambiguous ones and such that are
no characters among them.

A field is read again without the rest of its line, so each of the runs that it is made of must not
need that rest. A quoted span ends where it did in front of anything but a quote
(`quotedSpan?_append`), the blanks behind it end with the field, and an unquoted run is read to its
end (`bareSpan_bareSpan`).
-/

namespace Delimited

namespace Marks

variable {m : Marks} {record : Bool}

/-- A quote that no other follows closes the span. -/
theorem quotedSpan?_quote {q : CodePoint} (hq : m.quote = some q) {after : Text}
    (hafter : ∀ c, after.head? = some c → m.quote ≠ some c) :
    m.quotedSpan? (q :: after) = some ([q], after) := by
  cases after with
  | nil => simp [quotedSpan?, hq]
  | cons d after =>
    have hd := hafter d rfl
    -- An escape that is the quote itself pairs with nothing but the quote, either.
    have hpair : ¬ m.isQuotedPair q d = true := by
      rw [isQuotedPair_iff]
      rintro (⟨he, hquote | hescape⟩ | ⟨-, hquote⟩)
      · exact hd hquote
      · exact hd (hq.trans (he.symm.trans hescape))
      · exact hd hquote
    simp [quotedSpan?, hpair, hq]

/-- A quoted span is read again in front of anything that does not start with a quote. -/
theorem quotedSpan?_append {t span after : Text} (h : m.quotedSpan? t = some (span, after))
    {other : Text} (hother : ∀ c, other.head? = some c → m.quote ≠ some c) :
    m.quotedSpan? (span ++ other) = some (span, other) := by
  fun_induction quotedSpan? m t generalizing span after with
  | case1 => cases h
  | case2 c hq =>
    cases h
    exact quotedSpan?_quote hq hother
  | case3 => cases h
  | case4 c d rest hpair ih =>
    obtain ⟨⟨span', after'⟩, hspan, heq⟩ := Option.map_eq_some_iff.1 h
    cases heq
    simp [quotedSpan?, hpair, ih hspan]
  | case5 c d rest hpair hq =>
    cases h
    exact quotedSpan?_quote hq hother
  | case6 c d rest hpair hq ih =>
    obtain ⟨⟨span', after'⟩, hspan, heq⟩ := Option.map_eq_some_iff.1 h
    cases heq
    -- The rest of the span starts with the next character, so that is what is looked at again.
    obtain ⟨q, units, -, -, hunits, -⟩ := exists_units_of_quotedSpan? hspan
    obtain ⟨x, tail, rfl⟩ := List.exists_cons_of_ne_nil
      (show span' ≠ [] by rw [hunits]; exact List.concat_ne_nil q _)
    cases append_of_quotedSpan? hspan
    have hread := ih hspan
    simp only [List.cons_append] at hread ⊢
    simp [quotedSpan?, hpair, hq, hread]

/-- An unquoted run is read to its end. -/
theorem bareSpan_bareSpan (m : Marks) (record : Bool) (t : Text) :
    m.bareSpan record (m.bareSpan record t).1 = ((m.bareSpan record t).1, []) := by
  fun_induction bareSpan m record t with
  | case1 => rfl
  | case2 c hstop => rfl
  | case3 c hstop => simp [bareSpan, hstop]
  | case4 c d rest hstop => rfl
  | case5 c d rest hstop he span after hspan ih =>
    rw [hspan] at ih
    simp [bareSpan, hstop, he, ih]
  | case6 c d rest hstop he span after hspan ih =>
    rw [hspan] at ih
    cases span with
    | nil => simp [bareSpan, hstop]
    | cons x span => simp [bareSpan, hstop, he, ih]

/-- A raw field is read again from its start to its end. -/
theorem field_of_field {t f left : Text} (h : m.field record t = .ok (f, left)) :
    m.field record f = .ok (f, []) := by
  unfold field at h
  split at h
  · cases h
    rfl
  · next c rest =>
    split at h
    · next hc =>
      split at h
      · cases h
      · next span after hspan =>
        obtain ⟨⟨blanks, left'⟩, hblanks, heq⟩ := Except.bind_eq_ok.1 h
        cases heq
        obtain ⟨-, -, -, -, -, hafter⟩ := exists_units_of_quotedSpan? hspan
        obtain ⟨hblank, -⟩ := isBlank_of_blanksAfterQuote hblanks
        rw [← append_of_blanksAfterQuote hblanks] at hafter
        have hspan' : m.quotedSpan? (span ++ blanks) = some (span, blanks) := by
          refine quotedSpan?_append hspan fun x hx => hafter x ?_
          rw [List.head?_append, hx]
          rfl
        have hend : m.IsStopped record [] := by simp [IsStopped]
        have hblanks' := blanksAfterQuote_append hblank hend
        rw [List.append_nil] at hblanks'
        simp [field, hc, hspan', hblanks', bind, Except.bind, pure, Except.pure]
    · next hc =>
      have hspan : m.bareSpan record (c :: rest) = (f, left) := Except.ok.inj h
      have hself := bareSpan_bareSpan m record (c :: rest)
      have hline := append_bareSpan m record (c :: rest)
      rw [hspan] at hself hline
      cases f with
      | nil => rfl
      | cons x f =>
        -- The run starts as the line does, which is not with a quote.
        cases hline
        simp [field, hc, hself]

/-- Each raw field of a line is the field at the start of some part of it. -/
theorem exists_field_of_fields {t : Text} {raws : List Text} (h : m.fields record t = .ok raws) :
    ∀ raw ∈ raws, ∃ rest left, m.field record rest = .ok (raw, left) := by
  fun_induction fields m record t generalizing raws with
  | case1 => cases h
  | case2 t f hfield =>
    cases h
    exact List.forall_mem_singleton.2 ⟨t, [], hfield⟩
  | case3 t f c rest hfield _ ih =>
    obtain ⟨others, hothers, rfl⟩ := Except.map_eq_ok.1 h
    exact List.forall_mem_cons.2 ⟨⟨t, c :: rest, hfield⟩, ih hothers⟩
  | case4 t f c rest hfield _ _ =>
    cases h
    exact List.forall_mem_singleton.2 ⟨t, c :: rest, hfield⟩
  | case5 => cases h

/-- Each raw field of a line is a line of one field. -/
theorem fields_of_fields {t : Text} {raws : List Text} (h : m.fields record t = .ok raws) :
    ∀ raw ∈ raws, m.fields record raw = .ok [raw] := by
  intro raw hraw
  obtain ⟨rest, left, hfield⟩ := exists_field_of_fields h raw hraw
  exact fields_of_field_nil (field_of_field hfield)

/-- The raw fields of a line, joined, are the line up to the line breaks that end it. -/
theorem exists_breaks_of_fields {d : CodePoint} (hd : m.delimiter = some d) {t : Text}
    {raws : List Text} (h : m.fields record t = .ok raws) :
    ∃ breaks, t = Text.join [d] raws ++ breaks ∧ (∀ c ∈ breaks, c.isLineBreak = true) ∧
      (record = false → breaks = []) := by
  obtain ⟨⟨forms, breaks⟩, hform, rfl⟩ := exists_forms_of_fields hd h
  refine ⟨breaks, ?_, hform.isLineBreak, hform.breaks_eq_nil⟩
  rw [← hform.text_eq, FieldForm.textOf, hd, Option.toList_some]

end Marks

/-- Splitting a line into raw fields loses and invents nothing. For every delimiter that is one
character, and whatever stands for the quote and the escape: where a line is split, it is its raw
fields with the delimiter between them, followed by line breaks in a record and by nothing
otherwise, and each raw field is split into itself alone. -/
theorem LooseMarks.join_rawFields {m : LooseMarks} {d : CodePoint} (hd : m.delimiter = [d])
    {record : Bool} {line : Text} {raws : List Text} (h : m.rawFields record line = .ok raws) :
    (∃ breaks, line = Text.join [d] raws ++ breaks ∧ (∀ c ∈ breaks, c.isLineBreak = true) ∧
        (record = false → breaks = [])) ∧
      ∀ raw ∈ raws, m.rawFields record raw = .ok [raw] := by
  have hdelimiter : m.characters.delimiter = some d := by
    simp [characters, hd, Value.character?]
  have hfields := Except.mapError_eq_ok.1 (Except.mapError_eq_ok.1 h)
  refine ⟨Marks.exists_breaks_of_fields hdelimiter hfields, fun raw hraw => ?_⟩
  have hself := Marks.fields_of_fields hfields raw hraw
  exact Except.mapError_eq_ok.2 (Except.mapError_eq_ok.2 hself)

/-- A quoted field with a blank behind it, an empty one, and one that ends with an escape and the
first of two line breaks, which it protects. -/
theorem LooseMarks.join_rawFields_escape :
    ∃ (m : LooseMarks) (breaks : Text), m = ⟨",", .text "\"", .text "\\"⟩ ∧
      m.rawFields true "\"a,\"\"\" ,,b\\\r\n" = .ok ["\"a,\"\"\" ", [], "b\\\r"] ∧
      Text.ofString "\"a,\"\"\" ,,b\\\r\n"
        = Text.join [.ofChar ','] ["\"a,\"\"\" ", [], "b\\\r"] ++ breaks ∧
      m.rawFields true "\"a,\"\"\" " = .ok ["\"a,\"\"\" "] ∧
      m.rawFields true "b\\\r" = .ok ["b\\\r"] := by
  have h : LooseMarks.rawFields ⟨",", .text "\"", .text "\\"⟩ true "\"a,\"\"\" ,,b\\\r\n"
      = .ok ["\"a,\"\"\" ", [], "b\\\r"] := by cbv
  obtain ⟨⟨breaks, hline, -, -⟩, hself⟩ := join_rawFields rfl h
  exact ⟨_, breaks, rfl, h, hline, hself _ (by simp), hself _ (by simp)⟩

end Delimited
