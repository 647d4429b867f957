import Delimited.Dialect.Settings
import Delimited.Proofs.Result

/-!
# What a checked dialect keeps to

A dialect need not be unambiguous, but one that `Settings.dialect` makes is: its four characters are
distinct and none of them is a line break, its line delimiter is one of four, and no structural
character stands in its null literal. `Dialect.IsChecked` names these facts and
`Settings.isChecked_of_dialect` proves them, so that what is shown of dialects need not go back to
the checks.
-/

namespace Delimited

/-- The unambiguity of a dialect. -/
structure Dialect.IsChecked (d : Dialect) : Prop where
  /-- The field delimiter is no line break. -/
  fieldDelimiter_break : d.fieldDelimiter.isLineBreak = false
  /-- The element delimiter is no line break. -/
  elementDelimiter_break : d.elementDelimiter.isLineBreak = false
  /-- The quote is no line break. -/
  quote_break : ∀ q, d.quote = some q → q.isLineBreak = false
  /-- The escape is no line break. -/
  escape_break : ∀ e, d.escape = some e → e.isLineBreak = false
  /-- The two delimiters differ. -/
  delimiters_ne : d.fieldDelimiter ≠ d.elementDelimiter
  /-- The quote is not the field delimiter. -/
  quote_ne_field : d.quote ≠ some d.fieldDelimiter
  /-- The quote is not the element delimiter. -/
  quote_ne_element : d.quote ≠ some d.elementDelimiter
  /-- The escape is not the field delimiter. -/
  escape_ne_field : d.escape ≠ some d.fieldDelimiter
  /-- The escape is not the element delimiter. -/
  escape_ne_element : d.escape ≠ some d.elementDelimiter
  /-- The escape is not the quote. -/
  escape_ne_quote : ∀ e, d.escape = some e → d.quote ≠ some e
  /-- The line delimiter is nothing or one of the three line breaks. -/
  lineDelimiter_mem : d.lineDelimiter ∈ Settings.lineDelimiters
  /-- No structural character stands in the null literal. -/
  nullLiteral_plain : ∀ literal, d.nullLiteral = some literal → ∀ c ∈ literal,
    c ≠ d.fieldDelimiter ∧ c ≠ d.elementDelimiter ∧ c.isLineBreak = false ∧ d.quote ≠ some c

/-- The dialect of the default settings. -/
def Dialect.standard : Dialect where
  fieldDelimiter := .ofChar ','
  elementDelimiter := .ofChar ';'
  lineDelimiter := "\n"
  quote := some (.ofChar '"')
  escape := none
  nullLiteral := none
  allowComments := false
  ignoreMalformed := false

namespace Settings

/-- A checked character is no line break. -/
theorem isLineBreak_of_character {name : SettingName} {v : Value} {c : CodePoint}
    (h : character name v = .ok c) : c.isLineBreak = false := by
  unfold character at h
  split at h
  · split at h
    · cases h
    · next hc => cases h; simpa using hc
  · cases h

/-- A checked optional character is no line break. -/
theorem isLineBreak_of_optionalCharacter {name : SettingName} {v : Value} {c : CodePoint}
    (h : optionalCharacter name v = .ok (some c)) : c.isLineBreak = false := by
  unfold optionalCharacter at h
  split at h
  · cases h
  · cases hc : character name v with
    | error e => simp [hc, Except.map] at h
    | ok c' =>
      simp only [hc, Except.map, Except.ok.injEq, Option.some.injEq] at h
      exact h ▸ isLineBreak_of_character hc

/-- Characters that pass the check are pairwise distinct. -/
theorem pairwise_of_checkDistinct {l : List (SettingName × CodePoint)}
    (h : checkDistinct l = .ok ()) : (l.map Prod.snd).Pairwise (· ≠ ·) := by
  induction l with
  | nil => exact .nil
  | cons a rest ih =>
    obtain ⟨name, c⟩ := a
    unfold checkDistinct at h
    split at h
    · cases h
    · next hfind =>
      refine List.pairwise_cons.2 ⟨fun b hb => ?_, ih h⟩
      obtain ⟨x, hx, rfl⟩ := List.mem_map.1 hb
      have hne := List.find?_eq_none.1 hfind x hx
      exact fun heq => hne (by simpa using heq.symm)

/-- A checked line delimiter is one of the four. -/
theorem mem_of_checkLineDelimiter {v : Value} {t : Text} (h : checkLineDelimiter v = .ok t) :
    t ∈ lineDelimiters := by
  unfold checkLineDelimiter at h
  split at h
  · split at h
    · next hmem => cases h; simpa using hmem
    · cases h
  · cases h

/-- A checked null literal holds none of the reserved characters. -/
theorem notMem_of_checkNullLiteral {reserved : List CodePoint} {v : Value} {literal : Text}
    (h : checkNullLiteral reserved v = .ok (some literal)) : ∀ c ∈ reserved, c ∉ literal := by
  unfold checkNullLiteral at h
  split at h
  · cases h
  · next t =>
    split at h
    · next hsort =>
      cases h
      -- The characters found are sorted for the message; none are found.
      have hperm := List.mergeSort_perm (reserved.filter literal.contains) (· ≤ ·)
      rw [hsort] at hperm
      have hnil : reserved.filter literal.contains = [] := List.nil_perm.1 hperm
      intro c hc hmem
      exact List.filter_eq_nil_iff.1 hnil c hc (by simpa using hmem)
    · cases h
  · cases h

/-- A text with none of the reserved characters is a null literal. -/
theorem checkNullLiteral_of_notMem {reserved : List CodePoint} {literal : Text}
    (h : ∀ c ∈ reserved, c ∉ literal) :
    checkNullLiteral reserved (.text literal) = .ok (some literal) := by
  have hfilter : reserved.filter literal.contains = [] :=
    List.filter_eq_nil_iff.2 fun c hc => by simpa using h c hc
  rw [checkNullLiteral, hfilter, List.mergeSort_nil]

/-- Pairwise distinct characters, two of which may be missing, one by one. -/
theorem ne_of_pairwise {f e : CodePoint} {q x : Option CodePoint}
    (h : ([f, e] ++ q.toList ++ x.toList).Pairwise (· ≠ ·)) :
    f ≠ e ∧ q ≠ some f ∧ q ≠ some e ∧ x ≠ some f ∧ x ≠ some e ∧ ∀ c, x = some c → q ≠ some c := by
  cases q <;> cases x <;> simp at h ⊢ <;> grind

/-- The checks that settings pass if they make a dialect. -/
structure Checks (s : Settings) (d : Dialect) : Prop where
  /-- The field delimiter is a character. -/
  fieldDelimiter : character .fieldDelimiter s.fieldDelimiter = .ok d.fieldDelimiter
  /-- So is the element delimiter. -/
  elementDelimiter : character .elementDelimiter s.elementDelimiter = .ok d.elementDelimiter
  /-- So is the quote, if there is one. -/
  quote : optionalCharacter .quote s.quote = .ok d.quote
  /-- So is the escape, if there is one. -/
  escape : optionalCharacter .escape s.escape = .ok d.escape
  /-- No character is used twice. -/
  distinct : checkDistinct ([(.fieldDelimiter, d.fieldDelimiter),
    (.elementDelimiter, d.elementDelimiter)] ++ named .quote d.quote ++ named .escape d.escape)
      = .ok ()
  /-- The line delimiter is one. -/
  lineDelimiter : checkLineDelimiter s.lineDelimiter = .ok d.lineDelimiter
  /-- The null literal has no structural characters. -/
  nullLiteral : checkNullLiteral ([d.fieldDelimiter, d.elementDelimiter, .ofChar '\r', .ofChar '\n']
    ++ d.quote.toList) s.nullLiteral = .ok d.nullLiteral
  /-- Comments are read or not. -/
  allowComments : flag .allowComments s.allowComments = .ok d.allowComments
  /-- Malformed records are tolerated or not. -/
  ignoreMalformed : flag .ignoreMalformed s.ignoreMalformed = .ok d.ignoreMalformed

/-- Settings make a dialect if they pass all checks. -/
theorem dialect_eq_ok {s : Settings} {d : Dialect} : s.dialect = .ok d ↔ s.Checks d := by
  constructor
  · intro h
    unfold dialect at h
    obtain ⟨f, hf, h⟩ := Except.bind_eq_ok.1 h
    obtain ⟨e, he, h⟩ := Except.bind_eq_ok.1 h
    obtain ⟨q, hq, h⟩ := Except.bind_eq_ok.1 h
    obtain ⟨x, hx, h⟩ := Except.bind_eq_ok.1 h
    obtain ⟨_, hdistinct, h⟩ := Except.bind_eq_ok.1 h
    obtain ⟨l, hl, h⟩ := Except.bind_eq_ok.1 h
    obtain ⟨n, hn, h⟩ := Except.bind_eq_ok.1 h
    obtain ⟨comments, hcomments, h⟩ := Except.bind_eq_ok.1 h
    obtain ⟨malformed, hmalformed, h⟩ := Except.bind_eq_ok.1 h
    cases h
    exact ⟨hf, he, hq, hx, hdistinct, hl, hn, hcomments, hmalformed⟩
  · intro h
    exact Except.bind_eq_ok.2 ⟨_, h.fieldDelimiter, Except.bind_eq_ok.2 ⟨_, h.elementDelimiter,
      Except.bind_eq_ok.2 ⟨_, h.quote, Except.bind_eq_ok.2 ⟨_, h.escape, Except.bind_eq_ok.2
        ⟨_, h.distinct, Except.bind_eq_ok.2 ⟨_, h.lineDelimiter, Except.bind_eq_ok.2
          ⟨_, h.nullLiteral, Except.bind_eq_ok.2 ⟨_, h.allowComments, Except.bind_eq_ok.2
            ⟨_, h.ignoreMalformed, rfl⟩⟩⟩⟩⟩⟩⟩⟩⟩

/-- A dialect that settings make is unambiguous. -/
theorem isChecked_of_dialect {s : Settings} {d : Dialect} (h : s.dialect = .ok d) :
    d.IsChecked := by
  obtain ⟨f, e, l, q, x, n, comments, malformed⟩ := d
  obtain ⟨hf, he, hq, hx, hdistinct, hl, hn, -, -⟩ := dialect_eq_ok.1 h
  dsimp only at hf he hq hx hdistinct hl hn
  -- What they say of the characters.
  have hpair : ([f, e] ++ q.toList ++ x.toList).Pairwise (· ≠ ·) := by
    simpa [named, Function.comp_def] using pairwise_of_checkDistinct hdistinct
  obtain ⟨hfe, hqf, hqe, hxf, hxe, hxq⟩ := ne_of_pairwise hpair
  have hplain : ∀ literal, n = some literal → ∀ c ∈ literal,
      c ≠ f ∧ c ≠ e ∧ c.isLineBreak = false ∧ q ≠ some c := by
    rintro literal rfl c hc
    have hnot := notMem_of_checkNullLiteral hn
    refine ⟨?_, ?_, ?_, ?_⟩
    · rintro rfl; exact hnot c (by simp) hc
    · rintro rfl; exact hnot c (by simp) hc
    · rw [CodePoint.isLineBreak, Bool.or_eq_false_iff, beq_eq_false_iff_ne, beq_eq_false_iff_ne]
      constructor
      · rintro rfl; exact hnot _ (by simp) hc
      · rintro rfl; exact hnot _ (by simp) hc
    · rintro rfl; exact hnot c (by simp) hc
  have hqbreak : ∀ c, q = some c → c.isLineBreak = false := by
    rintro c rfl; exact isLineBreak_of_optionalCharacter hq
  have hxbreak : ∀ c, x = some c → c.isLineBreak = false := by
    rintro c rfl; exact isLineBreak_of_optionalCharacter hx
  exact ⟨isLineBreak_of_character hf, isLineBreak_of_character he, hqbreak, hxbreak, hfe, hqf, hqe,
    hxf, hxe, hxq, mem_of_checkLineDelimiter hl, hplain⟩

/-- The default settings make the standard dialect. -/
theorem dialect_default : ({} : Settings).dialect = .ok .standard := rfl

/-- Settings that make a dialect also do with a text without structural characters as null literal.
-/
theorem dialect_set_nullLiteral {s : Settings} {d : Dialect} (h : s.dialect = .ok d)
    {literal : Text} (hplain : ∀ c ∈ literal,
      c ≠ d.fieldDelimiter ∧ c ≠ d.elementDelimiter ∧ c.isLineBreak = false ∧ d.quote ≠ some c) :
    (s.set .nullLiteral (.text literal)).dialect = .ok { d with nullLiteral := some literal } := by
  have hchecks := dialect_eq_ok.1 h
  have hreserved : ∀ c ∈ [d.fieldDelimiter, d.elementDelimiter, .ofChar '\r', .ofChar '\n']
      ++ d.quote.toList, c ∉ literal := by
    have hcr : CodePoint.isLineBreak (.ofChar '\r') = true := rfl
    have hlf : CodePoint.isLineBreak (.ofChar '\n') = true := rfl
    intro c hc hmem
    obtain ⟨hfield, helement, hbreak, hquote⟩ := hplain c hmem
    simp only [List.mem_append, List.mem_cons, List.not_mem_nil, or_false, Option.mem_toList] at hc
    rcases hc with (rfl | rfl | rfl | rfl) | hc
    · exact hfield rfl
    · exact helement rfl
    · rw [hcr] at hbreak
      cases hbreak
    · rw [hlf] at hbreak
      cases hbreak
    · exact hquote hc
  exact dialect_eq_ok.2 ⟨hchecks.fieldDelimiter, hchecks.elementDelimiter, hchecks.quote,
    hchecks.escape, hchecks.distinct, hchecks.lineDelimiter, checkNullLiteral_of_notMem hreserved,
    hchecks.allowComments, hchecks.ignoreMalformed⟩

end Settings

end Delimited
