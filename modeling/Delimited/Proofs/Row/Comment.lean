import Delimited.Proofs.Field.Quoting
import Delimited.Proofs.Row.Columns
import Delimited.Proofs.Row.Decoding

/-!
# Rows and comments

Where comments are read, a line that starts with a comment sign, blanks left out, is one. An encoded
row must not look like that. The first column is quoted if its text would make the line a comment,
but what the line starts with can also be a delimiter, a quote or the null literal; and behind blank
delimiters and empty columns it can be a later column. `AvoidsComments` says of a dialect that none
of these is a comment sign, and `encodeText_not_comment_iff` that this is exactly what it takes.
-/

namespace Delimited

namespace Text

/-- A text that is not blank decides for what follows whether there is a comment. -/
theorem isComment_append_of_exists {s : Text} (h : ∃ c ∈ s, c.isBlank = false) (t : Text) :
    isComment (s ++ t) = s.isComment := by
  obtain ⟨x, hx, hblank⟩ := h
  have hne : s.dropWhile CodePoint.isBlank ≠ [] := fun hnil => by
    have := List.dropWhile_eq_nil_iff.1 hnil x hx
    rw [hblank] at this
    cases this
  rw [isComment, isComment, trimLeft, trimLeft, List.dropWhile_append, if_neg (by simpa using hne),
    List.head?_append_of_ne_nil _ hne]

/-- A blank text leaves it to what follows whether there is a comment. -/
theorem isComment_append_of_forall {s : Text} (h : ∀ c ∈ s, c.isBlank = true) (t : Text) :
    isComment (s ++ t) = t.isComment := by
  rw [isComment, isComment, trimLeft, trimLeft, List.dropWhile_append_of_pos h]

/-- A blank text is no comment. -/
theorem isComment_eq_false_of_forall {s : Text} (h : ∀ c ∈ s, c.isBlank = true) :
    s.isComment = false := by
  have hnil := isComment_append_of_forall h []
  rw [List.append_nil] at hnil
  rw [hnil]
  rfl

/-- Blanks make no comment of a text, wherever they are put, nor do they make it none. -/
theorem isComment_insert {blanks : Text} (h : ∀ c ∈ blanks, c.isBlank = true)
    (before after : Text) :
    isComment (before ++ (blanks ++ after)) = isComment (before ++ after) := by
  by_cases hall : ∀ c ∈ before, c.isBlank = true
  · rw [isComment_append_of_forall hall, isComment_append_of_forall h,
      isComment_append_of_forall hall]
  · have hexists : ∃ c ∈ before, c.isBlank = false := by simpa using hall
    rw [isComment_append_of_exists hexists, isComment_append_of_exists hexists]

/-- A text without a comment sign is no comment. -/
theorem isComment_eq_false_of_ne {s : Text} (h : ∀ c ∈ s, c ≠ commentSign) :
    s.isComment = false := by
  rw [isComment, beq_eq_false_iff_ne]
  intro hhead
  exact h _ ((List.dropWhile_suffix _).subset (List.mem_of_mem_head? hhead)) rfl

/-- A character that is not blank decides whether there is a comment. -/
theorem isComment_cons {c : CodePoint} (hblank : c.isBlank = false) (t : Text) :
    isComment (c :: t) = (c == commentSign) := by
  simp [isComment, trimLeft, hblank]

/-- A blank leaves it to what follows whether there is a comment. -/
theorem isComment_cons_of_isBlank {c : CodePoint} (hblank : c.isBlank = true) (t : Text) :
    isComment (c :: t) = t.isComment :=
  isComment_append_of_forall (s := [c]) (by simpa using hblank) t

/-- Fields that are no comments make no comment when they are joined. Behind a delimiter that is not
blank only the first one counts. -/
theorem isComment_join {delimiter : CodePoint} {breaks : Text}
    (hdelimiter : delimiter ≠ commentSign) (hbreaks : ∀ c ∈ breaks, c.isBlank = true)
    {field : Text} {fields : List Text} (hfield : field.isComment = false)
    (hfields : delimiter.isBlank = true → ∀ f ∈ fields, f.isComment = false) :
    (join [delimiter] (field :: fields) ++ breaks).isComment = false := by
  induction fields generalizing field with
  | nil =>
    rw [join, List.intercalate_singleton]
    by_cases hall : ∀ c ∈ field, c.isBlank = true
    · rw [isComment_append_of_forall hall]
      exact isComment_eq_false_of_forall hbreaks
    · have hexists : ∃ c ∈ field, c.isBlank = false := by simpa using hall
      rwa [isComment_append_of_exists hexists]
  | cons next fields ih =>
    have hjoin : join [delimiter] (field :: next :: fields) ++ breaks
        = field ++ ([delimiter] ++ (join [delimiter] (next :: fields) ++ breaks)) := by
      simp [join, List.intercalate_cons_cons]
    rw [hjoin]
    by_cases hall : ∀ c ∈ field, c.isBlank = true
    · rw [isComment_append_of_forall hall]
      cases hblank : delimiter.isBlank with
      | false =>
        rw [List.singleton_append, isComment_cons hblank]
        simpa using hdelimiter
      | true =>
        -- The first field that is not blank decides, wherever it stands.
        rw [List.singleton_append, isComment_cons_of_isBlank hblank]
        exact ih (hfields hblank next (by simp)) fun _ f hf => hfields hblank f (by simp [hf])
    · have hexists : ∃ c ∈ field, c.isBlank = false := by simpa using hall
      rwa [isComment_append_of_exists hexists]

end Text

namespace Dialect

variable {d : Dialect}

/-- Nothing that a line can start with is a comment sign, unless it is quoted. -/
structure AvoidsComments (d : Dialect) : Prop where
  /-- The field delimiter is no comment sign. -/
  delimiter : d.fieldDelimiter ≠ commentSign
  /-- The quote is no comment sign, and it is not blank. -/
  quote : ∀ q, d.quote = some q → q ≠ commentSign ∧ q.isBlank = false
  /-- The null literal is no comment. -/
  nullText : d.nullText.isComment = false
  /-- Behind blank delimiters a comment sign is quoted wherever it stands. -/
  blank : d.fieldDelimiter.isBlank = true →
    commentSign.val ≤ d.highestMark ∨ d.escape = some commentSign

/-- A column's text between quotes is no comment. -/
theorem AvoidsComments.isComment_enclose (h : d.AvoidsComments) {q : CodePoint}
    (hq : d.quote = some q) (t : Text) : (d.enclose t).isComment = false := by
  obtain ⟨hsign, hblank⟩ := h.quote q hq
  rw [enclose, hq]
  simpa [Quoting.enclose, Text.isComment_cons hblank] using hsign

/-- The first column of a line is no comment. -/
theorem AvoidsComments.isComment_first (h : d.AvoidsComments) {q : CodePoint}
    (hq : d.quote = some q) (hcomments : d.allowComments = true) {type : ColumnType} {v : Value}
    {t field : Text} (hstands : d.Stands true type v t field) : field.isComment = false := by
  cases hstands with
  | null => exact h.nullText
  | text =>
    unfold fieldText
    split
    · exact h.isComment_enclose hq t
    · next hmust =>
      cases hcomment : t.isComment with
      | false => rfl
      | true =>
        have hquoting := isQuoting_of_quote hq
        exact absurd (by simp [mustQuoteField, hquoting, hcomments, hcomment]) hmust

/-- Behind blank delimiters no column is a comment: if it stands as it is, there is no comment sign
in it. -/
theorem AvoidsComments.isComment_stands (h : d.AvoidsComments) {q : CodePoint}
    (hq : d.quote = some q) (hblank : d.fieldDelimiter.isBlank = true) {first : Bool}
    {type : ColumnType} {v : Value} {t field : Text} (hstands : d.Stands first type v t field) :
    field.isComment = false := by
  cases hstands with
  | null => exact h.nullText
  | text hv hfills =>
    unfold fieldText
    split
    · exact h.isComment_enclose hq t
    · next hmust =>
      refine Text.isComment_eq_false_of_ne fun c hc hsign => ?_
      have hquoting := isQuoting_of_quote hq
      cases hfree : type.isFreeText with
      | true =>
        have hany : (t.any fun c => c.val ≤ d.highestMark || d.quote == some c ||
            d.escape == some c) = false := by
          simp only [mustQuoteField, hquoting, hfree, Bool.true_and, Bool.or_eq_true, if_true,
            not_or, Bool.not_eq_true] at hmust
          exact hmust.2
        have hnot := List.any_eq_false.1 hany c hc
        simp only [Bool.or_eq_true, decide_eq_true_eq, beq_iff_eq, not_or, hsign] at hnot
        rcases h.blank hblank with hceiling | hescape
        · exact hnot.1.1 hceiling
        · exact hnot.2 hescape
      | false =>
        -- What is no text and no composite is a number, a date or the like.
        cases hfills with
        | @leaf leafType _ _ hwrites =>
          have htype : leafType ≠ .string := by simpa [ColumnType.isFreeText] using hfree
          exact (hwrites.isPhrase htype).ne_commentSign c hc hsign
        | row => cases hfree
        | array => cases hfree

/-- No line of a dialect that avoids comments is a comment. -/
theorem AvoidsComments.isComment_line (h : d.AvoidsComments) (hd : d.IsChecked) {q : CodePoint}
    (hq : d.quote = some q) (hcomments : d.allowComments = true) {columns : List Column}
    (hne : columns ≠ []) {values : List Value} {ts fields : List Text}
    (hlines : d.Lines true columns values ts fields) :
    (Text.join [d.fieldDelimiter] fields ++ d.lineDelimiter).isComment = false := by
  have hrest : ∀ {first : Bool} {columns : List Column} {values : List Value}
      {ts fields : List Text}, d.Lines first columns values ts fields →
      d.fieldDelimiter.isBlank = true → ∀ f ∈ fields, f.isComment = false := by
    intro first columns values ts fields hlines hblank
    induction hlines with
    | nil => simp
    | cons hstands _ ih =>
      exact List.forall_mem_cons.2 ⟨h.isComment_stands hq hblank hstands, ih⟩
  cases hlines with
  | nil => exact absurd rfl hne
  | cons hstands hlines =>
    exact Text.isComment_join h.delimiter
      (fun c hc => CodePoint.isBlank_of_isLineBreak (hd.isLineBreak_of_mem c hc))
      (h.isComment_first hq hcomments hstands) (hrest hlines)

end Dialect

/-! ## Lines that are comments -/

/-- A comment is not blank. -/
theorem Text.exists_of_isComment {t : Text} (h : t.isComment = true) :
    ∃ c ∈ t, c.isBlank = false := by
  refine Classical.byContradiction fun hnone => ?_
  have hall : ∀ c ∈ t, c.isBlank = true := by simpa using hnone
  rw [isComment_eq_false_of_forall hall] at h
  cases h

namespace Schema

/-- The schema of two columns of texts. -/
def twoTexts : Schema where
  columns := [⟨"a", .leaf .string⟩, ⟨"b", .leaf .string⟩]
  columns_ne_nil := by simp
  name_ne_nil := by decide
  names_nodup := by decide

end Schema

namespace Dialect

variable {d : Dialect}

/-- A text without surrogates stands in a line. -/
theorem stands_text {t : Text} (h : ∀ c ∈ t, c.isSurrogate = false) (first : Bool) :
    d.Stands first (.leaf .string) (.text t) t (d.fieldText (.leaf .string) first t) :=
  .text (by simp) (.leaf (.string t)) h

/-- The line of two values in columns of texts. -/
theorem encodeText_twoTexts {v w : Value} {t u field next : Text}
    (hv : d.Stands true (.leaf .string) v t field)
    (hw : d.Stands false (.leaf .string) w u next) :
    (Codec.mk .twoTexts d).encodeText (.sequence .tuple [v, w])
      = .ok (field ++ (d.fieldDelimiter :: (next ++ d.lineDelimiter))) := by
  refine Codec.encodeText_eq_ok.2 ⟨[v, w], [t, u], [field, next], rfl, .cons hv (.cons hw .nil), ?_⟩
  simp [Text.join, List.intercalate_cons_cons]

/-- The empty text is not quoted in a column of texts. -/
theorem fieldText_nil (d : Dialect) (first : Bool) : d.fieldText (.leaf .string) first [] = [] := by
  have hcomment : Text.isComment [] = false := rfl
  simp [fieldText, mustQuoteField, ColumnType.isOfAnySize, ColumnType.isFreeText, hcomment]

/-- A dialect with a quote in which no line is a comment avoids comments. -/
theorem avoidsComments_of_forall {q : CodePoint} (hq : d.quote = some q)
    (hcomments : d.allowComments = true)
    (hall : ∀ schema row line, (Codec.mk schema d).encodeText row = .ok line →
      line.isComment = false) : d.AvoidsComments := by
  have hquoting := isQuoting_of_quote hq
  have hsignBlank : CodePoint.isBlank commentSign = false := rfl
  have hsign : ∀ t : Text, Text.isComment (commentSign :: t) = true := fun t => by
    rw [Text.isComment_cons hsignBlank, beq_self_eq_true]
  have hempty : ∀ c ∈ ([] : Text), c.isSurrogate = false := by simp
  have hencodable : ∀ c ∈ [commentSign], c.isSurrogate = false := fun c hc => by
    rw [List.mem_singleton.1 hc]
    rfl
  have hdelimiter : d.fieldDelimiter ≠ commentSign := by
    intro heq
    -- Two empty texts make a line that starts with the delimiter.
    have hline := hall _ _ _ (encodeText_twoTexts (stands_text (d := d) hempty true)
      (stands_text hempty false))
    rw [fieldText_nil, fieldText_nil, List.nil_append, heq, hsign] at hline
    cases hline
  have hquote : q ≠ commentSign ∧ q.isBlank = false := by
    -- A comment sign in the first column is quoted.
    have hmust : d.mustQuoteField (.leaf .string) true [commentSign] = true := by
      simp [mustQuoteField, hquoting, hcomments, hsign]
    have hline := hall _ _ _ (Codec.encodeText_single (stands_text (d := d) hencodable true))
    have hdoubled : ∃ rest, Quoting.doubled (some q) d.escape [commentSign]
        = commentSign :: rest := by
      simp only [Quoting.doubled, List.flatMap_cons, List.flatMap_nil, List.append_nil]
      split
      · exact ⟨_, rfl⟩
      · exact ⟨_, rfl⟩
    obtain ⟨rest, hdoubled⟩ := hdoubled
    rw [fieldText, if_pos hmust, enclose, hq] at hline
    simp only [Quoting.enclose, hdoubled, List.cons_append] at hline
    constructor
    · rintro rfl
      rw [hsign] at hline
      cases hline
    · refine Bool.eq_false_iff.2 fun hblank => ?_
      rw [Text.isComment_cons_of_isBlank hblank, hsign] at hline
      cases hline
  have hnull : d.nullText.isComment = false := by
    -- The line of a null starts with the null literal.
    refine Bool.eq_false_iff.2 fun hcomment => ?_
    have hline := hall (.single (.leaf .string)) _ _ (Codec.encodeText_single .null)
    rw [Text.isComment_append_of_exists (Text.exists_of_isComment hcomment), hcomment] at hline
    cases hline
  refine ⟨hdelimiter, fun c hc => ?_, hnull, fun hblank => ?_⟩
  · rw [hq] at hc
    exact Option.some.inj hc ▸ hquote
  · -- Behind an empty first column and a blank delimiter stands a comment sign.
    refine Classical.byContradiction fun hnone => ?_
    obtain ⟨hceiling, hescape⟩ := not_or.1 hnone
    have hquoteSign : d.quote ≠ some commentSign := fun heq =>
      hquote.1 (Option.some.inj (hq.symm.trans heq))
    have hbare : d.fieldText (.leaf .string) false [commentSign] = [commentSign] := by
      have hmust : d.mustQuoteField (.leaf .string) false [commentSign] = false := by
        simp [mustQuoteField, ColumnType.isOfAnySize, ColumnType.isFreeText, hquoteSign, hescape,
          Nat.not_le.1 hceiling]
      rw [fieldText, hmust]
      rfl
    have hline := hall _ _ _ (encodeText_twoTexts (stands_text (d := d) hempty true)
      (stands_text hencodable false))
    rw [fieldText_nil, hbare, List.nil_append, List.singleton_append] at hline
    rw [Text.isComment_cons_of_isBlank hblank, hsign] at hline
    cases hline

end Dialect

/-- A line is taken for a comment only if it is one. -/
theorem Codec.decode_ne_comment {c : Codec} {line : Text} (h : line.isComment = false) (t : Text) :
    c.decode (.text line) ≠ .ok (.comment t) := by
  intro hdecode
  obtain ⟨htext, -, hcomment⟩ := decode_eq_comment.1 hdecode
  cases htext
  cases h.symm.trans hcomment

/-- For a dialect with a quote that reads comments: no encoded row of any schema is a comment, or
taken for one, if and only if the dialect avoids comments. -/
theorem Settings.encodeText_not_comment_iff {s : Settings} {d : Dialect} {q : CodePoint}
    (h : s.dialect = .ok d) (hq : d.quote = some q) (hcomments : d.allowComments = true) :
    (∀ schema row line, (Codec.mk schema d).encodeText row = .ok line →
      line.isComment = false ∧ ∀ t, (Codec.mk schema d).decode (.text line) ≠ .ok (.comment t)) ↔
        d.AvoidsComments := by
  constructor
  · exact fun hall => Dialect.avoidsComments_of_forall hq hcomments fun schema row line hline =>
      (hall schema row line hline).1
  · intro havoids schema row line hline
    obtain ⟨values, ts, fields, -, hlines, rfl⟩ := Codec.encodeText_eq_ok.1 hline
    have hcomment := havoids.isComment_line (isChecked_of_dialect h) hq hcomments
      schema.columns_ne_nil hlines
    exact ⟨hcomment, Codec.decode_ne_comment hcomment⟩

/-- The default settings with comments avoid them: a comma is not blank, and the ceiling of quoted
characters is above the comment sign. -/
theorem Settings.encodeText_not_comment_default :
    ∃ d : Dialect, ({ allowComments := .bool true } : Settings).dialect = .ok d ∧
      ∀ schema row line, (Codec.mk schema d).encodeText row = .ok line →
        line.isComment = false ∧
          ∀ t, (Codec.mk schema d).decode (.text line) ≠ .ok (.comment t) := by
  have h : ({ allowComments := .bool true } : Settings).dialect
      = .ok ⟨.ofChar ',', .ofChar ';', "\n", some (.ofChar '"'), none, none, true, false⟩ := rfl
  have hblank : CodePoint.isBlank (.ofChar ',') = false := rfl
  refine ⟨_, h, (Settings.encodeText_not_comment_iff h rfl rfl).2 ⟨by decide, ?_, rfl, ?_⟩⟩
  · intro q hq
    cases hq
    exact ⟨by decide, rfl⟩
  · intro hdelimiter
    rw [hblank] at hdelimiter
    cases hdelimiter

/-- Fields between tabs under the default quote: behind an empty first column a comment sign in the
second one is not quoted, and the line is skipped as a comment. -/
theorem Settings.encodeText_comment_tab :
    ∃ (d : Dialect) (line : Text),
      ({ fieldDelimiter := .text [9], allowComments := .bool true } : Settings).dialect = .ok d ∧
      d.quote = some (.ofChar '"') ∧ d.allowComments = true ∧
      (Codec.mk .twoTexts d).encodeText (.sequence .list [.text [], .text [35, 49]]) = .ok line ∧
      line.isComment = true ∧
      (Codec.mk .twoTexts d).decode (.text line) = .ok (.comment line) := by
  have h : ({ fieldDelimiter := .text [9], allowComments := .bool true } : Settings).dialect
      = .ok ⟨9, .ofChar ';', "\n", some (.ofChar '"'), none, none, true, false⟩ := rfl
  exact ⟨_, [9, 35, 49, 10], h, rfl, rfl, rfl, rfl, rfl⟩

end Delimited
