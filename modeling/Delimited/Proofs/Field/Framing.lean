import Delimited.Field.Quoting
import Delimited.Proofs.Dialect.Checked
import Delimited.Proofs.Field.Unquoted

/-!
# Joined fields are split again

A text is *framed* in two ways: between quotes, with the quotes and escapes in it doubled, or as it
is, if nothing in it has a meaning outside of quotes. `split_join` says that framed texts, joined by
the delimiter and followed by line breaks in a record, are split into exactly these texts, for every
mixture of the two ways.

A framed text in front of a stop is a field of the grammar, whose meaning is the text
(`exists_form_of_frames`), so the joined texts are a line that has a form.
-/

namespace Delimited

open FieldUnit (textOf)

namespace Marks

variable {m : Marks} {record : Bool}

/-- The unit of a character that is doubled if it is a quote or an escape. -/
def doubledUnit (m : Marks) (c : CodePoint) : FieldUnit :=
  if m.quote = some c ∨ m.escape = some c then .pair c c else .single c

/-- The units of a doubled text are the doubled text. -/
theorem textOf_doubledUnit (m : Marks) (t : Text) :
    textOf (t.map m.doubledUnit) = Quoting.doubled m.quote m.escape t := by
  simp only [textOf, Quoting.doubled, List.flatMap_map]
  congr 1
  funext c
  unfold doubledUnit
  split <;> simp_all [FieldUnit.text]

/-- The units of a doubled text stand for the text. -/
theorem quotedMeaning_doubledUnit (m : Marks) (t : Text) :
    (t.map m.doubledUnit).map FieldUnit.quotedMeaning = t := by
  rw [List.map_map]
  refine List.map_id'' (fun c => ?_) t
  simp only [Function.comp_apply, doubledUnit]
  split <;> rfl

/-- The units of a doubled text may stand between quotes. -/
theorem quotedUnits_doubledUnit (m : Marks) (t : Text) : m.QuotedUnits (t.map m.doubledUnit) := by
  induction t with
  | nil => exact .nil
  | cons c t ih =>
    rw [List.map_cons, doubledUnit]
    by_cases hq : m.quote = some c
    · rw [if_pos (.inl hq)]
      exact .doubledQuote hq ih
    · by_cases he : m.escape = some c
      · rw [if_pos (.inr he)]
        exact .escapedEscape he ih
      · rw [if_neg (not_or.2 ⟨hq, he⟩)]
        exact .character hq (fun he' => absurd he' he) ih

/-- The written form of a text as one field: between quotes, or as it is. -/
inductive Frames (m : Marks) (record : Bool) : Text → Text → Prop where
  /-- The text stands between quotes. -/
  | enclosed {q : CodePoint} (hq : m.quote = some q) (t : Text) :
    Frames m record (Quoting.enclose q m.escape t) t
  /-- The text stands as it is. -/
  | bare {t : Text} (h : m.IsBare record t) : Frames m record t t

/-- A framed text in front of a stop is a field with the text as its meaning. -/
theorem exists_form_of_frames (h : m.IsDistinct) {f t after : Text} (hf : m.Frames record f t)
    (hafter : m.IsStopped record after) :
    ∃ form : FieldForm, m.IsField record after form ∧ form.text m = f ∧ form.meaning m = t ∧
      form.blanks = [] := by
  cases hf with
  | @enclosed q hq =>
    refine ⟨.quoted (t.map m.doubledUnit) [], .quoted hq (quotedUnits_doubledUnit m t) ?_ (by simp),
      ?_, quotedMeaning_doubledUnit m t, rfl⟩
    · exact fun c hc => h.quote_ne_of_isStopped hafter hc
    · simp [FieldForm.text, textOf_doubledUnit, Quoting.enclose, hq]
  | bare hb =>
    refine ⟨.bare (m.cutBare f), .bare (fun c hc => hb.head_ne_quote c ?_)
      (bareUnits_cutBare hb.isStop_eq_false hb.getLast?_ne_escape after), textOf_cutBare m f, ?_,
      rfl⟩
    · rwa [textOf_cutBare] at hc
    · rw [FieldForm.meaning, ← decodeBare_eq_flatMap]
      exact decodeBare_eq_self_iff.2 hb.isBarePair_eq_false

/-- A framed text is the field in front of a stop. -/
theorem field_of_frames (h : m.IsDistinct) {f t rest : Text} (hf : m.Frames record f t)
    (hrest : m.IsStopped record rest) : m.field record (f ++ rest) = .ok (f, rest) := by
  obtain ⟨form, hform, rfl, -⟩ := exists_form_of_frames h hf hrest
  exact field_form h hform hrest

/-- A framed text stands for the text. -/
theorem decode_of_frames (h : m.IsDistinct) {f t : Text} (hf : m.Frames record f t) :
    m.decode f = .ok t := by
  have hend : m.IsStopped record [] := by simp [IsStopped]
  obtain ⟨form, hform, rfl, rfl, hblanks⟩ := exists_form_of_frames h hf hend
  exact decode_form hform (by simp [hblanks])

/-- Framed texts in front of line breaks, or of nothing, are fields with the texts as meanings. -/
theorem exists_forms_of_frames (h : m.IsDistinct) {d : CodePoint} (hd : m.delimiter = some d)
    {breaks : Text} (hbreaks : m.IsStopped record breaks) {fs ts : List Text} (hne : fs ≠ [])
    (hfs : List.Forall₂ (m.Frames record) fs ts) :
    ∃ forms, m.IsFields record breaks forms ∧ forms.map (FieldForm.text m) = fs ∧
      forms.map (FieldForm.meaning m) = ts ∧ ∀ form ∈ forms, form.blanks = [] := by
  induction hfs with
  | nil => exact absurd rfl hne
  | @cons f t fs ts hf hfs ih =>
    cases hfs with
    | nil =>
      obtain ⟨form, hform, rfl, rfl, hblanks⟩ := exists_form_of_frames h hf hbreaks
      exact ⟨[form], .last hform, rfl, rfl, by simpa using hblanks⟩
    | cons _ _ =>
      obtain ⟨forms, hforms, htext, hmeaning, hblanks⟩ := ih (by simp)
      obtain ⟨g, gs, rfl⟩ := hforms.exists_cons
      have hstop := isStopped_cons (isStop_delimiter hd : m.isStop record d = true)
        (FieldForm.textOf m (g :: gs) ++ breaks)
      obtain ⟨form, hform, rfl, rfl, hblank⟩ := exists_form_of_frames h hf hstop
      refine ⟨form :: g :: gs, .cons (by simpa [hd] using hform) hforms, by simpa using htext,
        by simpa using hmeaning, fun x hx => ?_⟩
      rcases List.mem_cons.1 hx with rfl | hx
      · exact hblank
      · exact hblanks x hx

/-- Framed texts, joined and followed by line breaks in a record, are split into the texts. -/
theorem split_join (h : m.IsDistinct) {d : CodePoint} (hd : m.delimiter = some d)
    {breaks : Text} (hbreaks : ∀ c ∈ breaks, c.isLineBreak = true)
    (hrecord : record = false → breaks = []) {fs ts : List Text} (hne : fs ≠ [])
    (hfs : List.Forall₂ (m.Frames record) fs ts) :
    m.split record (Text.join [d] fs ++ breaks) = .ok ts := by
  obtain ⟨forms, hforms, rfl, rfl, hblanks⟩ :=
    exists_forms_of_frames h hd (isStopped_breaks hbreaks hrecord) hne hfs
  have hform : m.IsForm record (Text.join [d] (forms.map (FieldForm.text m)) ++ breaks)
      ⟨forms, breaks⟩ := ⟨hforms, hbreaks, hrecord, by simp [FieldForm.textOf, hd]⟩
  exact split_form h hd hform fun f hf => by simp [hblanks f hf]

end Marks

namespace Dialect.IsChecked

variable {d : Dialect}

/-- The marks that split a record are distinct. -/
theorem isDistinct_field (h : d.IsChecked) : (d.marks d.fieldDelimiter).IsDistinct where
  quote_ne_delimiter := by rintro c hc; cases hc; exact h.quote_ne_field
  escape_ne_delimiter := by rintro c hc; cases hc; exact h.escape_ne_field
  escape_ne_quote := fun c hq he => h.escape_ne_quote c he hq
  delimiter_break := by rintro c hc; cases hc; exact h.fieldDelimiter_break
  quote_break := h.quote_break
  escape_break := h.escape_break

/-- The marks that split a composite column are distinct. -/
theorem isDistinct_element (h : d.IsChecked) : (d.marks d.elementDelimiter).IsDistinct where
  quote_ne_delimiter := by rintro c hc; cases hc; exact h.quote_ne_element
  escape_ne_delimiter := by rintro c hc; cases hc; exact h.escape_ne_element
  escape_ne_quote := fun c hq he => h.escape_ne_quote c he hq
  delimiter_break := by rintro c hc; cases hc; exact h.elementDelimiter_break
  quote_break := h.quote_break
  escape_break := h.escape_break

end Dialect.IsChecked

end Delimited
