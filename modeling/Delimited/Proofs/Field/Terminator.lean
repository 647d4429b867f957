import Delimited.Proofs.Field.Grammar
import Delimited.Proofs.Text.Blank

/-!
# Line breaks behind a line

A line break behind a record is no part of its fields, unless the record ends, outside of quotes,
with an escape that has nothing to protect yet: such an escape protects the line break, which is
then read as the end of the last field. `split_append_breaks` and `split_push_bare` say so.

Within a composite column line breaks are characters like others. One behind the last leaf is read
as the end of its text, if it is not quoted, and otherwise passed over as a blank
(`split_push_quoted`).
-/

namespace Delimited

open FieldUnit (textOf)

namespace Marks

variable {m : Marks} {record : Bool}

/-- A character that is none of the marks. -/
structure IsPlain (m : Marks) (c : CodePoint) : Prop where
  /-- It is not the delimiter. -/
  delimiter_ne : m.delimiter ≠ some c
  /-- It is not the quote. -/
  quote_ne : m.quote ≠ some c
  /-- It is not the escape. -/
  escape_ne : m.escape ≠ some c

/-- A line break is no mark. -/
theorem IsDistinct.isPlain (h : m.IsDistinct) {b : CodePoint} (hb : b.isLineBreak = true) :
    m.IsPlain b where
  delimiter_ne := fun hd => by simpa [hb] using h.delimiter_break b hd
  quote_ne := fun hq => by simpa [hb] using h.quote_break b hq
  escape_ne := fun he => by simpa [hb] using h.escape_break b he

/-! ## Units outside of quotes -/

/-- The units end with an escape that has nothing to protect. -/
def LeavesEscape (m : Marks) (units : List FieldUnit) : Prop :=
  ∃ init e, m.escape = some e ∧ units = init ++ [.single e]

/-- More units in front make no difference to the last one. -/
theorem LeavesEscape.cons {units : List FieldUnit} (h : m.LeavesEscape units) (u : FieldUnit) :
    m.LeavesEscape (u :: units) := by
  obtain ⟨init, e, he, rfl⟩ := h
  exact ⟨u :: init, e, he, rfl⟩

/-- If units leave an escape, and the first one is none that stands alone, the others do. -/
theorem LeavesEscape.of_cons {u : FieldUnit} {units : List FieldUnit}
    (h : m.LeavesEscape (u :: units)) (hu : ∀ e, m.escape = some e → u ≠ .single e) :
    m.LeavesEscape units := by
  obtain ⟨init, e, he, heq⟩ := h
  cases init with
  | nil =>
    cases heq
    exact absurd rfl (hu e he)
  | cons v init =>
    cases heq
    exact ⟨init, e, he, rfl⟩

/-- An escape that has nothing to protect stands for itself. -/
theorem LeavesEscape.meaning_ne_nil {units : List FieldUnit} (h : m.LeavesEscape units) :
    units.flatMap (FieldUnit.bareMeaning m) ≠ [] := by
  obtain ⟨init, e, -, rfl⟩ := h
  rw [List.flatMap_append]
  exact List.append_ne_nil_of_right_ne_nil _ (List.cons_ne_nil e [])

/-- Units in front of the end of the line may stand in front of more, unless they leave an escape.
-/
theorem BareUnits.append {after : Text} {units : List FieldUnit}
    (h : m.BareUnits record after units) (more : Text)
    (hescape : after = [] → ¬ m.LeavesEscape units) : m.BareUnits record (after ++ more) units := by
  induction h with
  | nil => exact .nil
  | escaped he _ ih => exact .escaped he (ih fun hnil h => hescape hnil (h.cons _))
  | character he hstop _ ih => exact .character he hstop (ih fun hnil h => hescape hnil (h.cons _))
  | lastEscape he hend => exact absurd ⟨[], _, he, rfl⟩ (hescape hend)

/-- A character behind units that is no mark is one more character of theirs, if it is no stop, or
protected by an escape that the units leave. -/
theorem BareUnits.exists_push {b : CodePoint} (hb : m.IsPlain b) {before : Text}
    {units : List FieldUnit} (hunits : m.BareUnits record before units)
    (hend : m.isStop record b = false ∨ m.LeavesEscape units) (after : Text) :
    ∃ units', m.BareUnits record after units' ∧ textOf units' = textOf units ++ [b] ∧
      units'.flatMap (FieldUnit.bareMeaning m)
        = units.flatMap (FieldUnit.bareMeaning m) ++ [b] := by
  -- The character is the last unit, or the second character of the last one.
  induction hunits with
  | nil =>
    rcases hend with hstop | ⟨init, e, -, heq⟩
    · exact ⟨[.single b], .character hb.escape_ne hstop .nil, rfl, rfl⟩
    · simp at heq
  | @escaped e c units he _ ih =>
    obtain ⟨units', hunits', htext, hmeaning⟩ :=
      ih (hend.imp_right fun h => h.of_cons fun _ _ => nofun)
    exact ⟨.pair e c :: units', .escaped he hunits', by simp [htext], by simp [hmeaning]⟩
  | @character c units he hstop _ ih =>
    have hne : ∀ e, m.escape = some e → FieldUnit.single c ≠ .single e := by
      rintro e he' heq
      cases heq
      exact he he'
    obtain ⟨units', hunits', htext, hmeaning⟩ := ih (hend.imp_right fun h => h.of_cons hne)
    exact ⟨.single c :: units', .character he hstop hunits', by simp [htext], by simp [hmeaning]⟩
  | @lastEscape e he _ =>
    -- An escape in front of it stands for itself, as it did at the end.
    refine ⟨[.pair e b], .escaped he .nil, rfl, ?_⟩
    simp [FieldUnit.bareMeaning, hb.delimiter_ne, hb.quote_ne, hb.escape_ne]

/-! ## Fields -/

/-- A field in front of the end of the line may stand in front of more, unless it leaves an escape.
-/
theorem IsField.append {after : Text} {f : FieldForm} (hf : m.IsField record after f) {more : Text}
    (hmore : ∀ c, more.head? = some c → m.quote ≠ some c)
    (hescape : after = [] → ∀ units, f = .bare units → ¬ m.LeavesEscape units) :
    m.IsField record (after ++ more) f := by
  cases hf with
  | @quoted q units blanks hq hunits hclosed hblanks =>
    refine .quoted hq hunits (fun c hc => ?_) hblanks
    rw [← List.append_assoc] at hc
    cases hnil : blanks ++ after with
    | nil =>
      rw [hnil] at hc
      exact hmore c hc
    | cons x tail =>
      rw [hnil] at hc hclosed
      exact hclosed c hc
  | @bare units hhead hunits =>
    exact .bare hhead (hunits.append more fun hnil => hescape hnil units rfl)

/-- A character behind an unquoted field that is no mark is one more character of it, if it is no
stop, or protected by an escape that the field leaves. -/
theorem IsField.exists_push_bare {b : CodePoint} (hb : m.IsPlain b) {before : Text}
    {units : List FieldUnit} (hf : m.IsField record before (.bare units))
    (hend : m.isStop record b = false ∨ m.LeavesEscape units) (after : Text) :
    ∃ units', m.IsField record after (.bare units') ∧ textOf units' = textOf units ++ [b] ∧
      units'.flatMap (FieldUnit.bareMeaning m)
        = units.flatMap (FieldUnit.bareMeaning m) ++ [b] := by
  cases hf with
  | bare hhead hunits =>
    obtain ⟨units', hunits', htext, hmeaning⟩ := hunits.exists_push hb hend after
    refine ⟨units', .bare (fun c hc hquote => ?_) hunits', htext, hmeaning⟩
    rw [htext] at hc
    cases hnil : textOf units with
    | nil =>
      rw [hnil] at hc
      cases hc
      exact hb.quote_ne hquote
    | cons x tail =>
      rw [hnil] at hc hhead
      exact hhead c hc hquote

/-- A blank behind a quoted field is one more behind its closing quote, if it is no stop and no
quote. -/
theorem IsField.push_quoted {b : CodePoint} (hblank : b.isBlank = true) (hb : m.quote ≠ some b)
    {before : Text} {units : List FieldUnit} {blanks : Text}
    (hf : m.IsField record before (.quoted units blanks)) (hstop : m.isStop record b = false)
    (after : Text) : m.IsField record after (.quoted units (blanks ++ [b])) := by
  cases hf with
  | quoted hq hunits hclosed hblanks =>
    refine .quoted hq hunits (fun c hc hquote => ?_) ?_
    · cases blanks with
      | nil =>
        cases hc
        exact hb hquote
      | cons x blanks => exact hclosed c hc hquote
    · exact List.forall_mem_append.2 ⟨hblanks, List.forall_mem_singleton.2 ⟨hblank, hstop⟩⟩

/-- The last occurrence of a quote is found whatever other character follows. -/
theorem beforeLast?_concat {q c : CodePoint} (hne : q ≠ c) (t : Text) :
    beforeLast? [q] (t ++ [c]) = beforeLast? [q] t := by
  induction t with
  | nil => simp [beforeLast?, List.isPrefixOf, hne]
  | cons x t ih => simp [beforeLast?, ih, List.isPrefixOf]

/-- A quoted field stands for the same text if one more character follows that is no quote. -/
theorem decode_concat_of_quote {q b : CodePoint} (hq : m.quote = some q) (hb : m.quote ≠ some b)
    (rest : Text) : m.decode (q :: (rest ++ [b])) = m.decode (q :: rest) := by
  have hne : q ≠ b := by
    rintro rfl
    exact hb hq
  simp only [decode, hq, if_true, beforeLast?_concat hne]

/-! ## Lines -/

/-- A longer last field makes the line longer. -/
theorem textOf_concat {f f' : FieldForm} {more : Text} (h : f'.text m = f.text m ++ more)
    (before : List FieldForm) :
    FieldForm.textOf m (before ++ [f']) = FieldForm.textOf m (before ++ [f]) ++ more := by
  induction before with
  | nil => simp [FieldForm.textOf, Text.join, h]
  | cons g before ih =>
    cases before with
    | nil => simp [FieldForm.textOf, Text.join, List.intercalate_cons_cons, h]
    | cons g' before =>
      simp only [FieldForm.textOf, Text.join, List.cons_append, List.map_cons,
        List.intercalate_cons_cons, List.append_assoc] at ih ⊢
      rw [ih]

/-- Fields in front of the end of the line may stand in front of more, unless the last one leaves an
escape. -/
theorem IsFields.append {d : CodePoint} (hd : m.delimiter = some d) {breaks : Text}
    {fields : List FieldForm} (h : m.IsFields record breaks fields) {more : Text}
    (hmore : ∀ c, more.head? = some c → m.quote ≠ some c)
    (hescape : breaks = [] → ∀ before units, fields = before ++ [.bare units] →
      ¬ m.LeavesEscape units) : m.IsFields record (breaks ++ more) fields := by
  induction h with
  | last hf =>
    exact .last (hf.append hmore fun hnil units hf => hescape hnil [] units (by rw [hf]; rfl))
  | @cons f g fields hf _ ih =>
    -- This field is not at the end of the line, so it may leave no escape.
    have hne : m.delimiter.toList ++ FieldForm.textOf m (g :: fields) ++ breaks ≠ [] := by
      simp [hd]
    have happend := hf.append hmore fun hnil => absurd hnil hne
    rw [List.append_assoc] at happend
    refine .cons happend (ih fun hnil before units heq => ?_)
    exact hescape hnil (f :: before) units (by rw [heq]; rfl)

/-- The last field at the end of the line may be replaced by a longer one. -/
theorem IsFields.replace_last {d : CodePoint} (hd : m.delimiter = some d) {before : List FieldForm}
    {f f' : FieldForm} (h : m.IsFields record [] (before ++ [f])) {b : CodePoint}
    (hquote : m.quote ≠ some b) (htext : f'.text m = f.text m ++ [b]) {after : Text}
    (hf' : m.IsField record after f') : m.IsFields record after (before ++ [f']) := by
  induction before with
  | nil => exact .last hf'
  | cons g before ih =>
    -- A field follows the first one, whether the last one is replaced or not.
    obtain ⟨x, others, heq⟩ := List.exists_cons_of_ne_nil (List.concat_ne_nil f before)
    obtain ⟨x', others', heq'⟩ := List.exists_cons_of_ne_nil (List.concat_ne_nil f' before)
    have hmore : ∀ c, (b :: after).head? = some c → m.quote ≠ some c := by
      rintro c hc
      cases hc
      exact hquote
    rw [List.cons_append, heq] at h
    rw [List.cons_append, heq']
    cases h with
    | cons hg hs =>
      have hne : m.delimiter.toList ++ FieldForm.textOf m (x :: others) ++ [] ≠ [] := by simp [hd]
      have happend := hg.append hmore fun hnil => absurd hnil hne
      have hline := textOf_concat htext before
      rw [heq, heq'] at hline
      refine .cons ?_ (heq' ▸ ih (heq ▸ hs))
      rw [hline]
      simpa using happend

/-- The last field stands in front of the line breaks that end the line. -/
theorem IsFields.isField_last {breaks : Text} {before : List FieldForm} {f : FieldForm}
    (h : m.IsFields record breaks (before ++ [f])) : m.IsField record breaks f := by
  induction before with
  | nil =>
    cases h with
    | last hf => exact hf
  | cons g before ih =>
    obtain ⟨x, others, heq⟩ := List.exists_cons_of_ne_nil (List.concat_ne_nil f before)
    rw [List.cons_append, heq] at h
    cases h with
    | cons _ hs => exact ih (heq ▸ hs)

/-- A line that is split stands for the texts of its fields, the last one after the others. -/
theorem IsForm.decode_concat (h : m.IsDistinct) {d : CodePoint} (hd : m.delimiter = some d)
    {t breaks : Text} {before : List FieldForm} {f : FieldForm}
    (hform : m.IsForm record t ⟨before ++ [f], breaks⟩) {ts : List Text}
    (hsplit : m.split record t = .ok ts) :
    ∃ init x, (before.map (FieldForm.text m)).mapM m.decode = .ok init ∧
      m.decode (f.text m) = .ok x ∧ ts = init ++ [x] := by
  obtain ⟨raws, hraws, hdecode⟩ := Except.bind_eq_ok.1 hsplit
  have hread := fields_forms h hd hform.isLineBreak hform.breaks_eq_nil hform.isFields
  rw [hform.text_eq] at hread
  cases (Except.mapError_eq_ok.1 hraws).symm.trans hread
  rw [List.map_append, List.map_singleton] at hdecode
  exact Except.mapM_concat_eq_ok.1 hdecode

/-- A line that is one field up to its end is split into what the field stands for. -/
theorem split_of_field_nil {t raw x : Text} (hfield : m.field record t = .ok (raw, []))
    (hdecode : m.decode raw = .ok x) : m.split record t = .ok [x] := by
  have hfields := fields_of_field_nil hfield
  exact Except.bind_eq_ok.2 ⟨[raw], Except.mapError_eq_ok.2 hfields,
    Except.mapM_eq_ok.2 (.cons hdecode .nil)⟩

/-- The form of a record that ends, outside of quotes, with an escape that has nothing to protect;
the last field stands for the text. -/
def EndsInEscape (m : Marks) (t : Text) (before : List FieldForm) (x : Text) : Prop :=
  ∃ units, m.IsForm true t ⟨before ++ [.bare units], []⟩ ∧ m.LeavesEscape units ∧
    units.flatMap (FieldUnit.bareMeaning m) = x

/-- Line breaks behind a record make no difference to it, unless it ends in an escape. -/
theorem split_append_breaks (h : m.IsDistinct) {d : CodePoint} (hd : m.delimiter = some d)
    {t : Text} (hescape : ∀ before x, ¬ m.EndsInEscape t before x) {breaks : Text}
    (hbreaks : ∀ c ∈ breaks, c.isLineBreak = true) {ts : List Text}
    (hsplit : m.split true t = .ok ts) : m.split true (t ++ breaks) = .ok ts := by
  obtain ⟨raws, hraws, hdecode⟩ := Except.bind_eq_ok.1 hsplit
  obtain ⟨⟨fields, ends⟩, hform, rfl⟩ := exists_forms_of_fields hd (Except.mapError_eq_ok.1 hraws)
  have hmore : ∀ c, breaks.head? = some c → m.quote ≠ some c := by
    intro c hc hquote
    simpa [hbreaks c (List.mem_of_mem_head? hc)] using h.quote_break c hquote
  have hfields : m.IsFields true (ends ++ breaks) fields := by
    refine hform.isFields.append hd hmore fun hnil before units hlast hleaves => ?_
    cases hnil
    cases hlast
    exact hescape before _ ⟨units, hform, hleaves, rfl⟩
  have hall : ∀ c ∈ ends ++ breaks, c.isLineBreak = true :=
    List.forall_mem_append.2 ⟨hform.isLineBreak, hbreaks⟩
  have hrecord : true = false → ends ++ breaks = [] := nofun
  have hread := fields_forms h hd hall hrecord hfields
  rw [← List.append_assoc, hform.text_eq] at hread
  exact Except.bind_eq_ok.2 ⟨_, Except.mapError_eq_ok.2 hread, hdecode⟩

/-- Fields that are read in front of line breaks, the last one with the first of these at its end,
if the form of it allows that. -/
theorem fields_push (h : m.IsDistinct) {d : CodePoint} (hd : m.delimiter = some d) {t : Text}
    {before : List FieldForm} {f f' : FieldForm} (hform : m.IsForm record t ⟨before ++ [f], []⟩)
    {b : CodePoint} {rest : Text} (hbreaks : ∀ c ∈ b :: rest, c.isLineBreak = true)
    (hrecord : record = false → rest = []) (htext : f'.text m = f.text m ++ [b])
    (hf' : m.IsField record rest f') :
    m.fields record (t ++ b :: rest)
      = .ok (before.map (FieldForm.text m) ++ [f.text m ++ [b]]) := by
  obtain ⟨hb, hrest⟩ := List.forall_mem_cons.1 hbreaks
  have hquote : m.quote ≠ some b := fun hq => by simpa [hb] using h.quote_break b hq
  have hfields := hform.isFields.replace_last hd hquote htext hf'
  have hread := fields_forms h hd hrest hrecord hfields
  have hline : FieldForm.textOf m (before ++ [f]) = t := by
    simpa using hform.text_eq
  rwa [textOf_concat htext, hline, List.append_assoc, List.map_append, List.map_singleton,
    htext] at hread

/-- A line break behind a last field without quotes becomes the end of the text that the field
stands for, if it is no stop, or protected by an escape. -/
theorem split_push_bare (h : m.IsDistinct) {d : CodePoint} (hd : m.delimiter = some d) {t : Text}
    {before : List FieldForm} {units : List FieldUnit}
    (hform : m.IsForm record t ⟨before ++ [.bare units], []⟩) {b : CodePoint} {rest : Text}
    (hbreaks : ∀ c ∈ b :: rest, c.isLineBreak = true) (hrecord : record = false → rest = [])
    (hend : m.isStop record b = false ∨ m.LeavesEscape units) {ts : List Text}
    (hsplit : m.split record t = .ok ts) :
    ∃ init, init.length = before.length ∧
      ts = init ++ [units.flatMap (FieldUnit.bareMeaning m)] ∧
      m.split record (t ++ b :: rest)
        = .ok (init ++ [units.flatMap (FieldUnit.bareMeaning m) ++ [b]]) := by
  have hb := (List.forall_mem_cons.1 hbreaks).1
  have hlast := hform.isFields.isField_last
  obtain ⟨units', hf', htext, hmeaning⟩ := hlast.exists_push_bare (h.isPlain hb) hend rest
  -- The fields before the last one are decoded as they were.
  obtain ⟨init, x, hinit, hx, rfl⟩ := hform.decode_concat h hd hsplit
  have hlength := (Except.mapM_eq_ok.1 hinit).length_eq
  rw [List.length_map] at hlength
  cases hx.symm.trans (decode_form hlast (List.forall_mem_nil _))
  have hpush := decode_form hf' (List.forall_mem_nil _)
  rw [FieldForm.meaning, hmeaning, FieldForm.text, htext] at hpush
  have hline : (FieldForm.bare units').text m = (FieldForm.bare units).text m ++ [b] := htext
  have hread := fields_push h hd hform hbreaks hrecord hline hf'
  exact ⟨init, hlength.symm, rfl, Except.bind_eq_ok.2 ⟨_, Except.mapError_eq_ok.2 hread,
    Except.mapM_concat_eq_ok.2 ⟨init, _, hinit, hpush, rfl⟩⟩⟩

/-- A line break behind a last field with quotes is nothing to the text that the field stands for,
if it is no stop. -/
theorem split_push_quoted (h : m.IsDistinct) {d : CodePoint} (hd : m.delimiter = some d) {t : Text}
    {before : List FieldForm} {units : List FieldUnit} {blanks : Text}
    (hform : m.IsForm false t ⟨before ++ [.quoted units blanks], []⟩) {b : CodePoint}
    (hb : b.isLineBreak = true) {ts : List Text} (hsplit : m.split false t = .ok ts) :
    m.split false (t ++ [b]) = .ok ts := by
  have hplain := h.isPlain hb
  have hstop : m.isStop false b = false := by simp [isStop, hplain.delimiter_ne]
  have hlast := hform.isFields.isField_last
  have hf' := hlast.push_quoted (CodePoint.isBlank_of_isLineBreak hb) hplain.quote_ne hstop []
  obtain ⟨init, x, hinit, hx, rfl⟩ := hform.decode_concat h hd hsplit
  have htext : (FieldForm.quoted units (blanks ++ [b])).text m
      = (FieldForm.quoted units blanks).text m ++ [b] := by
    simp [FieldForm.text]
  have hread := fields_push h hd hform (List.forall_mem_singleton.2 hb) (fun _ => rfl) htext hf'
  have hpush : m.decode ((FieldForm.quoted units blanks).text m ++ [b]) = .ok x := by
    cases hlast with
    | quoted hq =>
      rw [← hx]
      simp only [FieldForm.text, hq, Option.toList_some, List.cons_append, List.nil_append]
      exact decode_concat_of_quote hq hplain.quote_ne _
  exact Except.bind_eq_ok.2 ⟨_, Except.mapError_eq_ok.2 hread,
    Except.mapM_concat_eq_ok.2 ⟨init, x, hinit, hpush, rfl⟩⟩

end Marks

end Delimited
