import Delimited.Proofs.Field.Terminator

/-!
# Blanks around a field

Blanks that are no marks may be put behind any field of a line, and in front of one that does not
start with a quote: they belong to the field then, and to no other. What the field stands for has
the blanks around it, or, behind a closing quote, is the same, so that nothing is left of them when
it is trimmed. `exists_split_pad` says so of a line.

In front of a quote they would make the field one without quotes, since a quote only opens a field
that starts with it.
-/

namespace Delimited

open FieldUnit (textOf)

namespace Marks

variable {m : Marks} {record : Bool}

/-- Blanks that are neither stops nor marks. -/
def IsPadding (m : Marks) (record : Bool) (ws : Text) : Prop :=
  ∀ c ∈ ws, c.isBlank = true ∧ m.isStop record c = false ∧ m.IsPlain c

/-! ## Fields -/

/-- Units in front of a character may stand in front of it whatever follows that. -/
theorem BareUnits.of_cons {c : CodePoint} {after : Text} {units : List FieldUnit}
    (h : m.BareUnits record (c :: after) units) (other : Text) :
    m.BareUnits record (c :: other) units := by
  induction h with
  | nil => exact .nil
  | escaped he _ ih => exact .escaped he ih
  | character he hstop _ ih => exact .character he hstop ih
  | lastEscape _ hend => cases hend

/-- A field in front of a character may stand in front of it whatever follows that. -/
theorem IsField.of_cons {c : CodePoint} {after : Text} {f : FieldForm}
    (hf : m.IsField record (c :: after) f) (other : Text) : m.IsField record (c :: other) f := by
  cases hf with
  | @quoted q units blanks hq hunits hclosed hblanks =>
    refine .quoted hq hunits (fun x hx => hclosed x ?_) hblanks
    cases blanks with
    | nil => exact hx
    | cons b blanks => exact hx
  | bare hhead hunits => exact .bare hhead (hunits.of_cons other)

/-- A blank behind a field that is neither a stop nor a mark belongs to the field and is trimmed. -/
theorem IsField.exists_push_blank {c : CodePoint} (hblank : c.isBlank = true)
    (hstop : m.isStop record c = false) (hplain : m.IsPlain c) {f : FieldForm} {after : Text}
    (hf : m.IsField record after f) :
    ∃ f', m.IsField record after f' ∧ f'.text m = f.text m ++ [c] ∧
      (m.decode (f'.text m)).map Text.trim = (m.decode (f.text m)).map Text.trim := by
  cases f with
  | quoted units blanks =>
    have htext : (FieldForm.quoted units (blanks ++ [c])).text m
        = (FieldForm.quoted units blanks).text m ++ [c] := by
      simp [FieldForm.text]
    refine ⟨_, hf.push_quoted hblank hplain.quote_ne hstop after, htext, ?_⟩
    rw [htext]
    cases hf with
    | quoted hq =>
      simp only [FieldForm.text, hq, Option.toList_some, List.cons_append, List.nil_append]
      rw [decode_concat_of_quote hq hplain.quote_ne]
  | bare units =>
    obtain ⟨units', hf', htext, hmeaning⟩ := hf.exists_push_bare hplain (.inl hstop) after
    refine ⟨.bare units', hf', htext, ?_⟩
    rw [decode_form hf (List.forall_mem_nil _), decode_form hf' (List.forall_mem_nil _),
      FieldForm.meaning, hmeaning]
    exact congrArg Except.ok (Text.trim_concat hblank _)

/-- Blanks behind a field that are neither stops nor marks belong to the field and are trimmed. -/
theorem IsField.exists_pad_back {ws : Text} (hws : m.IsPadding record ws) {f : FieldForm}
    {after : Text} (hf : m.IsField record after f) :
    ∃ f', m.IsField record after f' ∧ f'.text m = f.text m ++ ws ∧
      (m.decode (f'.text m)).map Text.trim = (m.decode (f.text m)).map Text.trim := by
  induction ws generalizing f with
  | nil => exact ⟨f, hf, (List.append_nil _).symm, rfl⟩
  | cons c ws ih =>
    obtain ⟨⟨hblank, hstop, hplain⟩, hws⟩ := List.forall_mem_cons.1 hws
    obtain ⟨g, hg, htext, hdecode⟩ := hf.exists_push_blank hblank hstop hplain
    obtain ⟨f', hf', htext', hdecode'⟩ := ih hws hg
    refine ⟨f', hf', ?_, hdecode'.trans hdecode⟩
    rw [htext', htext, List.append_assoc, List.singleton_append]

/-- Blanks in front of an unquoted field that are neither stops nor marks belong to the field and
are trimmed. -/
theorem IsField.exists_pad_front {ws : Text} (hws : m.IsPadding record ws)
    {units : List FieldUnit} {after : Text} (hf : m.IsField record after (.bare units)) :
    ∃ units', m.IsField record after (.bare units') ∧ textOf units' = ws ++ textOf units ∧
      (m.decode (textOf units')).map Text.trim = (m.decode (textOf units)).map Text.trim := by
  induction ws with
  | nil => exact ⟨units, hf, rfl, rfl⟩
  | cons c ws ih =>
    obtain ⟨⟨hblank, hstop, hplain⟩, hws⟩ := List.forall_mem_cons.1 hws
    obtain ⟨units', hf', htext, hdecode⟩ := ih hws
    have hcons : m.IsField record after (.bare (.single c :: units')) := by
      cases hf' with
      | bare hhead hunits =>
        refine .bare (fun x hx => ?_) (.character hplain.escape_ne hstop hunits)
        cases hx
        exact hplain.quote_ne
    refine ⟨.single c :: units', hcons, ?_, ?_⟩
    · rw [FieldUnit.textOf_single, htext, List.cons_append]
    · rw [← hdecode]
      have hread := decode_form hcons (List.forall_mem_nil _)
      have hread' := decode_form hf' (List.forall_mem_nil _)
      rw [FieldForm.text] at hread hread'
      rw [hread, hread']
      exact congrArg Except.ok (Text.trim_cons hblank _)

/-! ## Lines -/

/-- A field of a line with what stands in front of it and behind it. It may be replaced by any field
that may stand there. -/
theorem IsFields.exists_around {d : CodePoint} (hd : m.delimiter = some d) {breaks : Text}
    {front back : List FieldForm} {f : FieldForm}
    (h : m.IsFields record breaks (front ++ f :: back)) :
    ∃ tail, m.IsField record (tail ++ breaks) f ∧ ∀ f',
      FieldForm.textOf m (front ++ f' :: back)
        = front.flatMap (fun g => g.text m ++ [d]) ++ (f'.text m ++ tail) ∧
      (m.IsField record (tail ++ breaks) f' → m.IsFields record breaks (front ++ f' :: back)) := by
  induction front with
  | nil =>
    cases h with
    | last hf =>
      exact ⟨[], hf, fun f' => ⟨by simp [FieldForm.textOf, Text.join], .last⟩⟩
    | @cons _ g fields hf hs =>
      refine ⟨m.delimiter.toList ++ FieldForm.textOf m (g :: fields), hf, fun f' => ⟨?_, ?_⟩⟩
      · simp [textOf_cons_cons hd, hd]
      · exact fun hf' => .cons hf' hs
  | cons e front ih =>
    -- A field follows the first one, whichever stands at the place.
    have hcons : ∀ g, ∃ x others, front ++ g :: back = x :: others := fun g =>
      List.exists_cons_of_ne_nil (List.append_ne_nil_of_right_ne_nil _ (List.cons_ne_nil g back))
    obtain ⟨x, others, heq⟩ := hcons f
    rw [List.cons_append, heq] at h
    cases h with
    | cons he hs =>
      obtain ⟨tail, hf, hreplace⟩ := ih (heq ▸ hs)
      refine ⟨tail, hf, fun f' => ?_⟩
      obtain ⟨htext, hfields⟩ := hreplace f'
      obtain ⟨x', others', heq'⟩ := hcons f'
      rw [List.cons_append, heq']
      rw [heq'] at htext hfields
      simp only [hd, Option.toList_some, List.cons_append, List.nil_append] at he
      refine ⟨?_, fun hf' => .cons ?_ (hfields hf')⟩
      · simp [textOf_cons_cons hd, htext]
      · simpa only [hd, Option.toList_some, List.cons_append, List.nil_append] using he.of_cons _

/-- The text in front of a field: the fields before it, each with its delimiter. -/
def inFront (d : CodePoint) (raws : List Text) (index : Nat) : Text :=
  (raws.take index).flatMap (· ++ [d])

section Line

variable (h : m.IsDistinct) {d : CodePoint} (hd : m.delimiter = some d) {t : Text}
  {raws ts : List Text} (hraws : m.rawFields record t = .ok raws)
  (hsplit : m.split record t = .ok ts) {index : Nat} {raw : Text} (hraw : raws[index]? = some raw)

include h hd hraws hsplit hraw

/-- A line in which a raw field is replaced by one that may stand at its place is split into the
same texts but for that of the field. -/
theorem exists_split_replace :
    ∃ f after init x rest, f.text m = raw ∧ m.IsField record after f ∧
      t = inFront d raws index ++ raw ++ after ∧ ts = init ++ x :: rest ∧ init.length = index ∧
      m.decode raw = .ok x ∧ ∀ f' x', m.IsField record after f' → m.decode (f'.text m) = .ok x' →
        m.split record (inFront d raws index ++ f'.text m ++ after) = .ok (init ++ x' :: rest) := by
  obtain ⟨⟨fields, breaks⟩, hform, rfl⟩ :=
    exists_forms_of_fields hd (Except.mapError_eq_ok.1 hraws)
  obtain ⟨raws', hraws', hdecode⟩ := Except.bind_eq_ok.1 hsplit
  cases hraws.symm.trans hraws'
  -- The fields before the one and those behind it.
  rw [List.getElem?_map, Option.map_eq_some_iff] at hraw
  obtain ⟨f, hf, rfl⟩ := hraw
  obtain ⟨hlt, hget⟩ := List.getElem?_eq_some_iff.1 hf
  have hcut : fields = fields.take index ++ f :: fields.drop (index + 1) := by
    rw [← hget, ← List.drop_eq_getElem_cons hlt, List.take_append_drop]
  have hfront : inFront d (fields.map (FieldForm.text m)) index
      = (fields.take index).flatMap fun g => g.text m ++ [d] := by
    rw [inFront, ← List.map_take, List.flatMap_map]
  have hfields := hform.isFields
  have htext := hform.text_eq
  simp only at hfields htext
  have hlength : (fields.take index).length = index := List.length_take_of_le (Nat.le_of_lt hlt)
  rw [hfront]
  generalize fields.take index = front at hcut hlength
  generalize fields.drop (index + 1) = back at hcut
  subst hcut
  obtain ⟨tail, hafter, hreplace⟩ := hfields.exists_around hd
  rw [List.map_append, List.map_cons] at hdecode
  obtain ⟨init, x, rest, hinit, hx, hrest, rfl⟩ := Except.mapM_append_cons_eq_ok.1 hdecode
  have hline : ∀ f' : FieldForm, front.flatMap (fun g => g.text m ++ [d]) ++ f'.text m
      ++ (tail ++ breaks) = FieldForm.textOf m (front ++ f' :: back) ++ breaks := by
    intro f'
    rw [(hreplace f').1]
    simp only [List.append_assoc]
  refine ⟨f, tail ++ breaks, init, x, rest, rfl, hafter, ?_, rfl, ?_, hx, fun f' x' hf' hx' => ?_⟩
  · rw [hline f, htext]
  · have hcount := (Except.mapM_eq_ok.1 hinit).length_eq
    rw [List.length_map, hlength] at hcount
    exact hcount.symm
  · have hread := fields_forms h hd hform.isLineBreak hform.breaks_eq_nil ((hreplace f').2 hf')
    rw [List.map_append, List.map_cons] at hread
    rw [hline f']
    exact Except.bind_eq_ok.2 ⟨_, Except.mapError_eq_ok.2 hread,
      Except.mapM_append_cons_eq_ok.2 ⟨init, x', rest, hinit, hx', hrest, rfl⟩⟩

/-- A line with blanks behind a raw field, or in front of one that does not start with a quote, is
split into the same texts but for the blanks around that of the field. -/
theorem exists_split_pad :
    ∃ after init x rest, t = inFront d raws index ++ raw ++ after ∧ ts = init ++ x :: rest ∧
      init.length = index ∧ ∀ ws, m.IsPadding record ws →
        (∃ y, y.trim = x.trim ∧ m.split record (inFront d raws index ++ (raw ++ ws) ++ after)
          = .ok (init ++ y :: rest)) ∧
        ((∀ q, m.quote = some q → raw.head? ≠ some q) →
          ∃ y, y.trim = x.trim ∧ m.split record (inFront d raws index ++ (ws ++ raw) ++ after)
            = .ok (init ++ y :: rest)) := by
  obtain ⟨f, after, init, x, rest, rfl, hf, hline, hts, hlength, hx, hreplace⟩ :=
    exists_split_replace h hd hraws hsplit hraw
  -- A field that stands for the same text, trimmed, may replace the one.
  have hpad : ∀ {padded : Text} {f' : FieldForm}, m.IsField record after f' →
      f'.text m = padded →
      (m.decode (f'.text m)).map Text.trim = (m.decode (f.text m)).map Text.trim →
      ∃ y, y.trim = x.trim ∧ m.split record (inFront d raws index ++ padded ++ after)
        = .ok (init ++ y :: rest) := by
    rintro padded f' hf' rfl hdecode
    rw [hx] at hdecode
    obtain ⟨y, hy, htrim⟩ := Except.map_eq_ok.1 hdecode
    exact ⟨y, htrim, hreplace f' y hf' hy⟩
  refine ⟨after, init, x, rest, hline, hts, hlength, fun ws hws => ⟨?_, fun hhead => ?_⟩⟩
  · obtain ⟨f', hf', htext, hdecode⟩ := hf.exists_pad_back hws
    exact hpad hf' htext hdecode
  · cases hf with
    | @quoted q units blanks hq _ _ _ =>
      exact absurd (by simp [FieldForm.text, hq]) (hhead q hq)
    | @bare units hfirst hunits =>
      obtain ⟨units', hf', htext, hdecode⟩ := (IsField.bare hfirst hunits).exists_pad_front hws
      exact hpad hf' htext hdecode

end Line

end Marks

end Delimited
