import Delimited.Proofs.Field.Grammar

/-!
# Texts that stand for themselves

A text may be written without quotes if reading leaves it alone: it starts with no quote, holds no
stop, no escape in it is left out, and none at its end protects what follows. That is `IsBare`.
`bareUnits_cutBare` and `decodeBare_eq_self_iff` say that such a text is a field that stands for
itself, and `isBare_of_field` that no other text in front of a delimiter is.
-/

namespace Delimited

open FieldUnit (textOf)

namespace Marks

variable {m : Marks} {record : Bool}

/-- A text that stands for itself outside of quotes. An escape may stand in it in front of a
character that needs no protection. -/
structure IsBare (m : Marks) (record : Bool) (t : Text) : Prop where
  /-- It does not start with a quote. -/
  head_ne_quote : ∀ c, t.head? = some c → m.quote ≠ some c
  /-- There is no stop in it. -/
  isStop_eq_false : ∀ c ∈ t, m.isStop record c = false
  /-- No escape in it is left out. -/
  isBarePair_eq_false : ∀ c d, [c, d] <:+: t → m.isBarePair c d = false
  /-- No escape at its end protects what follows. -/
  getLast?_ne_escape : ∀ c, t.getLast? = some c → m.escape ≠ some c

/-- A text without escapes that starts with no quote and holds no stop stands for itself. -/
theorem isBare_of_ne_escape {t : Text} (hhead : ∀ c, t.head? = some c → m.quote ≠ some c)
    (hstop : ∀ c ∈ t, m.isStop record c = false) (hescape : ∀ c ∈ t, m.escape ≠ some c) :
    m.IsBare record t where
  head_ne_quote := hhead
  isStop_eq_false := hstop
  isBarePair_eq_false := by
    intro c d hrun
    have hc : c ∈ t := hrun.subset (by simp)
    simp [isBarePair, hescape c hc]
  getLast?_ne_escape := fun c hc => hescape c (List.mem_of_getLast? hc)

/-- A text is made of the units that it is cut into. -/
theorem textOf_cutBare (m : Marks) (t : Text) : textOf (m.cutBare t) = t := by
  fun_induction cutBare m t with
  | case1 => rfl
  | case2 c => rfl
  | case3 c d rest _ ih => rw [FieldUnit.textOf_pair, ih]
  | case4 c d rest _ ih => rw [FieldUnit.textOf_single, ih]

/-- The units of a text without stops may stand outside of quotes, if no escape is left over. -/
theorem bareUnits_cutBare {t : Text} (hstop : ∀ c ∈ t, m.isStop record c = false)
    (hlast : ∀ c, t.getLast? = some c → m.escape ≠ some c) (after : Text) :
    m.BareUnits record after (m.cutBare t) := by
  fun_induction cutBare m t with
  | case1 => exact .nil
  | case2 c => exact .character (hlast c rfl) (hstop c (by simp)) .nil
  | case3 c d rest he ih =>
    refine .escaped he (ih (fun x hx => hstop x (by simp [hx])) fun x hx => ?_)
    have hne : rest ≠ [] := by rintro rfl; cases hx
    rw [← List.getLast?_cons_of_ne_nil hne, ← List.getLast?_cons_cons] at hx
    exact hlast x hx
  | case4 c d rest he ih =>
    refine .character he (hstop c (by simp))
      (ih (fun x hx => hstop x (by simp [hx])) fun x hx => ?_)
    exact hlast x (by rwa [List.getLast?_cons_cons])

/-- Decoding makes no text longer. -/
theorem length_decodeBare_le (m : Marks) (t : Text) : (m.decodeBare t).length ≤ t.length := by
  fun_induction decodeBare m t with
  | case1 => simp
  | case2 c => simp
  | case3 c d rest _ ih => simp only [List.length_cons]; omega
  | case4 c d rest _ ih => simp only [List.length_cons] at ih ⊢; omega

/-- Decoding leaves a text alone if and only if no escape in it is left out. -/
theorem decodeBare_eq_self_iff {t : Text} :
    m.decodeBare t = t ↔ ∀ c d, [c, d] <:+: t → m.isBarePair c d = false := by
  fun_induction decodeBare m t with
  | case1 => simp
  | case2 c => simp [List.infix_cons_iff]
  | case3 c d rest hpair ih =>
    constructor
    · -- An escape that is left out makes the text shorter.
      intro heq
      have hlength := congrArg List.length heq
      have hle := m.length_decodeBare_le rest
      simp only [List.length_cons] at hlength
      omega
    · intro hall
      have hfirst := hall c d (List.IsPrefix.isInfix ⟨rest, rfl⟩)
      rw [hpair] at hfirst
      cases hfirst
  | case4 c d rest hpair ih =>
    rw [List.cons_inj_right, ih]
    constructor
    · intro hall x y hrun
      rcases List.infix_cons_iff.1 hrun with hhead | hrun
      · obtain ⟨tail, htail⟩ := hhead
        cases htail
        simpa using hpair
      · exact hall x y hrun
    · exact fun hall x y hrun => hall x y (List.infix_cons hrun)

/-- A delimiter among the units outside of quotes is read as a character. -/
theorem BareUnits.mem_meaning (h : m.IsDistinct) {d : CodePoint} (hd : m.delimiter = some d)
    {after : Text} {units : List FieldUnit} (hunits : m.BareUnits record after units)
    (hmem : d ∈ textOf units) : d ∈ units.flatMap (FieldUnit.bareMeaning m) := by
  induction hunits with
  | nil => cases hmem
  | @escaped e c units he _ ih =>
    have hne : d ≠ e := by
      rintro rfl
      exact h.escape_ne_delimiter d hd he
    rw [List.flatMap_cons, List.mem_append]
    simp only [FieldUnit.textOf_pair, List.mem_cons, hne, false_or] at hmem
    rcases hmem with rfl | hmem
    · left
      simp [FieldUnit.bareMeaning, hd]
    · exact .inr (ih hmem)
  | @character c units _ hstop _ ih =>
    have hne : d ≠ c := by
      rintro rfl
      rw [isStop_delimiter hd] at hstop
      cases hstop
    simp only [FieldUnit.textOf_single, List.mem_cons, hne, false_or] at hmem
    exact List.mem_append_right _ (ih hmem)
  | @lastEscape e he _ =>
    have hne : d ≠ e := by
      rintro rfl
      exact h.escape_ne_delimiter d hd he
    simp [hne] at hmem

/-- Units in front of more of the line do not end with an escape, unless it is left out. -/
theorem BareUnits.getLast?_ne_escape {after : Text} (hafter : after ≠ []) {units : List FieldUnit}
    (hunits : m.BareUnits record after units)
    (hpair : ∀ c d, [c, d] <:+: textOf units → m.isBarePair c d = false) :
    ∀ c, (textOf units).getLast? = some c → m.escape ≠ some c := by
  induction hunits with
  | nil => exact fun c hc => nomatch hc
  | @escaped e x units he _ ih =>
    rw [FieldUnit.textOf_pair] at hpair ⊢
    intro c hc
    rw [List.getLast?_cons_cons] at hc
    by_cases hnil : textOf units = []
    · -- An escape behind an escape would be left out.
      rintro hescape
      have hx : x = c := by simpa [hnil] using hc
      have hleft := hpair e x (List.IsPrefix.isInfix ⟨textOf units, rfl⟩)
      rw [isBarePair_iff.2 ⟨he, .inr (.inr (hx ▸ hescape))⟩] at hleft
      cases hleft
    · rw [List.getLast?_cons_of_ne_nil hnil] at hc
      exact ih (fun y z hrun => hpair y z (List.infix_cons (List.infix_cons hrun))) c hc
  | @character x units hx _ _ ih =>
    rw [FieldUnit.textOf_single] at hpair ⊢
    intro c hc
    by_cases hnil : textOf units = []
    · have hxc : x = c := by simpa [hnil] using hc
      exact hxc ▸ hx
    · rw [List.getLast?_cons_of_ne_nil hnil] at hc
      exact ih (fun y z hrun => hpair y z (List.infix_cons hrun)) c hc
  | lastEscape _ hend => exact absurd hend hafter

/-- A text without stops in front of a delimiter, and the field that is read there: if the field
holds no delimiter, it is the text. -/
theorem eq_of_append_delimiter {d : CodePoint} {t rest raw after : Text}
    (hstop : ∀ c ∈ t, m.isStop record c = false) (hraw : d ∉ raw)
    (hafter : m.IsStopped record after) (happend : raw ++ after = t ++ d :: rest) :
    raw = t ∧ after = d :: rest := by
  rcases List.append_eq_append_iff.1 happend with ⟨tail, rfl, hafter'⟩ | ⟨tail, rfl, hrest⟩
  · cases tail with
    | nil => simpa using hafter'
    | cons c tail =>
      -- The field would end at a character of the text, which is no stop.
      have hc := hafter c (by rw [hafter']; rfl)
      rw [hstop c (by simp)] at hc
      cases hc
  · cases tail with
    | nil => simpa using hrest.symm
    | cons c tail =>
      cases hrest
      exact absurd (by simp) hraw

/-- A text without stops that starts with no quote, read in front of a delimiter: if the field that
is found stands for the text, the text stands for itself. -/
theorem isBare_of_field (h : m.IsDistinct) {d : CodePoint} (hd : m.delimiter = some d)
    {t rest raw after : Text} (hhead : ∀ c, t.head? = some c → m.quote ≠ some c)
    (hstop : ∀ c ∈ t, m.isStop record c = false)
    (hfield : m.field record (t ++ d :: rest) = .ok (raw, after)) (hdecode : m.decode raw = .ok t) :
    m.IsBare record t := by
  obtain ⟨form, hform, rfl, hafter⟩ := exists_form_of_field hfield
  have happend := append_of_field hfield
  have hdt : d ∉ t := by
    intro hmem
    have hfalse := hstop d hmem
    rw [isStop_delimiter hd] at hfalse
    cases hfalse
  cases hform with
  | @quoted q units blanks hq =>
    -- The field would start with a quote, but the text does not, nor does the delimiter.
    have hfirst : (t ++ d :: rest).head? = some q := by
      rw [← happend]
      simp [FieldForm.text, hq]
    cases t with
    | nil =>
      cases hfirst
      exact absurd hq (h.quote_ne_delimiter _ hd)
    | cons c t => exact absurd hq (hhead q hfirst)
  | @bare units hunitsHead hunits =>
    have hmeaning : units.flatMap (FieldUnit.bareMeaning m) = t := by
      have hform := decode_form (.bare hunitsHead hunits) (by simp [FieldForm.blanks])
      exact Except.ok.inj (hform.symm.trans hdecode)
    have hraw : d ∉ textOf units := fun hmem =>
      hdt (hmeaning ▸ hunits.mem_meaning h hd hmem)
    obtain ⟨htext, rfl⟩ := eq_of_append_delimiter hstop hraw hafter happend
    have hpair : ∀ x y, [x, y] <:+: t → m.isBarePair x y = false := by
      refine decodeBare_eq_self_iff.1 ?_
      rw [decodeBare_eq_flatMap, ← htext, cutBare_units hunits, hmeaning, htext]
    have hlast := hunits.getLast?_ne_escape (List.cons_ne_nil d rest) (by rwa [htext])
    rw [htext] at hlast
    exact ⟨hhead, hstop, hpair, hlast⟩

/-- A line that is split has a first field. -/
theorem exists_field_of_split {line : Text} {ts : List Text} (h : m.split record line = .ok ts) :
    ∃ raw after t rest, m.field record line = .ok (raw, after) ∧ m.decode raw = .ok t ∧
      ts = t :: rest := by
  obtain ⟨raws, hraws, hdecode⟩ := Except.bind_eq_ok.1 h
  have hfields := Except.mapError_eq_ok.1 hraws
  have hfirst : ∃ raw after others, m.field record line = .ok (raw, after) ∧
      raws = raw :: others := by
    rw [fields] at hfields
    split at hfields
    · cases hfields
    · next raw hfield =>
      cases hfields
      exact ⟨raw, [], [], hfield, rfl⟩
    · next raw c rest hfield =>
      split at hfields
      · obtain ⟨others, -, rfl⟩ := Except.map_eq_ok.1 hfields
        exact ⟨raw, c :: rest, others, hfield, rfl⟩
      · split at hfields
        · cases hfields
          exact ⟨raw, c :: rest, [], hfield, rfl⟩
        · cases hfields
  obtain ⟨raw, after, others, hfield, rfl⟩ := hfirst
  cases Except.mapM_eq_ok.1 hdecode with
  | cons hraw _ => exact ⟨raw, after, _, _, hfield, hraw, rfl⟩

end Marks

end Delimited
