import Delimited.Proofs.Schema.Tokens
import Delimited.Schema.Text

/-!
# Where a written schema is cut

Only the marks of a text decide where it is cut into columns. A list of parts *is cut* if no comma
of a part stands at bracket depth zero and each part but the last ends there: the parts between
such commas are, and such parts are found again in the text that joins them with commas.
-/

namespace Delimited

open CodePoint (ofChar)

namespace Schema

/-- The bracket depth after a character, given the depth before it; there is none after a comma at
depth zero, where the text is cut. -/
def stepDepth? (depth : Int) (c : CodePoint) : Option Int :=
  if c = ofChar '<' then some (depth + 1)
  else if c = ofChar '>' then some (depth - 1)
  else if c = ofChar ',' && depth = 0 then none
  else some depth

/-- The bracket depth after a text, given the depth before it, if the text is not cut. -/
def depthAfter? (depth : Int) (t : Text) : Option Int := t.foldlM stepDepth? depth

/-- A character that is no mark leaves the depth alone. -/
theorem stepDepth?_of_not_isMark {c : CodePoint} (h : c.isMark = false) (depth : Int) :
    stepDepth? depth c = some depth := by
  obtain ⟨⟨hlt, hgt⟩, hcomma⟩ : (c ≠ ofChar '<' ∧ c ≠ ofChar '>') ∧ c ≠ ofChar ',' := by
    simpa [CodePoint.isMark] using h
  simp [stepDepth?, hlt, hgt, hcomma]

/-- Only marks count for the depth. -/
theorem depthAfter?_marks (depth : Int) (t : Text) :
    depthAfter? depth t.marks = depthAfter? depth t := by
  unfold depthAfter?
  induction t generalizing depth with
  | nil => rfl
  | cons c t ih =>
    by_cases hmark : c.isMark = true
    · rw [Text.marks, List.filter_cons_of_pos hmark, ← Text.marks, List.foldlM_cons,
        List.foldlM_cons]
      exact congrArg _ (funext ih)
    · rw [Text.marks_cons (Bool.eq_false_iff.2 hmark), ih, List.foldlM_cons,
        stepDepth?_of_not_isMark (Bool.eq_false_iff.2 hmark)]
      rfl

/-- A character where the text is not cut. -/
theorem cutAtDepth_of_some {depth next : Int} {c : CodePoint} (h : stepDepth? depth c = some next)
    (rest : Text) : cutAtDepth depth (c :: rest) = consFirst c (cutAtDepth next rest) := by
  unfold stepDepth? at h
  rw [cutAtDepth]
  split_ifs at h ⊢ <;> cases h <;> rfl

/-- A comma where the text is cut. -/
theorem cutAtDepth_of_none {depth : Int} {c : CodePoint} (h : stepDepth? depth c = none)
    (rest : Text) :
    c = ofChar ',' ∧ depth = 0 ∧ cutAtDepth depth (c :: rest) = [] :: cutAtDepth 0 rest := by
  unfold stepDepth? at h
  rw [cutAtDepth]
  split_ifs at h ⊢ with hlt hgt hcomma
  obtain ⟨rfl, rfl⟩ : c = ofChar ',' ∧ depth = 0 := by simpa using hcomma
  exact ⟨rfl, rfl, rfl⟩

/-- A text that is not cut is one part. -/
theorem cutAtDepth_of_isSome {depth : Int} {part : Text} (h : (depthAfter? depth part).isSome) :
    cutAtDepth depth part = [part] := by
  unfold depthAfter? at h
  induction part generalizing depth with
  | nil => rfl
  | cons c part ih =>
    obtain ⟨last, h⟩ := Option.isSome_iff_exists.1 h
    obtain ⟨next, hnext, h⟩ := Option.bind_eq_some_iff.1 h
    rw [cutAtDepth_of_some hnext, ih (Option.isSome_of_mem h)]
    rfl

/-- A text that is not cut is a part if a comma follows at depth zero. -/
theorem cutAtDepth_append {depth : Int} {part : Text} (h : depthAfter? depth part = some 0)
    (rest : Text) : cutAtDepth depth (part ++ ofChar ',' :: rest) = part :: cutAtDepth 0 rest := by
  unfold depthAfter? at h
  induction part generalizing depth with
  | nil =>
    cases h
    rfl
  | cons c part ih =>
    obtain ⟨next, hnext, h⟩ := Option.bind_eq_some_iff.1 h
    rw [List.cons_append, cutAtDepth_of_some hnext, ih h]
    rfl

/-- Parts of a text that starts at the given depth, each but the last up to the next comma at depth
zero. -/
inductive IsCut : Int → List Text → Prop where
  /-- The last part goes to the end. -/
  | last {depth : Int} {part : Text} (h : (depthAfter? depth part).isSome) : IsCut depth [part]
  /-- A comma follows at depth zero. -/
  | cons {depth : Int} {part : Text} {parts : List Text} (h : depthAfter? depth part = some 0)
    (hparts : IsCut 0 parts) : IsCut depth (part :: parts)

namespace IsCut

variable {depth : Int} {parts : List Text}

/-- A character in front of the first part. -/
theorem consFirst {next : Int} {c : CodePoint} (hc : stepDepth? depth c = some next)
    (h : IsCut next parts) : IsCut depth (consFirst c parts) := by
  have hpart : ∀ part, depthAfter? depth (c :: part) = depthAfter? next part := by
    intro part
    rw [depthAfter?, List.foldlM_cons, hc]
    rfl
  cases h with
  | last h => exact .last (by rwa [hpart])
  | cons h hparts => exact .cons ((hpart _).trans h) hparts

/-- The parts between the commas at depth zero are cut. -/
theorem cutAtDepth (depth : Int) (t : Text) : IsCut depth (cutAtDepth depth t) := by
  induction t generalizing depth with
  | nil => exact .last rfl
  | cons c t ih =>
    cases hc : stepDepth? depth c with
    | none =>
      obtain ⟨rfl, rfl, hcut⟩ := cutAtDepth_of_none hc t
      rw [hcut]
      exact .cons rfl (ih 0)
    | some next =>
      rw [cutAtDepth_of_some hc]
      exact (ih next).consFirst hc

/-- Parts that are cut are found again in the text that joins them. -/
theorem cutAtDepth_join (h : IsCut depth parts) :
    Schema.cutAtDepth depth (Text.join [ofChar ','] parts) = parts := by
  induction h with
  | last h => rw [Text.join, List.intercalate_singleton, cutAtDepth_of_isSome h]
  | @cons depth part parts h hparts ih =>
    obtain ⟨next, parts, rfl⟩ : ∃ next rest, parts = next :: rest := by
      cases hparts <;> exact ⟨_, _, rfl⟩
    rw [Text.join, List.intercalate_cons_cons, ← Text.join, List.append_assoc,
      List.singleton_append, cutAtDepth_append h, ih]

/-- Parts that each end at depth zero are cut. -/
theorem of_depthAfter? (hne : parts ≠ [])
    (h : ∀ part ∈ parts, depthAfter? 0 part = some 0) : IsCut 0 parts := by
  induction parts with
  | nil => exact absurd rfl hne
  | cons part parts ih =>
    obtain ⟨hpart, hparts⟩ := List.forall_mem_cons.1 h
    by_cases hlast : parts = []
    · subst hlast
      exact .last (by simp [hpart])
    · exact .cons hpart (ih hlast hparts)

/-- Only the marks of the parts matter. -/
theorem of_marks (h : IsCut depth parts) {parts' : List Text}
    (hmarks : parts.map Text.marks = parts'.map Text.marks) : IsCut depth parts' := by
  induction h generalizing parts' with
  | @last depth part h =>
    obtain ⟨part', rfl, hpart⟩ := List.map_eq_singleton_iff.1 hmarks.symm
    refine .last ?_
    rwa [← depthAfter?_marks, hpart, depthAfter?_marks]
  | @cons depth part parts h _ ih =>
    obtain ⟨part', rest', rfl, hpart, hrest⟩ := List.map_eq_cons_iff.1 hmarks.symm
    refine .cons ?_ (ih hrest.symm)
    rwa [← depthAfter?_marks, hpart, depthAfter?_marks]

end IsCut

end Schema

end Delimited
