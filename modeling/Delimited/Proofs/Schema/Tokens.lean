import Mathlib.Data.List.Basic
import Mathlib.Data.List.TakeWhile
import Delimited.Proofs.Text.Blank
import Delimited.Schema.TypeText

/-!
# The tokens of a written type

The kinds of the tokens of a text do not depend on where it stands. Blanks make no tokens and are
part of no name, so the *marks* of a text, its angle brackets and commas, are those of its tokens.
The names of types are made of letters that are their own upper case.
-/

namespace Delimited

open CodePoint (ofChar)

/-- Does the code point separate the parts of a written type or schema? -/
def CodePoint.isMark (c : CodePoint) : Bool :=
  c == ofChar '<' || c == ofChar '>' || c == ofChar ','

/-- The angle brackets and commas of a text. -/
def Text.marks (t : Text) : Text := t.filter CodePoint.isMark

namespace CodePointSet

/-- The members of a set whose ranges all end. -/
def members : List Nat → List Nat
  | first :: stop :: rest => List.range' first (stop - first) ++ members rest
  | _ => []

/-- What is in a set whose ranges all end is one of its members. -/
theorem mem_members {n : Nat} {boundaries : List Nat} (hends : boundaries.length % 2 = 0)
    (h : memberFrom n false boundaries = true) : n ∈ members boundaries := by
  induction boundaries using members.induct with
  | case1 first stop rest ih =>
    rw [memberFrom] at h
    split at h
    · cases h
    · next hfirst =>
      rw [Bool.not_false, memberFrom] at h
      rw [members, List.mem_append, List.mem_range'_1]
      split at h
      · exact .inl (by omega)
      · exact .inr (ih (by simp only [List.length_cons] at hends; omega) h)
  | case2 boundaries hpair =>
    -- There is no range, or one that does not end.
    cases boundaries with
    | nil => cases h
    | cons first rest =>
      cases rest with
      | nil => cases hends
      | cons stop rest => exact absurd rfl (hpair first stop rest)

end CodePointSet

namespace CodePoint

/-- There are three marks. -/
theorem isMark_iff {c : CodePoint} :
    c.isMark = true ↔ c = ofChar '<' ∨ c = ofChar '>' ∨ c = ofChar ',' := by
  simp [isMark, or_assoc]

/-- No mark is blank. -/
theorem isBlank_of_isMark {c : CodePoint} (h : c.isMark = true) : c.isBlank = false := by
  rcases isMark_iff.1 h with rfl | rfl | rfl <;> decide

/-- No mark is part of a name. -/
theorem isNamePart_of_isMark {c : CodePoint} (h : c.isMark = true) :
    TypeText.isNamePart c = false := by
  rcases isMark_iff.1 h with rfl | rfl | rfl <;> decide

/-- No blank is part of a name. -/
theorem isNamePart_of_isBlank {c : CodePoint} (h : c.isBlank = true) :
    TypeText.isNamePart c = false := by
  have hmember : c.val ∈ CodePointSet.members blanks.boundaries :=
    CodePointSet.mem_members (by decide) h
  have hnone : ∀ n ∈ CodePointSet.members blanks.boundaries,
      CodePointSet.memberFrom n false alphanumerics.boundaries = false ∧ n ≠ (ofChar '_').val := by
    decide +kernel
  obtain ⟨halphanumeric, hunderscore⟩ := hnone c.val hmember
  rw [TypeText.isNamePart, Bool.or_eq_false_iff, beq_eq_false_iff_ne]
  exact ⟨halphanumeric, fun heq => hunderscore (congrArg Fin.val heq)⟩

end CodePoint

namespace Text

/-- The marks of two texts, one after the other. -/
theorem marks_append (s t : Text) : marks (s ++ t) = s.marks ++ t.marks := List.filter_append ..

/-- A text in which nothing is a mark has no marks. -/
theorem marks_eq_nil {t : Text} (h : ∀ c ∈ t, c.isMark = false) : t.marks = [] :=
  List.filter_eq_nil_iff.2 fun c hc => by simp [h c hc]

/-- Something in front that is no mark. -/
theorem marks_cons {c : CodePoint} (h : c.isMark = false) (t : Text) : marks (c :: t) = t.marks :=
  List.filter_cons_of_neg (by simp [h])

/-- Joined parts are the first part and the others behind separators. -/
theorem join_cons (separator first : Text) (parts : List Text) :
    join separator (first :: parts) = first ++ parts.flatMap (separator ++ ·) := by
  induction parts generalizing first with
  | nil => rw [join, List.intercalate_singleton, List.flatMap_nil, List.append_nil]
  | cons next parts ih =>
    rw [join, List.intercalate_cons_cons, List.append_assoc, ← join, ih, List.flatMap_cons,
      List.append_assoc]

end Text

namespace TypeText

/-- The kinds of the tokens of a text. -/
def tokenKinds (t : Text) : List TokenKind := (tokens t).map Token.kind

/-- It does not matter for the kinds of the tokens where a text starts. -/
theorem map_kind_tokensFrom (position : Nat) (t : Text) :
    (tokensFrom position t).map Token.kind = tokenKinds t := by
  suffices h : ∀ p q, (tokensFrom p t).map Token.kind = (tokensFrom q t).map Token.kind from
    h position 0
  intro p q
  induction p, t using tokensFrom.induct generalizing q with
  | case1 => simp [tokensFrom]
  | case2 p c rest hblank ih => 
    simp only [tokensFrom, if_pos hblank]
    exact ih _
  | case3 p c rest hblank hname name ih => 
    simp only [tokensFrom, if_neg hblank, if_pos hname, List.map_cons]
    exact congrArg _ (ih _)
  | case4 p c rest hblank hname ih => 
    simp only [tokensFrom, if_neg hblank, if_neg hname, List.map_cons]
    exact congrArg _ (ih _)

/-- Nothing has no tokens. -/
theorem tokenKinds_nil : tokenKinds [] = [] := by
  simp [tokenKinds, tokens, tokensFrom]

/-- A blank makes no token. -/
theorem tokenKinds_blank {c : CodePoint} (h : c.isBlank = true) (rest : Text) :
    tokenKinds (c :: rest) = tokenKinds rest := by
  rw [tokenKinds, tokens, tokensFrom, if_pos h, map_kind_tokensFrom]

/-- A character of no name is a token of its own. -/
theorem tokenKinds_sign {c : CodePoint} (hblank : c.isBlank = false)
    (hname : isNamePart c = false) (rest : Text) :
    tokenKinds (c :: rest) = .sign c :: tokenKinds rest := by
  rw [tokenKinds, tokens, tokensFrom, if_neg (by simp [hblank]), if_neg (by simp [hname]),
    List.map_cons, map_kind_tokensFrom]

/-- A name is a token as far as it goes. -/
theorem tokenKinds_name {c : CodePoint} (hblank : c.isBlank = false) (hname : isNamePart c = true)
    (rest : Text) :
    tokenKinds (c :: rest) =
      .name (Text.upperCase (c :: rest.takeWhile isNamePart)) ::
        tokenKinds (rest.dropWhile isNamePart) := by
  rw [tokenKinds, tokens, tokensFrom, if_neg (by simp [hblank]), if_pos hname, List.map_cons,
    map_kind_tokensFrom]

/-- A name is a token where no longer name stands. -/
theorem tokenKinds_run {run rest : Text} (hne : run ≠ []) (hrun : ∀ c ∈ run, isNamePart c = true)
    (hstop : ∀ c ∈ rest.head?, isNamePart c = false) :
    tokenKinds (run ++ rest) = .name run.upperCase :: tokenKinds rest := by
  obtain ⟨c, run, rfl⟩ := List.exists_cons_of_ne_nil hne
  obtain ⟨hc, hrun⟩ := List.forall_mem_cons.1 hrun
  have hblank : c.isBlank = false :=
    Bool.eq_false_iff.2 fun h => by simp [CodePoint.isNamePart_of_isBlank h] at hc
  have hrest : rest.takeWhile isNamePart = [] ∧ rest.dropWhile isNamePart = rest := by
    cases rest with
    | nil => exact ⟨rfl, rfl⟩
    | cons x rest => simp [hstop x rfl]
  rw [List.cons_append, tokenKinds_name hblank hc, List.takeWhile_append_of_pos hrun,
    List.dropWhile_append_of_pos hrun, hrest.1, hrest.2, List.append_nil]

/-- The marks of a token. -/
def TokenKind.marks : TokenKind → Text
  | name _ => []
  | sign c => Text.marks [c]

/-- The marks of a text are those of its tokens. -/
theorem marks_eq (t : Text) : t.marks = (tokenKinds t).flatMap TokenKind.marks := by
  suffices h : Nat → t.marks = (tokenKinds t).flatMap TokenKind.marks from h 0
  intro p
  induction p, t using tokensFrom.induct with
  | case1 =>
    rw [tokenKinds_nil]
    rfl
  | case2 p c rest hblank ih =>
    have hmark : c.isMark = false :=
      Bool.eq_false_iff.2 fun h => by simp [CodePoint.isBlank_of_isMark h] at hblank
    rw [tokenKinds_blank hblank, Text.marks_cons hmark, ih]
  | case3 p c rest hblank hname _ ih =>
    have hpart : ∀ x ∈ c :: rest.takeWhile isNamePart, x.isMark = false := by
      intro x hx
      have hx : isNamePart x = true := by
        rcases List.mem_cons.1 hx with rfl | hx
        · exact hname
        · exact List.mem_takeWhile_imp hx
      exact Bool.eq_false_iff.2 fun h => by simp [CodePoint.isNamePart_of_isMark h] at hx
    rw [tokenKinds_name (Bool.eq_false_iff.2 hblank) hname, List.flatMap_cons, ← ih]
    calc Text.marks (c :: rest)
        = Text.marks ((c :: rest.takeWhile isNamePart) ++ rest.dropWhile isNamePart) := by
          rw [List.cons_append, List.takeWhile_append_dropWhile]
      _ = TokenKind.marks (.name _) ++ Text.marks (rest.dropWhile isNamePart) := by
          rw [Text.marks_append, Text.marks_eq_nil hpart]
          rfl
  | case4 p c rest hblank hname ih =>
    rw [tokenKinds_sign (Bool.eq_false_iff.2 hblank) (Bool.eq_false_iff.2 hname),
      List.flatMap_cons, ← ih]
    exact Text.marks_append [c] rest

/-! ## The names of types -/

/-- A code point before the small letters is its own upper case. -/
theorem upperCase_of_lt {c : CodePoint} (h : c.val < 0x61) : c.upperCase = [c] := by
  have hexpansion : upperExpansions.lookup c.val = none := by
    have hfirst : ∀ p ∈ upperExpansions, 0x61 ≤ p.1 := by decide
    refine List.lookup_eq_none_iff.2 fun p hp => ?_
    have := hfirst p hp
    simpa using (by omega : c.val ≠ p.1)
  have hrun : upperRuns.find? (·.has c.val) = none := by
    have hfirst : ∀ r ∈ upperRuns, 0x61 ≤ r.first := by decide +kernel
    refine List.find?_eq_none.2 fun r hr => ?_
    have := hfirst r hr
    simp only [CaseRun.has, Bool.and_eq_true, decide_eq_true_eq, not_and]
    omega
  rw [CodePoint.upperCase, hexpansion, hrun]

/-- The letters of the names of types. -/
def tagLetters : Text := "ABCDEFGHIJKLMNOPQRSTUVWXYZ_"

/-- The letters are visible and may be part of a name. -/
theorem isNamePart_of_mem_tagLetters {c : CodePoint} (hc : c ∈ tagLetters) :
    c.isVisible = true ∧ isNamePart c = true := by
  have hall : (tagLetters.all fun c => c.isVisible && isNamePart c) = true := by decide
  simpa using List.all_eq_true.1 hall c hc

/-- The letters are in upper case. -/
theorem upperCase_of_subset_tagLetters {tag : Text} (h : tag ⊆ tagLetters) :
    tag.upperCase = tag := by
  have hall : (tagLetters.all fun c => c.val < 0x61) = true := by decide
  have hself : ∀ c ∈ tag, c.upperCase = [c] := fun c hc =>
    upperCase_of_lt (by simpa using List.all_eq_true.1 hall c (h hc))
  rw [Text.upperCase, List.flatMap_congr hself, List.flatMap_singleton']

/-- A name of these letters is a token where no longer name stands. -/
theorem tokenKinds_tag {tag rest : Text} (htag : tag ⊆ tagLetters) (hne : tag ≠ [])
    (hrest : ∀ c ∈ rest.head?, isNamePart c = false) :
    tokenKinds (tag ++ rest) = .name tag :: tokenKinds rest := by
  have hname : ∀ c ∈ tag, isNamePart c = true := fun c hc =>
    (isNamePart_of_mem_tagLetters (htag hc)).2
  rw [tokenKinds_run hne hname hrest, upperCase_of_subset_tagLetters htag]

/-- The name of a leaf type is made of these letters. -/
theorem text_subset_tagLetters (type : LeafType) : type.text ⊆ tagLetters := by
  cases type <;> decide

/-- The name of a leaf type has a letter. -/
theorem text_ne_nil (type : LeafType) : type.text ≠ [] := by
  cases type <;> decide

end TypeText

end Delimited
