import Delimited.Field.Quoting
import Delimited.Number.Digits

/-!
# Texts without blanks around them

Blanks are below the visible ASCII characters or above them. A *word* is made of visible characters
other than the comment sign, and a *phrase* is a word or two with a blank between them. Trimming
does not change a phrase.
-/

namespace Delimited

/-- Is the code point a visible ASCII character? -/
def CodePoint.isVisible (c : CodePoint) : Bool := 0x21 ≤ c.val && c.val < 0x7F

/-- Visible characters are not blank. -/
theorem CodePoint.isBlank_of_isVisible {c : CodePoint} (h : c.isVisible = true) :
    c.isBlank = false := by
  simp only [isVisible, Bool.and_eq_true, decide_eq_true_eq] at h
  have h1 : ¬ c.val < 0x9 := by omega
  have h2 : ¬ c.val < 0xE := by omega
  have h3 : ¬ c.val < 0x1C := by omega
  have h4 : ¬ c.val < 0x21 := by omega
  have h5 : c.val < 0x85 := by omega
  simp [isBlank, blanks, CodePointSet.contains, CodePointSet.memberFrom, h1, h2, h3, h4, h5]

/-- Line breaks are blank. -/
theorem CodePoint.isBlank_of_isLineBreak {c : CodePoint} (h : c.isLineBreak = true) :
    c.isBlank = true := by
  rw [isLineBreak, Bool.or_eq_true, beq_iff_eq, beq_iff_eq] at h
  rcases h with rfl | rfl <;> decide

namespace Text

/-- A text that does not start with a blank has none to lose on the left. -/
theorem trimLeft_eq_self {t : Text} (h : ∀ c, t.head? = some c → c.isBlank = false) :
    t.trimLeft = t := by
  cases t with
  | nil => rfl
  | cons c t => simp [trimLeft, h c rfl]

/-- A text that does not end with a blank has none to lose on the right. -/
theorem trimRight_eq_self {t : Text} (h : ∀ c, t.getLast? = some c → c.isBlank = false) :
    t.trimRight = t := by
  have hrev := trimLeft_eq_self (t := t.reverse) fun c hc => h c (by simpa using hc)
  rw [trimLeft] at hrev
  rw [trimRight, hrev, List.reverse_reverse]

/-- A text that neither starts nor ends with a blank is trimmed. -/
theorem trim_eq_self {t : Text} (hhead : ∀ c, t.head? = some c → c.isBlank = false)
    (hlast : ∀ c, t.getLast? = some c → c.isBlank = false) : t.trim = t := by
  rw [trim, trimLeft_eq_self hhead, trimRight_eq_self hlast]

/-- A blank at the end is trimmed. -/
theorem trim_concat {c : CodePoint} (hc : c.isBlank = true) (t : Text) :
    trim (t ++ [c]) = t.trim := by
  have hright : ∀ s : Text, trimRight (s ++ [c]) = s.trimRight := by
    intro s
    rw [trimRight, trimRight, List.reverse_append, List.reverse_singleton, List.singleton_append,
      List.dropWhile_cons_of_pos hc]
  rw [trim, trim, trimLeft, trimLeft, List.dropWhile_append]
  split
  · next hnil =>
    rw [List.isEmpty_iff.1 hnil, List.dropWhile_cons_of_pos hc]
    rfl
  · exact hright _

/-- A trimmed text is a part of the text. -/
theorem trim_subset (t : Text) : t.trim ⊆ t := by
  intro c hc
  have hright : c ∈ t.trimLeft := by
    rw [trim, trimRight, List.mem_reverse] at hc
    exact List.mem_reverse.1 ((List.dropWhile_suffix _).subset hc)
  exact (List.dropWhile_suffix _).subset hright

/-- A blank at the start is trimmed. -/
theorem trim_cons {c : CodePoint} (hc : c.isBlank = true) (t : Text) : trim (c :: t) = t.trim := by
  rw [trim, trim, trimLeft, List.dropWhile_cons_of_pos hc, trimLeft]

/-- No blank is first when the leading blanks are gone. -/
theorem isBlank_head_dropWhile {t : Text} :
    ∀ c, (t.dropWhile CodePoint.isBlank).head? = some c → c.isBlank = false := by
  intro c hc
  have hfirst := List.head?_dropWhile_not CodePoint.isBlank t
  rw [hc] at hfirst
  exact hfirst

/-- A trimmed text does not start with a blank. -/
theorem isBlank_head_trim {t : Text} : ∀ c, t.trim.head? = some c → c.isBlank = false := by
  intro c hc
  have hprefix : t.trim <+: t.trimLeft := by
    rw [trim, trimRight, ← List.reverse_suffix, List.reverse_reverse]
    exact List.dropWhile_suffix _
  obtain ⟨rest, hrest⟩ := hprefix
  refine isBlank_head_dropWhile (t := t) c ?_
  rw [← trimLeft, ← hrest, List.head?_append, hc]
  rfl

/-- A trimmed text is trimmed. -/
theorem trim_trim (t : Text) : t.trim.trim = t.trim := by
  refine trim_eq_self isBlank_head_trim fun c hc => ?_
  rw [trim, trimRight, List.getLast?_reverse] at hc
  exact isBlank_head_dropWhile c hc

/-- A text of visible characters none of which is the comment sign. -/
def IsWord (t : Text) : Prop := ∀ c ∈ t, c.isVisible = true ∧ c ≠ commentSign

instance (t : Text) : Decidable t.IsWord :=
  decidable_of_iff (t.all fun c => c.isVisible && c != commentSign) (by simp [IsWord])

/-- Nothing is a word. -/
theorem isWord_nil : IsWord [] := List.forall_mem_nil _

/-- Two words are one word. -/
theorem IsWord.append {s t : Text} (hs : s.IsWord) (ht : t.IsWord) : IsWord (s ++ t) :=
  List.forall_mem_append.2 ⟨hs, ht⟩

/-- A visible character other than the comment sign in front of a word. -/
theorem IsWord.cons {c : CodePoint} {t : Text} (hc : c.isVisible = true ∧ c ≠ commentSign)
    (ht : t.IsWord) : IsWord (c :: t) :=
  List.forall_mem_cons.2 ⟨hc, ht⟩

/-- Digits are a word. -/
theorem isWord_of_isDigit {t : Text} (h : ∀ c ∈ t, c.isDigit = true) : t.IsWord := by
  intro c hc
  have hdigit : 0x30 ≤ c.val ∧ c.val ≤ 0x39 := by simpa [CodePoint.isDigit] using h c hc
  constructor
  · simp only [CodePoint.isVisible, Bool.and_eq_true, decide_eq_true_eq]
    omega
  · rintro rfl
    exact absurd hdigit (by decide)

/-- Nothing in a word is blank. -/
theorem IsWord.isBlank_eq_false {t : Text} (h : t.IsWord) : ∀ c ∈ t, c.isBlank = false :=
  fun c hc => CodePoint.isBlank_of_isVisible (h c hc).1

/-- A word is trimmed. -/
theorem IsWord.trim_eq_self {t : Text} (h : t.IsWord) : t.trim = t :=
  Text.trim_eq_self (fun c hc => h.isBlank_eq_false c (List.mem_of_mem_head? hc))
    fun c hc => h.isBlank_eq_false c (List.mem_of_getLast? hc)

/-- A word, or two words with a blank between them. -/
inductive IsPhrase : Text → Prop where
  /-- There is one word. -/
  | word {t : Text} (h : t.IsWord) : IsPhrase t
  /-- There are two. -/
  | words {s t : Text} (hs : s.IsWord) (ht : t.IsWord) (hs_ne : s ≠ []) (ht_ne : t ≠ []) :
    IsPhrase (s ++ .ofChar ' ' :: t)

/-- There is no comment sign in a phrase. -/
theorem IsPhrase.ne_commentSign {t : Text} (h : t.IsPhrase) : ∀ c ∈ t, c ≠ commentSign := by
  intro c hc
  cases h with
  | word h => exact (h c hc).2
  | words hs ht =>
    rcases List.mem_append.1 hc with hc | hc
    · exact (hs c hc).2
    · rcases List.mem_cons.1 hc with rfl | hc
      · decide
      · exact (ht c hc).2

/-- There is no surrogate in a phrase. -/
theorem IsPhrase.isSurrogate_eq_false {t : Text} (h : t.IsPhrase) :
    ∀ c ∈ t, c.isSurrogate = false := by
  have hvisible : ∀ {c : CodePoint}, c.isVisible = true → c.isSurrogate = false := by
    intro c hc
    simp only [CodePoint.isVisible, Bool.and_eq_true, decide_eq_true_eq] at hc
    simp only [CodePoint.isSurrogate, Bool.and_eq_false_iff, decide_eq_false_iff_not]
    omega
  intro c hc
  cases h with
  | word h => exact hvisible (h c hc).1
  | words hs ht =>
    rcases List.mem_append.1 hc with hc | hc
    · exact hvisible (hs c hc).1
    · rcases List.mem_cons.1 hc with rfl | hc
      · decide
      · exact hvisible (ht c hc).1

/-- A phrase is trimmed. -/
theorem IsPhrase.trim_eq_self {t : Text} (h : t.IsPhrase) : t.trim = t := by
  cases h with
  | word h => exact h.trim_eq_self
  | @words s t hs ht hs_ne ht_ne =>
    obtain ⟨a, s, rfl⟩ := List.exists_cons_of_ne_nil hs_ne
    refine Text.trim_eq_self (fun c hc => ?_) fun c hc => ?_
    · cases hc
      exact hs.isBlank_eq_false _ (by simp)
    · have hlast := List.getLast?_eq_some_getLast ht_ne
      rw [List.getLast?_append, List.getLast?_cons_of_ne_nil ht_ne, hlast] at hc
      cases hc
      exact ht.isBlank_eq_false _ (List.getLast_mem ht_ne)

end Text

end Delimited
