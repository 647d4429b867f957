import Mathlib.Data.List.Nodup
import Delimited.Proofs.Schema.Grammar
import Delimited.Proofs.Schema.Text

/-!
# Written types joined to a written schema

A written schema is cut without reading types, and types are read without regard to where they
stand. The two agree: texts that are read as types, joined with commas, are cut at these commas and
nowhere else, since the commas of a type stand within its brackets. A plain name with a colon in
front does not change that. So the schema of the joined text is that of the types and names one by
one, and the same names are refused, `parse_join`.
-/

namespace Delimited

open CodePoint (ofChar)

namespace Text

/-- A text has blanks behind what is left of it when it is trimmed on the right. -/
theorem exists_trimRight_append (t : Text) :
    ∃ blanks : Text, (∀ c ∈ blanks, c.isBlank = true) ∧ t.trimRight ++ blanks = t := by
  refine ⟨(t.reverse.takeWhile CodePoint.isBlank).reverse, fun c hc => ?_, ?_⟩
  · exact List.mem_takeWhile_imp (List.mem_reverse.1 hc)
  · rw [trimRight, ← List.reverse_append, List.takeWhile_append_dropWhile, List.reverse_reverse]

/-- Trimming on the right ends at a character that is not blank. -/
theorem trimRight_append_cons {c : CodePoint} (hc : c.isBlank = false) (front rest : Text) :
    trimRight (front ++ c :: rest) = front ++ c :: rest.trimRight := by
  unfold trimRight
  rw [List.reverse_append, List.reverse_cons, List.append_assoc, List.dropWhile_append]
  split
  · next hnil =>
    rw [List.isEmpty_iff.1 hnil, List.singleton_append, List.dropWhile_cons_of_neg (by simp [hc])]
    simp
  · simp

end Text

namespace TypeText

variable {t : Text} {type : ColumnType}

/-- Blanks have no tokens. -/
theorem tokenKinds_blanks {blanks : Text} (h : ∀ c ∈ blanks, c.isBlank = true) :
    tokenKinds blanks = [] := by
  induction blanks with
  | nil => exact tokenKinds_nil
  | cons c blanks ih =>
    obtain ⟨hc, hblanks⟩ := List.forall_mem_cons.1 h
    rw [tokenKinds_blank hc, ih hblanks]

/-- Blanks behind a text do not change its tokens. -/
theorem tokenKinds_append_blanks {blanks : Text} (h : ∀ c ∈ blanks, c.isBlank = true) (t : Text) :
    tokenKinds (t ++ blanks) = tokenKinds t := by
  suffices hpos : Nat → tokenKinds (t ++ blanks) = tokenKinds t from hpos 0
  intro p
  induction p, t using tokensFrom.induct with
  | case1 => rw [List.nil_append, tokenKinds_blanks h, tokenKinds_nil]
  | case2 p c rest hblank ih =>
    rw [List.cons_append, tokenKinds_blank hblank, tokenKinds_blank hblank, ih]
  | case3 p c rest hblank hname _ ih =>
    have hrun : ∀ x ∈ c :: rest.takeWhile isNamePart, isNamePart x = true :=
      List.forall_mem_cons.2 ⟨hname, fun x hx => List.mem_takeWhile_imp hx⟩
    -- The name ends in front of the blanks, or before.
    have hstop : ∀ x ∈ (rest.dropWhile isNamePart ++ blanks).head?, isNamePart x = false := by
      intro x hx
      rw [Option.mem_def, List.head?_append] at hx
      cases hdrop : (rest.dropWhile isNamePart).head? with
      | none =>
        rw [hdrop, Option.none_or] at hx
        exact CodePoint.isNamePart_of_isBlank (h x (List.mem_of_mem_head? hx))
      | some y =>
        rw [hdrop, Option.some_or] at hx
        cases hx
        have hfirst := List.head?_dropWhile_not isNamePart rest
        rwa [hdrop] at hfirst
    rw [tokenKinds_name (Bool.eq_false_iff.2 hblank) hname, ← ih,
      ← tokenKinds_run (List.cons_ne_nil _ _) hrun hstop, List.cons_append, List.cons_append,
      ← List.append_assoc, List.takeWhile_append_dropWhile]
  | case4 p c rest hblank hname ih =>
    rw [List.cons_append, tokenKinds_sign (Bool.eq_false_iff.2 hblank) (Bool.eq_false_iff.2 hname),
      tokenKinds_sign (Bool.eq_false_iff.2 hblank) (Bool.eq_false_iff.2 hname), ih]

/-- Trimming on the right keeps the tokens. -/
theorem tokenKinds_trimRight (t : Text) : tokenKinds t.trimRight = tokenKinds t := by
  obtain ⟨blanks, hblanks, ht⟩ := t.exists_trimRight_append
  calc tokenKinds t.trimRight
      = tokenKinds (t.trimRight ++ blanks) := (tokenKinds_append_blanks hblanks _).symm
    _ = tokenKinds t := by rw [ht]

/-- Trimming keeps the tokens. -/
theorem tokenKinds_trim (t : Text) : tokenKinds t.trim = tokenKinds t := by
  rw [Text.trim, tokenKinds_trimRight, Text.trimLeft]
  induction t with
  | nil => rfl
  | cons c t ih =>
    rw [List.dropWhile_cons]
    split
    · next hc => rw [ih, tokenKinds_blank hc]
    · rfl

/-- No colon is in a text that is cut into tokens. -/
theorem IsTokens.colon_notMem {ks : List TokenKind} (h : IsTokens t ks) : ofChar ':' ∉ t := by
  have hblank : (ofChar ':').isBlank ≠ true := by decide
  have hname : isNamePart (ofChar ':') ≠ true := by decide
  have hmark : (ofChar ':').isMark ≠ true := by decide
  induction h with
  | nil => exact List.not_mem_nil
  | blank hc _ ih =>
    rw [List.mem_cons, not_or]
    exact ⟨fun heq => hblank (heq ▸ hc), ih⟩
  | name _ hrun _ _ ih =>
    rw [List.mem_append, not_or]
    exact ⟨fun hmem => hname (hrun _ hmem), ih⟩
  | sign hc _ ih =>
    rw [List.mem_cons, not_or]
    exact ⟨fun heq => hmark (heq ▸ CodePoint.isMark_iff.2 hc), ih⟩

/-- No colon is in a text that is read as a type. -/
theorem colon_notMem_of_parse (h : parse t = .ok type) : ofChar ':' ∉ t :=
  (isTokens_kinds_iff.2 (parse_eq_ok.1 h)).colon_notMem

/-- A text that is read as a type is not empty. -/
theorem ne_nil_of_parse (h : parse t = .ok type) : t ≠ [] := by
  rintro rfl
  have hkinds := parse_eq_ok.1 h
  rw [tokenKinds_nil] at hkinds
  cases type <;> cases hkinds

end TypeText

namespace Schema

/-! ## Columns -/

/-- A written type with a name, perhaps, and a colon in front. -/
def labelled : Option Text → Text → Text
  | none, x => x
  | some name, x => name ++ ofChar ':' :: x

/-- The name is none, or plain and not empty. -/
def IsLabel (name : Option Text) : Prop := ∀ n ∈ name, n ≠ [] ∧ IsPlainName n

/-- No name is none. -/
theorem isLabel_none : IsLabel none := by
  rintro n ⟨⟩

variable {x : Text} {type : ColumnType}

/-- A column is read from a written type with a name or without. -/
theorem parseColumn_labelled {name : Option Text} (hname : IsLabel name)
    (hx : TypeText.parse x = .ok type) (whole : Text) :
    parseColumn whole (labelled name x) = .ok (name, type) := by
  rw [parseColumn_eq_ok]
  cases name with
  | none =>
    have hparse : TypeText.parse x.trim = .ok type := by
      rw [TypeText.parse_eq_ok, TypeText.tokenKinds_trim, ← TypeText.parse_eq_ok]
      exact hx
    have hsplit : splitColumn x.trim = (none, x.trim) := by
      refine (splitColumn_cases x.trim).resolve_right ?_
      rintro ⟨front, rest, -, heq⟩
      refine TypeText.colon_notMem_of_parse hparse ?_
      rw [heq]
      exact List.mem_append_right _ List.mem_cons_self
    rw [labelled, hsplit]
    exact ⟨TypeText.ne_nil_of_parse hparse, rfl, hparse⟩
  | some n =>
    obtain ⟨hne, hplain⟩ := hname n rfl
    have hparse : TypeText.parse x.trimRight = .ok type := by
      rw [TypeText.parse_eq_ok, TypeText.tokenKinds_trimRight, ← TypeText.parse_eq_ok]
      exact hx
    have htrim : (labelled (some n) x).trim = n ++ ofChar ':' :: x.trimRight := by
      have hhead : ∀ c, (n ++ ofChar ':' :: x).head? = some c → c.isBlank = false := by
        intro c hc
        rw [List.head?_append_of_ne_nil _ hne, ← hplain.trim_eq] at hc
        exact Text.isBlank_head_trim c hc
      rw [labelled, Text.trim, Text.trimLeft_eq_self hhead,
        Text.trimRight_append_cons (by decide)]
    rw [htrim, splitColumn_append hplain.isReadable.colon_notMem, hplain.trim_eq]
    exact ⟨List.append_ne_nil_of_left_ne_nil hne _, rfl, hparse⟩

/-- A written type has its commas within brackets, with a name or without. -/
theorem depthAfter?_labelled {name : Option Text} (hname : IsLabel name)
    (hx : TypeText.parse x = .ok type) : depthAfter? 0 (labelled name x) = some 0 := by
  have htype : depthAfter? 0 x = some 0 := by
    rw [← depthAfter?_marks, TypeText.marks_of_parse hx, depthAfter?_marks, depthAfter?_text]
  cases name with
  | none => exact htype
  | some n =>
    rw [← depthAfter?_marks, labelled, Text.marks_append, Text.marks_cons (by decide),
      (hname n rfl).2.marks_eq_nil, List.nil_append, depthAfter?_marks, htype]

/-- Written types with names or without are read as columns one by one. -/
theorem forall₂_parseColumn {names : List (Option Text)} {xs : List Text}
    {types : List ColumnType}
    (htypes : List.Forall₂ (fun x type => TypeText.parse x = .ok type) xs types)
    (hlength : names.length = xs.length) (hnames : ∀ name ∈ names, IsLabel name) (whole : Text) :
    List.Forall₂ (fun part column => depthAfter? 0 part = some 0 ∧
      parseColumn whole part = .ok column) (List.zipWith labelled names xs) (names.zip types) := by
  induction htypes generalizing names with
  | nil =>
    rw [List.zipWith_nil_right, List.zip_nil_right]
    exact .nil
  | cons hx _ ih =>
    obtain ⟨name, names, rfl⟩ := List.exists_cons_of_length_eq_add_one hlength
    obtain ⟨hname, hnames⟩ := List.forall_mem_cons.1 hnames
    exact .cons ⟨depthAfter?_labelled hname hx, parseColumn_labelled hname hx whole⟩
      (ih (Nat.succ.inj hlength) hnames)

/-- Written types with names or without are read as columns when they are joined. -/
theorem columns_join {names : List (Option Text)} {xs : List Text} {types : List ColumnType}
    (hne : xs ≠ []) (htypes : List.Forall₂ (fun x type => TypeText.parse x = .ok type) xs types)
    (hlength : names.length = xs.length) (hnames : ∀ name ∈ names, IsLabel name) (whole : Text) :
    (columnTexts (Text.join [ofChar ','] (List.zipWith labelled names xs))).mapM
      (parseColumn whole) = .ok (names.zip types) := by
  obtain ⟨hdepth, hcolumns⟩ :=
    (List.forall₂_and_left _ _).1 (forall₂_parseColumn htypes hlength hnames whole)
  have hparts : List.zipWith labelled names xs ≠ [] := by
    rw [Ne, List.zipWith_eq_nil_iff, not_or]
    refine ⟨fun hnil => hne ?_, hne⟩
    rw [hnil] at hlength
    exact List.length_eq_zero_iff.1 hlength.symm
  rw [columnTexts, (IsCut.of_depthAfter? hparts hdepth).cutAtDepth_join, Except.mapM_eq_ok]
  exact hcolumns

/-! ## Names -/

/-- Texts are refused as names at the first one that is there before. -/
theorem checkNames_cases (seen : List Text) {names : List Text} (hne : ∀ n ∈ names, n ≠ []) :
    (names.Nodup ∧ ∀ n ∈ names, n ∉ seen) ∨
      ∃ before name after, names = before ++ name :: after ∧
        (before.Nodup ∧ ∀ n ∈ before, n ∉ seen) ∧ name ∈ before ++ seen ∧
          checkNames seen (names.map Value.text) = .error (.duplicateName name) := by
  induction names generalizing seen with
  | nil => exact .inl ⟨.nil, List.forall_mem_nil _⟩
  | cons n names ih =>
    obtain ⟨hn, hnames⟩ := List.forall_mem_cons.1 hne
    obtain ⟨c, n, rfl⟩ := List.exists_cons_of_ne_nil hn
    rw [List.map_cons, checkNames]
    by_cases hseen : (c :: n) ∈ seen
    · rw [if_pos (by simpa using hseen)]
      exact .inr ⟨[], c :: n, names, rfl, ⟨.nil, List.forall_mem_nil _⟩, hseen, rfl⟩
    rw [if_neg (by simpa using hseen)]
    -- What is new to the others is new to this name as well.
    have hcons : ∀ {l : List Text}, (l.Nodup ∧ ∀ m ∈ l, m ∉ (c :: n) :: seen) →
        ((c :: n) :: l).Nodup ∧ ∀ m ∈ (c :: n) :: l, m ∉ seen := by
      rintro l ⟨hnodup, hnew⟩
      refine ⟨List.nodup_cons.2 ⟨fun hmem => hnew _ hmem List.mem_cons_self, hnodup⟩, ?_⟩
      refine List.forall_mem_cons.2 ⟨hseen, fun m hm hmem => ?_⟩
      exact hnew m hm (List.mem_cons_of_mem _ hmem)
    rcases ih ((c :: n) :: seen) hnames with hnew | ⟨before, name, after, rfl, hnew, hname,
      hcheck⟩
    · exact .inl (hcons hnew)
    · refine .inr ⟨(c :: n) :: before, name, after, rfl, hcons hnew, ?_, ?_⟩
      · simp only [List.mem_append, List.mem_cons] at hname ⊢
        tauto
      · rw [hcheck]
        rfl

/-- There is a schema of distinct names that are not empty and of as many types. -/
theorem exists_names_types {names : List Text} {types : List ColumnType} (hne : types ≠ [])
    (hlength : names.length = types.length) (hname : ∀ n ∈ names, n ≠ [])
    (hnodup : names.Nodup) : ∃ s : Schema, s.types = types ∧ s.names = names :=
  ⟨ofColumns names types hlength hne hname hnodup, types_ofColumns .., names_ofColumns ..⟩

/-- Different numbers make different default names. -/
theorem nodup_defaultNames (count : Nat) : (defaultNames count).Nodup := by
  refine List.Nodup.map (fun i j hij => ?_) List.nodup_range
  have hdigits : Digits.ofNat i = Digits.ofNat j := (List.cons.inj hij).2
  rw [← Digits.value_ofNat i, hdigits, Digits.value_ofNat]

/-- Types without names make a schema with the default names. -/
theorem exists_ofTypes_nil {types : List ColumnType} (hne : types ≠ []) :
    ∃ s, ofTypes types [] = .ok s ∧ s.types = types ∧ s.names = defaultNames types.length := by
  have hlength : (defaultNames types.length).length = types.length := by
    rw [defaultNames, List.length_map, List.length_range]
  have hname : ∀ n ∈ defaultNames types.length, n ≠ [] :=
    List.forall_mem_map.2 fun i _ => List.cons_ne_nil _ _
  obtain ⟨s, htypes, hnames⟩ := exists_names_types hne hlength hname (nodup_defaultNames _)
  exact ⟨s, ofTypes_eq_ok.2 ⟨htypes, by rw [hnames]; rfl⟩, htypes, hnames⟩

/-- Types with distinct names that are not empty make a schema with these names. -/
theorem exists_ofTypes_map_text {names : List Text} {types : List ColumnType} (hne : types ≠ [])
    (hlength : names.length = types.length) (hname : ∀ n ∈ names, n ≠ [])
    (hnodup : names.Nodup) :
    ∃ s, ofTypes types (names.map Value.text) = .ok s ∧ s.types = types ∧ s.names = names := by
  have hnames : names ≠ [] := by
    rintro rfl
    exact hne (List.length_eq_zero_iff.1 hlength.symm)
  obtain ⟨s, htypes, hs⟩ := exists_names_types hne hlength hname hnodup
  refine ⟨s, ofTypes_eq_ok.2 ⟨htypes, ?_⟩, htypes, hs⟩
  rw [hs, namesFor_map_text hnames]

/-- Types with a name that is there twice are refused. -/
theorem ofTypes_eq_duplicateName {names : List Text} {types : List ColumnType}
    (hlength : names.length = types.length) (hname : ∀ n ∈ names, n ≠ [])
    (hnodup : ¬ names.Nodup) :
    ∃ before name after, names = before ++ name :: after ∧ before.Nodup ∧ name ∈ before ∧
      ofTypes types (names.map Value.text) = .error (.duplicateName name) := by
  have hnames : names ≠ [] := by
    rintro rfl
    exact hnodup .nil
  rcases checkNames_cases [] hname with ⟨h, -⟩ | ⟨before, name, after, heq, ⟨hbefore, -⟩,
    hmem, hcheck⟩
  · exact absurd h hnodup
  · rw [List.append_nil] at hmem
    refine ⟨before, name, after, heq, hbefore, hmem, ?_⟩
    rw [ofTypes_eq, namesFor_map_text hnames, dif_pos (by rw [List.length_map, hlength])]
    split
    · next h => rw [Except.error.inj (h.symm.trans hcheck)]
    · next h => cases h.symm.trans hcheck

/-- The names that a sequence lists are its items. -/
theorem listedNames_sequence (kind : SequenceKind) (items : List Value) :
    listedNames (.sequence kind items) = .ok items := by
  unfold listedNames
  cases items <;> rfl

/-- The schema of types that are read one by one. -/
theorem of_eq_ofTypes {xs : List Text} {types : List ColumnType} {names : Value}
    {given : List Value} (hne : types ≠ [])
    (htypes : List.Forall₂ (fun x type => TypeText.parse x = .ok type) xs types)
    (hnames : listedNames names = .ok given) :
    Schema.of (xs.map fun x => .value (.text x)) names = ofTypes types given := by
  have hspecs : (xs.map fun x => TypeSpec.value (.text x)).mapM TypeSpec.resolve = .ok types :=
    Except.mapM_eq_ok.2 (List.forall₂_map_left_iff.2 htypes)
  have hempty : types.isEmpty = false := List.isEmpty_eq_false_iff.2 hne
  unfold Schema.of create
  rw [hnames, hspecs]
  simp only [bind, Except.bind, hempty, listedNames_sequence]
  rfl

/-! ## Schemas -/

section Join

variable {xs : List Text} {types : List ColumnType} (hne : xs ≠ [])
  (htypes : List.Forall₂ (fun x type => TypeText.parse x = .ok type) xs types)

include hne htypes

/-- There are as many types as texts, and so there is one. -/
theorem types_ne_nil_of_forall₂ : types ≠ [] := by
  rintro rfl
  exact hne (List.forall₂_nil_right_iff.1 htypes)

/-- Written types with names or without, joined with commas. -/
theorem parse_join_labelled {names : List (Option Text)} {t : Text}
    (hlength : names.length = xs.length) (hnames : ∀ name ∈ names, IsLabel name)
    (ht : t = Text.join [ofChar ','] (List.zipWith labelled names xs)) :
    parse t = if names.filterMap id = [] ∨ (names.filterMap id).length = names.length then
      ofTypes types ((names.filterMap id).map Value.text) else .error (.mixedNames t) := by
  have hlen : names.length = types.length := hlength.trans htypes.length_eq
  have hcolumns := columns_join hne htypes hlength hnames t
  rw [← ht] at hcolumns
  have hfst : (names.zip types).filterMap Prod.fst = names.filterMap id := by
    calc (names.zip types).filterMap Prod.fst
        = ((names.zip types).map Prod.fst).filterMap id := by rw [List.filterMap_map]; rfl
      _ = names.filterMap id := by rw [List.map_fst_zip hlen.le]
  have hsnd : (names.zip types).map Prod.snd = types := List.map_snd_zip hlen.ge
  have hzip : (names.zip types).length = names.length := by
    rw [List.length_zip, hlen, min_self]
  split
  · next hall =>
    rw [parse_of_columns hcolumns (by rwa [hfst, hzip]), hfst, hsnd]
  · next hmixed =>
    rw [parse, hcolumns]
    exact if_pos (isMixed_iff.2 (by rwa [hfst, hzip]))

/-- Without names, the types are the columns. -/
theorem parse_join_types : parse (Text.join [ofChar ','] xs) = ofTypes types [] := by
  have hlabelled : List.zipWith labelled (xs.map fun _ => none) xs = xs := by
    rw [List.zipWith_map_left, List.zipWith_self]
    exact List.map_id xs
  have hnone : (xs.map fun _ => (none : Option Text)).filterMap id = [] := by
    rw [List.filterMap_map, List.filterMap_eq_nil_iff]
    exact fun _ _ => rfl
  rw [parse_join_labelled hne htypes (List.length_map _)
    (List.forall_mem_map.2 fun _ _ => isLabel_none) (congrArg _ hlabelled.symm), hnone]
  exact if_pos (.inl rfl)

/-- Plain names in front of the types are the names of the columns. -/
theorem parse_join_names {names : List Text} {t : Text} (hlength : names.length = xs.length)
    (hnames : ∀ n ∈ names, n ≠ [] ∧ IsPlainName n)
    (ht : t = Text.join [ofChar ','] (List.zipWith (fun n x => n ++ ofChar ':' :: x) names xs)) :
    parse t = ofTypes types (names.map Value.text) := by
  have hlabelled : List.zipWith labelled (names.map some) xs =
      List.zipWith (fun n x => n ++ ofChar ':' :: x) names xs := by
    rw [List.zipWith_map_left]
    rfl
  have hall : (names.map some).filterMap id = names := by
    rw [List.filterMap_map]
    exact List.filterMap_some
  rw [parse_join_labelled hne htypes (by rw [List.length_map, hlength])
    (List.forall_mem_map.2 fun n hn m hm => Option.some.inj hm ▸ hnames n hn)
    (ht.trans (congrArg _ hlabelled.symm)), hall]
  exact if_pos (.inr (List.length_map _).symm)

/-- Some types with names and some without are no written schema. -/
theorem parse_join_mixed {names : List (Option Text)} {t : Text}
    (hlength : names.length = xs.length) (hnames : ∀ name ∈ names, IsLabel name)
    (hnone : none ∈ names) (hsome : ∃ n, some n ∈ names)
    (ht : t = Text.join [ofChar ','] (List.zipWith labelled names xs)) :
    parse t = .error (.mixedNames t) := by
  obtain ⟨n, hn⟩ := hsome
  have hmem : n ∈ names.filterMap id := List.mem_filterMap.2 ⟨some n, hn, rfl⟩
  rw [parse_join_labelled hne htypes hlength hnames ht, if_neg]
  rintro (hnil | hlen)
  · rw [hnil] at hmem
    cases hmem
  · cases List.filterMap_length_eq_length.1 hlen none hnone

end Join

/-- The schema of joined texts is that of the types they are read as. Without names it has the
default names, whatever the texts. With plain names that are not empty, each in front of its type
and a colon, it has these names, or a name that is there twice is refused, as it is when types and
names are given one by one. If some types have such names and others have none, the text is
refused. -/
theorem parse_join {xs : List Text} {types : List ColumnType} (hne : xs ≠ [])
    (htypes : List.Forall₂ (fun x type => TypeText.parse x = .ok type) xs types) :
    (∃ s, parse (Text.join [ofChar ','] xs) = .ok s ∧
      Schema.of (xs.map fun x => .value (.text x)) .null = .ok s ∧
        s.types = types ∧ s.names = defaultNames types.length) ∧
    (∀ (names : List Text) (kind : SequenceKind) (t : Text), names.length = xs.length →
      (∀ n ∈ names, n ≠ [] ∧ IsPlainName n) →
      t = Text.join [ofChar ','] (List.zipWith (fun n x => n ++ ofChar ':' :: x) names xs) →
      parse t = Schema.of (xs.map fun x => .value (.text x)) (.sequence kind (names.map .text)) ∧
        (names.Nodup → ∃ s, parse t = .ok s ∧ s.types = types ∧ s.names = names) ∧
        (¬ names.Nodup → ∃ before name after, names = before ++ name :: after ∧ before.Nodup ∧
          name ∈ before ∧ parse t = .error (.duplicateName name))) ∧
    ∀ (names : List (Option Text)) (t : Text), names.length = xs.length →
      (∀ name ∈ names, IsLabel name) → none ∈ names → (∃ n, some n ∈ names) →
      t = Text.join [ofChar ','] (List.zipWith labelled names xs) →
      parse t = .error (.mixedNames t) := by
  have hne' := types_ne_nil_of_forall₂ hne htypes
  refine ⟨?_, fun names kind t hlength hnames ht => ?_,
    fun names t hlength hnames hnone hsome ht =>
      parse_join_mixed hne htypes hlength hnames hnone hsome ht⟩
  · obtain ⟨s, hs, hschema⟩ := exists_ofTypes_nil hne'
    rw [parse_join_types hne htypes, of_eq_ofTypes hne' htypes rfl]
    exact ⟨s, hs, hs, hschema⟩
  · have hlen : names.length = types.length := hlength.trans htypes.length_eq
    have hname : ∀ n ∈ names, n ≠ [] := fun n hn => (hnames n hn).1
    rw [parse_join_names hne htypes hlength hnames ht,
      of_eq_ofTypes hne' htypes (listedNames_sequence _ _)]
    exact ⟨rfl, exists_ofTypes_map_text hne' hlen hname, ofTypes_eq_duplicateName hlen hname⟩

/-- Two types in small letters and with blanks, joined without names, with two names, with one name
twice and with a name for the first one only. -/
theorem parse_join_pair :
    (∃ s, parse " row< int,Long > ,String" = .ok s ∧ s.names = defaultNames 2) ∧
    (∃ s, parse "id: row< int,Long > ,all tags:String" = .ok s ∧
      s.names = [("id" : Text), "all tags"]) ∧
    (∃ name, parse "id: row< int,Long > ,id:String" = .error (.duplicateName name)) ∧
    parse "id: row< int,Long > ,String" = .error (.mixedNames "id: row< int,Long > ,String") := by
  have htypes : List.Forall₂ (fun x type => TypeText.parse x = .ok type)
      [" row< int,Long > ", "String"] [.row .int [.long], .leaf .string] :=
    .cons (TypeText.parse_eq_ok.2 (by decide +kernel))
      (.cons (TypeText.parse_eq_ok.2 (by decide +kernel)) .nil)
  have hlabel : ∀ name ∈ [some ("id" : Text), none], IsLabel name := by
    have hid : ("id" : Text) ≠ [] ∧ IsPlainName "id" := by decide
    exact List.forall_mem_cons.2 ⟨fun n hn => Option.some.inj hn ▸ hid,
      List.forall_mem_singleton.2 isLabel_none⟩
  obtain ⟨⟨s, hs, -, -, hdefault⟩, hnamed, hmixed⟩ := parse_join (by simp) htypes
  obtain ⟨-, hdistinct, -⟩ := hnamed ["id", "all tags"] .tuple
    "id: row< int,Long > ,all tags:String" rfl (by decide) (by decide)
  obtain ⟨-, -, htwice⟩ := hnamed ["id", "id"] .tuple "id: row< int,Long > ,id:String" rfl
    (by decide) (by decide)
  obtain ⟨s', hs', -, hnames⟩ := hdistinct (by decide)
  obtain ⟨_, name, _, -, -, -, hname⟩ := htwice (by decide)
  have hjoin : Text.join [ofChar ','] [" row< int,Long > ", "String"] =
      " row< int,Long > ,String" := by decide
  rw [hjoin] at hs
  refine ⟨⟨s, hs, hdefault⟩, ⟨s', hs', hnames⟩, ⟨name, hname⟩, ?_⟩
  exact hmixed [some "id", none] _ rfl hlabel (by simp) ⟨"id", by simp⟩ (by decide)

end Schema

end Delimited
