import Delimited.Proofs.Schema.TypeText

/-!
# The grammar of written types

`IsTokens` says how a text is cut into tokens: blanks between them are dropped, names are as long as
possible and taken in upper case, and of other characters there are only angle brackets and commas.
A text is read as a type exactly if it is cut into the tokens of the type. Every other text is
refused, with a fault at a position of the text or for a composite within a composite; what else
stops the reader are brackets that lead too deep. `parse_grammar` puts these together.
-/

namespace Delimited

open CodePoint (ofChar)

namespace TypeText

/-! ## Cutting a text into tokens -/

/-- The text is cut into tokens of these kinds. -/
inductive IsTokens : Text → List TokenKind → Prop where
  /-- Nothing has no tokens. -/
  | nil : IsTokens [] []
  /-- A blank is dropped. -/
  | blank {c : CodePoint} {rest : Text} {ks : List TokenKind} (hc : c.isBlank = true)
    (hrest : IsTokens rest ks) : IsTokens (c :: rest) ks
  /-- A name goes as far as its characters do, and is taken in upper case. -/
  | name {run rest : Text} {ks : List TokenKind} (hne : run ≠ [])
    (hrun : ∀ c ∈ run, isNamePart c = true) (hstop : ∀ c ∈ rest.head?, isNamePart c = false)
    (hrest : IsTokens rest ks) : IsTokens (run ++ rest) (.name run.upperCase :: ks)
  /-- An angle bracket or a comma is a token. -/
  | sign {c : CodePoint} {rest : Text} {ks : List TokenKind}
    (hc : c = ofChar '<' ∨ c = ofChar '>' ∨ c = ofChar ',') (hrest : IsTokens rest ks) :
    IsTokens (c :: rest) (.sign c :: ks)

variable {t : Text} {type : ColumnType}

/-- The tokens that a text is cut into are those that are found in it. -/
theorem IsTokens.tokenKinds_eq {ks : List TokenKind} (h : IsTokens t ks) : tokenKinds t = ks := by
  induction h with
  | nil => exact tokenKinds_nil
  | blank hc _ ih => rw [tokenKinds_blank hc, ih]
  | name hne hrun hstop _ ih => rw [tokenKinds_run hne hrun hstop, ih]
  | sign hc _ ih =>
    have hmark := CodePoint.isMark_iff.2 hc
    rw [tokenKinds_sign (CodePoint.isBlank_of_isMark hmark) (CodePoint.isNamePart_of_isMark hmark),
      ih]

/-- A text is cut into the tokens that are found in it if all signs among them are marks. -/
theorem isTokens_tokenKinds (h : ∀ c, .sign c ∈ tokenKinds t → c.isMark = true) :
    IsTokens t (tokenKinds t) := by
  suffices hpos : Nat → IsTokens t (tokenKinds t) from hpos 0
  intro p
  induction p, t using tokensFrom.induct with
  | case1 =>
    rw [tokenKinds_nil]
    exact .nil
  | case2 p c rest hblank ih =>
    rw [tokenKinds_blank hblank] at h ⊢
    exact .blank hblank (ih h)
  | case3 p c rest hblank hname _ ih =>
    rw [tokenKinds_name (Bool.eq_false_iff.2 hblank) hname] at h ⊢
    have hrun : ∀ x ∈ c :: rest.takeWhile isNamePart, isNamePart x = true :=
      List.forall_mem_cons.2 ⟨hname, fun x hx => List.mem_takeWhile_imp hx⟩
    have hstop : ∀ x ∈ (rest.dropWhile isNamePart).head?, isNamePart x = false := by
      intro x hx
      have hfirst := List.head?_dropWhile_not isNamePart rest
      rwa [hx] at hfirst
    have htokens := IsTokens.name (List.cons_ne_nil _ _) hrun hstop
      (ih fun x hx => h x (List.mem_cons_of_mem _ hx))
    rwa [List.cons_append, List.takeWhile_append_dropWhile] at htokens
  | case4 p c rest hblank hname ih =>
    rw [tokenKinds_sign (Bool.eq_false_iff.2 hblank) (Bool.eq_false_iff.2 hname)] at h ⊢
    exact .sign (CodePoint.isMark_iff.1 (h c List.mem_cons_self))
      (ih fun x hx => h x (List.mem_cons_of_mem _ hx))

/-- The signs of a type are marks. -/
theorem isMark_of_mem_kinds : ∀ c, .sign c ∈ kinds type → c.isMark = true := by
  have hlt : (ofChar '<').isMark = true := by decide
  have hgt : (ofChar '>').isMark = true := by decide
  have hcomma : (ofChar ',').isMark = true := by decide
  intro c hc
  cases type with
  | leaf type => simp [kinds] at hc
  | row first others =>
    simp only [kinds, fieldKinds, List.mem_append, List.mem_flatMap, List.mem_cons,
      TokenKind.sign.injEq, List.not_mem_nil, or_false, reduceCtorEq, false_or] at hc
    rcases hc with (rfl | ⟨_, -, rfl⟩) | rfl
    · exact hlt
    · exact hcomma
    · exact hgt
  | array element =>
    simp only [kinds, List.mem_cons, TokenKind.sign.injEq, List.not_mem_nil, or_false,
      reduceCtorEq, false_or] at hc
    rcases hc with rfl | rfl
    · exact hlt
    · exact hgt

/-- A text is cut into the tokens of a type if they are found in it. -/
theorem isTokens_kinds_iff : IsTokens t (kinds type) ↔ tokenKinds t = kinds type := by
  constructor
  · exact IsTokens.tokenKinds_eq
  · intro h
    rw [← h]
    exact isTokens_tokenKinds (h ▸ isMark_of_mem_kinds)

/-! ## What goes wrong -/

namespace Source

variable {s : Source} {depth : Nat} {ts : List Token}

/-- How often a sign is among tokens. -/
def signs (c : CodePoint) (ts : List Token) : Nat := (ts.map Token.kind).count (.sign c)

/-- The signs of tokens one after another. -/
theorem signs_append (c : CodePoint) (ts us : List Token) :
    signs c (ts ++ us) = signs c ts + signs c us := by
  rw [signs, List.map_append, List.count_append]
  rfl

/-- Another token in front of some does not count. -/
theorem signs_cons_of_ne {c : CodePoint} {token : Token} (h : token.kind ≠ .sign c) :
    signs c (token :: ts) = signs c ts := by
  rw [signs, List.map_cons, List.count_cons_of_ne h]
  rfl

/-- The errors of a reader that stands before the tokens within `depth` composites. -/
inductive Fails (s : Source) (depth : Nat) (ts : List Token) : SchemaError → Prop where
  /-- A fault at a position of the text. -/
  | typeText (position : Nat) (fault : TypeTextFault) :
    Fails s depth ts (.typeText s.text position fault)
  /-- A composite within a composite. -/
  | nested (owner : TypeOwner) (inner : ColumnType) : Fails s depth ts (.nested owner inner)
  /-- The brackets of some tokens lead from the depth to the greatest one. -/
  | tooDeep {read rest : List Token} (hts : ts = read ++ rest)
    (hdepth : depth + signs (ofChar '<') read = signs (ofChar '>') read + maxDepth) :
    Fails s depth ts .tooDeep

/-- A step that fails with no other errors. -/
def FailsOnly {α : Type} (s : Source) (depth : Nat) (ts : List Token)
    (step : Except SchemaError α) : Prop :=
  ∀ e, step = .error e → Fails s depth ts e

namespace FailsOnly

variable {α β : Type}

/-- A result is no error. -/
theorem ok {a : α} : FailsOnly s depth ts (.ok a : Except SchemaError α) := by
  intro e h
  cases h

/-- A fault is such an error. -/
theorem fault {position : Nat} {f : TypeTextFault} :
    FailsOnly s depth ts (.error (s.fault position f) : Except SchemaError α) := by
  intro e h
  cases h
  exact .typeText position f

/-- Two steps fail only so if each does. -/
theorem bind {x : Except SchemaError α} {f : α → Except SchemaError β}
    (hx : FailsOnly s depth ts x) (hf : ∀ a, x = .ok a → FailsOnly s depth ts (f a)) :
    FailsOnly s depth ts (x >>= f) := by
  intro e h
  rcases Except.bind_eq_error.1 h with h | ⟨a, ha, h⟩
  · exact hx e h
  · exact hf a ha e h

/-- A step that stands behind tokens whose brackets lead to its depth. -/
theorem of_read {x : Except SchemaError α} {next : Nat} {after : List Token} (read : List Token)
    (h : FailsOnly s next after x)
    (hdepth : depth + signs (ofChar '<') read = signs (ofChar '>') read + next) :
    FailsOnly s depth (read ++ after) x := by
  intro e he
  cases h e he with
  | typeText position f => exact .typeText position f
  | nested owner inner => exact .nested owner inner
  | @tooDeep read' rest hts hdepth' =>
    rw [hts, ← List.append_assoc]
    refine .tooDeep rfl ?_
    rw [signs_append, signs_append]
    omega

end FailsOnly

/-- A sign that does not stand next is a fault. -/
theorem failsOnly_expect {c : CodePoint} {us : List Token} :
    FailsOnly s depth ts (s.expect c us) := by
  unfold expect
  split
  · exact .fault
  · split
    · exact .ok
    · exact .fault

/-- A composite is gone into unless the depth is the greatest one. -/
theorem failsOnly_enter (hdepth : depth ≤ maxDepth) : FailsOnly s depth ts (enter depth) := by
  unfold enter
  split
  · exact .ok
  · intro e h
    cases h
    have hmax : depth = maxDepth := by omega
    exact .tooDeep (List.nil_append ts).symm (hmax ▸ Nat.add_comm _ _)

/-- A type that is no leaf type is refused within a composite. -/
theorem failsOnly_asLeaf {owner : TypeOwner} {type : ColumnType} :
    FailsOnly s depth ts (type.asLeaf owner) := by
  intro e h
  cases type with
  | leaf type => cases h
  | row first others =>
    cases h
    exact .nested owner _
  | array element =>
    cases h
    exact .nested owner _

/-- A list of types with one that is no leaf type is refused within a row. -/
theorem failsOnly_mapM_asLeaf {owner : TypeOwner} {types : List ColumnType} :
    FailsOnly s depth ts (types.mapM (·.asLeaf owner)) := by
  intro e h
  obtain ⟨_, type, hfirst⟩ := Except.mapM_eq_error.1 h
  exact failsOnly_asLeaf e hfirst.error

/-- The brackets of a type are closed. -/
theorem count_kinds (type : ColumnType) :
    (kinds type).count (.sign (ofChar '<')) = (kinds type).count (.sign (ofChar '>')) := by
  have hfields : ∀ (others : List LeafType) (c : CodePoint), c ≠ ofChar ',' →
      (fieldKinds others).count (.sign c) = 0 := by
    intro others c hc
    refine List.count_eq_zero.2 fun hmem => ?_
    simp only [fieldKinds, List.mem_flatMap, List.mem_cons, TokenKind.sign.injEq, hc,
      List.not_mem_nil, reduceCtorEq, or_self, and_false, exists_false] at hmem
  cases type with
  | leaf type => simp [kinds]
  | row first others =>
    rw [kinds, List.count_append, List.count_append, List.count_append, List.count_append,
      hfields _ _ (by decide), hfields _ _ (by decide)]
    rfl
  | array element => rfl

/-- A type that is read has taken its tokens, whose brackets are closed. -/
theorem exists_of_reads {type : ColumnType} {after : List Token}
    (h : Reads (s.readType depth ts) type after) :
    ∃ read, ts = read ++ after ∧ signs (ofChar '<') read = signs (ofChar '>') read := by
  -- Only a leaf type is read at the greatest depth.
  have hread : ∃ read, ts = read ++ after ∧ read.map Token.kind = kinds type := by
    cases type with
    | leaf type =>
      obtain ⟨token, rfl, hkind⟩ := reads_leaf.1 h
      exact ⟨[token], rfl, by simp [kinds, hkind]⟩
    | row first others =>
      obtain ⟨token, rest, rfl⟩ := exists_cons_of_reads h
      exact (reads_row ((reads_readType_row (kind_eq_of_reads h)).1 h).1).1 h
    | array element =>
      obtain ⟨token, rest, rfl⟩ := exists_cons_of_reads h
      exact (reads_array ((reads_readType_array (kind_eq_of_reads h)).1 h).1).1 h
  obtain ⟨read, hts, hkinds⟩ := hread
  refine ⟨read, hts, ?_⟩
  rw [signs, signs, hkinds]
  exact count_kinds type

/-- What goes wrong within a composite, behind types that are read already. -/
theorem FailsOnly.within {α : Type} {x : Except SchemaError α} {token opening : Token} {name : Text}
    {after : List Token} (read : List Token) (htoken : token.kind = .name name)
    (hopening : opening.kind = .sign (ofChar '<'))
    (hread : signs (ofChar '<') read = signs (ofChar '>') read)
    (h : FailsOnly s (depth + 1) after x) :
    FailsOnly s depth (token :: opening :: (read ++ after)) x := by
  have hlt : signs (ofChar '<') [token, opening] = 1 := by
    rw [signs, List.map_cons, List.map_cons, htoken, hopening]
    rfl
  have hgt : signs (ofChar '>') [token, opening] = 0 := by
    rw [signs, List.map_cons, List.map_cons, htoken, hopening]
    rfl
  refine FailsOnly.of_read ([token, opening] ++ read) h ?_
  rw [signs_append, signs_append]
  omega

section Step

variable {token : Token} {rest : List Token}
  (ih : ∀ us : List Token, us.length ≤ rest.length → ∀ depth ≤ maxDepth,
    FailsOnly s depth us (s.readType depth us) ∧ FailsOnly s depth us (s.readFields depth us))

include ih

/-- What goes wrong in a row type. -/
theorem failsOnly_readType_row (hdepth : depth ≤ maxDepth)
    (hkind : token.kind = .name ColumnType.rowName) :
    FailsOnly s depth (token :: rest) (s.readType depth (token :: rest)) := by
  rw [readType]
  simp only [hkind, if_true]
  refine .bind (failsOnly_enter hdepth) fun _ henter => ?_
  have hdepth : depth + 1 ≤ maxDepth := enter_eq_ok.1 henter
  refine .bind failsOnly_expect fun expected hlt => ?_
  obtain ⟨_, afterOpening, _⟩ := expected
  obtain ⟨opening, rfl, hopening⟩ := reads_expect.1 ⟨_, hlt⟩
  refine .bind ?_ fun field hfirst => ?_
  · exact .within [] hkind hopening rfl (ih afterOpening (by simp) _ hdepth).1
  obtain ⟨first, afterFirst, _⟩ := field
  obtain ⟨read, rfl, hread⟩ := exists_of_reads ⟨_, hfirst⟩
  refine .bind ?_ fun _ _ => ?_
  · refine .within read hkind hopening hread (ih afterFirst ?_ _ hdepth).2
    simp only [List.length_cons, List.length_append]
    omega
  refine .bind failsOnly_expect fun _ _ => .bind failsOnly_mapM_asLeaf fun fields hfields => ?_
  -- There is a field, so that the row type is made.
  obtain ⟨leaf, leaves, rfl⟩ : ∃ leaf leaves, fields = leaf :: leaves := by
    cases fields with
    | nil => cases ColumnType.mapM_asLeaf_eq_ok.1 hfields
    | cons leaf leaves => exact ⟨leaf, leaves, rfl⟩
  exact .ok

/-- What goes wrong in an array type. -/
theorem failsOnly_readType_array (hdepth : depth ≤ maxDepth)
    (hkind : token.kind = .name ColumnType.arrayName) :
    FailsOnly s depth (token :: rest) (s.readType depth (token :: rest)) := by
  rw [readType]
  simp only [hkind, if_true, if_neg (show ColumnType.arrayName ≠ ColumnType.rowName by decide)]
  refine .bind (failsOnly_enter hdepth) fun _ henter => ?_
  have hdepth : depth + 1 ≤ maxDepth := enter_eq_ok.1 henter
  refine .bind failsOnly_expect fun expected hlt => ?_
  obtain ⟨_, afterOpening, _⟩ := expected
  obtain ⟨opening, rfl, hopening⟩ := reads_expect.1 ⟨_, hlt⟩
  refine .bind ?_ fun _ _ => .bind failsOnly_expect fun _ _ => .bind failsOnly_asLeaf fun _ _ => .ok
  exact .within [] hkind hopening rfl (ih afterOpening (by simp) _ hdepth).1

/-- What goes wrong in a type. -/
theorem failsOnly_readType_cons (hdepth : depth ≤ maxDepth) :
    FailsOnly s depth (token :: rest) (s.readType depth (token :: rest)) := by
  by_cases hrow : token.kind = .name ColumnType.rowName
  · exact failsOnly_readType_row ih hdepth hrow
  by_cases harray : token.kind = .name ColumnType.arrayName
  · exact failsOnly_readType_array ih hdepth harray
  rw [readType]
  split
  · exact .fault
  · next name hkind =>
    rw [hkind, TokenKind.name.injEq] at hrow harray
    rw [if_neg hrow, if_neg harray]
    cases LeafType.ofName? name with
    | none => exact .fault
    | some type => exact .ok

/-- What goes wrong in the further fields of a row. -/
theorem failsOnly_readFields_cons (hdepth : depth ≤ maxDepth) :
    FailsOnly s depth (token :: rest) (s.readFields depth (token :: rest)) := by
  rw [readFields]
  split
  · next hcomma =>
    have hsigns : ∀ read, signs (ofChar '<') read = signs (ofChar '>') read →
        depth + signs (ofChar '<') (token :: read) =
          signs (ofChar '>') (token :: read) + depth := by
      intro read hread
      rw [signs_cons_of_ne (by rw [hcomma]; decide), signs_cons_of_ne (by rw [hcomma]; decide),
        hread, Nat.add_comm]
    refine .bind ?_ fun field hfield => ?_
    · exact FailsOnly.of_read [token] (ih rest le_rfl _ hdepth).1 (hsigns [] rfl)
    obtain ⟨_, afterField, _⟩ := field
    obtain ⟨read, rfl, hread⟩ := exists_of_reads ⟨_, hfield⟩
    refine .bind ?_ fun _ _ => .ok
    refine FailsOnly.of_read (token :: read) (ih afterField ?_ _ hdepth).2 (hsigns _ hread)
    simp
  · exact .ok

end Step

/-- What goes wrong in a type or in the further fields of a row. -/
theorem failsOnly {n : Nat} : ∀ ts : List Token, ts.length ≤ n → ∀ depth ≤ maxDepth,
    FailsOnly s depth ts (s.readType depth ts) ∧ FailsOnly s depth ts (s.readFields depth ts) := by
  induction n with
  | zero =>
    intro ts hts depth _
    rw [List.length_eq_zero_iff.1 (Nat.le_zero.1 hts), readType, readFields]
    exact ⟨.fault, .ok⟩
  | succ n ih =>
    intro ts hts depth hdepth
    cases ts with
    | nil =>
      rw [readType, readFields]
      exact ⟨.fault, .ok⟩
    | cons token rest =>
      have hrest : ∀ us : List Token, us.length ≤ rest.length → ∀ depth ≤ maxDepth,
          FailsOnly s depth us (s.readType depth us) ∧
            FailsOnly s depth us (s.readFields depth us) :=
        fun us hus => ih us (hus.trans (Nat.le_of_succ_le_succ hts))
      exact ⟨failsOnly_readType_cons hrest hdepth, failsOnly_readFields_cons hrest hdepth⟩

end Source

/-- A mark is among the marks of tokens as often as it is one of the tokens. -/
theorem count_flatMap_marks {c : CodePoint} (hc : c.isMark = true) (ks : List TokenKind) :
    (ks.flatMap TokenKind.marks).count c = ks.count (.sign c) := by
  induction ks with
  | nil => rfl
  | cons k ks ih =>
    rw [List.flatMap_cons, List.count_append, ih, List.count_cons, Nat.add_comm]
    congr 1
    cases k with
    | name upper => rfl
    | sign d =>
      rw [TokenKind.marks, Text.marks, List.count_filter hc, List.count_singleton]
      simp only [beq_iff_eq, TokenKind.sign.injEq]

/-- The brackets of some tokens of a text are those of a front of it. -/
theorem exists_front {read rest : List Token} (h : tokens t = read ++ rest) :
    ∃ front, front <+: t ∧ front.count (ofChar '<') = Source.signs (ofChar '<') read ∧
      front.count (ofChar '>') = Source.signs (ofChar '>') read := by
  have hmarks : t.marks = (read.map Token.kind).flatMap TokenKind.marks ++
      (rest.map Token.kind).flatMap TokenKind.marks := by
    rw [marks_eq, tokenKinds, h, List.map_append, List.flatMap_append]
  obtain ⟨front, back, rfl, hfront, -⟩ := List.filter_eq_append_iff.1 hmarks
  have hcount : ∀ c : CodePoint, c.isMark = true →
      front.count c = Source.signs c read := by
    intro c hc
    rw [← List.count_filter hc, hfront, count_flatMap_marks hc]
    rfl
  exact ⟨front, List.prefix_append front back, hcount _ (by decide), hcount _ (by decide)⟩

/-- A text that is not read as a type has a fault at a position, or a composite within a composite,
or its brackets lead too deep. -/
theorem parse_cases (t : Text) :
    (∃ type, parse t = .ok type) ∨
      (∃ position fault, parse t = .error (.typeText t position fault)) ∨
      (∃ owner inner, parse t = .error (.nested owner inner)) ∨
      parse t = .error .tooDeep ∧ ∃ front, front <+: t ∧
        front.count (ofChar '<') = front.count (ofChar '>') + maxDepth := by
  have hfails : Source.FailsOnly ⟨t⟩ 0 (tokens t) (parse t) := by
    refine .bind (Source.failsOnly _ le_rfl 0 (Nat.zero_le _)).1 fun _ _ => ?_
    dsimp only
    split
    · exact .ok
    · exact .fault
  cases hparse : parse t with
  | ok type => exact .inl ⟨type, rfl⟩
  | error e =>
    refine .inr ?_
    cases hfails e hparse with
    | typeText position fault => exact .inl ⟨position, fault, rfl⟩
    | nested owner inner => exact .inr (.inl ⟨owner, inner, rfl⟩)
    | tooDeep hts hdepth =>
      obtain ⟨front, hfront, hlt, hgt⟩ := exists_front hts
      refine .inr (.inr ⟨rfl, front, hfront, ?_⟩)
      rw [hlt, hgt, ← hdepth, Nat.zero_add]

/-- A text is read as a type exactly if it is cut into the tokens of the type: the name of a leaf
type, or that of a composite type and its leaf types, with commas between them, in angle brackets.
Any other text is refused, with a fault at a position or for a composite within a composite, unless
its brackets lead so deep that no more are followed. A type is read from its own text. -/
theorem parse_grammar :
    (∀ t type, parse t = .ok type ↔ IsTokens t (kinds type)) ∧
    (∀ t, (∃ type, parse t = .ok type) ∨
      (∃ position fault, parse t = .error (.typeText t position fault)) ∨
      (∃ owner inner, parse t = .error (.nested owner inner)) ∨
      parse t = .error .tooDeep ∧ ∃ front, front <+: t ∧
        front.count (ofChar '<') = front.count (ofChar '>') + maxDepth) ∧
    ∀ type : ColumnType, parse type.text = .ok type :=
  ⟨fun _ _ => parse_eq_ok.trans isTokens_kinds_iff.symm, parse_cases, parse_type_text⟩

end TypeText

end Delimited
