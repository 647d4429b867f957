import Delimited.Proofs.Field.Quoting

/-!
# Splitting undoes joining

Which texts are put between quotes is up to the writer, but for those that would be read as
something else. Between quotes there may be any text, with runs of quotes and escapes, delimiters
and line breaks in it; what stands outside of them must be raw, in the sense of `Marks.IsRaw`.
`split_join_written` says that the texts come back for every choice of the ones that are quoted, and
for the choice that a dialect makes among the leaves of a composite column.
-/

namespace Delimited

/-- A text to be joined with others, and whether it is put between quotes. -/
structure Piece where
  /-- The text. -/
  text : Text
  /-- Is it put between quotes? -/
  isEnclosed : Bool

/-- A piece as it is written. -/
def Piece.written (quote : CodePoint) (escape : Option CodePoint) (p : Piece) : Text :=
  if p.isEnclosed then Quoting.enclose quote escape p.text else p.text

namespace Marks

variable {m : Marks} {record : Bool}

/-- A text with nothing in it that has a meaning outside of quotes. A quote may stand in it, but not
at its start. -/
structure IsRaw (m : Marks) (record : Bool) (t : Text) : Prop where
  /-- It does not start with a quote. -/
  head_ne_quote : ∀ c, t.head? = some c → m.quote ≠ some c
  /-- There is no delimiter in it. -/
  ne_delimiter : ∀ c ∈ t, m.delimiter ≠ some c
  /-- There is no escape in it. -/
  ne_escape : ∀ c ∈ t, m.escape ≠ some c
  /-- In a record there is no line break in it. -/
  isLineBreak_eq_false : record = true → ∀ c ∈ t, c.isLineBreak = false

/-- A raw text stands for itself. -/
theorem IsRaw.isBare {t : Text} (h : m.IsRaw record t) : m.IsBare record t := by
  refine isBare_of_ne_escape h.head_ne_quote (fun c hc => ?_) h.ne_escape
  have hdelimiter : (m.delimiter == some c) = false := beq_false_of_ne (h.ne_delimiter c hc)
  rw [isStop, hdelimiter, Bool.false_or]
  cases record with
  | false => rfl
  | true => exact h.isLineBreak_eq_false rfl c hc

/-- A piece is framed as it is written, if it is raw or between quotes. -/
theorem frames_written {q : CodePoint} (hq : m.quote = some q) {p : Piece}
    (h : p.isEnclosed = false → m.IsRaw record p.text) :
    m.Frames record (p.written q m.escape) p.text := by
  unfold Piece.written
  split
  · exact .enclosed hq p.text
  · next hbare => exact .bare (h (Bool.eq_false_iff.2 hbare)).isBare

/-- Items that are each written as a framed text, joined and followed by line breaks in a record,
are split into their texts. -/
theorem split_join_map {α : Type} (h : m.IsDistinct) {d : CodePoint} (hd : m.delimiter = some d)
    {items : List α} (hne : items ≠ []) {written text : α → Text}
    (hframes : ∀ a ∈ items, m.Frames record (written a) (text a)) {breaks : Text}
    (hbreaks : ∀ c ∈ breaks, c.isLineBreak = true) (hrecord : record = false → breaks = []) :
    m.split record (Text.join [d] (items.map written) ++ breaks) = .ok (items.map text) := by
  have hforall : List.Forall₂ (m.Frames record) (items.map written) (items.map text) := by
    rw [List.forall₂_map_left_iff, List.forall₂_map_right_iff]
    exact List.forall₂_same.2 hframes
  have hmap : items.map written ≠ [] := by
    rwa [Ne, List.map_eq_nil_iff]
  exact split_join h hd hbreaks hrecord hmap hforall

end Marks

/-- The leaves of a composite column, each quoted if it has to be and joined, are split into their
texts. -/
theorem Dialect.split_join_leafText {d : Dialect} {q : CodePoint} (h : d.IsChecked)
    (hq : d.quote = some q) {leaves : List (LeafType × Text)} (hne : leaves ≠ []) :
    (d.marks d.elementDelimiter).split false
        (Text.join [d.elementDelimiter] (leaves.map fun leaf => d.leafText leaf.1 leaf.2))
      = .ok (leaves.map Prod.snd) := by
  have hframes : ∀ leaf ∈ leaves, (d.marks d.elementDelimiter).Frames false
      (d.leafText leaf.1 leaf.2) leaf.2 := fun leaf _ => frames_leafText hq leaf.1 leaf.2
  have hbreaks : ∀ c ∈ ([] : Text), c.isLineBreak = true := List.forall_mem_nil _
  have hsplit := Marks.split_join_map h.isDistinct_element rfl hne hframes hbreaks fun _ => rfl
  rwa [List.append_nil] at hsplit

/-- Splitting undoes joining. For a delimiter, a quote and an escape, if there is one, that differ
from each other and are no line breaks: texts that are put between quotes or, if they are raw, are
not, joined with the delimiter between them and, in a record, any line breaks behind them, are split
into just these texts. So are the texts of the leaves of a composite column, for every dialect with
a quote, if those are quoted that the dialect says must be. -/
theorem Settings.split_join_written :
    (∀ (d q : CodePoint) (e : Option CodePoint) (record : Bool) (pieces : List Piece)
        (breaks : Text), (Marks.mk (some d) (some q) e).IsDistinct → pieces ≠ [] →
      (∀ p ∈ pieces, p.isEnclosed = false →
        (Marks.mk (some d) (some q) e).IsRaw record p.text) →
      (∀ c ∈ breaks, c.isLineBreak = true) → (record = false → breaks = []) →
      (Marks.mk (some d) (some q) e).split record
          (Text.join [d] (pieces.map (Piece.written q e)) ++ breaks)
        = .ok (pieces.map Piece.text)) ∧
    ∀ (s : Settings) (d : Dialect) (q : CodePoint) (leaves : List (LeafType × Text)),
      s.dialect = .ok d → d.quote = some q → leaves ≠ [] →
      (d.marks d.elementDelimiter).split false
          (Text.join [d.elementDelimiter] (leaves.map fun leaf => d.leafText leaf.1 leaf.2))
        = .ok (leaves.map Prod.snd) := by
  constructor
  · intro d q e record pieces breaks h hne hraw hbreaks hrecord
    have hframes : ∀ p ∈ pieces, (Marks.mk (some d) (some q) e).Frames record
        (Piece.written q e p) p.text := fun p hp => Marks.frames_written rfl (hraw p hp)
    exact Marks.split_join_map h rfl hne hframes hbreaks hrecord
  · intro s d q leaves h hq hne
    exact Dialect.split_join_leafText (isChecked_of_dialect h) hq hne

/-- A blank as delimiter and a tab as quote: a text of delimiter, quote, escape and line break
between quotes, and a raw one with a quote in it, behind which the record ends. Under the default
settings an empty text is quoted as a leaf, and one with a delimiter. -/
theorem Settings.split_join_written_blank :
    (Marks.mk (some 32) (some 9) (some 92)).split true
        ([9, 32, 9, 9, 92, 92, 10, 9] ++ [32] ++ [97, 9] ++ [13, 10])
      = .ok [[32, 9, 92, 10], [97, 9]] ∧
    (Dialect.standard.marks (.ofChar ';')).split false "\"\";\"a;\";1" = .ok [[], "a;", "1"] := by
  obtain ⟨hpieces, hleaves⟩ := Settings.split_join_written
  have hdistinct : (Marks.mk (some 32) (some 9) (some 92)).IsDistinct := by
    constructor <;> rintro c ⟨⟩ <;> decide
  have hraw : (Marks.mk (some 32) (some 9) (some 92)).IsRaw true [97, 9] := by
    refine ⟨by simp, by simp, by simp, fun _ => ?_⟩
    exact List.forall_iff_forall_mem.1 (by decide)
  constructor
  · exact hpieces 32 9 (some 92) true [⟨[32, 9, 92, 10], true⟩, ⟨[97, 9], false⟩] [13, 10] hdistinct
      (by simp) (by simpa using hraw) (List.forall_iff_forall_mem.1 (by decide)) (by simp)
  · exact hleaves {} _ _ [(.string, []), (.string, "a;"), (.byte, "1")] dialect_default rfl
      (by simp)

end Delimited
