import Delimited.Proofs.Base64
import Delimited.Proofs.Leaf.Domain

/-!
# Written byte strings

Byte strings are written in base64, exactly padded, and read back. A text is read if it is padded
exactly, and what is read is written as the same text, but for bits of its last character that no
byte takes. Reading is laxer in one way: padding behind full groups is read over. `read_write_bytes`
says all of this, and that no other text is read.
-/

namespace Delimited

open Base64 (Spells IsPadded IsOverpadded alphabet padding)

namespace LeafType

/-- A byte string that is no view is written in base64. -/
theorem write_byteArray {kind : BytesKind} (hkind : kind ≠ .view) (b : List UInt8) :
    write byteArray (.bytes kind b) = .ok (Base64.encode b) := by
  cases kind with
  | fixed | buffer => rfl
  | view => exact absurd rfl hkind

/-- A byte string is read as what its text decodes to. -/
theorem read_byteArray_eq_ok {t : Text} {v : Value} :
    read byteArray t = .ok v ↔ ∃ b, Base64.decode? t = some b ∧ v = .bytes .fixed b := by
  have hread : read byteArray t = (readBytes t).map (.bytes .fixed) := rfl
  rw [hread, Except.map_eq_ok]
  constructor
  · rintro ⟨b, hb, rfl⟩
    exact ⟨b, expectForm_eq_ok.1 hb, rfl⟩
  · rintro ⟨b, hb, rfl⟩
    exact ⟨b, expectForm_eq_ok.2 hb, rfl⟩

/-- A text that is not read as a byte string is malformed. -/
theorem read_byteArray_cases (t : Text) :
    (∃ v, read byteArray t = .ok v) ∨ read byteArray t = .error (.malformed "base64" t) := by
  cases hdecode : Base64.decode? t with
  | some b => exact .inl ⟨_, read_byteArray_eq_ok.2 ⟨b, hdecode, rfl⟩⟩
  | none =>
    have hmalformed : readBytes t = .error (.malformed "base64" t) := by
      rw [readBytes, hdecode]
      rfl
    exact .inr (congrArg (Except.map (Value.bytes .fixed)) hmalformed)

/-- The texts that are read are padded exactly or have padding behind full groups. -/
theorem exists_read_byteArray_iff {t : Text} :
    (∃ v, read byteArray t = .ok v) ↔ IsPadded t ∨ IsOverpadded t := by
  rw [← Base64.exists_decode?_iff]
  constructor
  · rintro ⟨v, hread⟩
    obtain ⟨b, hb, -⟩ := read_byteArray_eq_ok.1 hread
    exact ⟨b, hb⟩
  · rintro ⟨b, hb⟩
    exact ⟨_, read_byteArray_eq_ok.2 ⟨b, hb, rfl⟩⟩

/-- Characters of the alphabet that padding closes are read as the bytes that they spell. -/
theorem exists_read_byteArray {letters : Text} (paddings : Nat)
    (hmem : ∀ c ∈ letters, c ∈ alphabet) (hclosed : Base64.IsClosed letters.length paddings) :
    ∃ b excess, Spells letters b excess ∧
      read byteArray (letters ++ List.replicate paddings padding) = .ok (.bytes .fixed b) := by
  obtain ⟨b, excess, hdecode, hspells⟩ := Base64.exists_decode? letters paddings hmem hclosed
  exact ⟨b, excess, hspells, read_byteArray_eq_ok.2 ⟨b, hdecode, rfl⟩⟩

/-- A byte string is written exactly padded and read back. -/
theorem exists_write_read_bytes {kind : BytesKind} (hkind : kind ≠ .view) (b : List UInt8) :
    ∃ t, write byteArray (.bytes kind b) = .ok t ∧ IsPadded t ∧
      read byteArray t = .ok (.bytes .fixed b) := by
  obtain ⟨letters, paddings, excess, htext, hspells, hpaddings, hdvd, -⟩ :=
    Base64.exists_encode b
  have hpadded : IsPadded (Base64.encode b) := by
    rw [htext]
    exact ⟨by simpa using hdvd, letters, paddings, hspells.mem_alphabet, hpaddings, rfl⟩
  exact ⟨_, write_byteArray hkind b, hpadded,
    read_byteArray_eq_ok.2 ⟨b, Base64.decode?_encode b, rfl⟩⟩

/-- What is read of an exactly padded text is written as that text but for the excess bits of the
last character, which are written as zeros. -/
theorem exists_write_of_isPadded {t : Text} (h : IsPadded t) :
    ∃ letters paddings b excess t', t = letters ++ List.replicate paddings padding ∧
      Spells letters b excess ∧ read byteArray t = .ok (.bytes .fixed b) ∧
      write byteArray (.bytes .fixed b) = .ok t' ∧
      (∀ i, i + 1 ≠ letters.length → t'[i]? = t[i]?) ∧
      (t' = t ↔ ∀ bit ∈ excess, bit = false) := by
  obtain ⟨hfull, letters, paddings, hmem, hpaddings, rfl⟩ := h
  have hdvd : 4 ∣ letters.length + paddings := by simpa using hfull
  obtain ⟨b, excess, hspells, hread⟩ := exists_read_byteArray paddings hmem (.inl ⟨hpaddings, hdvd⟩)
  obtain ⟨letters', htext, hlength, hsame, hzero⟩ := Base64.encode_of_spells hspells hpaddings hdvd
  refine ⟨letters, paddings, b, excess, _, rfl, hspells, hread, write_byteArray (by decide) b,
    fun i hi => ?_, ?_⟩
  · rw [htext, List.getElem?_append, List.getElem?_append, hlength, hsame i hi]
  · rw [htext, List.append_cancel_right_eq, hzero]

/-- What is read of full groups is written as those groups, without the padding behind them. -/
theorem exists_write_of_isOverpadded {t : Text} (h : IsOverpadded t) :
    ∃ letters paddings b, t = letters ++ List.replicate paddings padding ∧ Spells letters b [] ∧
      read byteArray t = .ok (.bytes .fixed b) ∧
      write byteArray (.bytes .fixed b) = .ok letters := by
  obtain ⟨letters, paddings, hmem, hne, hdvd, -, rfl⟩ := h
  obtain ⟨b, excess, hspells, hread⟩ := exists_read_byteArray paddings hmem
    (.inr ⟨List.length_pos_iff.2 hne, hdvd⟩)
  -- The bits of full groups are those of whole bytes.
  have hnone : excess = [] := by
    have hbits := hspells.length_eq
    have hexcess := hspells.length_excess
    exact List.length_eq_zero_iff.1 (by omega)
  subst hnone
  obtain ⟨letters', htext, -, -, hzero⟩ := Base64.encode_of_spells hspells (Nat.zero_le 2) hdvd
  have hsame : letters' = letters := hzero.2 (List.forall_mem_nil _)
  refine ⟨letters, paddings, b, rfl, hspells, hread, ?_⟩
  rw [write_byteArray (by decide), htext, hsame, List.replicate_zero, List.append_nil]

/-- Byte strings are written in base64, exactly padded, and read back. That a text is read if and
only if it is padded exactly holds of all texts but those with padding behind full groups; a text
that is not read is malformed. What is read of an exactly padded text has the bits of its characters
without those in excess, and it is written as the text with zeros for these: no place but that of
the last character differs, and that one does not if and only if they were zeros. Padding behind
full groups is read over and not written again. -/
theorem read_write_bytes (b : List UInt8) (t : Text) :
    (∀ kind, kind ≠ BytesKind.view → ∃ written, write byteArray (.bytes kind b) = .ok written ∧
      IsPadded written ∧ read byteArray written = .ok (.bytes .fixed b)) ∧
    (((∃ v, read byteArray t = .ok v) ↔ IsPadded t) ↔ ¬ IsOverpadded t) ∧
    ((∃ v, read byteArray t = .ok v) ∨ read byteArray t = .error (.malformed "base64" t)) ∧
    (IsPadded t → ∃ letters paddings b' excess t',
      t = letters ++ List.replicate paddings padding ∧ Spells letters b' excess ∧
        read byteArray t = .ok (.bytes .fixed b') ∧ write byteArray (.bytes .fixed b') = .ok t' ∧
        (∀ i, i + 1 ≠ letters.length → t'[i]? = t[i]?) ∧
        (t' = t ↔ ∀ bit ∈ excess, bit = false)) ∧
    (IsOverpadded t → ∃ letters paddings b',
      t = letters ++ List.replicate paddings padding ∧ Spells letters b' [] ∧
        read byteArray t = .ok (.bytes .fixed b') ∧
        write byteArray (.bytes .fixed b') = .ok letters) := by
  refine ⟨fun kind hkind => exists_write_read_bytes hkind b, ?_, read_byteArray_cases t,
    exists_write_of_isPadded, exists_write_of_isOverpadded⟩
  rw [exists_read_byteArray_iff]
  constructor
  · intro hiff hover
    exact hover.not_isPadded (hiff.1 (.inr hover))
  · exact or_iff_left

/-- A lone byte is written with zeros in excess; another text that spells it, with a one among them,
is read as well. So is a full group that padding follows. -/
theorem read_write_bytes_lone :
    (write byteArray (.bytes .buffer [97]) = .ok "YQ==" ∧
      read byteArray "YQ==" = .ok (.bytes .fixed [97])) ∧
    (IsPadded "YR==" ∧ read byteArray "YR==" = .ok (.bytes .fixed [97]) ∧
      ∀ i, i + 1 ≠ 2 → (Text.ofString "YQ==")[i]? = (Text.ofString "YR==")[i]?) ∧
    IsOverpadded "awML=" ∧ read byteArray "awML=" = .ok (.bytes .fixed [107, 3, 11]) ∧
      write byteArray (.bytes .fixed [107, 3, 11]) = .ok "awML" := by
  have hlone : Spells "YR" [97] [false, false, false, true] :=
    Base64.spells_two (show 24 < 64 by decide) (show 17 < 64 by decide)
  have hgroup : Spells "awML" [107, 3, 11] [] :=
    Base64.spells_four (show 26 < 64 by decide) (show 48 < 64 by decide)
      (show 12 < 64 by decide) (show 11 < 64 by decide)
  have hpadded : IsPadded "YR==" :=
    ⟨by decide, "YR", 2, hlone.mem_alphabet, by decide, rfl⟩
  have hover : IsOverpadded "awML=" :=
    ⟨"awML", 1, hgroup.mem_alphabet, by decide, by decide, by decide, rfl⟩
  have hencode : Base64.encode [97] = "YQ==" := by decide +kernel
  obtain ⟨written, hwrite, -, hread⟩ := (read_write_bytes [97] "YR==").1 .buffer (by decide)
  obtain ⟨letters, paddings, b, excess, t', htext, hspells, hread', hwrite', hsame, -⟩ :=
    (read_write_bytes [97] "YR==").2.2.2.1 hpadded
  obtain ⟨letters', paddings', b', htext', hspells', hread'', hwrite''⟩ :=
    (read_write_bytes [97] "awML=").2.2.2.2 hover
  obtain ⟨rfl, rfl⟩ := Base64.append_padding_inj hlone.mem_alphabet hspells.mem_alphabet
    (show "YR" ++ List.replicate 2 padding = _ from htext)
  obtain ⟨rfl, rfl⟩ := Base64.append_padding_inj hgroup.mem_alphabet hspells'.mem_alphabet
    (show "awML" ++ List.replicate 1 padding = _ from htext')
  cases hlone.unique hspells
  cases hgroup.unique hspells'
  rw [write_byteArray (by decide), hencode] at hwrite hwrite'
  cases hwrite
  cases hwrite'
  exact ⟨⟨by rw [write_byteArray (by decide), hencode], hread⟩, ⟨hpadded, hread', hsame⟩, hover,
    hread'', hwrite''⟩

/-- A padding behind a full group is read over, although the text is not padded exactly. -/
theorem read_byteArray_overpadded :
    read byteArray "////=" = .ok (.bytes .fixed [255, 255, 255]) ∧ ¬ IsPadded "////=" := by
  have hdecode : Base64.decode? "////=" = some [255, 255, 255] := by decide +kernel
  refine ⟨read_byteArray_eq_ok.2 ⟨_, hdecode, rfl⟩, ?_⟩
  rintro ⟨hdvd, -⟩
  exact absurd hdvd (by decide)

end LeafType

end Delimited
