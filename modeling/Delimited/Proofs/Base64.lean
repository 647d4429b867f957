import Delimited.Base64
import Delimited.Proofs.Number.Bits
import Delimited.Proofs.Text.Blank

/-!
# Base64 as bits

The characters of a text and the bytes that it stands for have the same bits, six in each character
and eight in each byte; what the last character has in excess of the bytes belongs to no byte. A
text is decoded if its characters are of the alphabet and padding closes them, and then to the bytes
that they spell (`exists_spells_of_decode?`, `exists_decode?`); the text of a byte string spells it
with zeros in excess (`exists_encode`). So it is read back, and an exactly padded text that was read
is written again but for the excess bits of its last character (`encode_of_spells`).
-/

namespace Delimited

namespace Base64

/-! ## The alphabet -/

/-- The alphabet, each character in the place of its six-bit number. -/
def alphabet : Text := "ABCDEFGHIJKLMNOPQRSTUVWXYZabcdefghijklmnopqrstuvwxyz0123456789+/"

/-- The alphabet holds the characters of the six-bit numbers in their order. -/
theorem alphabet_eq : alphabet = (List.range 64).map character := by decide +kernel

/-- The characters of the six-bit numbers stand for them, and have their places in the alphabet. -/
theorem sextet?_character_of_mem : ∀ n ∈ List.range 64,
    sextet? (character n) = some n ∧ alphabet.idxOf (character n) = n := by
  decide +kernel

/-- The character of a six-bit number stands for it. -/
theorem sextet?_character {n : Nat} (h : n < 64) : sextet? (character n) = some n :=
  (sextet?_character_of_mem n (List.mem_range.2 h)).1

/-- The character of a six-bit number has its place in the alphabet. -/
theorem idxOf_character {n : Nat} (h : n < 64) : alphabet.idxOf (character n) = n :=
  (sextet?_character_of_mem n (List.mem_range.2 h)).2

/-- The padding stands for no number. -/
theorem sextet?_padding : sextet? padding = none := by decide

/-- The character of a six-bit number is not the padding. -/
theorem character_ne_padding {n : Nat} (h : n < 64) : character n ≠ padding := by
  intro heq
  have hsextet := sextet?_character h
  rw [heq, sextet?_padding] at hsextet
  cases hsextet

/-- The characters of the alphabet are those of the six-bit numbers. -/
theorem mem_alphabet_iff {c : CodePoint} : c ∈ alphabet ↔ ∃ n < 64, character n = c := by
  simp [alphabet_eq]

/-- The places in the alphabet are six-bit numbers. -/
theorem idxOf_lt {c : CodePoint} (h : c ∈ alphabet) : alphabet.idxOf c < 64 := by
  obtain ⟨n, hn, rfl⟩ := mem_alphabet_iff.1 h
  rwa [idxOf_character hn]

/-- The padding is not of the alphabet. -/
theorem ne_padding_of_mem {c : CodePoint} (h : c ∈ alphabet) : c ≠ padding := by
  obtain ⟨n, hn, rfl⟩ := mem_alphabet_iff.1 h
  exact character_ne_padding hn

/-- Only the character of a six-bit number stands for it. -/
theorem sextet?_eq_some {c : CodePoint} {n : Nat} (h : sextet? c = some n) :
    n < 64 ∧ character n = c := by
  unfold sextet? at h
  simp only [Bool.and_eq_true, decide_eq_true_eq] at h
  split at h
  · cases h
    have hrange : c.val - 0x41 < 26 := by omega
    refine ⟨by omega, Fin.ext ?_⟩
    simp only [character, hrange, if_true, Fin.ofNat]
    omega
  split at h
  · cases h
    have hrange : ¬ c.val - 0x61 + 26 < 26 ∧ c.val - 0x61 + 26 < 52 := by omega
    refine ⟨by omega, Fin.ext ?_⟩
    simp only [character, hrange, if_true, if_false, Fin.ofNat]
    omega
  split at h
  · cases h
    have hrange : ¬ c.val - 0x30 + 52 < 26 ∧ ¬ c.val - 0x30 + 52 < 52 ∧
        c.val - 0x30 + 52 < 62 := by omega
    refine ⟨by omega, Fin.ext ?_⟩
    simp only [character, hrange, if_true, if_false, Fin.ofNat]
    omega
  split at h
  · next hplus =>
    cases h
    exact ⟨by decide, Fin.ext hplus.symm⟩
  split at h
  · next hslash =>
    cases h
    exact ⟨by decide, Fin.ext hslash.symm⟩
  · cases h

/-- A step that needs the number of a character has a result for those of the alphabet. -/
theorem bind_sextet?_eq_some {α : Type} {c : CodePoint} {step : Nat → Option α} {a : α} :
    (sextet? c).bind step = some a ↔ ∃ n < 64, character n = c ∧ step n = some a := by
  rw [Option.bind_eq_some_iff]
  constructor
  · rintro ⟨n, hn, hstep⟩
    obtain ⟨hlt, hc⟩ := sextet?_eq_some hn
    exact ⟨n, hlt, hc, hstep⟩
  · rintro ⟨n, hlt, rfl, hstep⟩
    exact ⟨n, sextet?_character hlt, hstep⟩

/-! ## Bits of characters and of bytes -/

/-- The bits of characters of the alphabet, six each. -/
def textBits (letters : Text) : List Bool := Bits.ofList 6 (alphabet.idxOf ·) letters

/-- The bits of bytes, eight each. -/
def byteBits (bytes : List UInt8) : List Bool := Bits.ofList 8 UInt8.toNat bytes

/-- Texts of characters of the alphabet are told apart by their bits. -/
theorem textBits_inj {s t : Text} (hs : ∀ c ∈ s, c ∈ alphabet) (ht : ∀ c ∈ t, c ∈ alphabet)
    (hlength : s.length = t.length) (h : textBits s = textBits t) : s = t := by
  refine Bits.ofList_inj (fun a ha b hb hbits => ?_) hlength h
  have hplace := Bits.ofNat_inj (idxOf_lt (hs a ha)) (idxOf_lt (ht b hb)) hbits
  obtain ⟨m, hm, rfl⟩ := mem_alphabet_iff.1 (hs a ha)
  obtain ⟨n, hn, rfl⟩ := mem_alphabet_iff.1 (ht b hb)
  rw [idxOf_character hm, idxOf_character hn] at hplace
  rw [hplace]

/-- Byte strings are told apart by their bits. -/
theorem byteBits_inj {x y : List UInt8} (hlength : x.length = y.length)
    (h : byteBits x = byteBits y) : x = y :=
  Bits.ofList_inj (fun a _ b _ hbits =>
    UInt8.toNat.inj (Bits.ofNat_inj a.toNat_lt b.toNat_lt hbits)) hlength h

/-- A byte has the lowest eight bits of the number that it is made from. -/
theorem ofNat_toNat_ofNat (n : Nat) : Bits.ofNat 8 (UInt8.ofNat n).toNat = Bits.ofNat 8 n :=
  Bits.ofNat_congr (by rw [UInt8.toNat_ofNat', Nat.mod_mod])

/-- The bits of the characters are those of the bytes and, in excess, fewer than a character has:
these are the lowest bits of the last character. -/
structure Spells (letters : Text) (bytes : List UInt8) (excess : List Bool) : Prop where
  /-- All characters are of the alphabet. -/
  mem_alphabet : ∀ c ∈ letters, c ∈ alphabet
  /-- The bits are the same, in groups of another size. -/
  textBits_eq : textBits letters = byteBits bytes ++ excess
  /-- The last character has a bit of a byte. -/
  length_excess : excess.length < 6

namespace Spells

variable {letters letters' s t : Text} {bytes bytes' x y : List UInt8} {excess excess' : List Bool}

/-- Nothing spells nothing. -/
theorem nil : Spells [] [] [] := ⟨List.forall_mem_nil _, rfl, by decide⟩

/-- Characters without excess bits may have others behind them. -/
theorem append (hs : Spells s x []) (ht : Spells t y excess) : Spells (s ++ t) (x ++ y) excess where
  mem_alphabet := List.forall_mem_append.2 ⟨hs.mem_alphabet, ht.mem_alphabet⟩
  textBits_eq := by
    rw [textBits, Bits.ofList_append, ← textBits, ← textBits, hs.textBits_eq, ht.textBits_eq,
      List.append_nil, byteBits, byteBits, byteBits, Bits.ofList_append, List.append_assoc]
  length_excess := ht.length_excess

/-- The bits are counted. -/
theorem length_eq (h : Spells letters bytes excess) :
    6 * letters.length = 8 * bytes.length + excess.length := by
  have hlength := congrArg List.length h.textBits_eq
  rwa [List.length_append, textBits, byteBits, Bits.length_ofList, Bits.length_ofList] at hlength

/-- Characters spell one byte string at most. -/
theorem unique (h : Spells letters bytes excess) (h' : Spells letters bytes' excess') :
    bytes = bytes' := by
  have hlength : bytes.length = bytes'.length := by
    have hbits := h.length_eq
    have hbits' := h'.length_eq
    have hexcess := h.length_excess
    have hexcess' := h'.length_excess
    omega
  refine byteBits_inj hlength (List.append_inj_left (h.textBits_eq.symm.trans h'.textBits_eq) ?_)
  rw [byteBits, byteBits, Bits.length_ofList, Bits.length_ofList, hlength]

/-- Byte strings are spelled with the same number of characters, and of excess bits. -/
theorem length_congr (h : Spells letters bytes excess) (h' : Spells letters' bytes excess') :
    letters.length = letters'.length ∧ excess.length = excess'.length := by
  have hbits := h.length_eq
  have hbits' := h'.length_eq
  have hexcess := h.length_excess
  have hexcess' := h'.length_excess
  omega

/-- Characters that spell the same byte string differ in their excess bits only. -/
theorem letters_eq_iff (h : Spells letters bytes excess) (h' : Spells letters' bytes excess') :
    letters' = letters ↔ excess' = excess := by
  constructor
  · rintro rfl
    exact List.append_cancel_left (h'.textBits_eq.symm.trans h.textBits_eq)
  · rintro rfl
    exact textBits_inj h'.mem_alphabet h.mem_alphabet (h'.length_congr h).1
      (h'.textBits_eq.trans h.textBits_eq.symm)

/-- The bits of all characters but the last are bits of bytes. -/
theorem textBits_take (h : Spells letters bytes excess) :
    textBits (letters.take (letters.length - 1))
      = (byteBits bytes).take (6 * (letters.length - 1)) := by
  have hle : 6 * (letters.length - 1) ≤ (byteBits bytes).length := by
    have hbits := h.length_eq
    have hexcess := h.length_excess
    rw [byteBits, Bits.length_ofList]
    omega
  rw [textBits, Bits.ofList_take (Nat.sub_le _ 1), ← textBits, h.textBits_eq,
    List.take_append_of_le_length hle]

/-- Characters that spell the same byte string differ in the last one at most. -/
theorem getElem?_eq (h : Spells letters bytes excess) (h' : Spells letters' bytes excess')
    {i : Nat} (hi : i + 1 ≠ letters.length) : letters'[i]? = letters[i]? := by
  have hlength := (h'.length_congr h).1
  have hfront : letters'.take (letters.length - 1) = letters.take (letters.length - 1) := by
    refine textBits_inj (fun c hc => h'.mem_alphabet c (List.mem_of_mem_take hc))
      (fun c hc => h.mem_alphabet c (List.mem_of_mem_take hc))
      (by rw [List.length_take, List.length_take, hlength]) ?_
    rw [h.textBits_take, ← hlength, h'.textBits_take]
  rcases Nat.lt_or_ge i (letters.length - 1) with hlt | hge
  · rw [← List.getElem?_take_of_lt hlt, hfront, List.getElem?_take_of_lt hlt]
  · rw [List.getElem?_eq_none (by omega), List.getElem?_eq_none (by omega)]

end Spells

/-! ## Groups -/

/-- Two characters are a byte. -/
theorem spells_two {p q : Nat} (hp : p < 64) (hq : q < 64) :
    Spells [character p, character q] [UInt8.ofNat ((p * 64 + q) / 16)]
      (Bits.ofNat 4 (p * 64 + q)) where
  mem_alphabet := by
    simpa [mem_alphabet_iff] using ⟨⟨p, hp, rfl⟩, ⟨q, hq, rfl⟩⟩
  textBits_eq := by
    simp only [textBits, byteBits, Bits.ofList, List.flatMap_cons, List.flatMap_nil,
      List.append_nil, idxOf_character hp, idxOf_character hq, ofNat_toNat_ofNat]
    generalize hn : p * 64 + q = n
    have hfirst : Bits.ofNat 6 p = Bits.ofNat 6 (n / 2 ^ 6) := Bits.ofNat_congr (by omega)
    have hsecond : Bits.ofNat 6 q = Bits.ofNat 6 n := Bits.ofNat_congr (by omega)
    rw [hfirst, hsecond, ← Bits.ofNat_add]
    exact Bits.ofNat_add 8 4 n
  length_excess := by rw [Bits.length_ofNat]; decide

/-- Three characters are two bytes. -/
theorem spells_three {p q r : Nat} (hp : p < 64) (hq : q < 64) (hr : r < 64) :
    Spells [character p, character q, character r]
      [UInt8.ofNat ((p * 4096 + q * 64 + r) / 1024),
        UInt8.ofNat ((p * 4096 + q * 64 + r) / 4 % 256)]
      (Bits.ofNat 2 (p * 4096 + q * 64 + r)) where
  mem_alphabet := by
    simpa [mem_alphabet_iff] using ⟨⟨p, hp, rfl⟩, ⟨q, hq, rfl⟩, ⟨r, hr, rfl⟩⟩
  textBits_eq := by
    simp only [textBits, byteBits, Bits.ofList, List.flatMap_cons, List.flatMap_nil,
      List.append_nil, idxOf_character hp, idxOf_character hq, idxOf_character hr,
      ofNat_toNat_ofNat]
    generalize hn : p * 4096 + q * 64 + r = n
    have hfirst : Bits.ofNat 6 p = Bits.ofNat 6 (n / 2 ^ (6 + 6)) := Bits.ofNat_congr (by omega)
    have hsecond : Bits.ofNat 6 q = Bits.ofNat 6 (n / 2 ^ 6) := Bits.ofNat_congr (by omega)
    have hthird : Bits.ofNat 6 r = Bits.ofNat 6 n := Bits.ofNat_congr (by omega)
    have hbyte : Bits.ofNat 8 (n / 4 % 256) = Bits.ofNat 8 (n / 2 ^ 2) :=
      Bits.ofNat_congr (by omega)
    rw [hfirst, hsecond, hthird, hbyte, ← Bits.ofNat_add, ← Bits.ofNat_add, List.append_assoc,
      ← Bits.ofNat_add]
    exact Bits.ofNat_add 8 10 n
  length_excess := by rw [Bits.length_ofNat]; decide

/-- Four characters are three bytes. -/
theorem spells_four {p q r s : Nat} (hp : p < 64) (hq : q < 64) (hr : r < 64) (hs : s < 64) :
    Spells [character p, character q, character r, character s]
      [UInt8.ofNat ((p * 262144 + q * 4096 + r * 64 + s) / 65536),
        UInt8.ofNat ((p * 262144 + q * 4096 + r * 64 + s) / 256 % 256),
        UInt8.ofNat ((p * 262144 + q * 4096 + r * 64 + s) % 256)] [] where
  mem_alphabet := by
    simpa [mem_alphabet_iff] using ⟨⟨p, hp, rfl⟩, ⟨q, hq, rfl⟩, ⟨r, hr, rfl⟩, ⟨s, hs, rfl⟩⟩
  textBits_eq := by
    simp only [textBits, byteBits, Bits.ofList, List.flatMap_cons, List.flatMap_nil,
      List.append_nil, idxOf_character hp, idxOf_character hq, idxOf_character hr,
      idxOf_character hs, ofNat_toNat_ofNat]
    generalize hn : p * 262144 + q * 4096 + r * 64 + s = n
    have hfirst : Bits.ofNat 6 p = Bits.ofNat 6 (n / 2 ^ (6 + (6 + 6))) :=
      Bits.ofNat_congr (by omega)
    have hsecond : Bits.ofNat 6 q = Bits.ofNat 6 (n / 2 ^ (6 + 6)) := Bits.ofNat_congr (by omega)
    have hthird : Bits.ofNat 6 r = Bits.ofNat 6 (n / 2 ^ 6) := Bits.ofNat_congr (by omega)
    have hfourth : Bits.ofNat 6 s = Bits.ofNat 6 n := Bits.ofNat_congr (by omega)
    have hbyte : Bits.ofNat 8 (n / 256 % 256) = Bits.ofNat 8 (n / 2 ^ 8) :=
      Bits.ofNat_congr (by omega)
    have hlast : Bits.ofNat 8 (n % 256) = Bits.ofNat 8 n := Bits.ofNat_congr (by omega)
    rw [hfirst, hsecond, hthird, hfourth, hbyte, hlast, ← Bits.ofNat_add, ← Bits.ofNat_add,
      ← Bits.ofNat_add, ← Bits.ofNat_add]
    exact Bits.ofNat_add 8 16 n
  length_excess := by decide

/-! ## Decoding -/

/-- Are this many characters closed by this much padding? It fills up the last group, or stands
behind full groups. -/
def IsClosed (count paddings : Nat) : Prop :=
  paddings ≤ 2 ∧ 4 ∣ count + paddings ∨ 0 < count ∧ 4 ∣ count

/-- A padded group that is decoded is one of two or of three characters. -/
theorem spells_of_lastGroup {a b c : CodePoint} {bytes : List UInt8}
    (h : decode?.lastGroup a b c = some bytes) :
    ∃ excess, c = padding ∧ Spells [a, b] bytes excess ∨ Spells [a, b, c] bytes excess := by
  unfold decode?.lastGroup at h
  simp only [Option.bind_eq_bind] at h
  split at h
  · next hc =>
    simp only [bind_sextet?_eq_some] at h
    obtain ⟨p, hp, rfl, q, hq, rfl, hbytes⟩ := h
    cases hbytes
    exact ⟨_, .inl ⟨hc, spells_two hp hq⟩⟩
  · simp only [bind_sextet?_eq_some] at h
    obtain ⟨p, hp, rfl, q, hq, rfl, r, hr, rfl, hbytes⟩ := h
    cases hbytes
    exact ⟨_, .inr (spells_three hp hq hr)⟩

/-- A full group that is decoded is three bytes. -/
theorem spells_of_group {a b c d : CodePoint} {following bytes : List UInt8}
    (h : decode?.group a b c d following = some bytes) :
    ∃ three, Spells [a, b, c, d] three [] ∧ bytes = three ++ following := by
  simp only [decode?.group, Option.bind_eq_bind, bind_sextet?_eq_some] at h
  obtain ⟨p, hp, rfl, q, hq, rfl, r, hr, rfl, s, hs, rfl, hbytes⟩ := h
  cases hbytes
  exact ⟨_, spells_four hp hq hr hs, rfl⟩

/-- A text that is decoded spells the bytes, closed by its padding. -/
theorem exists_spells_of_decode? {t : Text} {bytes : List UInt8} (h : decode? t = some bytes) :
    ∃ letters paddings excess, t = letters ++ List.replicate paddings padding ∧
      Spells letters bytes excess ∧ IsClosed letters.length paddings := by
  induction t using decode?.induct generalizing bytes with
  | case1 =>
    cases h
    exact ⟨[], 0, [], rfl, .nil, .inl ⟨by omega, by simp⟩⟩
  | case2 a b c d rest hlast =>
    rw [decode?, if_pos hlast] at h
    simp only [Bool.and_eq_true, decide_eq_true_eq, List.isEmpty_iff] at hlast
    obtain ⟨rfl, rfl⟩ := hlast
    obtain ⟨excess, ⟨rfl, hspells⟩ | hspells⟩ := spells_of_lastGroup h
    · exact ⟨[a, b], 2, excess, rfl, hspells, .inl ⟨by omega, by simp⟩⟩
    · exact ⟨[a, b, c], 1, excess, rfl, hspells, .inl ⟨by omega, by simp⟩⟩
  | case3 a b c d rest hlast hall =>
    rw [decode?, if_neg hlast, if_pos hall] at h
    obtain ⟨three, hspells, rfl⟩ := spells_of_group h
    have hrest : rest = List.replicate rest.length padding :=
      List.eq_replicate_iff.2 ⟨rfl, by simpa using hall⟩
    refine ⟨[a, b, c, d], rest.length, [], ?_, by rwa [List.append_nil], .inr ⟨by simp, by simp⟩⟩
    rw [← hrest]
    rfl
  | case4 a b c d rest hlast hall ih =>
    rw [decode?, if_neg hlast, if_neg hall] at h
    obtain ⟨following, hfollowing, hgroup⟩ := Option.bind_eq_some_iff.1 h
    obtain ⟨three, hfirst, rfl⟩ := spells_of_group hgroup
    obtain ⟨letters, paddings, excess, rfl, hspells, hclosed⟩ := ih hfollowing
    refine ⟨[a, b, c, d] ++ letters, paddings, excess, rfl, hfirst.append hspells, ?_⟩
    simp only [IsClosed, List.length_append, List.length_cons, List.length_nil] at hclosed ⊢
    omega
  | case5 t hnil hcons =>
    unfold decode? at h
    split at h
    · exact absurd rfl hnil
    · exact absurd rfl (hcons _ _ _ _ _)
    · cases h

/-- A full group is three bytes. -/
theorem group_character {a b c d : Nat} (ha : a < 64) (hb : b < 64) (hc : c < 64) (hd : d < 64)
    (following : List UInt8) :
    decode?.group (character a) (character b) (character c) (character d) following
      = some (UInt8.ofNat ((a * 262144 + b * 4096 + c * 64 + d) / 65536)
        :: UInt8.ofNat ((a * 262144 + b * 4096 + c * 64 + d) / 256 % 256)
        :: UInt8.ofNat ((a * 262144 + b * 4096 + c * 64 + d) % 256) :: following) := by
  simp [decode?.group, sextet?_character, ha, hb, hc, hd]

/-- Four characters the last of which is not the padding are a full group. -/
theorem decode?_cons {a b c d : CodePoint} (hd : d ≠ padding) (rest : Text) :
    decode? (a :: b :: c :: d :: rest)
      = if rest.all (· == padding) then decode?.group a b c d []
        else (decode? rest).bind (decode?.group a b c d) := by
  simp only [decode?, hd, decide_false, Bool.false_and, Bool.false_eq_true, if_false]

/-- Characters of the alphabet that padding closes are decoded. -/
theorem exists_decode? : ∀ (letters : Text) (paddings : Nat), (∀ c ∈ letters, c ∈ alphabet) →
    IsClosed letters.length paddings → ∃ bytes excess,
      decode? (letters ++ List.replicate paddings padding) = some bytes ∧
        Spells letters bytes excess
  | [], paddings, _, hclosed => by
    simp only [IsClosed, List.length_nil] at hclosed
    have hnone : paddings = 0 := by omega
    exact ⟨[], [], by rw [hnone]; rfl, .nil⟩
  | [_], paddings, _, hclosed => by
    simp only [IsClosed, List.length_cons, List.length_nil] at hclosed
    omega
  | [a, b], paddings, hmem, hclosed => by
    simp only [IsClosed, List.length_cons, List.length_nil] at hclosed
    have htwo : paddings = 2 := by omega
    obtain ⟨p, hp, rfl⟩ := mem_alphabet_iff.1 (hmem a (by simp))
    obtain ⟨q, hq, rfl⟩ := mem_alphabet_iff.1 (hmem b (by simp))
    refine ⟨_, _, ?_, spells_two hp hq⟩
    simp [htwo, decode?, decode?.lastGroup, sextet?_character hp, sextet?_character hq]
  | [a, b, c], paddings, hmem, hclosed => by
    simp only [IsClosed, List.length_cons, List.length_nil] at hclosed
    have hone : paddings = 1 := by omega
    obtain ⟨p, hp, rfl⟩ := mem_alphabet_iff.1 (hmem a (by simp))
    obtain ⟨q, hq, rfl⟩ := mem_alphabet_iff.1 (hmem b (by simp))
    obtain ⟨r, hr, rfl⟩ := mem_alphabet_iff.1 (hmem c (by simp))
    refine ⟨_, _, ?_, spells_three hp hq hr⟩
    simp [hone, decode?, decode?.lastGroup, sextet?_character hp, sextet?_character hq,
      sextet?_character hr, character_ne_padding hr]
  | a :: b :: c :: d :: rest, paddings, hmem, hclosed => by
    obtain ⟨p, hp, rfl⟩ := mem_alphabet_iff.1 (hmem a (by simp))
    obtain ⟨q, hq, rfl⟩ := mem_alphabet_iff.1 (hmem b (by simp))
    obtain ⟨r, hr, rfl⟩ := mem_alphabet_iff.1 (hmem c (by simp))
    obtain ⟨s, hs, rfl⟩ := mem_alphabet_iff.1 (hmem d (by simp))
    have hspells := spells_four hp hq hr hs
    have hdecode := @decode?_cons (character p) (character q) (character r) _
      (character_ne_padding hs) (rest ++ List.replicate paddings padding)
    cases rest with
    | nil =>
      refine ⟨_, _, hdecode.trans ?_, hspells⟩
      rw [if_pos (by simp), group_character hp hq hr hs]
    | cons e rest =>
      -- What follows is not all padding, so the group is not the last one.
      have he : e ∈ alphabet := hmem e (by simp)
      have hclosed' : IsClosed (e :: rest).length paddings := by
        simp only [IsClosed, List.length_cons] at hclosed ⊢
        omega
      obtain ⟨bytes, excess, hrest, hspells'⟩ := exists_decode? (e :: rest) paddings
        (fun x hx => hmem x (List.mem_append_right [_, _, _, _] hx)) hclosed'
      refine ⟨_, _, hdecode.trans ?_, hspells.append hspells'⟩
      rw [if_neg (by simp [ne_padding_of_mem he]), hrest, Option.bind_some,
        group_character hp hq hr hs]
      rfl

/-! ## Encoding -/

/-- The text of a byte string spells it with zeros in excess; padding fills up the last group. -/
theorem exists_encode (bytes : List UInt8) : ∃ letters paddings excess,
    encode bytes = letters ++ List.replicate paddings padding ∧ Spells letters bytes excess ∧
      paddings ≤ 2 ∧ 4 ∣ letters.length + paddings ∧ ∀ bit ∈ excess, bit = false := by
  induction bytes using encode.induct with
  | case1 => exact ⟨[], 0, [], rfl, .nil, by omega, by simp, List.forall_mem_nil _⟩
  | case2 a =>
    have ha := a.toNat_lt
    have hspells := spells_two (show a.toNat / 4 < 64 by omega)
      (show a.toNat % 4 * 16 < 64 by omega)
    have hsum : a.toNat / 4 * 64 + a.toNat % 4 * 16 = a.toNat * 2 ^ 4 := by omega
    have hbyte : a.toNat * 2 ^ 4 / 16 = a.toNat := by omega
    rw [hsum, hbyte, UInt8.ofNat_toNat, Bits.ofNat_mul_two_pow] at hspells
    exact ⟨_, 2, _, rfl, hspells, by omega, by simp, fun _ => List.eq_of_mem_replicate⟩
  | case3 a b =>
    have ha := a.toNat_lt
    have hb := b.toNat_lt
    generalize hn : a.toNat * 256 + b.toNat = n
    have hspells := spells_three (show n / 1024 < 64 by omega) (show n / 16 % 64 < 64 by omega)
      (show n % 16 * 4 < 64 by omega)
    have hsum : n / 1024 * 4096 + n / 16 % 64 * 64 + n % 16 * 4 = n * 2 ^ 2 := by
      clear hn
      omega
    have hbyte : n * 2 ^ 2 / 1024 = a.toNat := by omega
    have hbyte' : n * 2 ^ 2 / 4 % 256 = b.toNat := by omega
    rw [hsum, hbyte, hbyte', UInt8.ofNat_toNat, UInt8.ofNat_toNat, Bits.ofNat_mul_two_pow]
      at hspells
    exact ⟨_, 1, _, by rw [encode, hn]; rfl, hspells, by omega, by simp,
      fun _ => List.eq_of_mem_replicate⟩
  | case4 a b c rest ih =>
    have ha := a.toNat_lt
    have hb := b.toNat_lt
    have hc := c.toNat_lt
    generalize hn : a.toNat * 65536 + b.toNat * 256 + c.toNat = n
    have hspells := spells_four (show n / 262144 < 64 by omega) (show n / 4096 % 64 < 64 by omega)
      (show n / 64 % 64 < 64 by omega) (show n % 64 < 64 by omega)
    -- The four six-bit numbers make the number of the bytes, and this makes the bytes.
    have hsum : n / 262144 * 262144 + n / 4096 % 64 * 4096 + n / 64 % 64 * 64 + n % 64 = n := by
      clear hn
      omega
    have hfirst : n / 65536 = a.toNat := by omega
    have hsecond : n / 256 % 256 = b.toNat := by omega
    have hthird : n % 256 = c.toNat := by omega
    rw [hsum, hfirst, hsecond, hthird, UInt8.ofNat_toNat, UInt8.ofNat_toNat, UInt8.ofNat_toNat]
      at hspells
    obtain ⟨letters, paddings, excess, htext, hrest, hpaddings, hdvd, hzero⟩ := ih
    refine ⟨_ ++ letters, paddings, excess, ?_, hspells.append hrest, hpaddings, ?_, hzero⟩
    · rw [encode, hn, htext]
      rfl
    · simp only [List.length_append, List.length_cons, List.length_nil]
      omega

/-- The text of a byte string decodes to it. -/
theorem decode?_encode (bytes : List UInt8) : decode? (encode bytes) = some bytes := by
  obtain ⟨letters, paddings, excess, htext, hspells, hpaddings, hdvd, -⟩ := exists_encode bytes
  obtain ⟨bytes', excess', hdecode, hspells'⟩ :=
    exists_decode? letters paddings hspells.mem_alphabet (.inl ⟨hpaddings, hdvd⟩)
  rw [htext, hdecode, hspells'.unique hspells]

/-- The text of a byte string is that of any characters that spell it, but for the excess bits of
the last one, which are zero. -/
theorem encode_of_spells {letters : Text} {bytes : List UInt8} {excess : List Bool}
    {paddings : Nat} (h : Spells letters bytes excess) (hpaddings : paddings ≤ 2)
    (hdvd : 4 ∣ letters.length + paddings) : ∃ letters',
      encode bytes = letters' ++ List.replicate paddings padding ∧
        letters'.length = letters.length ∧
        (∀ i, i + 1 ≠ letters.length → letters'[i]? = letters[i]?) ∧
        (letters' = letters ↔ ∀ bit ∈ excess, bit = false) := by
  obtain ⟨letters', paddings', excess', htext, h', hpaddings', hdvd', hzero⟩ := exists_encode bytes
  obtain ⟨hlength, hexcess⟩ := h'.length_congr h
  have heq : paddings' = paddings := by omega
  refine ⟨letters', heq ▸ htext, hlength, fun i hi => h.getElem?_eq h' hi,
    (h.letters_eq_iff h').trans ?_⟩
  constructor
  · rintro rfl
    exact hzero
  · intro hnone
    exact (List.eq_replicate_iff.2 ⟨hexcess, hzero⟩).trans
      (List.eq_replicate_iff.2 ⟨rfl, hnone⟩).symm

/-- The characters of the six-bit numbers are visible, and none is the comment sign. -/
theorem isVisible_character_of_mem : ∀ n ∈ List.range 64,
    (character n).isVisible = true ∧ character n ≠ commentSign := by
  decide +kernel

/-- The text of a byte string is a word. -/
theorem isWord_encode (bytes : List UInt8) : (encode bytes).IsWord := by
  obtain ⟨letters, paddings, excess, htext, hspells, -⟩ := exists_encode bytes
  rw [htext]
  refine Text.IsWord.append (fun c hc => ?_) (fun c hc => ?_)
  · obtain ⟨n, hn, rfl⟩ := mem_alphabet_iff.1 (hspells.mem_alphabet c hc)
    exact isVisible_character_of_mem n (List.mem_range.2 hn)
  · rw [List.eq_of_mem_replicate hc]
    decide

/-! ## What is decoded -/

/-- Is the text padded exactly: are its characters of the alphabet, but for up to two paddings at
the end that make the last group full? -/
def IsPadded (t : Text) : Prop :=
  4 ∣ t.length ∧ ∃ letters paddings, (∀ c ∈ letters, c ∈ alphabet) ∧ paddings ≤ 2 ∧
    t = letters ++ List.replicate paddings padding

/-- Does padding follow full groups of characters of the alphabet? -/
def IsOverpadded (t : Text) : Prop :=
  ∃ letters paddings, (∀ c ∈ letters, c ∈ alphabet) ∧ letters ≠ [] ∧ 4 ∣ letters.length ∧
    0 < paddings ∧ t = letters ++ List.replicate paddings padding

/-- The padding behind characters of the alphabet is counted. -/
theorem count_padding {letters : Text} (h : ∀ c ∈ letters, c ∈ alphabet) (paddings : Nat) :
    (letters ++ List.replicate paddings padding).count padding = paddings := by
  have hnone : letters.count padding = 0 :=
    List.count_eq_zero.2 fun hmem => ne_padding_of_mem (h _ hmem) rfl
  rw [List.count_append, hnone, List.count_replicate_self, Nat.zero_add]

/-- Where the padding starts is told from the text. -/
theorem append_padding_inj {s t : Text} {m n : Nat} (hs : ∀ c ∈ s, c ∈ alphabet)
    (ht : ∀ c ∈ t, c ∈ alphabet)
    (h : s ++ List.replicate m padding = t ++ List.replicate n padding) : s = t ∧ m = n := by
  have hcount := congrArg (List.count padding) h
  rw [count_padding hs, count_padding ht] at hcount
  subst hcount
  exact ⟨List.append_cancel_right h, rfl⟩

/-- Padding that follows full groups is not exact. -/
theorem IsOverpadded.not_isPadded {t : Text} (h : IsOverpadded t) : ¬ IsPadded t := by
  rintro ⟨hdvd, letters, paddings, hmem, hpaddings, rfl⟩
  obtain ⟨letters', paddings', hmem', -, hdvd', hpos, heq⟩ := h
  obtain ⟨rfl, rfl⟩ := append_padding_inj hmem hmem' heq
  simp only [List.length_append, List.length_replicate] at hdvd
  omega

/-- The texts that are decoded are padded exactly or have padding behind full groups. -/
theorem exists_decode?_iff {t : Text} :
    (∃ bytes, decode? t = some bytes) ↔ IsPadded t ∨ IsOverpadded t := by
  constructor
  · rintro ⟨bytes, h⟩
    obtain ⟨letters, paddings, excess, rfl, hspells, hclosed⟩ := exists_spells_of_decode? h
    by_cases hexact : paddings ≤ 2 ∧ 4 ∣ letters.length + paddings
    · exact .inl ⟨by simpa using hexact.2, letters, paddings, hspells.mem_alphabet, hexact.1, rfl⟩
    · obtain ⟨hpos, hdvd⟩ := hclosed.resolve_left hexact
      refine .inr ⟨letters, paddings, hspells.mem_alphabet, List.length_pos_iff.1 hpos, hdvd, ?_,
        rfl⟩
      omega
  · rintro (⟨hdvd, letters, paddings, hmem, hpaddings, rfl⟩ |
      ⟨letters, paddings, hmem, hne, hdvd, -, rfl⟩)
    · obtain ⟨bytes, -, hdecode, -⟩ :=
        exists_decode? letters paddings hmem (.inl ⟨hpaddings, by simpa using hdvd⟩)
      exact ⟨bytes, hdecode⟩
    · obtain ⟨bytes, -, hdecode, -⟩ :=
        exists_decode? letters paddings hmem (.inr ⟨List.length_pos_iff.2 hne, hdvd⟩)
      exact ⟨bytes, hdecode⟩

end Base64

end Delimited
