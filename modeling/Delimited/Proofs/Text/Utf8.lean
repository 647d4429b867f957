import Delimited.Proofs.Result
import Delimited.Text.Utf8
import Mathlib.Data.List.TakeWhile
import Mathlib.Tactic.IntervalCases

/-!
# Encoded text is decoded again

A text without surrogates has an encoded form, which decodes to the text: each code point is read
back from its one to four bytes, wherever they stand. Whatever bytes are decoded, there is no
surrogate in the text.
-/

namespace Delimited

namespace Utf8

/-- A code point is that of its number. -/
theorem point_val (c : CodePoint) : point c.val = c := Fin.ofNat_val_eq_self c

/-! ## Bytes -/

/-- A number below 256 is that of its byte. -/
theorem toNat_ofNat {n : Nat} (h : n < 256) : (UInt8.ofNat n).toNat = n := by
  rw [UInt8.toNat_ofNat']
  omega

/-- Bytes of small numbers compare like the numbers. -/
theorem ofNat_lt_ofNat {m n : Nat} (hm : m < 256) (hn : n < 256) :
    UInt8.ofNat m < UInt8.ofNat n ↔ m < n := by
  rw [UInt8.lt_iff_toNat_lt, toNat_ofNat hm, toNat_ofNat hn]

/-- A continuation byte continues a sequence. -/
theorem isContinuation_continuation (n : Nat) :
    isContinuation (UInt8.ofNat (0x80 + n % 64)) = true := by
  have hlow : ¬ UInt8.ofNat (0x80 + n % 64) < UInt8.ofNat 0x80 := by
    rw [ofNat_lt_ofNat (by omega) (by decide)]
    omega
  have hhigh : ¬ UInt8.ofNat 0xBF < UInt8.ofNat (0x80 + n % 64) := by
    rw [ofNat_lt_ofNat (by decide) (by omega)]
    omega
  rw [isContinuation, Bool.and_eq_true, decide_eq_true_eq, decide_eq_true_eq]
  exact ⟨UInt8.not_lt.1 hlow, UInt8.not_lt.1 hhigh⟩

/-- A continuation byte adds its six bits. -/
theorem extend_continuation (bits n : Nat) :
    extend bits (UInt8.ofNat (0x80 + n % 64)) = bits * 64 + n % 64 := by
  have hbits : 0x80 + n % 64 - 0x80 = n % 64 := by omega
  have hbyte := toNat_ofNat (show 0x80 + n % 64 < 256 by omega)
  unfold extend
  rw [hbyte, hbits]

/-- The first byte of two. -/
theorem lead?_two {n : Nat} (hlow : 2 ≤ n) (hhigh : n < 32) :
    lead? (UInt8.ofNat (0xC0 + n)) = some ⟨n, 0, 0x80, 0xBF⟩ := by
  interval_cases n <;> rfl

/-- The first byte of three, with the least and the greatest second byte. -/
theorem lead?_three {n : Nat} (h : n < 16) : lead? (UInt8.ofNat (0xE0 + n))
    = some ⟨n, 1, if n = 0 then 0xA0 else 0x80, if n = 13 then 0x9F else 0xBF⟩ := by
  interval_cases n <;> rfl

/-- The first byte of four, with the least and the greatest second byte. -/
theorem lead?_four {n : Nat} (h : n < 5) : lead? (UInt8.ofNat (0xF0 + n))
    = some ⟨n, 2, if n = 0 then 0x90 else 0x80, if n = 4 then 0x8F else 0xBF⟩ := by
  interval_cases n <;> rfl

/-! ## Code points -/

variable {c : CodePoint} (position : Nat) (rest : List UInt8)

/-- A second byte between the least and the greatest is taken. -/
theorem outside_eq_false {low high : UInt8} {n : Nat} (hlow : low.toNat ≤ 0x80 + n % 64)
    (hhigh : 0x80 + n % 64 ≤ high.toNat) :
    (decide (UInt8.ofNat (0x80 + n % 64) < low)
      || decide (high < UInt8.ofNat (0x80 + n % 64))) = false := by
  have hbyte := toNat_ofNat (show 0x80 + n % 64 < 256 by omega)
  rw [decide_eq_false, decide_eq_false, Bool.or_false]
  · rw [UInt8.lt_iff_toNat_lt, hbyte]
    exact Nat.not_lt.2 hhigh
  · rw [UInt8.lt_iff_toNat_lt, hbyte]
    exact Nat.not_lt.2 hlow

/-- A first byte of several is not a code point by itself. -/
theorem not_ofNat_lt {n : Nat} (hlow : 0x80 ≤ n) (hhigh : n < 256) : ¬ UInt8.ofNat n < 0x80 :=
  fun h => absurd ((ofNat_lt_ofNat (n := 0x80) hhigh (by decide)).1 h) (Nat.not_lt.2 hlow)

/-- Two bytes are decoded to the bits in them. -/
theorem decodeFrom_two {n : Nat} (hlow : 0x80 ≤ n) (hhigh : n < 0x800) :
    decodeFrom position (UInt8.ofNat (0xC0 + n / 64) :: UInt8.ofNat (0x80 + n % 64) :: rest)
      = (decodeFrom (position + 2) rest).map (point n :: ·) := by
  have hlead := lead?_two (show 2 ≤ n / 64 by omega) (show n / 64 < 32 by omega)
  have hbits : n / 64 * 64 + n % 64 = n := by omega
  rw [decodeFrom, if_neg (not_ofNat_lt (by omega) (by omega)), hlead]
  have hleast : (0x80 : UInt8).toNat ≤ 0x80 + n % 64 := show 0x80 ≤ 0x80 + n % 64 by omega
  have hgreatest : 0x80 + n % 64 ≤ (0xBF : UInt8).toNat := show 0x80 + n % 64 ≤ 0xBF by omega
  simp only [outside_eq_false hleast hgreatest, Bool.false_eq_true, if_false, extend_continuation,
    hbits]

/-- Three bytes are decoded to the bits in them, unless these are a surrogate's. -/
theorem decodeFrom_three {n : Nat} (hlow : 0x800 ≤ n) (hhigh : n < 0x10000)
    (hsurrogate : n < 0xD800 ∨ 0xE000 ≤ n) :
    decodeFrom position (UInt8.ofNat (0xE0 + n / 4096) :: UInt8.ofNat (0x80 + n / 64 % 64)
        :: UInt8.ofNat (0x80 + n % 64) :: rest)
      = (decodeFrom (position + 3) rest).map (point n :: ·) := by
  have hlead := lead?_three (show n / 4096 < 16 by omega)
  have hbits : (n / 4096 * 64 + n / 64 % 64) * 64 + n % 64 = n := by omega
  -- The second byte is in range: neither would two bytes do, nor is there a surrogate.
  have hleast : (if n / 4096 = 0 then (0xA0 : UInt8) else 0x80).toNat ≤ 0x80 + n / 64 % 64 := by
    split
    · exact show 0xA0 ≤ 0x80 + n / 64 % 64 by omega
    · exact show 0x80 ≤ 0x80 + n / 64 % 64 by omega
  have hgreatest : 0x80 + n / 64 % 64 ≤ (if n / 4096 = 13 then (0x9F : UInt8) else 0xBF).toNat := by
    split
    · exact show 0x80 + n / 64 % 64 ≤ 0x9F by omega
    · exact show 0x80 + n / 64 % 64 ≤ 0xBF by omega
  rw [decodeFrom, if_neg (not_ofNat_lt (by omega) (by omega)), hlead]
  simp only [outside_eq_false hleast hgreatest, isContinuation_continuation, Bool.not_true,
    Bool.false_eq_true, if_false, extend_continuation, hbits]

/-- Four bytes are decoded to the bits in them. -/
theorem decodeFrom_four {n : Nat} (hlow : 0x10000 ≤ n) (hhigh : n < 0x110000) :
    decodeFrom position (UInt8.ofNat (0xF0 + n / 262144) :: UInt8.ofNat (0x80 + n / 4096 % 64)
        :: UInt8.ofNat (0x80 + n / 64 % 64) :: UInt8.ofNat (0x80 + n % 64) :: rest)
      = (decodeFrom (position + 4) rest).map (point n :: ·) := by
  have hlead := lead?_four (show n / 262144 < 5 by omega)
  have hbits : ((n / 262144 * 64 + n / 4096 % 64) * 64 + n / 64 % 64) * 64 + n % 64 = n := by omega
  -- The second byte is in range: neither would three bytes do, nor is the number too large.
  have hleast : (if n / 262144 = 0 then (0x90 : UInt8) else 0x80).toNat
      ≤ 0x80 + n / 4096 % 64 := by
    split
    · exact show 0x90 ≤ 0x80 + n / 4096 % 64 by omega
    · exact show 0x80 ≤ 0x80 + n / 4096 % 64 by omega
  have hgreatest : 0x80 + n / 4096 % 64
      ≤ (if n / 262144 = 4 then (0x8F : UInt8) else 0xBF).toNat := by
    split
    · exact show 0x80 + n / 4096 % 64 ≤ 0x8F by omega
    · exact show 0x80 + n / 4096 % 64 ≤ 0xBF by omega
  rw [decodeFrom, if_neg (not_ofNat_lt (by omega) (by omega)), hlead]
  simp only [outside_eq_false hleast hgreatest, isContinuation_continuation, Bool.not_true,
    Bool.false_eq_true, if_false, extend_continuation, hbits]

/-- The bytes of a code point that is no surrogate are decoded to it, and what follows them after
it. -/
theorem exists_decodeFrom_encodePoint (hc : c.isSurrogate = false) :
    ∃ next, decodeFrom position (encodePoint c ++ rest)
      = (decodeFrom next rest).map (c :: ·) := by
  have hlt := c.isLt
  have hpoint := point_val c
  simp only [CodePoint.isSurrogate, Bool.and_eq_false_iff, decide_eq_false_iff_not] at hc
  generalize hn : c.val = n at hlt hpoint hc
  unfold encodePoint
  simp only [hn]
  split
  · next h1 =>
    have hsmall : UInt8.ofNat n < 0x80 := (ofNat_lt_ofNat (n := 0x80) (by omega) (by decide)).2 h1
    refine ⟨position + 1, ?_⟩
    rw [List.singleton_append, decodeFrom, if_pos hsmall, toNat_ofNat (by omega), hpoint]
  split
  · exact ⟨position + 2, hpoint ▸ decodeFrom_two position rest (by omega) (by omega)⟩
  split
  · exact ⟨position + 3, hpoint ▸ decodeFrom_three position rest (by omega) (by omega) (by omega)⟩
  · exact ⟨position + 4, hpoint ▸ decodeFrom_four position rest (by omega) (by omega)⟩

/-! ## Texts -/

/-- A text has an encoded form if and only if there is no surrogate in it. -/
theorem unencodable?_eq_none {t : Text} :
    unencodable? t = none ↔ ∀ c ∈ t, c.isSurrogate = false := by
  unfold unencodable?
  constructor
  · intro h
    split at h
    · next hnil => simpa using List.dropWhile_eq_nil_iff.1 hnil
    · cases h
  · intro h
    rw [List.dropWhile_eq_nil_iff.2 (by simpa using h)]

/-- The bytes of a text without surrogates are decoded to it. -/
theorem decodeFrom_flatMap {t : Text} (h : ∀ c ∈ t, c.isSurrogate = false) (position : Nat) :
    decodeFrom position (t.flatMap encodePoint) = .ok t := by
  induction t generalizing position with
  | nil => rfl
  | cons c t ih =>
    obtain ⟨next, hdecode⟩ :=
      exists_decodeFrom_encodePoint position (t.flatMap encodePoint) (h c (by simp))
    rw [List.flatMap_cons, hdecode, ih fun x hx => h x (by simp [hx])]
    rfl

/-- A text without surrogates is encoded, and its bytes are decoded to it. -/
theorem exists_encode_decode {t : Text} (h : ∀ c ∈ t, c.isSurrogate = false) :
    ∃ bytes, encode t = .ok bytes ∧ decode bytes = .ok t :=
  ⟨_, by rw [encode, unencodable?_eq_none.2 h], decodeFrom_flatMap h 0⟩

/-! ## Decoded texts -/

/-- Bits of a code point that is no surrogate. -/
def IsScalar (bits : Nat) : Prop := bits < 0xD800 ∨ 0xE000 ≤ bits ∧ bits < 0x110000

/-- The bits that the first two bytes may have, by how many bytes follow. With three bytes in all,
those of the surrogates are left out. -/
def IsTwoBytes (bits : Nat) : Nat → Prop
  | 0 => bits < 0x800
  | 1 => bits < 0x360 ∨ 0x380 ≤ bits ∧ bits < 0x400
  | _ => 0x10 ≤ bits ∧ bits < 0x110

/-- Such bits are those of a code point that is no surrogate. -/
theorem IsScalar.isSurrogate_point {bits : Nat} (h : IsScalar bits) :
    (point bits).isSurrogate = false := by
  unfold IsScalar at h
  have hval : (point bits).val = bits := Nat.mod_eq_of_lt (by omega)
  rw [CodePoint.isSurrogate, hval, Bool.and_eq_false_iff, decide_eq_false_iff_not,
    decide_eq_false_iff_not]
  omega

/-- A continuation byte adds six bits. -/
theorem extend_of_isContinuation {b : UInt8} (h : isContinuation b = true) (bits : Nat) :
    bits * 64 ≤ extend bits b ∧ extend bits b < (bits + 1) * 64 := by
  rw [isContinuation, Bool.and_eq_true, decide_eq_true_eq, decide_eq_true_eq,
    UInt8.le_iff_toNat_le, UInt8.le_iff_toNat_le] at h
  have hlow : 0x80 ≤ b.toNat := h.1
  have hhigh : b.toNat ≤ 0xBF := h.2
  unfold extend
  omega

/-- A first byte and a second one in its range have bits that they may have. -/
theorem isTwoBytes_of_lead? {b c : UInt8} {lead : Lead} (h : lead? b = some lead)
    (hc : ¬ (decide (c < lead.low) || decide (lead.high < c)) = true) :
    IsTwoBytes (extend lead.bits c) lead.afterSecond := by
  rw [Bool.or_eq_true, decide_eq_true_eq, decide_eq_true_eq, not_or, UInt8.lt_iff_toNat_lt,
    UInt8.lt_iff_toNat_lt, Nat.not_lt, Nat.not_lt] at hc
  have hlt : ∀ n : UInt8, b < n ↔ b.toNat < n.toNat := fun n => UInt8.lt_iff_toNat_lt
  have heq : ∀ n : UInt8, b = n ↔ b.toNat = n.toNat := fun n => UInt8.toNat_inj.symm
  unfold lead? at h
  simp only [hlt, heq, UInt8.reduceToNat] at h
  unfold extend IsTwoBytes
  -- There is one case for each kind of first byte.
  repeat' split at h
  all_goals first | obtain rfl := Option.some.inj h | exact nomatch h
  all_goals
    simp only [UInt8.reduceToNat] at hc ⊢
    omega

/-- Three bytes have the bits of no surrogate. -/
theorem IsTwoBytes.isScalar_extend {bits : Nat} (h : IsTwoBytes bits 1) {d : UInt8}
    (hd : isContinuation d = true) : IsScalar (extend bits d) := by
  have hbits := extend_of_isContinuation hd bits
  simp only [IsTwoBytes] at h
  unfold IsScalar
  omega

/-- Nor have four bytes. -/
theorem IsTwoBytes.isScalar_extend_extend {bits more : Nat} (h : IsTwoBytes bits (more + 2))
    {d e : UInt8} (hd : isContinuation d = true) (he : isContinuation e = true) :
    IsScalar (extend (extend bits d) e) := by
  have hthree := extend_of_isContinuation hd bits
  have hfour := extend_of_isContinuation he (extend bits d)
  simp only [IsTwoBytes] at h
  unfold IsScalar
  omega

/-- Decoded bytes are a text without surrogates. -/
theorem isSurrogate_of_decodeFrom {position : Nat} {bytes : List UInt8} {t : Text}
    (h : decodeFrom position bytes = .ok t) : ∀ c ∈ t, c.isSurrogate = false := by
  -- What follows the first sequence has none, so it comes down to the bits of that one.
  have hcons : ∀ {bits : Nat} {rest : Except Malformed Text} {t : Text},
      rest.map (point bits :: ·) = .ok t → IsScalar bits →
      (∀ {t : Text}, rest = .ok t → ∀ c ∈ t, c.isSurrogate = false) →
      ∀ c ∈ t, c.isSurrogate = false := by
    intro bits rest t h hbits hrest
    obtain ⟨t, ht, rfl⟩ := Except.map_eq_ok.1 h
    exact List.forall_mem_cons.2 ⟨hbits.isSurrogate_point, hrest ht⟩
  fun_induction decodeFrom position bytes generalizing t with
  | case1 =>
    cases h
    exact List.forall_mem_nil _
  | case2 _ b rest hb ih =>
    have hlt := b.toNat_lt
    exact hcons h (.inl (by omega)) ih
  | case6 _ b _ lead hlead c hc _ rest hmore =>
    rename_i ih
    have htwo := isTwoBytes_of_lead? hlead hc
    rw [hmore] at htwo
    exact hcons h (.inl (Nat.lt_trans htwo (by decide))) ih
  | case9 _ b _ lead hlead c hc _ d hd _ rest hmore =>
    rename_i ih
    have htwo := isTwoBytes_of_lead? hlead hc
    rw [hmore] at htwo
    exact hcons h (htwo.isScalar_extend (by simpa using hd)) ih
  | case12 _ b _ lead hlead c hc _ d hd _ more e rest he hmore =>
    rename_i ih
    have htwo := isTwoBytes_of_lead? hlead hc
    rw [hmore] at htwo
    exact hcons h (htwo.isScalar_extend_extend (by simpa using hd) (by simpa using he)) ih
  | _ => cases h

/-- A decoded byte string is a text without surrogates. -/
theorem isSurrogate_of_decode {bytes : List UInt8} {t : Text} (h : decode bytes = .ok t) :
    ∀ c ∈ t, c.isSurrogate = false :=
  isSurrogate_of_decodeFrom h

end Utf8

end Delimited
