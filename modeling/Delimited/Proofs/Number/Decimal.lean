import Delimited.Number.Arithmetic
import Delimited.Proofs.Number.Numeral
import Delimited.Proofs.Text.Blank

/-!
# Plain digits of decimals are read back

A finite decimal in plain digits has no exponent, so a positive one is lost: what is read back has
the zeros in its coefficient. That is the decimal's plain form, and the plain form is written in the
same digits.
-/

namespace Delimited

open CodePoint (ofDigit)

namespace Decimal

/-! ## Words -/

/-- A sign is a word. -/
theorem isWord_signText (negative : Bool) : (signText negative).IsWord := by
  cases negative with
  | true => exact Text.IsWord.cons (by decide) Text.isWord_nil
  | false => exact Text.isWord_nil

/-- Digits with a point placed among them are a word. -/
theorem isWord_placePoint {digits : Text} (h : ∀ c ∈ digits, c.isDigit = true) (place : Int) :
    (placePoint digits place).IsWord := by
  obtain ⟨whole, fraction, hpointed, -, hdigits, -⟩ := exists_isPointed_placePoint h place
  generalize placePoint digits place = t at hpointed
  have hwhole : whole.IsWord :=
    Text.isWord_of_isDigit fun c hc => hdigits c (List.mem_append_left _ hc)
  cases hpointed with
  | plain => exact hwhole
  | point =>
    refine hwhole.append (Text.IsWord.cons (by decide) ?_)
    exact Text.isWord_of_isDigit fun c hc => hdigits c (List.mem_append_right _ hc)

/-- The plain digits of a decimal are a word. -/
theorem isWord_plainDigits (coefficient : Nat) (exponent : Int) :
    (plainDigits coefficient exponent).IsWord := by
  unfold plainDigits
  split
  · exact Text.IsWord.cons (by decide) Text.isWord_nil
  · exact isWord_placePoint Digits.isDigit_of_mem_ofNat _

/-! ## The plain form -/

/-- The plain form of a decimal is in range. -/
theorem InRange.plainForm {coefficient : Nat} {exponent : Int} (h : InRange coefficient exponent) :
    InRange (coefficient * 10 ^ exponent.toNat) (min exponent 0) := by
  obtain ⟨hadjusted, hexponent⟩ := h
  have hcount := Digits.count_pos coefficient
  simp only [InRange, adjusted, maxAdjusted, minExponent] at hadjusted hexponent ⊢
  by_cases hzero : coefficient = 0
  · have hone : Digits.count 0 = 1 := by simp [Digits.count, Digits.ofNat_of_lt]
    rw [hzero, Nat.zero_mul, hone]
    omega
  · rw [Digits.count_mul_pow hzero]
    omega

/-- The decimal of the same plain digits that has no positive exponent. -/
def plainForm : Decimal → Decimal
  | .finite negative coefficient exponent h =>
    .finite negative (coefficient * 10 ^ exponent.toNat) (min exponent 0) h.plainForm
  | .infinite negative => .infinite negative
  | .nan negative signaling payload => .nan negative signaling payload

/-- The zeros of a positive exponent may as well stand in the coefficient. -/
theorem plainDigits_plainForm (coefficient : Nat) (exponent : Int) :
    plainDigits (coefficient * 10 ^ exponent.toNat) (min exponent 0)
      = plainDigits coefficient exponent := by
  by_cases hpos : 0 < exponent
  · have hmin : min exponent 0 = 0 := by omega
    rcases Nat.eq_zero_or_pos coefficient with rfl | hcoefficient
    · simp [plainDigits, hpos, hmin, Digits.ofNat_of_lt, placePoint]
    · -- The point stands behind all digits: zeros are placed there, or are digits already.
      have hne : coefficient ≠ 0 := by omega
      have hne' : coefficient * 10 ^ exponent.toNat ≠ 0 :=
        Nat.mul_ne_zero hne (pow_ne_zero _ (by decide))
      have hlength := Digits.count_mul_pow hne exponent.toNat
      have hcount := Digits.count_pos coefficient
      rw [Digits.count, Digits.count] at hlength
      rw [Digits.count] at hcount
      have hdigits := Digits.ofNat_mul_pow hne exponent.toNat
      have h1 : ¬ (0 + ((Digits.ofNat (coefficient * 10 ^ exponent.toNat)).length : Int)) ≤ 0 := by
        omega
      have h2 : ¬ (exponent + ((Digits.ofNat coefficient).length : Int)) ≤ 0 := by omega
      have h3 : ((Digits.ofNat coefficient).length : Int)
          ≤ exponent + ((Digits.ofNat coefficient).length : Int) := by omega
      have h4 : (exponent + ((Digits.ofNat coefficient).length : Int)).toNat
          - (Digits.ofNat coefficient).length = exponent.toNat := by omega
      simp only [plainDigits, hne, hne', hmin, decide_false, Bool.false_and, Bool.false_eq_true,
        if_false, placePoint, h1, h2, h3, h4, if_true]
      simp [hdigits]
  · have hmin : min exponent 0 = exponent := by omega
    have hzero : exponent.toNat = 0 := by omega
    rw [hmin, hzero, Nat.pow_zero, Nat.mul_one]

/-- A decimal and its plain form are written alike. -/
theorem plain?_plainForm (d : Decimal) : d.plainForm.plain? = d.plain? := by
  cases d with
  | finite negative coefficient exponent =>
    simp only [plainForm, plain?, plainDigits_plainForm]
  | infinite => rfl
  | nan => rfl

/-- The decimals of an integer are its sign and its digits. -/
theorem eq_of_ofInt? {i : Int} {d : Decimal} (h : ofInt? i = some d) :
    ∃ hrange, d = .finite (i < 0) i.natAbs 0 hrange := by
  unfold ofInt? finite? at h
  split at h
  · next hrange => exact ⟨hrange, (Option.some.inj h).symm⟩
  · cases h

/-- An integer within the digit limit is a decimal. -/
theorem exists_ofInt? {i : Int} (h : Digits.count i.natAbs ≤ digitLimit) :
    ∃ d, ofInt? i = some d := by
  have hlimit : digitLimit = 4300 := rfl
  have hrange : InRange i.natAbs 0 := by
    simp only [InRange, adjusted, maxAdjusted, minExponent]
    omega
  exact ⟨_, dif_pos hrange⟩

/-- An integer is a plain form. -/
theorem plainForm_of_ofInt? {i : Int} {d : Decimal} (h : ofInt? i = some d) : d.plainForm = d := by
  obtain ⟨hrange, rfl⟩ := eq_of_ofInt? h
  simp [plainForm]

/-- The plain digits of an integer are its text. -/
theorem plain?_of_ofInt? {i : Int} {d : Decimal} (h : ofInt? i = some d) :
    d.plain? = some (Integer.text i) := by
  obtain ⟨hrange, rfl⟩ := eq_of_ofInt? h
  have hne := Digits.ofNat_ne_nil i.natAbs
  simp [plain?, plainDigits, placePoint, Integer.text_eq, hne]

/-! ## Reading plain digits -/

/-- The decimal of a numeral's digits, if their exponents are in range. -/
theorem ofNumeral?_eq_some {n : Numeral} {d : Decimal} :
    ofNumeral? n = some d ↔
      ∃ hrange, d = .finite n.negative n.coefficient n.scale hrange := by
  unfold ofNumeral? finite?
  split
  · next hrange => exact ⟨fun h => ⟨hrange, (Option.some.inj h).symm⟩, fun ⟨_, h⟩ => h ▸ rfl⟩
  · next hrange => exact ⟨fun h => (nomatch h), fun ⟨h, _⟩ => absurd h hrange⟩

/-- Plain digits are a numeral of the same sign that has the zeros of a positive exponent in its
coefficient. -/
theorem exists_parse?_plain (negative : Bool) (coefficient : Nat) (exponent : Int) :
    ∃ n, Numeral.parse? (signText negative ++ plainDigits coefficient exponent) = some n ∧
      n.negative = negative ∧ n.coefficient = coefficient * 10 ^ exponent.toNat ∧
      n.scale = min exponent 0 := by
  by_cases hzero : coefficient = 0 ∧ 0 < exponent
  · -- Zeros behind a zero are not written.
    obtain ⟨rfl, hpos⟩ := hzero
    have hdigits : plainDigits 0 exponent = [ofDigit 0] := by simp [plainDigits, hpos]
    have hdigit : ∀ c ∈ [ofDigit 0], c.isDigit = true := by simp [CodePoint.isDigit_ofDigit]
    have hpointed : Numeral.IsPointed [ofDigit 0] [] [ofDigit 0] := .plain
    have hparse := Numeral.parse?_pointed (isSign_signText negative) hpointed (by simp)
      (by simpa using hdigit) Digits.isEnd_nil rfl
    refine ⟨_, by rw [hdigits]; simpa using hparse, rfl, ?_, ?_⟩
    · simp [Numeral.coefficient, Digits.value, CodePoint.digitValue_ofDigit]
    · simp only [Numeral.scale, List.length_nil]
      omega
  · have hdigits : plainDigits coefficient exponent
        = placePoint (Digits.ofNat coefficient)
            (exponent + (Digits.ofNat coefficient).length) := by
      rw [plainDigits, if_neg (by simpa using hzero)]
    obtain ⟨n, hparse, hnegative, hcoefficient, hscale⟩ := Numeral.parse?_placePoint negative
      (Digits.isDigit_of_mem_ofNat (n := coefficient))
      (exponent + (Digits.ofNat coefficient).length) Digits.isEnd_nil rfl
    refine ⟨n, by rw [hdigits]; simpa using hparse, hnegative, ?_, ?_⟩
    · rw [hcoefficient, Digits.value_ofNat]
      congr 2
      omega
    · rw [hscale]
      omega

/-- The plain digits of a decimal are read as its plain form. -/
theorem exists_ofNumeral?_plainForm {d : Decimal} {t : Text} (h : d.plain? = some t) :
    ∃ n, Numeral.parse? t = some n ∧ ofNumeral? n = some d.plainForm := by
  cases d with
  | finite negative coefficient exponent hrange =>
    obtain ⟨n, hparse, hnegative, hcoefficient, hscale⟩ :=
      exists_parse?_plain negative coefficient exponent
    refine ⟨n, Option.some.inj h ▸ hparse, ofNumeral?_eq_some.2 ?_⟩
    rw [hnegative, hcoefficient, hscale]
    exact ⟨hrange.plainForm, rfl⟩
  | infinite => cases h
  | nan => cases h

end Decimal

/-- The text of an integer is a word. -/
theorem Integer.isWord_text (i : Int) : (Integer.text i).IsWord := by
  rw [Integer.text_eq]
  exact (Decimal.isWord_signText _).append (Text.isWord_of_isDigit Digits.isDigit_of_mem_ofNat)

end Delimited
