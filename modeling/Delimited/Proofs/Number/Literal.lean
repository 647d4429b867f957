import Mathlib.Algebra.Field.Rat
import Mathlib.Tactic.FieldSimp
import Mathlib.Tactic.Ring
import Delimited.Proofs.Number.Decimal

/-!
# Number literals and what they write

The literals of integers and of numerals as texts: a sign, digits with a point among them, an
exponent. `Integer.parse?_eq_some` and `Numeral.parse?_eq_some` say that these texts are read, as
what they are made of, and no others.

A numeral writes a rational number: its digits before the point, those behind it as a fraction, and
the power of ten of its exponent. The decimal of its digits is that number, `toRat?_ofNumeral`, and
a decimal and its plain form are the same number, `toRat?_plainForm`.
-/

namespace Delimited

/-! ## Integers -/

namespace Integer

/-- The literals of integers: a sign and one or more digits. -/
inductive IsLiteral (negative : Bool) (digits : Text) : Text → Prop where
  /-- The sign stands first. -/
  | mk {sign : Text} (hsign : IsSign negative sign) (hne : digits ≠ [])
    (hdigits : ∀ c ∈ digits, c.isDigit = true) : IsLiteral negative digits (sign ++ digits)

/-- A text is the sign that is taken off it and the rest. -/
theorem exists_isSign_of_takeSign {t rest : Text} {negative : Bool}
    (h : takeSign t = (negative, rest)) : ∃ sign, IsSign negative sign ∧ t = sign ++ rest := by
  unfold takeSign at h
  split at h
  · cases h
    exact ⟨[], .none, rfl⟩
  · split at h
    · next hc =>
      cases h
      exact ⟨[.ofChar '-'], .minus, by rw [hc]; rfl⟩
    · split at h
      · next hc =>
        cases h
        exact ⟨[.ofChar '+'], .plus, by rw [hc]; rfl⟩
      · cases h
        exact ⟨[], .none, rfl⟩

/-- Integer literals are read, and nothing else. -/
theorem parse?_eq_some {t : Text} {negative : Bool} {digits : Text} :
    parse? t = some (negative, digits) ↔ IsLiteral negative digits t := by
  constructor
  · intro h
    rcases htake : takeSign t with ⟨negative', rest⟩
    obtain ⟨sign, hsign, rfl⟩ := exists_isSign_of_takeSign htake
    rw [parse?, htake] at h
    obtain ⟨hdigits, h⟩ := Option.ite_none_right_eq_some.1 h
    obtain ⟨rfl, rfl⟩ := Prod.mk.inj (Option.some.inj h)
    rw [Bool.and_eq_true, Bool.not_eq_true', List.isEmpty_eq_false_iff, List.all_eq_true]
      at hdigits
    exact .mk hsign hdigits.1 hdigits.2
  · rintro ⟨hsign, hne, hdigits⟩
    exact parse?_append hsign hne hdigits

end Integer

/-! ## Numerals -/

namespace Numeral

/-- The written exponents: nothing, or the letter `e` and an integer. -/
inductive IsExponent : Int → Text → Prop where
  /-- There is no exponent. -/
  | none : IsExponent 0 []
  /-- The letter stands first, in either case. -/
  | letter {c : CodePoint} (hc : c = .ofChar 'e' ∨ c = .ofChar 'E') {negative : Bool}
    {digits t : Text} (h : Integer.IsLiteral negative digits t) :
    IsExponent (Integer.signed negative (Digits.value digits)) (c :: t)

/-- The literals of a numeral: a sign, digits with a point among them or behind them, and an
exponent. A digit stands before the point or behind it. -/
inductive IsLiteral (n : Numeral) : Text → Prop where
  /-- The three parts, one after the other. -/
  | mk {sign pointed exponent : Text} (hsign : IsSign n.negative sign)
    (hpointed : IsPointed n.whole n.fraction pointed) (hne : n.whole ++ n.fraction ≠ [])
    (hdigits : ∀ c ∈ n.whole ++ n.fraction, c.isDigit = true)
    (hexponent : IsExponent n.exponent exponent) : IsLiteral n (sign ++ (pointed ++ exponent))

/-- Written exponents are read, and nothing else. -/
theorem parseExponent?_eq_some {t : Text} {e : Int} :
    parseExponent? t = some e ↔ IsExponent e t := by
  constructor
  · intro h
    unfold parseExponent? at h
    split at h
    · cases h
      exact .none
    · obtain ⟨hc, h⟩ := Option.ite_none_right_eq_some.1 h
      obtain ⟨⟨negative, digits⟩, hinteger, rfl⟩ := Option.map_eq_some_iff.1 h
      exact .letter (by simpa using hc) (Integer.parse?_eq_some.1 hinteger)
  · rintro (_ | ⟨hc, h⟩)
    · rfl
    · rw [parseExponent?, if_pos (by simpa using hc), Integer.parse?_eq_some.2 h]
      rfl

/-- Neither a digit nor a point starts an exponent. -/
theorem IsExponent.isEnd {e : Int} {t : Text} (h : IsExponent e t) : Digits.IsEnd t := by
  rcases h with _ | ⟨rfl | rfl, -⟩
  · exact Digits.isEnd_nil
  · exact Digits.isEnd_cons (by decide) _
  · exact Digits.isEnd_cons (by decide) _

/-- Behind digits there is a point with the digits that are taken behind it, or no point. -/
theorem exists_isPointed_of_takeFraction (whole : Text) {t rest : Text} {fraction : Option Text}
    (h : takeFraction t = (fraction, rest)) :
    ∃ pointed, IsPointed whole (fraction.getD []) pointed ∧ whole ++ t = pointed ++ rest ∧
      ∀ c ∈ fraction.getD [], c.isDigit = true := by
  unfold takeFraction at h
  split at h
  · cases h
    exact ⟨whole, .plain, rfl, List.forall_mem_nil _⟩
  · split at h
    · next hc =>
      cases h
      refine ⟨_, .point _, ?_, fun c hc => List.mem_takeWhile_imp hc⟩
      rw [hc, List.append_assoc, List.cons_append]
      exact congrArg (whole ++ _ :: ·) List.takeWhile_append_dropWhile.symm
    · cases h
      exact ⟨whole, .plain, rfl, List.forall_mem_nil _⟩

/-- The literals of a numeral are read as the numeral, and nothing else is. -/
theorem parse?_eq_some {t : Text} {n : Numeral} : parse? t = some n ↔ n.IsLiteral t := by
  constructor
  · intro h
    rcases htake : Integer.takeSign t with ⟨negative, unsigned⟩
    rcases hfraction : takeFraction (Digits.span unsigned).2 with ⟨fraction, rest⟩
    -- The text is put together again from what was taken off it.
    obtain ⟨sign, hsign, rfl⟩ := Integer.exists_isSign_of_takeSign htake
    obtain ⟨pointed, hpointed, happend, hdigits⟩ :=
      exists_isPointed_of_takeFraction (Digits.span unsigned).1 hfraction
    have hwhole : ∀ c ∈ (Digits.span unsigned).1, c.isDigit = true := fun c hc =>
      List.mem_takeWhile_imp hc
    have hunsigned : (Digits.span unsigned).1 ++ (Digits.span unsigned).2 = unsigned :=
      List.takeWhile_append_dropWhile
    simp only [parse?, htake, hfraction] at h
    obtain ⟨hne, h⟩ := Option.ite_none_left_eq_some.1 h
    obtain ⟨e, he, rfl⟩ := Option.map_eq_some_iff.1 h
    have hne : (Digits.span unsigned).1 ++ fraction.getD [] ≠ [] := by simpa using hne
    have hliteral : IsLiteral ⟨negative, (Digits.span unsigned).1, fraction.getD [], e⟩
        (sign ++ (pointed ++ rest)) :=
      .mk hsign hpointed hne (List.forall_mem_append.2 ⟨hwhole, hdigits⟩)
        (parseExponent?_eq_some.1 he)
    rwa [← happend, hunsigned] at hliteral
  · rintro ⟨hsign, hpointed, hne, hdigits, hexponent⟩
    exact parse?_pointed hsign hpointed hne hdigits hexponent.isEnd
      (parseExponent?_eq_some.2 hexponent)

end Numeral

/-! ## The numbers that are written -/

/-- The factor of a sign. -/
def signFactor (negative : Bool) : ℚ := if negative then -1 else 1

/-- The factor of a sign times a magnitude is the signed number. -/
theorem cast_signed (negative : Bool) (magnitude : Nat) :
    (Integer.signed negative magnitude : ℚ) = signFactor negative * magnitude := by
  cases negative with
  | true => simp [Integer.signed, signFactor]
  | false => simp [Integer.signed, signFactor]

/-- The number that a numeral writes. The digits behind the point are a fraction of one. -/
def Numeral.toRat (n : Numeral) : ℚ :=
  signFactor n.negative *
    (Digits.value n.whole + Digits.value n.fraction / 10 ^ n.fraction.length) * 10 ^ n.exponent

namespace Decimal

/-- The number that a decimal is; infinities and NaNs are none. -/
def toRat? : Decimal → Option ℚ
  | finite negative coefficient exponent _ =>
    some (signFactor negative * coefficient * 10 ^ exponent)
  | infinite _ | nan .. => none

/-- The decimal of a numeral's digits is the number that the numeral writes. -/
theorem toRat?_ofNumeral (n : Numeral) (h : InRange n.coefficient n.scale) :
    toRat? (finite n.negative n.coefficient n.scale h) = some n.toRat := by
  have hten : (10 : ℚ) ≠ 0 := by norm_num
  rw [toRat?, Numeral.toRat, Numeral.coefficient, Numeral.scale, Digits.value_append,
    zpow_sub₀ hten, zpow_natCast]
  push_cast
  field_simp

/-- A decimal and its plain form are the same number. -/
theorem toRat?_plainForm (d : Decimal) : d.plainForm.toRat? = d.toRat? := by
  cases d with
  | infinite => rfl
  | nan => rfl
  | finite negative coefficient exponent =>
    have hten : (10 : ℚ) ≠ 0 := by norm_num
    have hexponent : (exponent.toNat : Int) + min exponent 0 = exponent := by omega
    -- The zeros in the coefficient are the positive part of the exponent.
    have hpower : (10 : ℚ) ^ exponent = 10 ^ exponent.toNat * 10 ^ min exponent 0 := by
      rw [← zpow_natCast, ← zpow_add₀ hten, hexponent]
    rw [plainForm, toRat?, toRat?, hpower]
    push_cast
    ring_nf

/-- The decimal of an integer is the integer. -/
theorem toRat?_of_ofInt? {i : Int} {d : Decimal} (h : ofInt? i = some d) :
    d.toRat? = some (i : ℚ) := by
  obtain ⟨hrange, rfl⟩ := eq_of_ofInt? h
  rw [toRat?, zpow_zero, mul_one, ← cast_signed, Integer.signed_natAbs]

end Decimal

end Delimited
