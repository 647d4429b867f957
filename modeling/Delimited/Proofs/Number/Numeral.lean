import Delimited.Number.Decimal
import Delimited.Proofs.Number.Digits

/-!
# Written numerals are read back

An integer is read back from its digits. A numeral is a sign, digits with a point among them, and an
exponent; however the point is placed, with zeros in front of the digits or behind them, the numeral
has the value of the digits, shifted by powers of ten that the place of the point determines.
-/

namespace Delimited

open CodePoint (ofDigit)
open Decimal (signText placePoint)

/-! ## Signs and integers -/

/-- A digit is neither of the two signs. -/
theorem CodePoint.ne_sign_of_isDigit {c : CodePoint} (h : c.isDigit = true) :
    c ≠ .ofChar '-' ∧ c ≠ .ofChar '+' := by
  constructor <;> rintro rfl <;> cases h

/-- The signs in front of a number, and whether they make it negative. -/
inductive IsSign : Bool → Text → Prop where
  /-- No sign. -/
  | none : IsSign false []
  /-- A plus sign. -/
  | plus : IsSign false [.ofChar '+']
  /-- A minus sign. -/
  | minus : IsSign true [.ofChar '-']

/-- A minus sign is written if the number is negative. -/
theorem isSign_signText (negative : Bool) : IsSign negative (signText negative) := by
  cases negative with
  | true => exact .minus
  | false => exact .none

namespace Integer

/-- A sign is taken off a text that does not start with one. -/
theorem takeSign_append {negative : Bool} {sign : Text} (hsign : IsSign negative sign) {t : Text}
    (h : ∀ c, t.head? = some c → c ≠ .ofChar '-' ∧ c ≠ .ofChar '+') :
    takeSign (sign ++ t) = (negative, t) := by
  have hplus : CodePoint.ofChar '+' ≠ .ofChar '-' := by decide
  cases hsign with
  | plus => simp [takeSign, hplus]
  | minus => simp [takeSign]
  | none =>
    cases t with
    | nil => rfl
    | cons c t =>
      obtain ⟨hminus, hplus⟩ := h c rfl
      simp [takeSign, hminus, hplus]

/-- A sign is taken off digits. -/
theorem takeSign_digits {negative : Bool} {sign : Text} (hsign : IsSign negative sign)
    {digits : Text} (h : ∀ c ∈ digits, c.isDigit = true) :
    takeSign (sign ++ digits) = (negative, digits) :=
  takeSign_append hsign fun c hc => CodePoint.ne_sign_of_isDigit (h c (List.mem_of_mem_head? hc))

/-- A sign and digits are an integer literal. -/
theorem parse?_append {negative : Bool} {sign : Text} (hsign : IsSign negative sign)
    {digits : Text} (hne : digits ≠ []) (h : ∀ c ∈ digits, c.isDigit = true) :
    parse? (sign ++ digits) = some (negative, digits) := by
  have hall : digits.all CodePoint.isDigit = true := List.all_eq_true.2 h
  simp [parse?, takeSign_digits hsign h, hne, hall]

/-- The text of an integer is its sign and the digits of its magnitude. -/
theorem text_eq (i : Int) : text i = signText (i < 0) ++ Digits.ofNat i.natAbs := by
  unfold text signText
  split <;> simp [*]

/-- An integer is its magnitude with its sign. -/
theorem signed_natAbs (i : Int) : signed (i < 0) i.natAbs = i := by
  unfold signed
  split
  · next h =>
    have hneg : i < 0 := of_decide_eq_true h
    omega
  · next h =>
    have hpos : ¬i < 0 := fun hi => h (decide_eq_true hi)
    omega

end Integer

/-! ## The place of the point -/

/-- The written form of digits before and behind a point; without digits behind it there may be no
point. -/
inductive Numeral.IsPointed (whole : Text) : Text → Text → Prop where
  /-- There is no point. -/
  | plain : IsPointed whole [] whole
  /-- There is a point. -/
  | point (fraction : Text) : IsPointed whole fraction (whole ++ .ofChar '.' :: fraction)

/-- Digits with a point placed among them: those before it, of which there is one at least, and
those behind it have the value of the digits, but for zeros. -/
theorem Decimal.exists_isPointed_placePoint {digits : Text} (h : ∀ c ∈ digits, c.isDigit = true)
    (place : Int) :
    ∃ whole fraction, Numeral.IsPointed whole fraction (placePoint digits place) ∧ whole ≠ [] ∧
      (∀ c ∈ whole ++ fraction, c.isDigit = true) ∧
      Digits.value (whole ++ fraction) = Digits.value digits * 10 ^ (place - digits.length).toNat ∧
      (fraction.length : Int) = (digits.length - place).toNat := by
  unfold placePoint
  split
  · next hplace =>
    -- The point stands in front of all digits, perhaps with zeros between.
    have hvalue := Digits.value_replicate_append ((-place).toNat + 1) digits
    have hshift : (place - digits.length).toNat = 0 := by omega
    refine ⟨[ofDigit 0], List.replicate (-place).toNat (ofDigit 0) ++ digits, .point _, by simp,
      ?_, ?_, ?_⟩
    · exact List.forall_mem_append.2 ⟨Digits.isDigit_of_mem_zeros (k := 1),
        List.forall_mem_append.2 ⟨Digits.isDigit_of_mem_zeros, h⟩⟩
    · rw [hshift, Nat.pow_zero, Nat.mul_one, ← hvalue, List.replicate_succ]
      rfl
    · simp only [List.length_append, List.length_replicate]
      omega
  · next hplace =>
    split
    · next hle =>
      -- All digits stand before the point, and zeros behind them.
      refine ⟨_, [], .plain, fun hnil => ?_, ?_, ?_, ?_⟩
      · have := congrArg List.length hnil
        simp only [List.length_append, List.length_replicate, List.length_nil] at this
        omega
      · rw [List.append_nil]
        exact List.forall_mem_append.2 ⟨h, Digits.isDigit_of_mem_zeros⟩
      · rw [List.append_nil, Digits.value_append_replicate]
        congr 2
        omega
      · simp only [List.length_nil]
        omega
    · next hgt =>
      -- The point stands among the digits, so there are no zeros.
      have hshift : (place - digits.length).toNat = 0 := by omega
      refine ⟨digits.take place.toNat, digits.drop place.toNat, .point _, fun hnil => ?_, ?_, ?_,
        ?_⟩
      · have := congrArg List.length hnil
        simp only [List.length_take, List.length_nil] at this
        omega
      · rwa [List.take_append_drop]
      · rw [List.take_append_drop, hshift, Nat.pow_zero, Nat.mul_one]
      · simp only [List.length_drop]
        omega

namespace Numeral

/-- A sign, digits with a point among them, and what continues neither are read as the numeral of
these digits. -/
theorem parse?_pointed {negative : Bool} {sign whole fraction t tail : Text} {e : Int}
    (hsign : IsSign negative sign) (h : IsPointed whole fraction t) (hne : whole ++ fraction ≠ [])
    (hdigits : ∀ c ∈ whole ++ fraction, c.isDigit = true) (htail : Digits.IsEnd tail)
    (he : parseExponent? tail = some e) :
    parse? (sign ++ (t ++ tail)) = some ⟨negative, whole, fraction, e⟩ := by
  have hwhole : ∀ c ∈ whole, c.isDigit = true := fun c hc => hdigits c (List.mem_append_left _ hc)
  have hfraction : ∀ c ∈ fraction, c.isDigit = true :=
    fun c hc => hdigits c (List.mem_append_right _ hc)
  have hpoint : CodePoint.isDigit (.ofChar '.') = false := by decide
  -- A digit or the point comes first, so the sign is taken off and nothing else.
  have hhead : ∀ c, (t ++ tail).head? = some c → c ≠ .ofChar '-' ∧ c ≠ .ofChar '+' := by
    intro c hc
    cases hw : whole with
    | nil =>
      cases h with
      | plain => exact absurd hw (by simpa using hne)
      | point =>
        rw [hw] at hc
        cases hc
        decide
    | cons a as =>
      have hca : a = c := by cases h <;> simpa [hw] using hc
      exact CodePoint.ne_sign_of_isDigit (hca ▸ hwhole a (by simp [hw]))
  have htake := Integer.takeSign_append hsign hhead
  have hnonempty : (whole.isEmpty && fraction.isEmpty) = false := by
    simpa [Bool.and_eq_false_iff] using hne
  cases h with
  | plain =>
    have hspan := Digits.span_append hwhole fun c hc => (htail c hc).1
    have hnone : takeFraction tail = (none, tail) := by
      cases tail with
      | nil => rfl
      | cons c tail => simp [takeFraction, (htail c rfl).2]
    have hwholeNe : whole ≠ [] := by simpa using hne
    simp [parse?, htake, hspan, hnone, hwholeNe, he]
  | point =>
    have hspan := Digits.span_append hwhole (t := .ofChar '.' :: (fraction ++ tail))
      (by rintro c hc; cases hc; exact hpoint)
    have hrest := Digits.span_append hfraction fun c hc => (htail c hc).1
    rw [List.append_assoc, List.cons_append] at htake ⊢
    simp [parse?, htake, hspan, takeFraction, hrest, hnonempty, he]

/-- A sign and digits with a point placed among them are read as a numeral of the digits' value. -/
theorem parse?_placePoint (negative : Bool) {digits tail : Text} {e : Int}
    (h : ∀ c ∈ digits, c.isDigit = true) (place : Int) (htail : Digits.IsEnd tail)
    (he : parseExponent? tail = some e) :
    ∃ n, parse? (signText negative ++ (placePoint digits place ++ tail)) = some n ∧
      n.negative = negative ∧
      n.coefficient = Digits.value digits * 10 ^ (place - digits.length).toNat ∧
      n.scale = e - (digits.length - place).toNat := by
  obtain ⟨whole, fraction, hpointed, hne, hdigits, hvalue, hlength⟩ :=
    Decimal.exists_isPointed_placePoint h place
  have hne : whole ++ fraction ≠ [] := List.append_ne_nil_of_left_ne_nil hne fraction
  exact ⟨_, parse?_pointed (isSign_signText negative) hpointed hne hdigits htail he, rfl, hvalue,
    by rw [← hlength]; rfl⟩

/-- The letter `e`, a sign and digits are an exponent. -/
theorem parseExponent?_digits {c : CodePoint} (hc : c = .ofChar 'e' ∨ c = .ofChar 'E') (e : Int)
    {digits : Text} (hne : digits ≠ []) (h : ∀ c ∈ digits, c.isDigit = true)
    (hvalue : Digits.value digits = e.natAbs) :
    parseExponent? (c :: (if e < 0 then .ofChar '-' else .ofChar '+') :: digits) = some e := by
  have hall : digits.all CodePoint.isDigit = true := List.all_eq_true.2 h
  have hsigned := Integer.signed_natAbs e
  rw [parseExponent?, if_pos (by simpa using hc)]
  split
  · next hneg => simpa [Integer.parse?, Integer.takeSign, hne, hall, hvalue, hneg] using hsigned
  · next hneg =>
    have hsign : CodePoint.ofChar '+' ≠ .ofChar '-' := by decide
    simpa [Integer.parse?, Integer.takeSign, hsign, hne, hall, hvalue, hneg] using hsigned

end Numeral

end Delimited
