import Delimited.Proofs.Leaf.Canonical
import Delimited.Proofs.Leaf.Domain

/-!
# Integers and decimals are exact

An integer type reads the integer literals of up to 4300 digits whose number is in its range, and
reads back what it writes. A decimal is written in plain digits, which keep its sign and its number
and lose no more than a positive exponent, and a decimal literal of any form is read as the number
that it writes. `read_write_number` puts these together.
-/

namespace Delimited

namespace LeafType

/-- Is the type one of integers? -/
def IsInteger (type : LeafType) : Prop :=
  type = byte ∨ type = short ∨ type = int ∨ type = long ∨ type = bigInt

/-- Is the integer in the range of the type? Types of other values have no integers. -/
def HasInt : LeafType → Int → Prop
  | byte, i => -128 ≤ i ∧ i ≤ 127
  | short, i => -32768 ≤ i ∧ i ≤ 32767
  | int, i => -2147483648 ≤ i ∧ i ≤ 2147483647
  | long, i => -9223372036854775808 ≤ i ∧ i ≤ 9223372036854775807
  | bigInt, _ => True
  | _, _ => False

variable {type : LeafType}

/-- A type of integers has bounds, or it takes integers of any size. -/
theorem IsInteger.cases (h : type.IsInteger) :
    (∃ range, type.intRange? = some range) ∨ type = bigInt := by
  rcases h with rfl | rfl | rfl | rfl | h
  · exact .inl ⟨_, rfl⟩
  · exact .inl ⟨_, rfl⟩
  · exact .inl ⟨_, rfl⟩
  · exact .inl ⟨_, rfl⟩
  · exact .inr h

/-- The range of a type of bounded size is that of its integers. -/
theorem has_iff_of_intRange? {range : IntRange} (htype : type.intRange? = some range) {i : Int} :
    range.has i = true ↔ type.HasInt i := by
  rw [IntRange.has, Bool.and_eq_true, decide_eq_true_eq, decide_eq_true_eq]
  -- The powers of two that bound the range are the numbers of the type.
  cases type <;> cases htype <;> exact Iff.rfl

/-! ## Reading -/

/-- The text is a literal of the integer, with a sign and up to 4300 digits. -/
def WritesInt (t : Text) (i : Int) : Prop :=
  ∃ negative digits, Integer.IsLiteral negative digits t ∧ digits.length ≤ 4300 ∧
    i = Integer.signed negative (Digits.value digits)

/-- The literal of an integer is read within the digit limit. -/
theorem readInt_eq_ok {form : String} {t : Text} {i : Int} :
    readInt form t = .ok i ↔ WritesInt t i := by
  have hlimit : digitLimit = 4300 := rfl
  have hvalue : ∀ negative digits, Integer.evaluate negative digits = .ok i ↔
      digits.length ≤ 4300 ∧ i = Integer.signed negative (Digits.value digits) := by
    intro negative digits
    unfold Integer.evaluate
    rw [hlimit]
    split <;> simp [*, eq_comm]
  rw [readInt, Except.bind_eq_ok]
  constructor
  · rintro ⟨⟨negative, digits⟩, hform, h⟩
    exact ⟨negative, digits, Integer.parse?_eq_some.1 (expectForm_eq_ok.1 hform),
      (hvalue negative digits).1 (Except.mapError_eq_ok.1 h)⟩
  · rintro ⟨negative, digits, hliteral, h⟩
    exact ⟨(negative, digits), expectForm_eq_ok.2 (Integer.parse?_eq_some.2 hliteral),
      Except.mapError_eq_ok.2 ((hvalue negative digits).2 h)⟩

/-- The literal of an integer is read as an integer of a range if it is in the range. -/
theorem readRanged_eq_ok {range : IntRange} {t : Text} {i : Int} :
    readRanged range t = .ok i ↔ WritesInt t i ∧ range.has i = true := by
  rw [readRanged, Except.bind_eq_ok]
  constructor
  · rintro ⟨j, hj, h⟩
    split at h
    · next hrange =>
      cases h
      exact ⟨readInt_eq_ok.1 hj, hrange⟩
    · cases h
  · rintro ⟨hliteral, hrange⟩
    exact ⟨i, readInt_eq_ok.2 hliteral, by rw [if_pos hrange]; rfl⟩

/-- A type of integers reads the literals of those in its range. -/
theorem IsInteger.read_eq_ok (h : type.IsInteger) {t : Text} {v : Value} :
    type.read t = .ok v ↔ ∃ i, WritesInt t i ∧ type.HasInt i ∧ v = .int i := by
  rcases h.cases with ⟨range, hrange⟩ | rfl
  · have hread : type.read t = (readRanged range t).map .int := by
      cases type <;> cases hrange <;> rfl
    rw [hread, Except.map_eq_ok]
    simp only [readRanged_eq_ok, has_iff_of_intRange? hrange, and_assoc, eq_comm (b := v)]
  · have hread : read bigInt t = (readInt "integer" t).map .int := rfl
    rw [hread, Except.map_eq_ok]
    simp only [readInt_eq_ok, HasInt, true_and, eq_comm (b := v)]

/-- A decimal literal is read as the decimal of its digits, if that is in range. -/
theorem readDecimal_eq_ok {t : Text} {d : Decimal} :
    readDecimal t = .ok d ↔ ∃ n : Numeral, n.IsLiteral t ∧
      ∃ hrange, d = .finite n.negative n.coefficient n.scale hrange := by
  rw [readDecimal, Except.bind_eq_ok]
  constructor
  · rintro ⟨n, hform, h⟩
    split at h
    · next hdecimal =>
      cases h
      exact ⟨n, Numeral.parse?_eq_some.1 (expectForm_eq_ok.1 hform),
        Decimal.ofNumeral?_eq_some.1 hdecimal⟩
    · cases h
  · rintro ⟨n, hliteral, hdecimal⟩
    refine ⟨n, expectForm_eq_ok.2 (Numeral.parse?_eq_some.2 hliteral), ?_⟩
    rw [Decimal.ofNumeral?_eq_some.2 hdecimal]
    rfl

/-! ## Writing -/

/-- A type of integers writes those in its range within the digit limit. -/
theorem IsInteger.write_eq_ok (h : type.IsInteger) {i : Int} {t : Text} :
    type.write (.int i) = .ok t ↔
      type.HasInt i ∧ Digits.count i.natAbs ≤ 4300 ∧ Integer.text i = t := by
  rcases h.cases with ⟨range, hrange⟩ | rfl
  · have hwrite : type.write (.int i) = write.writeIn range (.int i) := by
      cases type <;> cases hrange <;> rfl
    rw [hwrite, writeIn_eq_ok, ← has_iff_of_intRange? hrange]
    constructor
    · rintro ⟨_, ⟨⟩, h⟩
      exact h
    · exact fun h => ⟨i, rfl, h⟩
  · have hwrite : write bigInt (.int i) = writeInt i := rfl
    rw [hwrite, writeInt_eq_ok, HasInt, true_and]
    rfl

/-- A type of integers writes an integer for the literal that it reads it from again. -/
theorem IsInteger.read_of_write (h : type.IsInteger) {i : Int} {t : Text}
    (hwrite : type.write (.int i) = .ok t) : type.read t = .ok (.int i) := by
  have hread := read_of_writes (writes_of_write hwrite)
  rcases h with rfl | rfl | rfl | rfl | rfl <;> exact hread

/-! ## Both -/

/-- Numbers are written and read exactly. A type of integers writes those in its range that have up
to 4300 digits and reads them back; it reads the literals of up to 4300 digits whose number is in
its range, as that number. A finite decimal is written in plain digits, which are read as a decimal
of the same sign and the same number, whose exponent is that of the decimal or zero if that is
positive. An integer in a column of decimals is read back as the
decimal that it is. A text is read as a decimal if it is the literal of a numeral within the range
of exponents, and the decimal of its digits is the number that the numeral writes. -/
theorem read_write_number :
    (∀ type : LeafType, type.IsInteger →
      (∀ i, (∃ t, type.write (.int i) = .ok t) ↔
        type.HasInt i ∧ Digits.count i.natAbs ≤ 4300) ∧
      (∀ i t, type.write (.int i) = .ok t → type.read t = .ok (.int i)) ∧
      ∀ t v, type.read t = .ok v ↔ ∃ i, WritesInt t i ∧ type.HasInt i ∧ v = .int i) ∧
    (∀ (negative : Bool) (coefficient : Nat) (exponent : Int)
      (h : Decimal.InRange coefficient exponent), ∃ t coefficient' h',
        (Decimal.finite negative coefficient exponent h).plain? = some t ∧
        write decimal (.decimal (.finite negative coefficient exponent h)) = .ok t ∧
        read decimal t = .ok (.decimal (.finite negative coefficient' (min exponent 0) h')) ∧
        (Decimal.finite negative coefficient' (min exponent 0) h').toRat? =
          (Decimal.finite negative coefficient exponent h).toRat?) ∧
    (∀ i : Int, ((∃ t, write decimal (.int i) = .ok t) ↔ Digits.count i.natAbs ≤ 4300) ∧
      ∀ t, write decimal (.int i) = .ok t → ∃ (d : Decimal) (h : Decimal.InRange i.natAbs 0),
        read decimal t = .ok (.decimal d) ∧ d = .finite (i < 0) i.natAbs 0 h ∧
          d.toRat? = some (i : ℚ)) ∧
    ∀ t v, read decimal t = .ok v ↔ ∃ (n : Numeral) (d : Decimal), n.IsLiteral t ∧
      ∃ h : Decimal.InRange n.coefficient n.scale, v = .decimal d ∧
        d = .finite n.negative n.coefficient n.scale h ∧ d.toRat? = some n.toRat := by
  refine ⟨fun type htype => ⟨fun i => ?_, fun i t => htype.read_of_write,
    fun t v => htype.read_eq_ok⟩, fun negative coefficient exponent hrange => ?_,
    fun i => ⟨?_, fun t h => ?_⟩, fun t v => ?_⟩
  · simp only [htype.write_eq_ok, exists_and_left, exists_eq', and_true]
  · have hplain : (Decimal.finite negative coefficient exponent hrange).plain? =
        some (Decimal.signText negative ++ Decimal.plainDigits coefficient exponent) := rfl
    exact ⟨_, coefficient * 10 ^ exponent.toNat, hrange.plainForm, hplain, rfl,
      congrArg (Except.map Value.decimal) (readDecimal_plain hplain),
      Decimal.toRat?_plainForm (.finite negative coefficient exponent hrange)⟩
  · have hwrite : write decimal (.int i) = writeInt i := rfl
    simp only [hwrite, writeInt_eq_ok, exists_and_left, exists_eq', and_true]
    rfl
  · obtain ⟨hcount, rfl⟩ := writeInt_eq_ok.1 h
    obtain ⟨d, hd⟩ := Decimal.exists_ofInt? hcount
    obtain ⟨hrange, heq⟩ := Decimal.eq_of_ofInt? hd
    exact ⟨d, hrange, congrArg (Except.map Value.decimal) (readDecimal_text hd), heq,
      Decimal.toRat?_of_ofInt? hd⟩
  · have hread : read decimal t = (readDecimal t).map .decimal := rfl
    rw [hread, Except.map_eq_ok]
    constructor
    · rintro ⟨d, hd, rfl⟩
      obtain ⟨n, hliteral, hrange, rfl⟩ := readDecimal_eq_ok.1 hd
      exact ⟨n, _, hliteral, hrange, rfl, rfl, Decimal.toRat?_ofNumeral n hrange⟩
    · rintro ⟨n, d, hliteral, hrange, rfl, hd, -⟩
      exact ⟨d, readDecimal_eq_ok.2 ⟨n, hliteral, hrange, hd⟩, rfl⟩

/-- The least integer of 8 bits is read back, and so are an integer in a column of decimals and a
negative zero, whose exponent is lost. -/
theorem read_write_number_negative :
    write byte (.int (-128)) = .ok "-128" ∧ read byte "-128" = .ok (.int (-128)) ∧
      write decimal (.int (-7)) = .ok "-7" ∧
        (∃ h, read decimal "-7" = .ok (.decimal (.finite true 7 0 h))) ∧
      ∃ (h : Decimal.InRange 0 3) (h' : Decimal.InRange 0 0),
        (Decimal.finite true 0 3 h).plain? = some "-0" ∧
        read decimal "-0" = .ok (.decimal (.finite true 0 0 h')) := by
  have hbyte : write byte (.int (-128)) = .ok "-128" := by
    have htext : Integer.text (-128) = "-128" := by cbv
    exact htext ▸ write_of_writes (writes_of_bounds rfl (by decide) (by decide))
  have hint : write decimal (.int (-7)) = .ok "-7" := by
    have htext : Integer.text (-7) = "-7" := by cbv
    have hcount : Digits.count 7 ≤ digitLimit :=
      Nat.le_trans (Digits.count_le (k := 1) (by decide) (by decide)) (by decide)
    exact htext ▸ write_of_writes (.decimalOfInt hcount)
  have hrange : Decimal.InRange 0 3 := by
    have hcount : Digits.count 0 = 1 := by cbv
    simp only [Decimal.InRange, Decimal.adjusted, Decimal.maxAdjusted, Decimal.minExponent, hcount]
    decide
  have hplain : (Decimal.finite true 0 3 hrange).plain? = some "-0" := rfl
  obtain ⟨d, hseven, hread, rfl, -⟩ := (read_write_number.2.2.1 (-7)).2 _ hint
  obtain ⟨t, coefficient, hrange', ht, -, hzero, hvalue⟩ :=
    read_write_number.2.1 true 0 3 hrange
  cases hplain.symm.trans ht
  -- No coefficient but zero is the same number.
  obtain rfl : coefficient = 0 := by simpa [Decimal.toRat?, signFactor] using hvalue
  exact ⟨hbyte, (read_write_number.1 byte (.inl rfl)).2.1 _ _ hbyte, hint, ⟨hseven, hread⟩, hrange,
    hrange', hplain, hzero⟩

end LeafType

end Delimited
