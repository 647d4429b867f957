import Delimited.Leaf.Read
import Delimited.Proofs.Leaf.Written

/-!
# Leaves are read back in canonical form

What a leaf writes is read back, but not always as the value that was written: an integer in a
column of fractions becomes a fraction, a positive exponent of a decimal and the fraction of a
second that a type leaves out are lost, an offset from UTC is worked into an instant, and the bytes
of a buffer become fixed. That is the value's canonical form. It is written in the same way, so it
is its own.
-/

namespace Delimited

namespace LeafType

/-- The value that is read back for a value that a leaf type writes. -/
def canonical (type : LeafType) (v : Value) : Value :=
  match type, v with
  | float, .int i | double, .int i => ((Binary64.ofInt? i).map Value.float).getD (.int i)
  | decimal, .int i => ((Decimal.ofInt? i).map Value.decimal).getD (.int i)
  | decimal, .decimal d => .decimal d.plainForm
  | time, .time t _ => .time t.toSecond none
  | localTime, .time t _ => .time t none
  | instant, .dateTime t (some offset) => .instant (Instant.ofDateTime t offset)
  | byteArray, .bytes _ b => .bytes .fixed b
  | _, v => v

/-! ## Reading what was written -/

/-- An integer is read back. -/
theorem readInt_text (form : String) {i : Int} (h : Digits.count i.natAbs ≤ digitLimit) :
    readInt form (Integer.text i) = .ok i := by
  have hparse := Integer.parse?_append (isSign_signText (i < 0)) (Digits.ofNat_ne_nil i.natAbs)
    Digits.isDigit_of_mem_ofNat
  have hlength : (Digits.ofNat i.natAbs).length ≤ digitLimit := h
  rw [readInt, Integer.text_eq, hparse]
  simp only [expectForm, bind, Except.bind, Integer.evaluate, hlength, if_true, Digits.value_ofNat,
    Integer.signed_natAbs]
  rfl

/-- A floating-point number is read back. -/
theorem readFloat_writeFloat (x : Binary64) : readFloat (writeFloat x) = .ok x := by
  have hread : Binary64.read? nanName infinityName (writeFloat x) = some x := by
    cases x with
    | nan => rfl
    | infinite negative => cases negative <;> rfl
    | finite negative rank =>
      obtain ⟨n, hparse, hnegative, hrank⟩ :=
        Binary64.exists_parse?_magnitudeText negative rank.isLt
      -- The two names are no numerals, so the text of a number is neither.
      have hname : writeFloat (.finite negative rank) ≠ Text.ofString nanName := by
        intro heq
        have hnone : Numeral.parse? (Text.ofString nanName) = none := by decide
        rw [← heq] at hnone
        cases hnone.symm.trans hparse
      have hinfinity : (Integer.takeSign (writeFloat (.finite negative rank))).2
          ≠ Text.ofString infinityName := by
        intro heq
        have hnone : Numeral.parse? (writeFloat (.finite negative rank)) = none := by
          simp only [Numeral.parse?, heq]
          rfl
        cases hnone.symm.trans hparse
      have hround : Binary64.ofNumeral n = .finite negative rank := by
        rw [Binary64.ofNumeral, hrank, hnegative, Binary64.ofRank, dif_pos rank.isLt]
      have hparse' : Numeral.parse? (writeFloat (.finite negative rank)) = some n := hparse
      rw [Binary64.read?, if_neg hname]
      simp only [hinfinity, if_false, hparse', Option.map_some, hround]
  rw [readFloat, hread]
  rfl

/-- Plain digits are read back as the plain form of their decimal. -/
theorem readDecimal_plain {d : Decimal} {t : Text} (h : d.plain? = some t) :
    readDecimal t = .ok d.plainForm := by
  obtain ⟨n, hparse, hdecimal⟩ := Decimal.exists_ofNumeral?_plainForm h
  rw [readDecimal, hparse]
  simp only [expectForm, bind, Except.bind, hdecimal]
  rfl

/-- An integer is read back as a decimal. -/
theorem readDecimal_text {i : Int} {d : Decimal} (h : Decimal.ofInt? i = some d) :
    readDecimal (Integer.text i) = .ok d := by
  rw [readDecimal_plain (Decimal.plain?_of_ofInt? h), Decimal.plainForm_of_ofInt? h]

/-- The canonical form of an integer in a column of decimals is a decimal. -/
theorem canonical_decimal_int {i : Int} {d : Decimal} (h : Decimal.ofInt? i = some d) :
    canonical decimal (.int i) = .decimal d := by
  rw [canonical, h]
  rfl

/-- A date is read back. -/
theorem readDate_text (d : Date) : readDate d.text = .ok d := by
  have hread := Pattern.date?_text d []
  rw [List.append_nil] at hread
  simp only [readDate, Pattern.whole?_eq_some.2 hread, expectForm, bind, Except.bind,
    Pattern.DateFields.toDate, d.of_eq_ok]
  rfl

/-- A time of day to the second is read back. -/
theorem readTime_text (t : TimeOfDay) : readTime t.text = .ok t.toSecond := by
  have hread := Pattern.clock?_text t []
  rw [List.append_nil] at hread
  simp only [readTime, Pattern.whole?_eq_some.2 hread, expectForm, bind, Except.bind,
    Pattern.TimeFields.toTimeOfDay, Nat.zero_div, t.of_eq_ok_toSecond]
  rfl

/-- The fraction of a time of day in nanoseconds, with nothing behind it, is read back. -/
theorem fraction?_microsecond (t : TimeOfDay) :
    Pattern.fraction? (fractionText (t.microsecond * 1000)) = some (t.microsecond * 1000, []) := by
  have hlt := t.microsecond_valid
  have hread := Pattern.fraction?_fractionText (show t.microsecond * 1000 < 1000000000 by omega)
    Digits.isEnd_nil
  rwa [List.append_nil] at hread

/-- The microseconds of a number of nanoseconds that is made of them. -/
theorem toTimeOfDay_microsecond (t : TimeOfDay) :
    Pattern.TimeFields.toTimeOfDay ⟨t.hour, t.minute, t.second, t.microsecond * 1000⟩ = .ok t := by
  rw [Pattern.TimeFields.toTimeOfDay, Nat.mul_div_cancel _ (by decide), t.of_eq_ok]

/-- A time of day to the microsecond is read back. -/
theorem readLocalTime_text (t : TimeOfDay) :
    readLocalTime (t.text ++ fractionText (t.microsecond * 1000)) = .ok t := by
  have hread := Pattern.localTime?_text t (fraction?_microsecond t)
  simp only [readLocalTime, Pattern.whole?_eq_some.2 hread, expectForm, bind, Except.bind,
    toTimeOfDay_microsecond]
  rfl

/-- A date and time is read back, however a fraction of zero is written. -/
theorem readDateTime_writeDateTime (t : DateTime) {zeroFraction : Text}
    (h : Pattern.fraction? zeroFraction = some (0, [])) :
    readDateTime (writeDateTime zeroFraction t) = .ok t := by
  have hfraction : Pattern.fraction? (if t.time.microsecond = 0 then zeroFraction
      else fractionText (t.time.microsecond * 1000)) = some (t.time.microsecond * 1000, []) := by
    split
    · next hzero => rw [h, hzero]
    · exact fraction?_microsecond t.time
  have hread := Pattern.dateTime?_text t.date t.time hfraction
  simp only [readDateTime, writeDateTime, Pattern.whole?_eq_some.2 hread, expectForm, bind,
    Except.bind, Pattern.dateTime, Pattern.DateFields.toDate, t.date.of_eq_ok,
    toTimeOfDay_microsecond]
  rfl

/-- An instant is read back. -/
theorem readInstant_writeInstant {i : Instant} {t : Text} (h : writeInstant i = .ok t) :
    readInstant t = .ok i := by
  unfold writeInstant at h
  split at h
  · next dt hutc =>
    cases h
    have hsign : CodePoint.isDigit (.ofChar 'Z') = false ∧ CodePoint.ofChar 'Z' ≠ .ofChar '.' := by
      decide
    have hfraction := Pattern.fraction?_fractionText i.nano_lt (Digits.isEnd_cons hsign [])
    have hpattern := Pattern.dateTime?_text dt.date dt.time hfraction
    have hread : Pattern.utc? Pattern.dateTime? (dt.date.text ++ .ofChar ' '
        :: (dt.time.text ++ fractionText i.nano ++ [.ofChar 'Z']))
          = some ((⟨dt.date.year, dt.date.month, dt.date.day⟩,
            ⟨dt.time.hour, dt.time.minute, dt.time.second, i.nano⟩), []) := by
      rw [List.append_assoc]
      simp [Pattern.utc?, hpattern, Pattern.sign?_cons]
    -- The time is read to the second, and the nanoseconds are added to the instant of that.
    have hinstant := Instant.later_eq_self (Instant.second_ofDateTime hutc) (Nat.zero_mul 1000)
    simp only [readInstant, Pattern.whole?_eq_some.2 hread, expectForm, bind, Except.bind,
      Pattern.instant, Pattern.dateTime, Pattern.DateFields.toDate, dt.date.of_eq_ok,
      Pattern.TimeFields.toTimeOfDay, Nat.zero_div, dt.time.of_eq_ok_toSecond]
    exact congrArg Except.ok hinstant
  · cases h

/-! ## The canonical form -/

/-- An integer in a column of fractions is the fraction near it. -/
theorem canonical_int_of_isFloat {type : LeafType} (htype : type.isFloat) {i : Int} {x : Binary64}
    (hx : Binary64.ofInt? i = some x) : type.canonical (.int i) = .float x := by
  have hvalue : ((Binary64.ofInt? i).map Value.float).getD (.int i) = .float x := by
    rw [hx, Option.map_some, Option.getD_some]
  rcases htype with rfl | rfl <;> exact hvalue

/-- A floating-point number is read back in either type. -/
theorem read_writeFloat {type : LeafType} (htype : type.isFloat) (x : Binary64) :
    type.read (writeFloat x) = .ok (.float x) := by
  rcases htype with rfl | rfl <;> exact congrArg (Except.map Value.float) (readFloat_writeFloat x)

/-- A leaf is read back in canonical form. -/
theorem read_of_writes {type : LeafType} {v : Value} {t : Text} (h : Writes type v t) :
    type.read t = .ok (type.canonical v) := by
  cases h with
  | null => rfl
  | boolean b => cases b <;> rfl
  | @ranged _ range i htype hrange hcount =>
    have hread : readRanged range (Integer.text i) = .ok i := by
      rw [readRanged, readInt_text _ hcount]
      simp only [bind, Except.bind, hrange, if_true]
      rfl
    cases type <;> cases htype <;> exact congrArg (Except.map Value.int) hread
  | bigInt hcount => exact congrArg (Except.map Value.int) (readInt_text _ hcount)
  | float htype x =>
    have hcanonical : type.canonical (.float x) = .float x := by rcases htype with rfl | rfl <;> rfl
    rw [hcanonical, read_writeFloat htype]
  | floatOfInt htype hx => rw [canonical_int_of_isFloat htype hx, read_writeFloat htype]
  | decimal h => exact congrArg (Except.map Value.decimal) (readDecimal_plain h)
  | decimalOfInt hcount =>
    obtain ⟨d, hd⟩ := Decimal.exists_ofInt? hcount
    rw [canonical_decimal_int hd]
    exact congrArg (Except.map Value.decimal) (readDecimal_text hd)
  | string => rfl
  | date htype d =>
    rcases htype with rfl | rfl <;> exact congrArg (Except.map Value.date) (readDate_text d)
  | time t => exact congrArg (Except.map (Value.time · none)) (readTime_text t)
  | localTime t => exact congrArg (Except.map (Value.time · none)) (readLocalTime_text t)
  | timestamp t =>
    exact congrArg (Except.map (Value.dateTime · none)) (readDateTime_writeDateTime t rfl)
  | localDateTime t =>
    exact congrArg (Except.map (Value.dateTime · none)) (readDateTime_writeDateTime t rfl)
  | instant h => exact congrArg (Except.map Value.instant) (readInstant_writeInstant h)
  | instantOfDateTime h => exact congrArg (Except.map Value.instant) (readInstant_writeInstant h)
  | byteArray _ b =>
    have hread : readBytes (Base64.encode b) = .ok b := by
      rw [readBytes, Base64.decode?_encode]
      rfl
    exact congrArg (Except.map (Value.bytes .fixed)) hread

/-- A value and its canonical form are written alike. -/
theorem Writes.canonical {type : LeafType} {v : Value} {t : Text} (h : Writes type v t) :
    Writes type (type.canonical v) t := by
  cases h with
  | null => exact .null
  | boolean b => exact .boolean b
  | ranged htype hrange hcount => cases type <;> cases htype <;> exact .ranged rfl hrange hcount
  | bigInt hcount => exact .bigInt hcount
  | float htype x => rcases htype with rfl | rfl <;> exact .float (by simp [isFloat]) x
  | floatOfInt htype hx =>
    rw [canonical_int_of_isFloat htype hx]
    exact .float htype _
  | decimal h => exact .decimal ((Decimal.plain?_plainForm _).trans h)
  | decimalOfInt hcount =>
    obtain ⟨d, hd⟩ := Decimal.exists_ofInt? hcount
    rw [canonical_decimal_int hd]
    exact .decimal (Decimal.plain?_of_ofInt? hd)
  | string t => exact .string t
  | date htype d => rcases htype with rfl | rfl <;> exact .date (by simp [isDate]) d
  | time t => exact .time t.toSecond none
  | localTime t => exact .localTime t none
  | timestamp t => exact .timestamp t
  | localDateTime t => exact .localDateTime t
  | instant h => exact .instant h
  | instantOfDateTime h => exact .instant h
  | byteArray _ b => exact .byteArray (by decide) b

/-- Only null is written where only null is allowed. -/
theorem eq_null_of_writes {v : Value} {t : Text} (h : Writes null v t) : v = .null := by
  have hwrite := write_of_writes h
  unfold write at hwrite
  simp only at hwrite
  split at hwrite
  · rfl
  · cases hwrite

/-- Only null has null as its canonical form. -/
theorem Writes.canonical_ne_null {type : LeafType} {v : Value} {t : Text} (h : Writes type v t)
    (hv : v ≠ .null) : type.canonical v ≠ .null := by
  intro heq
  have hwrites := h.canonical
  rw [heq] at hwrites
  cases hwrites
  exact hv (eq_null_of_writes h)

end LeafType

end Delimited
