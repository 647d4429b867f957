import Delimited.Leaf.Write
import Delimited.Number.Arithmetic
import Delimited.Proofs.Base64
import Delimited.Proofs.Calendar.Pattern
import Delimited.Proofs.Number.Shortest

/-!
# What leaves write

`Writes` lists what each leaf type writes, one case for each kind of value that it takes, and
`write_eq_ok_iff` says that the list is complete. So a property of all written leaves is shown case
by case: here that nothing but texts writes blanks around it or a comment sign.
-/

namespace Delimited

namespace LeafType

/-- The range of an integer type of bounded size. -/
def intRange? : LeafType → Option IntRange
  | byte => some .byte
  | short => some .short
  | int => some .int
  | long => some .long
  | _ => none

/-- Is the type one of floating-point numbers? -/
def isFloat (type : LeafType) : Prop := type = float ∨ type = double

/-- Is the type one of dates? -/
def isDate (type : LeafType) : Prop := type = date ∨ type = localDate

/-- The text that a leaf type writes for a value. -/
inductive Writes : LeafType → Value → Text → Prop where
  /-- Null is written as nothing. -/
  | null : Writes null .null []
  /-- A truth value by its name. -/
  | boolean (b : Bool) : Writes boolean (.bool b) (if b then "true" else "false")
  /-- An integer in the range of its type. -/
  | ranged {type : LeafType} {range : IntRange} {i : Int} (htype : type.intRange? = some range)
    (hrange : range.has i = true) (hcount : Digits.count i.natAbs ≤ digitLimit) :
    Writes type (.int i) (Integer.text i)
  /-- An integer of any size. -/
  | bigInt {i : Int} (hcount : Digits.count i.natAbs ≤ digitLimit) :
    Writes bigInt (.int i) (Integer.text i)
  /-- A floating-point number. -/
  | float {type : LeafType} (htype : type.isFloat) (x : Binary64) :
    Writes type (.float x) (writeFloat x)
  /-- An integer as a floating-point number. -/
  | floatOfInt {type : LeafType} (htype : type.isFloat) {i : Int} {x : Binary64}
    (hx : Binary64.ofInt? i = some x) : Writes type (.int i) (writeFloat x)
  /-- A decimal number in plain digits. -/
  | decimal {d : Decimal} {t : Text} (h : d.plain? = some t) : Writes decimal (.decimal d) t
  /-- An integer as a decimal number. -/
  | decimalOfInt {i : Int} (hcount : Digits.count i.natAbs ≤ digitLimit) :
    Writes decimal (.int i) (Integer.text i)
  /-- A text as it is. -/
  | string (t : Text) : Writes string (.text t) t
  /-- A date. -/
  | date {type : LeafType} (htype : type.isDate) (d : Date) : Writes type (.date d) d.text
  /-- A time of day to the second. -/
  | time (t : TimeOfDay) (offset : Option ZoneOffset) : Writes time (.time t offset) t.text
  /-- A time of day to the microsecond. -/
  | localTime (t : TimeOfDay) (offset : Option ZoneOffset) :
    Writes localTime (.time t offset) (t.text ++ fractionText (t.microsecond * 1000))
  /-- A date and time, always with a fraction. -/
  | timestamp (t : DateTime) : Writes timestamp (.dateTime t none) (writeDateTime ".0" t)
  /-- A date and time, with a fraction where there is one. -/
  | localDateTime (t : DateTime) : Writes localDateTime (.dateTime t none) (writeDateTime [] t)
  /-- An instant. -/
  | instant {i : Instant} {t : Text} (h : writeInstant i = .ok t) : Writes instant (.instant i) t
  /-- A date and time at an offset as an instant. -/
  | instantOfDateTime {dt : DateTime} {offset : ZoneOffset} {t : Text}
    (h : writeInstant (Instant.ofDateTime dt offset) = .ok t) :
    Writes instant (.dateTime dt (some offset)) t
  /-- A byte string that is no view. -/
  | byteArray {kind : BytesKind} (hkind : kind ≠ .view) (b : List UInt8) :
    Writes byteArray (.bytes kind b) (Base64.encode b)

/-! ## The cases are complete -/

/-- An integer is written if it is within the digit limit. -/
theorem writeInt_eq_ok {i : Int} {t : Text} :
    writeInt i = .ok t ↔ Digits.count i.natAbs ≤ digitLimit ∧ Integer.text i = t := by
  rw [writeInt, Except.mapError_eq_ok, Integer.write]
  split <;> simp_all

/-- An integer of a range is written if it is in the range and within the digit limit. -/
theorem writeIn_eq_ok {range : IntRange} {v : Value} {t : Text} :
    write.writeIn range v = .ok t ↔ ∃ i, v = .int i ∧ range.has i = true ∧
      Digits.count i.natAbs ≤ digitLimit ∧ Integer.text i = t := by
  cases v with
  | int i =>
    rw [write.writeIn, writeRanged, Except.bind_eq_ok]
    constructor
    · rintro ⟨shown, hshown, h⟩
      obtain ⟨hcount, rfl⟩ := writeInt_eq_ok.1 hshown
      split at h
      · next hrange => exact ⟨i, rfl, hrange, hcount, Except.ok.inj h⟩
      · cases h
    · rintro ⟨j, hj, hrange, hcount, rfl⟩
      cases hj
      exact ⟨_, writeInt_eq_ok.2 ⟨hcount, rfl⟩, by rw [if_pos hrange]; rfl⟩
  | _ => simp [write.writeIn, wrongKind]

/-- An integer is written as a floating-point number if there is one near it. -/
theorem writeFloatOfInt_eq_ok {i : Int} {t : Text} :
    writeFloatOfInt i = .ok t ↔ ∃ x, Binary64.ofInt? i = some x ∧ writeFloat x = t := by
  unfold writeFloatOfInt
  cases Binary64.ofInt? i <;> simp

/-- A date and time is written if it has no offset. -/
theorem writeNaive_eq_ok {zeroFraction t : Text} {v : Value} :
    write.writeNaive zeroFraction v = .ok t
      ↔ ∃ dt, v = .dateTime dt none ∧ writeDateTime zeroFraction dt = t := by
  cases v with
  | dateTime dt offset => cases offset <;> simp [write.writeNaive]
  | _ => simp [write.writeNaive, wrongKind]

/-- A decimal is written in plain digits, if it has any. -/
theorem writeDecimal_eq_ok {d : Decimal} {t : Text} :
    writeDecimal d = .ok t ↔ d.plain? = some t := by
  unfold writeDecimal
  split <;> simp_all

/-- What a leaf type writes is one of the cases. -/
theorem writes_of_write {type : LeafType} {v : Value} {t : Text} (h : type.write v = .ok t) :
    Writes type v t := by
  unfold write at h
  cases type with
  | null =>
    simp only at h
    split at h
    · cases h; exact .null
    · cases h
  | boolean =>
    simp only at h
    split at h
    · cases h; exact .boolean _
    · cases h
  | byte | short | int | long =>
    obtain ⟨i, rfl, hrange, hcount, rfl⟩ := writeIn_eq_ok.1 h
    exact .ranged rfl hrange hcount
  | float | double =>
    simp only at h
    split at h
    · cases h; exact .float (by simp [isFloat]) _
    · obtain ⟨x, hx, rfl⟩ := writeFloatOfInt_eq_ok.1 h
      exact .floatOfInt (by simp [isFloat]) hx
    · cases h
  | decimal =>
    simp only at h
    split at h
    · exact .decimal (writeDecimal_eq_ok.1 h)
    · obtain ⟨hcount, rfl⟩ := writeInt_eq_ok.1 h
      exact .decimalOfInt hcount
    · cases h
  | bigInt =>
    simp only at h
    split at h
    · obtain ⟨hcount, rfl⟩ := writeInt_eq_ok.1 h
      exact .bigInt hcount
    · cases h
  | string =>
    simp only at h
    split at h
    · cases h; exact .string _
    · cases h
  | date | localDate =>
    simp only at h
    split at h
    · cases h; exact .date (by simp [isDate]) _
    · cases h
  | time =>
    simp only at h
    split at h
    · cases h; exact .time _ _
    · cases h
  | localTime =>
    simp only at h
    split at h
    · cases h; exact .localTime _ _
    · cases h
  | timestamp =>
    obtain ⟨dt, rfl, rfl⟩ := writeNaive_eq_ok.1 h
    exact .timestamp dt
  | localDateTime =>
    obtain ⟨dt, rfl, rfl⟩ := writeNaive_eq_ok.1 h
    exact .localDateTime dt
  | instant =>
    simp only at h
    split at h
    · exact .instant h
    · exact .instantOfDateTime h
    · cases h
    · cases h
  | byteArray =>
    simp only at h
    split at h
    · cases h; exact .byteArray (by decide) _
    · cases h; exact .byteArray (by decide) _
    · cases h

/-- Each case is what the leaf type writes. -/
theorem write_of_writes {type : LeafType} {v : Value} {t : Text} (h : Writes type v t) :
    type.write v = .ok t := by
  cases h with
  | null | boolean | string | time | localTime | timestamp | localDateTime => rfl
  | @ranged _ range i htype hrange hcount =>
    have hwrite := writeIn_eq_ok.2 ⟨i, rfl, hrange, hcount, rfl⟩
    cases type <;> cases htype <;> exact hwrite
  | bigInt hcount => exact writeInt_eq_ok.2 ⟨hcount, rfl⟩
  | float htype x => rcases htype with rfl | rfl <;> rfl
  | floatOfInt htype hx =>
    have hwrite := writeFloatOfInt_eq_ok.2 ⟨_, hx, rfl⟩
    rcases htype with rfl | rfl <;> exact hwrite
  | decimal h => exact writeDecimal_eq_ok.2 h
  | decimalOfInt hcount => exact writeInt_eq_ok.2 ⟨hcount, rfl⟩
  | date htype d => rcases htype with rfl | rfl <;> rfl
  | instant h => exact h
  | instantOfDateTime h => exact h
  | @byteArray kind hkind b => cases kind <;> first | rfl | exact absurd rfl hkind

/-- A leaf type writes exactly the cases. -/
theorem write_eq_ok_iff {type : LeafType} {v : Value} {t : Text} :
    type.write v = .ok t ↔ Writes type v t :=
  ⟨writes_of_write, write_of_writes⟩

/-! ## Phrases -/

/-- A written floating-point number is a word. -/
theorem isWord_writeFloat (x : Binary64) : (writeFloat x).IsWord := by
  cases x with
  | nan => decide
  | infinite negative => exact (Decimal.isWord_signText negative).append (by decide)
  | finite negative rank =>
    exact (Decimal.isWord_signText negative).append (Binary64.isWord_magnitudeText rank.isLt)

/-- A decimal in plain digits is a word. -/
theorem isWord_plain {d : Decimal} {t : Text} (h : d.plain? = some t) : t.IsWord := by
  cases d with
  | finite negative coefficient exponent =>
    cases h
    exact (Decimal.isWord_signText negative).append (Decimal.isWord_plainDigits _ _)
  | infinite => nomatch h
  | nan => nomatch h

/-- A written date and time with a word behind it is a phrase. -/
theorem isPhrase_dateTime (d : Date) (t : TimeOfDay) {rest : Text} (hrest : rest.IsWord) :
    Text.IsPhrase (d.text ++ .ofChar ' ' :: (t.text ++ rest)) := by
  refine .words d.isWord_text (t.isWord_text.append hrest) ?_ ?_
  · exact fun hnil => by simp [Date.text] at hnil
  · exact fun hnil => by simp [TimeOfDay.text] at hnil

/-- A written date and time is a phrase, however a fraction of zero is written. -/
theorem isPhrase_writeDateTime {zeroFraction : Text} (h : zeroFraction.IsWord) (t : DateTime) :
    (writeDateTime zeroFraction t).IsPhrase := by
  refine isPhrase_dateTime _ _ ?_
  split
  · exact h
  · exact isWord_fractionText _

/-- A written instant is a phrase. -/
theorem isPhrase_writeInstant {i : Instant} {t : Text} (h : writeInstant i = .ok t) :
    t.IsPhrase := by
  unfold writeInstant at h
  split at h
  · cases h
    rw [List.append_assoc]
    exact isPhrase_dateTime _ _ ((isWord_fractionText _).append (by decide))
  · cases h

/-- Every leaf but a text is written as a phrase. -/
theorem Writes.isPhrase {type : LeafType} {v : Value} {t : Text} (h : Writes type v t)
    (htype : type ≠ LeafType.string) : t.IsPhrase := by
  cases h with
  | null => exact .word Text.isWord_nil
  | boolean b => cases b <;> exact .word (by decide)
  | ranged | bigInt | decimalOfInt => exact .word (Integer.isWord_text _)
  | float | floatOfInt => exact .word (isWord_writeFloat _)
  | decimal h => exact .word (isWord_plain h)
  | string => exact absurd rfl htype
  | date => exact .word (Date.isWord_text _)
  | time => exact .word (TimeOfDay.isWord_text _)
  | localTime => exact .word ((TimeOfDay.isWord_text _).append (isWord_fractionText _))
  | timestamp t => exact isPhrase_writeDateTime (by decide) t
  | localDateTime t => exact isPhrase_writeDateTime Text.isWord_nil t
  | instant h => exact isPhrase_writeInstant h
  | instantOfDateTime h => exact isPhrase_writeInstant h
  | byteArray => exact .word (Base64.isWord_encode _)

end LeafType

end Delimited
