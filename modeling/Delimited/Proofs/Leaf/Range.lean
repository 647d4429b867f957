import Delimited.Proofs.Calendar.DayNumber
import Delimited.Proofs.Leaf.Written

/-!
# Leaves out of range

A leaf type refuses what it does not take. Some values of the right kind it does not refuse, and
they have no text all the same: integers too large for a floating-point column, and instants outside
of the years that have dates. `Exceeds` lists them, and `write_eq_overflow_iff` says that the list
is complete.
-/

namespace Delimited

namespace LeafType

/-- A value of a kind that the type takes, out of the range of what its text is made from. -/
inductive Exceeds : LeafType → Value → Prop where
  /-- An integer that is not rounded to a finite number. -/
  | floatOfInt {type : LeafType} (htype : type.isFloat) {i : Int}
    (h : Binary64.overflowBound ≤ i.natAbs) : Exceeds type (.int i)
  /-- An instant in no year that has dates. -/
  | instant {i : Instant} (h : i.IsBeyondYears) : Exceeds instant (.instant i)
  /-- A date and time that the offset takes out of these years. -/
  | instantOfDateTime {t : DateTime} {offset : ZoneOffset}
    (h : (Instant.ofDateTime t offset).IsBeyondYears) : Exceeds instant (.dateTime t (some offset))

/-- A value of another kind is refused. -/
theorem refused_of_wrongKind {wanted : String} {v : Value} {e : WriteError}
    (h : wrongKind (α := Text) wanted v = .error e) : ∃ r, e = .refused r := by
  cases h
  exact ⟨_, rfl⟩

/-- An integer of too many digits is refused. -/
theorem refused_of_writeInt {i : Int} {e : WriteError} (h : writeInt i = .error e) :
    ∃ r, e = .refused r := by
  obtain ⟨excess, -, rfl⟩ := Except.mapError_eq_error.1 h
  exact ⟨_, rfl⟩

/-- An integer type of bounded size refuses what it does not write. -/
theorem refused_of_writeIn {range : IntRange} {v : Value} {e : WriteError}
    (h : write.writeIn range v = .error e) : ∃ r, e = .refused r := by
  cases v with
  | int i =>
    rcases Except.bind_eq_error.1 h with h | ⟨shown, -, h⟩
    · exact refused_of_writeInt h
    · split at h
      · cases h
      · cases h
        exact ⟨_, rfl⟩
  | _ => exact refused_of_wrongKind h

/-- A type of dates and times without an offset refuses what it does not write. -/
theorem refused_of_writeNaive {zeroFraction : Text} {v : Value} {e : WriteError}
    (h : write.writeNaive zeroFraction v = .error e) : ∃ r, e = .refused r := by
  cases v with
  | dateTime t offset =>
    cases offset with
    | none => cases h
    | some offset =>
      cases h
      exact ⟨_, rfl⟩
  | _ => exact refused_of_wrongKind h

/-- An integer is not written as a floating-point number if its magnitude reaches the bound. -/
theorem writeFloatOfInt_eq_error {i : Int} {e : WriteError} :
    writeFloatOfInt i = .error e ↔ Binary64.overflowBound ≤ i.natAbs ∧ e = .overflow := by
  rw [← Binary64.ofInt?_eq_none_iff, writeFloatOfInt]
  cases Binary64.ofInt? i <;> simp [eq_comm]

/-- An instant is not written in the years that have no dates. -/
theorem writeInstant_eq_error {i : Instant} {e : WriteError} :
    writeInstant i = .error e ↔ i.IsBeyondYears ∧ e = .overflow := by
  rw [← Instant.utc?_eq_none_iff, writeInstant]
  cases i.utc? <;> simp [eq_comm]

/-- A decimal that is not written is refused. -/
theorem refused_of_writeDecimal {d : Decimal} {e : WriteError} (h : writeDecimal d = .error e) :
    ∃ r, e = .refused r := by
  unfold writeDecimal at h
  split at h
  · cases h
  · cases h
    exact ⟨_, rfl⟩

/-- A value that is not written is refused or out of range. -/
theorem refused_or_exceeds {type : LeafType} {v : Value} {e : WriteError}
    (h : type.write v = .error e) : (∃ r, e = .refused r) ∨ type.Exceeds v ∧ e = .overflow := by
  unfold write at h
  cases type with
  | byte | short | int | long => exact .inl (refused_of_writeIn h)
  | timestamp | localDateTime => exact .inl (refused_of_writeNaive h)
  | float | double =>
    simp only at h
    split at h
    · cases h
    · obtain ⟨hbound, rfl⟩ := writeFloatOfInt_eq_error.1 h
      exact .inr ⟨.floatOfInt (by simp [isFloat]) hbound, rfl⟩
    · exact .inl (refused_of_wrongKind h)
  | decimal =>
    simp only at h
    split at h
    · exact .inl (refused_of_writeDecimal h)
    · exact .inl (refused_of_writeInt h)
    · exact .inl (refused_of_wrongKind h)
  | bigInt =>
    simp only at h
    split at h
    · exact .inl (refused_of_writeInt h)
    · exact .inl (refused_of_wrongKind h)
  | instant =>
    simp only at h
    split at h
    · obtain ⟨hyears, rfl⟩ := writeInstant_eq_error.1 h
      exact .inr ⟨.instant hyears, rfl⟩
    · obtain ⟨hyears, rfl⟩ := writeInstant_eq_error.1 h
      exact .inr ⟨.instantOfDateTime hyears, rfl⟩
    · cases h
      exact .inl ⟨_, rfl⟩
    · exact .inl (refused_of_wrongKind h)
  | null | boolean | string | date | localDate | time | localTime =>
    simp only at h
    split at h
    · cases h
    · cases h
      exact .inl ⟨_, rfl⟩
  | byteArray =>
    simp only at h
    split at h
    · cases h
    · cases h
    · exact .inl (refused_of_wrongKind h)

/-- A value out of range is not written. -/
theorem Exceeds.write {type : LeafType} {v : Value} (h : type.Exceeds v) :
    type.write v = .error .overflow := by
  cases h with
  | floatOfInt htype h =>
    have hwrite := writeFloatOfInt_eq_error.2 ⟨h, rfl⟩
    rcases htype with rfl | rfl <;> exact hwrite
  | instant h => exact writeInstant_eq_error.2 ⟨h, rfl⟩
  | instantOfDateTime h => exact writeInstant_eq_error.2 ⟨h, rfl⟩

/-- Null is not out of range. -/
theorem Exceeds.ne_null {type : LeafType} {v : Value} (h : type.Exceeds v) : v ≠ .null := by
  rintro rfl
  cases h

/-- What is neither written nor refused is out of range. -/
theorem write_eq_overflow_iff {type : LeafType} {v : Value} :
    type.write v = .error .overflow ↔ type.Exceeds v := by
  refine ⟨fun h => ?_, Exceeds.write⟩
  rcases refused_or_exceeds h with ⟨r, hr⟩ | ⟨hexceeds, -⟩
  · cases hr
  · exact hexceeds

end LeafType

end Delimited
