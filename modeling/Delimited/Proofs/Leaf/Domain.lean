import Delimited.Proofs.Calendar.Grammar
import Delimited.Proofs.Leaf.Range
import Delimited.Proofs.Number.Literal

/-!
# What leaves are read as

`Domain` lists the values that each leaf type reads, with the bounds that they keep to: those of the
machine integers, the digit limit, the years that have dates. `domain_of_read` says that nothing
else is read, and `Domain.exists_writes` that all of it is written. The bounds are looked at in
different places on the two sides: a literal is refused for its length and its text for its
magnitude, and an instant is read as a date and written from a second.
-/

namespace Delimited

namespace Integer

/-- The magnitude of a signed number. -/
theorem natAbs_signed (negative : Bool) (magnitude : Nat) :
    (signed negative magnitude).natAbs = magnitude := by
  cases negative with
  | false => exact Int.natAbs_natCast magnitude
  | true => exact (Int.natAbs_neg _).trans (Int.natAbs_natCast magnitude)

/-- A number has no more digits than its literal, which is within the limit. -/
theorem count_le_of_evaluate {negative : Bool} {digits : Text} {i : Int} (hne : digits ≠ [])
    (hdigits : ∀ c ∈ digits, c.isDigit = true) (h : evaluate negative digits = .ok i) :
    Digits.count i.natAbs ≤ digitLimit := by
  unfold evaluate at h
  split at h
  · next hlength =>
    cases h
    rw [natAbs_signed]
    calc Digits.count (Digits.value digits)
        ≤ digits.length :=
          Digits.count_le (List.length_pos_iff.2 hne) (Digits.value_lt hdigits)
      _ ≤ digitLimit := hlength
  · cases h

end Integer

namespace Pattern

/-- What is read in front of the sign of UTC is read at the start. -/
theorem exists_of_utc? {α : Type} {pattern : Text → Option (α × Text)} {t rest : Text} {a : α}
    (h : utc? pattern t = some (a, rest)) : ∃ after, pattern t = some (a, after) := by
  obtain ⟨⟨b, after⟩, hpattern, h⟩ := Option.bind_eq_some_iff.1 h
  obtain ⟨_, -, h⟩ := Option.bind_eq_some_iff.1 h
  cases h
  exact ⟨after, hpattern⟩

/-- The fraction of a date and time is less than a second. -/
theorem nano_lt_of_dateTime? {t rest : Text} {day : DateFields} {clock : TimeFields}
    (h : dateTime? t = some ((day, clock), rest)) : clock.nano < 1000000000 := by
  obtain ⟨_, -, h⟩ := Option.bind_eq_some_iff.1 h
  obtain ⟨_, -, h⟩ := Option.bind_eq_some_iff.1 h
  obtain ⟨⟨_, _⟩, hclock, h⟩ := Option.bind_eq_some_iff.1 h
  cases h
  obtain ⟨_, -, hclock⟩ := Option.bind_eq_some_iff.1 hclock
  obtain ⟨⟨nano, _⟩, hfraction, hclock⟩ := Option.bind_eq_some_iff.1 hclock
  cases hclock
  obtain ⟨_, hfront, -⟩ := exists_of_fraction? hfraction
  exact hfront.lt

/-- The instant of a date and time is in one of the years that have dates. -/
theorem not_isBeyondYears_of_instant {day : DateFields} {clock : TimeFields} {i : Instant}
    (hnano : clock.nano < 1000000000) (h : instant day clock = .ok i) : ¬ i.IsBeyondYears := by
  obtain ⟨t, ht, h⟩ := Except.bind_eq_ok.1 h
  cases h
  -- The time is read to the second, and what is added to it stays within that second.
  have hzero : t.time.microsecond = 0 := by
    obtain ⟨_, -, ht⟩ := Except.bind_eq_ok.1 ht
    obtain ⟨time, htime, ht⟩ := Except.bind_eq_ok.1 ht
    cases ht
    have hmicro := TimeOfDay.microsecond_of_of_eq_ok htime
    rwa [Nat.zero_div, Nat.zero_mod] at hmicro
  have hsecond : ((Instant.ofDateTime t 0).later clock.nano).second
      = (Instant.ofDateTime t 0).second := by
    refine Instant.second_later ?_ hnano
    rw [Instant.nano_ofDateTime_utc, hzero]
  have hyears := Instant.not_isBeyondYears_ofDateTime t
  unfold Instant.IsBeyondYears at hyears ⊢
  rwa [hsecond]

end Pattern

namespace LeafType

/-- The values that a leaf type reads, null apart. -/
inductive Domain : LeafType → Value → Prop where
  /-- A truth value. -/
  | boolean (b : Bool) : Domain boolean (.bool b)
  /-- An integer of 8 bits. -/
  | byte {i : Int} (h : -128 ≤ i ∧ i ≤ 127) : Domain byte (.int i)
  /-- An integer of 16 bits. -/
  | short {i : Int} (h : -32768 ≤ i ∧ i ≤ 32767) : Domain short (.int i)
  /-- An integer of 32 bits. -/
  | int {i : Int} (h : -2147483648 ≤ i ∧ i ≤ 2147483647) : Domain int (.int i)
  /-- An integer of 64 bits. -/
  | long {i : Int} (h : -9223372036854775808 ≤ i ∧ i ≤ 9223372036854775807) : Domain long (.int i)
  /-- A floating-point number. -/
  | float {type : LeafType} (htype : type.isFloat) (x : Binary64) : Domain type (.float x)
  /-- A finite decimal. -/
  | decimal (negative : Bool) (coefficient : Nat) (exponent : Int)
    (h : Decimal.InRange coefficient exponent) :
    Domain decimal (.decimal (.finite negative coefficient exponent h))
  /-- An integer within the digit limit. -/
  | bigInt {i : Int} (h : Digits.count i.natAbs ≤ 4300) : Domain bigInt (.int i)
  /-- A text without surrogates. -/
  | string {t : Text} (h : ∀ c ∈ t, c.isSurrogate = false) : Domain string (.text t)
  /-- A date. -/
  | date {type : LeafType} (htype : type.isDate) (d : Date) : Domain type (.date d)
  /-- A time of day without an offset. -/
  | time {type : LeafType} (htype : type = time ∨ type = localTime) (t : TimeOfDay) :
    Domain type (.time t none)
  /-- A date and time without an offset. -/
  | dateTime {type : LeafType} (htype : type = timestamp ∨ type = localDateTime) (t : DateTime) :
    Domain type (.dateTime t none)
  /-- An instant in one of the years that have dates. -/
  | instant {i : Instant} (h : ¬ i.IsBeyondYears) : Domain instant (.instant i)
  /-- Fixed bytes. -/
  | byteArray (b : List UInt8) : Domain byteArray (.bytes .fixed b)

/-! ## What is read -/

/-- A form gives a result if it is read. -/
theorem expectForm_eq_ok {α : Type} {form : String} {t : Text} {read : Option α} {a : α} :
    expectForm form t read = .ok a ↔ read = some a := by
  unfold expectForm
  cases read <;> simp

/-- An integer that is read is within the digit limit. -/
theorem count_le_of_readInt {form : String} {t : Text} {i : Int} (h : readInt form t = .ok i) :
    Digits.count i.natAbs ≤ digitLimit := by
  obtain ⟨⟨negative, digits⟩, hparse, hvalue⟩ := Except.bind_eq_ok.1 h
  obtain ⟨-, hne, hdigits⟩ := Integer.parse?_eq_some.1 (expectForm_eq_ok.1 hparse)
  exact Integer.count_le_of_evaluate hne hdigits (Except.mapError_eq_ok.1 hvalue)

/-- An integer that is read in a range is in it. -/
theorem has_of_readRanged {range : IntRange} {t : Text} {i : Int}
    (h : readRanged range t = .ok i) : range.has i = true := by
  obtain ⟨j, -, h⟩ := Except.bind_eq_ok.1 h
  split at h
  · next hrange =>
    cases h
    exact hrange
  · cases h

/-- An integer in the range of its type is in the type's domain. -/
theorem domain_of_intRange? {type : LeafType} {range : IntRange}
    (htype : type.intRange? = some range) {i : Int} (h : range.has i = true) :
    Domain type (.int i) := by
  rw [IntRange.has, Bool.and_eq_true, decide_eq_true_eq, decide_eq_true_eq] at h
  -- The powers of two that bound the range are the numbers of the domain.
  cases type <;> cases htype
  · exact .byte h
  · exact .short h
  · exact .int h
  · exact .long h

/-- A decimal that is read is finite. -/
theorem domain_of_readDecimal {t : Text} {d : Decimal} (h : readDecimal t = .ok d) :
    Domain decimal (.decimal d) := by
  obtain ⟨n, -, h⟩ := Except.bind_eq_ok.1 h
  split at h
  · next hdecimal =>
    obtain ⟨hrange, rfl⟩ := Decimal.ofNumeral?_eq_some.1 hdecimal
    cases h
    exact .decimal _ _ _ hrange
  · cases h

/-- An instant that is read is in one of the years that have dates. -/
theorem not_isBeyondYears_of_readInstant {t : Text} {i : Instant} (h : readInstant t = .ok i) :
    ¬ i.IsBeyondYears := by
  obtain ⟨⟨day, clock⟩, hform, hinstant⟩ := Except.bind_eq_ok.1 h
  have hutc := Pattern.whole?_eq_some.1 (expectForm_eq_ok.1 hform)
  obtain ⟨after, hdateTime⟩ := Pattern.exists_of_utc? hutc
  exact Pattern.not_isBeyondYears_of_instant (Pattern.nano_lt_of_dateTime? hdateTime)
    (Except.mapError_eq_ok.1 hinstant)

/-- What a leaf type reads of a text without surrogates is null or in its domain. -/
theorem domain_of_read {type : LeafType} {t : Text} {v : Value}
    (ht : ∀ c ∈ t, c.isSurrogate = false) (h : type.read t = .ok v) :
    v = .null ∨ type.Domain v := by
  cases type with
  | null =>
    cases h
    exact .inl rfl
  | boolean =>
    obtain ⟨b, -, rfl⟩ := Except.map_eq_ok.1 h
    exact .inr (.boolean b)
  | byte | short | int | long =>
    obtain ⟨i, hi, rfl⟩ := Except.map_eq_ok.1 h
    exact .inr (domain_of_intRange? rfl (has_of_readRanged hi))
  | float | double =>
    obtain ⟨x, -, rfl⟩ := Except.map_eq_ok.1 h
    exact .inr (.float (by simp [isFloat]) x)
  | decimal =>
    obtain ⟨d, hd, rfl⟩ := Except.map_eq_ok.1 h
    exact .inr (domain_of_readDecimal hd)
  | bigInt =>
    obtain ⟨i, hi, rfl⟩ := Except.map_eq_ok.1 h
    exact .inr (.bigInt (count_le_of_readInt hi))
  | string =>
    cases h
    exact .inr (.string ht)
  | date | localDate =>
    obtain ⟨d, -, rfl⟩ := Except.map_eq_ok.1 h
    exact .inr (.date (by simp [isDate]) d)
  | time | localTime =>
    obtain ⟨t, -, rfl⟩ := Except.map_eq_ok.1 h
    exact .inr (.time (by simp) t)
  | timestamp | localDateTime =>
    obtain ⟨t, -, rfl⟩ := Except.map_eq_ok.1 h
    exact .inr (.dateTime (by simp) t)
  | instant =>
    obtain ⟨i, hi, rfl⟩ := Except.map_eq_ok.1 h
    exact .inr (.instant (not_isBeyondYears_of_readInstant hi))
  | byteArray =>
    obtain ⟨b, -, rfl⟩ := Except.map_eq_ok.1 h
    exact .inr (.byteArray b)

/-! ## What is written -/

/-- An integer in the range of its type is written if it has no more than 64 bits. -/
theorem writes_of_bounds {type : LeafType} {range : IntRange}
    (htype : type.intRange? = some range) {i : Int} (h : range.low ≤ i ∧ i ≤ range.high)
    (hmagnitude : i.natAbs < 10 ^ 20) : Writes type (.int i) (Integer.text i) := by
  refine .ranged htype ?_ (Nat.le_trans (Digits.count_le (by decide) hmagnitude) (by decide))
  rw [IntRange.has, Bool.and_eq_true, decide_eq_true_eq, decide_eq_true_eq]
  exact h

/-- What is in the domain of a leaf type is written. -/
theorem Domain.exists_writes {type : LeafType} {v : Value} (h : Domain type v) :
    ∃ t, Writes type v t := by
  cases h with
  | boolean b => exact ⟨_, .boolean b⟩
  | byte h => exact ⟨_, writes_of_bounds rfl h (by omega)⟩
  | short h => exact ⟨_, writes_of_bounds rfl h (by omega)⟩
  | int h => exact ⟨_, writes_of_bounds rfl h (by omega)⟩
  | long h => exact ⟨_, writes_of_bounds rfl h (by omega)⟩
  | float htype x => exact ⟨_, .float htype x⟩
  | decimal => exact ⟨_, .decimal rfl⟩
  | bigInt h => exact ⟨_, .bigInt h⟩
  | string => exact ⟨_, .string _⟩
  | date htype d => exact ⟨_, .date htype d⟩
  | time htype t =>
    rcases htype with rfl | rfl
    · exact ⟨_, .time t none⟩
    · exact ⟨_, .localTime t none⟩
  | dateTime htype t =>
    rcases htype with rfl | rfl
    · exact ⟨_, .timestamp t⟩
    · exact ⟨_, .localDateTime t⟩
  | @instant i h =>
    -- The only error of an instant is that of its year.
    cases hwrite : writeInstant i with
    | ok t => exact ⟨t, .instant hwrite⟩
    | error e => exact absurd (writeInstant_eq_error.1 hwrite).1 h
  | byteArray b => exact ⟨_, .byteArray (by decide) b⟩

/-- No surrogate is written for what is in the domain of a leaf type. -/
theorem Domain.isSurrogate_eq_false {type : LeafType} {v : Value} (h : Domain type v) {t : Text}
    (hwrites : Writes type v t) : ∀ c ∈ t, c.isSurrogate = false := by
  by_cases htype : type = LeafType.string
  · -- A text is written as it is; everything else is a phrase.
    subst htype
    cases h with
    | string h =>
      cases hwrites
      exact h
    | float htype | date htype | time htype | dateTime htype =>
      rcases htype with htype | htype <;> cases htype
  · exact (hwrites.isPhrase htype).isSurrogate_eq_false

end LeafType

end Delimited
