import Delimited.Proofs.Leaf.Canonical
import Delimited.Proofs.Leaf.Domain

/-!
# Dates and times without an offset

The types of dates, of times of day and of both together read the texts of their pattern whose
numbers are a date and a time of day. A fraction of a second is cut to microseconds: nothing of that
is lost when the time is written, so that all values are read back but for the fraction of a time
that is written to the second. `read_write_civil` puts these together.
-/

namespace Delimited

open Pattern (IsDate IsClock IsDateTime IsLocalTime)

/-- A time of day without a fraction of the second has none to lose. -/
theorem TimeOfDay.toSecond_eq_self {x : TimeOfDay} (h : x.microsecond = 0) : x.toSecond = x := by
  obtain ⟨hour, minute, second, microsecond, _, _, _, _⟩ := x
  cases h
  rfl

namespace LeafType

/-- Is the type one of dates or times without an offset? -/
def IsCivil (type : LeafType) : Prop :=
  type.isDate ∨ (type = time ∨ type = localTime) ∨ (type = timestamp ∨ type = localDateTime)

/-- The dates and times without an offset of each type. -/
inductive HasCivil : LeafType → Value → Prop where
  /-- A date. -/
  | date {type : LeafType} (htype : type.isDate) (d : Date) : HasCivil type (.date d)
  /-- A time of day. -/
  | time {type : LeafType} (htype : type = time ∨ type = localTime) (x : TimeOfDay) :
    HasCivil type (.time x none)
  /-- A date and time. -/
  | dateTime {type : LeafType} (htype : type = timestamp ∨ type = localDateTime) (x : DateTime) :
    HasCivil type (.dateTime x none)

/-- What is kept of a date or time when it is written: a type of times to the second drops the
fraction. -/
def kept : LeafType → Value → Value
  | time, .time x none => .time x.toSecond none
  | _, v => v

/-- The texts of each type, with the date and time of their numbers. -/
inductive CivilText : LeafType → Text → Value → Prop where
  /-- A date. -/
  | date {type : LeafType} (htype : type.isDate) {t : Text} {d : Date}
    (ht : IsDate d.year d.month d.day t) : CivilText type t (.date d)
  /-- A time of day to the second. -/
  | time {t : Text} {x : TimeOfDay} (ht : IsClock x.hour x.minute x.second t)
    (hmicrosecond : x.microsecond = 0) : CivilText time t (.time x none)
  /-- A time of day with or without seconds and fraction, which is cut to microseconds. -/
  | localTime {t : Text} {x : TimeOfDay} {nano : Nat}
    (ht : IsLocalTime ⟨x.hour, x.minute, x.second, nano⟩ t)
    (hmicrosecond : x.microsecond = nano / 1000) : CivilText localTime t (.time x none)
  /-- A date and time with or without a fraction, which is cut to microseconds. -/
  | dateTime {type : LeafType} (htype : type = timestamp ∨ type = localDateTime) {t : Text}
    {x : DateTime} {nano : Nat}
    (ht : IsDateTime ⟨x.date.year, x.date.month, x.date.day⟩
      ⟨x.time.hour, x.time.minute, x.time.second, nano⟩ t)
    (hmicrosecond : x.time.microsecond = nano / 1000) : CivilText type t (.dateTime x none)

/-! ## Reading -/

variable {t : Text}

/-- Numbers with less than a second of nanoseconds are a time of day if they are those of the time,
the nanoseconds cut to microseconds. -/
theorem toTimeOfDay_eq_ok {f : Pattern.TimeFields} {x : TimeOfDay} (hnano : f.nano < 10 ^ 9) :
    f.toTimeOfDay = .ok x ↔
      x.hour = f.hour ∧ x.minute = f.minute ∧ x.second = f.second ∧
        x.microsecond = f.nano / 1000 :=
  TimeOfDay.of_eq_ok_iff (by omega)

/-- The texts of dates are read. -/
theorem readDate_eq_ok {d : Date} : readDate t = .ok d ↔ IsDate d.year d.month d.day t := by
  simp only [readDate, Except.bind_eq_ok, expectForm_eq_ok, Pattern.whole?_date?,
    Except.mapError_eq_ok, Pattern.DateFields.toDate, Date.of_eq_ok_iff]
  constructor
  · rintro ⟨f, ht, hyear, hmonth, hday⟩
    rwa [hyear, hmonth, hday]
  · exact fun ht => ⟨⟨d.year, d.month, d.day⟩, ht, rfl, rfl, rfl⟩

/-- The texts of times to the second are read. -/
theorem readTime_eq_ok {x : TimeOfDay} :
    readTime t = .ok x ↔ IsClock x.hour x.minute x.second t ∧ x.microsecond = 0 := by
  simp only [readTime, Except.bind_eq_ok, expectForm_eq_ok, Pattern.whole?_clock?,
    Except.mapError_eq_ok]
  constructor
  · rintro ⟨f, ⟨hnano, ht⟩, hx⟩
    obtain ⟨hhour, hminute, hsecond, hmicrosecond⟩ :=
      (toTimeOfDay_eq_ok (by rw [hnano]; decide)).1 hx
    rw [hhour, hminute, hsecond, hmicrosecond, hnano]
    exact ⟨ht, rfl⟩
  · rintro ⟨ht, hmicrosecond⟩
    exact ⟨⟨x.hour, x.minute, x.second, 0⟩, ⟨rfl, ht⟩, (toTimeOfDay_eq_ok
      (Nat.pow_pos (by decide))).2 ⟨rfl, rfl, rfl, hmicrosecond.trans (Nat.zero_div _).symm⟩⟩

/-- The texts of times with or without seconds and fraction are read. -/
theorem readLocalTime_eq_ok {x : TimeOfDay} :
    readLocalTime t = .ok x ↔ ∃ nano, IsLocalTime ⟨x.hour, x.minute, x.second, nano⟩ t ∧
      x.microsecond = nano / 1000 := by
  simp only [readLocalTime, Except.bind_eq_ok, expectForm_eq_ok, Pattern.whole?_localTime?,
    Except.mapError_eq_ok]
  constructor
  · rintro ⟨f, ht, hx⟩
    obtain ⟨hhour, hminute, hsecond, hmicrosecond⟩ := (toTimeOfDay_eq_ok ht.nano_lt).1 hx
    rw [hhour, hminute, hsecond]
    exact ⟨f.nano, ht, hmicrosecond⟩
  · rintro ⟨nano, ht, hmicrosecond⟩
    exact ⟨_, ht, (toTimeOfDay_eq_ok ht.nano_lt).2 ⟨rfl, rfl, rfl, hmicrosecond⟩⟩

/-- The texts of dates and times are read. -/
theorem readDateTime_eq_ok {x : DateTime} :
    readDateTime t = .ok x ↔ ∃ nano, IsDateTime ⟨x.date.year, x.date.month, x.date.day⟩
      ⟨x.time.hour, x.time.minute, x.time.second, nano⟩ t ∧ x.time.microsecond = nano / 1000 := by
  simp only [readDateTime, Except.bind_eq_ok, expectForm_eq_ok, Pattern.whole?_dateTime?,
    Except.mapError_eq_ok, Prod.exists, Pattern.dateTime, Pattern.DateFields.toDate,
    Date.of_eq_ok_iff]
  constructor
  · rintro ⟨day, f, ht, d, ⟨hyear, hmonth, hday⟩, y, hy, hx⟩
    cases hx
    obtain ⟨hhour, hminute, hsecond, hmicrosecond⟩ := (toTimeOfDay_eq_ok ht.nano_lt).1 hy
    rw [hyear, hmonth, hday, hhour, hminute, hsecond]
    exact ⟨f.nano, ht, hmicrosecond⟩
  · rintro ⟨nano, ht, hmicrosecond⟩
    exact ⟨_, _, ht, x.date, ⟨rfl, rfl, rfl⟩, x.time,
      (toTimeOfDay_eq_ok ht.nano_lt).2 ⟨rfl, rfl, rfl, hmicrosecond⟩, rfl⟩

/-- A type of dates or times reads its texts. -/
theorem IsCivil.read_eq_ok {type : LeafType} (h : type.IsCivil) {v : Value} :
    type.read t = .ok v ↔ CivilText type t v := by
  constructor
  · intro hread
    rcases h with (rfl | rfl) | (rfl | rfl) | (rfl | rfl) <;>
      obtain ⟨x, hx, rfl⟩ := Except.map_eq_ok.1 hread
    · exact .date (.inl rfl) (readDate_eq_ok.1 hx)
    · exact .date (.inr rfl) (readDate_eq_ok.1 hx)
    · obtain ⟨ht, hmicrosecond⟩ := readTime_eq_ok.1 hx
      exact .time ht hmicrosecond
    · obtain ⟨nano, ht, hmicrosecond⟩ := readLocalTime_eq_ok.1 hx
      exact .localTime ht hmicrosecond
    · obtain ⟨nano, ht, hmicrosecond⟩ := readDateTime_eq_ok.1 hx
      exact .dateTime (.inl rfl) ht hmicrosecond
    · obtain ⟨nano, ht, hmicrosecond⟩ := readDateTime_eq_ok.1 hx
      exact .dateTime (.inr rfl) ht hmicrosecond
  · intro ht
    cases ht with
    | date htype ht =>
      rcases htype with rfl | rfl <;> exact Except.map_eq_ok.2 ⟨_, readDate_eq_ok.2 ht, rfl⟩
    | time ht hmicrosecond =>
      exact Except.map_eq_ok.2 ⟨_, readTime_eq_ok.2 ⟨ht, hmicrosecond⟩, rfl⟩
    | localTime ht hmicrosecond =>
      exact Except.map_eq_ok.2 ⟨_, readLocalTime_eq_ok.2 ⟨_, ht, hmicrosecond⟩, rfl⟩
    | dateTime htype ht hmicrosecond =>
      have hread := readDateTime_eq_ok.2 ⟨_, ht, hmicrosecond⟩
      rcases htype with rfl | rfl <;> exact Except.map_eq_ok.2 ⟨_, hread, rfl⟩

/-! ## Writing -/

/-- A value without an offset is written. -/
theorem HasCivil.exists_writes {type : LeafType} {v : Value} (h : type.HasCivil v) :
    ∃ t, Writes type v t ∧ type.canonical v = type.kept v := by
  cases h with
  | date htype d => exact ⟨_, .date htype d, by rcases htype with rfl | rfl <;> rfl⟩
  | time htype x =>
    rcases htype with rfl | rfl
    · exact ⟨_, .time x none, rfl⟩
    · exact ⟨_, .localTime x none, rfl⟩
  | dateTime htype x =>
    rcases htype with rfl | rfl
    · exact ⟨_, .timestamp x, rfl⟩
    · exact ⟨_, .localDateTime x, rfl⟩

/-- The value of a text is one of the type, of which all is kept. -/
theorem CivilText.hasCivil {type : LeafType} {v : Value} (h : CivilText type t v) :
    type.HasCivil v ∧ type.kept v = v := by
  cases h with
  | date htype => exact ⟨.date htype _, by rcases htype with rfl | rfl <;> rfl⟩
  | time _ hmicrosecond =>
    exact ⟨.time (.inl rfl) _, by rw [kept, TimeOfDay.toSecond_eq_self hmicrosecond]⟩
  | localTime => exact ⟨.time (.inr rfl) _, rfl⟩
  | dateTime htype => exact ⟨.dateTime htype _, by rcases htype with rfl | rfl <;> rfl⟩

/-- A value without an offset is written, and what is kept of it is read back. -/
theorem HasCivil.exists_write_read {type : LeafType} {v : Value} (h : type.HasCivil v) :
    ∃ t, type.write v = .ok t ∧ type.read t = .ok (type.kept v) := by
  obtain ⟨t, hwrites, hkept⟩ := h.exists_writes
  exact ⟨t, write_of_writes hwrites, hkept ▸ read_of_writes hwrites⟩

/-! ## Both -/

/-- Dates and times without an offset are written and read back, but for the fraction of a time that
is written to the second. A text is read if it has the pattern of its type and its numbers are those
of a date and a time of day: the nanoseconds of a fraction, of one to nine digits, are cut to
microseconds. What is read is written again, for a text that is read alike. -/
theorem read_write_civil :
    (∀ type v, HasCivil type v → ∃ t, type.write v = .ok t ∧ type.read t = .ok (type.kept v)) ∧
    ∀ type : LeafType, type.IsCivil → ∀ t v,
      (type.read t = .ok v ↔ CivilText type t v) ∧
      (type.read t = .ok v → ∃ t', type.write v = .ok t' ∧ type.read t' = .ok v) := by
  refine ⟨fun type v h => h.exists_write_read, fun type htype t v => ⟨htype.read_eq_ok, ?_⟩⟩
  intro hread
  obtain ⟨hvalue, hkept⟩ := (htype.read_eq_ok.1 hread).hasCivil
  obtain ⟨t', hwrite, hread'⟩ := hvalue.exists_write_read
  exact ⟨t', hwrite, hkept ▸ hread'⟩

/-- A time in the last second of a year. -/
def yearEnd : DateTime where
  date := ⟨1999, 12, 31, by decide, by decide, by decide⟩
  time := ⟨23, 59, 59, 123456, by decide, by decide, by decide, by decide⟩

/-- What is less than a microsecond is cut off when a timestamp is read, and the fraction when a
time is written to the second. -/
theorem read_write_civil_yearEnd :
    (read timestamp "1999-12-31T23:59:59.1234567" = .ok (.dateTime yearEnd none) ∧
      CivilText timestamp "1999-12-31T23:59:59.1234567" (.dateTime yearEnd none) ∧
        ∃ t, write timestamp (.dateTime yearEnd none) = .ok t ∧
          read timestamp t = .ok (.dateTime yearEnd none)) ∧
      ∃ t, write time (.time yearEnd.time none) = .ok t ∧
        read time t = .ok (.time yearEnd.time.toSecond none) := by
  have hread : read timestamp "1999-12-31T23:59:59.1234567" = .ok (.dateTime yearEnd none) := by
    cbv
  obtain ⟨htext, hagain⟩ := read_write_civil.2 timestamp (by simp [IsCivil])
    "1999-12-31T23:59:59.1234567" (.dateTime yearEnd none)
  exact ⟨⟨hread, htext.1 hread, hagain hread⟩,
    read_write_civil.1 time (.time yearEnd.time none) (.time (.inl rfl) yearEnd.time)⟩

end LeafType

end Delimited
