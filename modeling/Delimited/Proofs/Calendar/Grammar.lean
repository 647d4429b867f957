import Delimited.Proofs.Calendar.Pattern

/-!
# The texts of dates and times

The patterns as texts: numbers of two and four digits with signs between them, and a fraction of one
to nine digits behind a point. A date, an hour and minute and a clock are read at the start and
leave what follows; a fraction, which takes all digits that there are, is the end of a text. So each
pattern as a whole reads its texts and nothing else: `whole?_date?`, `whole?_clock?`,
`whole?_dateTime?` and `whole?_localTime?`.
-/

namespace Delimited

open CodePoint (ofChar)

/-- Numbers are a date if they are those of the date. -/
theorem Date.of_eq_ok_iff {year month day : Nat} {d : Date} :
    Date.of year month day = .ok d ↔ d.year = year ∧ d.month = month ∧ d.day = day := by
  constructor
  · exact eq_of_of_eq_ok
  · rintro ⟨rfl, rfl, rfl⟩
    exact d.of_eq_ok

/-- Numbers are a time of day if they are those of the time. -/
theorem TimeOfDay.of_eq_ok_iff {hour minute second microsecond : Nat} {t : TimeOfDay}
    (h : microsecond < 1000000) :
    TimeOfDay.of hour minute second microsecond = .ok t ↔
      t.hour = hour ∧ t.minute = minute ∧ t.second = second ∧ t.microsecond = microsecond := by
  constructor
  · intro hof
    have hmicrosecond := microsecond_of_of_eq_ok hof
    rw [Nat.mod_eq_of_lt h] at hmicrosecond
    unfold TimeOfDay.of at hof
    split at hof
    · split at hof
      · split at hof
        · cases hof
          exact ⟨rfl, rfl, rfl, hmicrosecond⟩
        · cases hof
      · cases hof
    · cases hof
  · rintro ⟨rfl, rfl, rfl, rfl⟩
    exact t.of_eq_ok

namespace Pattern

/-! ## The texts -/

/-- A number of so many digits. -/
inductive IsNumber (width : Nat) : Text → Nat → Prop where
  /-- The digits are all there is. -/
  | mk {digits : Text} (hlength : digits.length = width)
    (hdigits : ∀ c ∈ digits, c.isDigit = true) : IsNumber width digits (Digits.value digits)

/-- The text `YYYY-MM-DD` of these numbers. -/
inductive IsDate (year month day : Nat) : Text → Prop where
  /-- A hyphen stands before the month and before the day. -/
  | mk {y m d : Text} (hyear : IsNumber 4 y year) (hmonth : IsNumber 2 m month)
    (hday : IsNumber 2 d day) : IsDate year month day (y ++ ofChar '-' :: (m ++ ofChar '-' :: d))

/-- The text `HH:MM` of these numbers. -/
inductive IsHourMinute (hour minute : Nat) : Text → Prop where
  /-- A colon stands before the minute. -/
  | mk {h m : Text} (hhour : IsNumber 2 h hour) (hminute : IsNumber 2 m minute) :
    IsHourMinute hour minute (h ++ ofChar ':' :: m)

/-- The text `HH:MM:SS` of these numbers. -/
inductive IsClock (hour minute second : Nat) : Text → Prop where
  /-- Another colon stands before the second. -/
  | mk {t s : Text} (hhourMinute : IsHourMinute hour minute t) (hsecond : IsNumber 2 s second) :
    IsClock hour minute second (t ++ ofChar ':' :: s)

/-- A fraction of a second of that many nanoseconds. -/
inductive IsFraction (nano : Nat) : Text → Prop where
  /-- No fraction. -/
  | none (hzero : nano = 0) : IsFraction nano []
  /-- One to nine digits behind a point; the nanoseconds are as much of a second. -/
  | point {digits : Text} (hdigits : ∀ c ∈ digits, c.isDigit = true)
    (hlength : 1 ≤ digits.length ∧ digits.length ≤ 9)
    (hnano : nano * 10 ^ digits.length = Digits.value digits * 10 ^ 9) :
    IsFraction nano (ofChar '.' :: digits)

/-- The text `HH:MM:SS` of these numbers with their fraction. -/
inductive IsClockWithFraction (f : TimeFields) : Text → Prop where
  /-- The fraction follows the second. -/
  | mk {t s : Text} (hclock : IsClock f.hour f.minute f.second t)
    (hfraction : IsFraction f.nano s) : IsClockWithFraction f (t ++ s)

/-- The text of a date and a time of these numbers. -/
inductive IsDateTime (day : DateFields) (time : TimeFields) : Text → Prop where
  /-- A blank or a `T` stands between the two. -/
  | mk {d t : Text} {separator : CodePoint} (hdate : IsDate day.year day.month day.day d)
    (hseparator : separator = ofChar ' ' ∨ separator = ofChar 'T')
    (htime : IsClockWithFraction time t) : IsDateTime day time (d ++ separator :: t)

/-- The text of a time of these numbers, in which zero seconds may be left out. -/
inductive IsLocalTime (f : TimeFields) : Text → Prop where
  /-- Hour and minute. -/
  | short {t : Text} (hhourMinute : IsHourMinute f.hour f.minute t)
    (hzero : f.second = 0 ∧ f.nano = 0) : IsLocalTime f t
  /-- All of the time, perhaps with a fraction. -/
  | full {t : Text} (htime : IsClockWithFraction f t) : IsLocalTime f t

/-! ## What the patterns read -/

variable {t rest : Text}

/-- A number is read at the start. -/
theorem number?_eq_some {width n : Nat} :
    number? width t = some (n, rest) ↔ ∃ digits, IsNumber width digits n ∧ t = digits ++ rest := by
  unfold number?
  rw [Option.ite_none_right_eq_some, Bool.and_eq_true, decide_eq_true_eq, List.all_eq_true]
  constructor
  · rintro ⟨⟨hlength, hdigits⟩, h⟩
    obtain ⟨rfl, rfl⟩ := Prod.mk.inj (Option.some.inj h)
    exact ⟨t.take width, .mk hlength hdigits, (List.take_append_drop width t).symm⟩
  · rintro ⟨digits, ⟨hlength, hdigits⟩, rfl⟩
    rw [List.take_left' hlength, List.drop_left' hlength]
    exact ⟨⟨hlength, hdigits⟩, rfl⟩

/-- A sign is read at the start. -/
theorem sign?_eq_some {c : CodePoint} : sign? c t = some rest ↔ t = c :: rest := by
  cases t with
  | nil => simp [sign?]
  | cons d t => simp [sign?]

/-- A written date is read at the start. -/
theorem date?_eq_some {f : DateFields} :
    date? t = some (f, rest) ↔
      ∃ front, IsDate f.year f.month f.day front ∧ t = front ++ rest := by
  simp only [date?, Option.bind_eq_bind, Option.bind_eq_some_iff, Option.pure_def,
    Option.some.injEq, Prod.exists, Prod.mk.injEq, number?_eq_some, sign?_eq_some]
  constructor
  · rintro ⟨year, _, ⟨y, hy, rfl⟩, _, rfl, month, _, ⟨m, hm, rfl⟩, _, rfl, day, _, ⟨d, hd, rfl⟩,
      rfl, rfl⟩
    exact ⟨_, .mk hy hm hd, by simp⟩
  · rintro ⟨_, ⟨hy, hm, hd⟩, rfl⟩
    simp only [List.append_assoc, List.cons_append]
    exact ⟨_, _, ⟨_, hy, rfl⟩, _, rfl, _, _, ⟨_, hm, rfl⟩, _, rfl, _, _, ⟨_, hd, rfl⟩, rfl, rfl⟩

/-- A written hour and minute are read at the start. -/
theorem hourMinute?_eq_some {hour minute : Nat} :
    hourMinute? t = some ((hour, minute), rest) ↔
      ∃ front, IsHourMinute hour minute front ∧ t = front ++ rest := by
  simp only [hourMinute?, Option.bind_eq_bind, Option.bind_eq_some_iff, Option.pure_def,
    Option.some.injEq, Prod.exists, Prod.mk.injEq, number?_eq_some, sign?_eq_some]
  constructor
  · rintro ⟨_, _, ⟨h, hh, rfl⟩, _, rfl, _, _, ⟨m, hm, rfl⟩, ⟨rfl, rfl⟩, rfl⟩
    exact ⟨_, .mk hh hm, by simp⟩
  · rintro ⟨_, ⟨hh, hm⟩, rfl⟩
    simp only [List.append_assoc, List.cons_append]
    exact ⟨_, _, ⟨_, hh, rfl⟩, _, rfl, _, _, ⟨_, hm, rfl⟩, ⟨rfl, rfl⟩, rfl⟩

/-- A written time of day to the second is read at the start. -/
theorem clock?_eq_some {f : TimeFields} :
    clock? t = some (f, rest) ↔
      f.nano = 0 ∧ ∃ front, IsClock f.hour f.minute f.second front ∧ t = front ++ rest := by
  simp only [clock?, Option.bind_eq_bind, Option.bind_eq_some_iff, Option.pure_def,
    Option.some.injEq, Prod.exists, Prod.mk.injEq, hourMinute?_eq_some, number?_eq_some,
    sign?_eq_some]
  constructor
  · rintro ⟨_, _, _, ⟨front, hfront, rfl⟩, _, rfl, _, _, ⟨s, hs, rfl⟩, rfl, rfl⟩
    exact ⟨rfl, _, .mk hfront hs, by simp⟩
  · rintro ⟨hnano, _, ⟨hfront, hs⟩, rfl⟩
    obtain ⟨hour, minute, second, nano⟩ := f
    simp only [List.append_assoc, List.cons_append]
    exact ⟨_, _, _, ⟨_, hfront, rfl⟩, _, rfl, _, _, ⟨_, hs, rfl⟩, hnano ▸ rfl, rfl⟩

/-- Digits padded to nine places are a number if it is as much of a second. -/
theorem value_padRight_eq_iff {digits : Text} (h : digits.length ≤ 9) {nano : Nat} :
    Digits.value (Digits.padRight 9 digits) = nano ↔
      nano * 10 ^ digits.length = Digits.value digits * 10 ^ 9 := by
  have hpos : 0 < 10 ^ digits.length := Nat.pow_pos (by decide)
  have hpad : Digits.value (Digits.padRight 9 digits) * 10 ^ digits.length
      = Digits.value digits * 10 ^ 9 := by
    rw [Digits.padRight, Digits.value_append_replicate, Nat.mul_assoc, ← Nat.pow_add,
      Nat.sub_add_cancel h]
  constructor
  · rintro rfl
    exact hpad
  · intro hnano
    exact Nat.eq_of_mul_eq_mul_right hpos (hpad.trans hnano.symm)

/-- What is read at the start is a fraction. -/
theorem exists_of_fraction? {nano : Nat} (h : fraction? t = some (nano, rest)) :
    ∃ front, IsFraction nano front ∧ t = front ++ rest := by
  unfold fraction? at h
  split at h
  · cases h
    exact ⟨[], .none rfl, rfl⟩
  · next t' hsign =>
    obtain ⟨hlength, h⟩ := Option.ite_none_right_eq_some.1 h
    obtain ⟨hnano, hrest⟩ := Prod.mk.inj (Option.some.inj h)
    rw [Bool.and_eq_true, decide_eq_true_eq, decide_eq_true_eq] at hlength
    have hdigits : ∀ c ∈ t'.takeWhile CodePoint.isDigit, c.isDigit = true := fun c hc =>
      List.mem_takeWhile_imp hc
    refine ⟨_, .point hdigits hlength ((value_padRight_eq_iff hlength.2).1 hnano), ?_⟩
    rw [sign?_eq_some.1 hsign, ← hrest, List.cons_append, List.takeWhile_append_dropWhile]

/-- A fraction is read if there is nothing behind it. -/
theorem fraction?_eq_some {nano : Nat} : fraction? t = some (nano, []) ↔ IsFraction nano t := by
  constructor
  · intro h
    obtain ⟨front, hfront, rfl⟩ := exists_of_fraction? h
    rwa [List.append_nil]
  · rintro (rfl | ⟨hdigits, hlength, hnano⟩)
    · rfl
    · next digits =>
      have hspan := Digits.span_append (t := []) hdigits fun c hc => nomatch hc
      rw [List.append_nil] at hspan
      rw [fraction?, sign?_cons]
      simp only [hspan, hlength.1, hlength.2, decide_true, Bool.and_self, if_true,
        (value_padRight_eq_iff hlength.2).2 hnano]

/-- A fraction is less than a second. -/
theorem IsFraction.lt {nano : Nat} (h : IsFraction nano t) : nano < 10 ^ 9 := by
  rcases h with rfl | ⟨hdigits, -, hnano⟩
  · decide
  · next digits =>
    have hlt : nano * 10 ^ digits.length < 10 ^ 9 * 10 ^ digits.length := by
      rw [hnano, Nat.mul_comm (10 ^ 9)]
      exact Nat.mul_lt_mul_of_pos_right (Digits.value_lt hdigits) (by decide)
    exact Nat.lt_of_mul_lt_mul_right hlt

/-- The nanoseconds of a time are less than a second. -/
theorem IsClockWithFraction.nano_lt {f : TimeFields} (h : IsClockWithFraction f t) :
    f.nano < 10 ^ 9 := by
  obtain ⟨-, hfraction⟩ := h
  exact hfraction.lt

/-- The nanoseconds of a date and time are less than a second. -/
theorem IsDateTime.nano_lt {day : DateFields} {f : TimeFields} (h : IsDateTime day f t) :
    f.nano < 10 ^ 9 := by
  obtain ⟨-, -, htime⟩ := h
  exact htime.nano_lt

/-- The nanoseconds of a local time are less than a second. -/
theorem IsLocalTime.nano_lt {f : TimeFields} (h : IsLocalTime f t) : f.nano < 10 ^ 9 := by
  rcases h with ⟨-, -, hzero⟩ | htime
  · rw [hzero]
    decide
  · exact htime.nano_lt

/-- A time to the second and a fraction are read if there is nothing behind them. -/
theorem clockWithFraction?_eq_some {f : TimeFields} :
    clockWithFraction? t = some (f, []) ↔ IsClockWithFraction f t := by
  simp only [clockWithFraction?, Option.bind_eq_bind, Option.bind_eq_some_iff, Option.pure_def,
    Option.some.injEq, Prod.exists, Prod.mk.injEq, clock?_eq_some]
  constructor
  · rintro ⟨_, _, ⟨-, front, hclock, rfl⟩, nano, _, hfraction, rfl, rfl⟩
    exact .mk hclock (fraction?_eq_some.1 hfraction)
  · rintro ⟨hclock, hfraction⟩
    exact ⟨{ f with nano := 0 }, _, ⟨rfl, _, hclock, rfl⟩, f.nano, _,
      fraction?_eq_some.2 hfraction, rfl, rfl⟩

/-! ## What the patterns read as a whole -/

/-- A date is read as a whole. -/
theorem whole?_date? {f : DateFields} :
    whole? date? t = some f ↔ IsDate f.year f.month f.day t := by
  simp [whole?_eq_some, date?_eq_some]

/-- A time of day to the second is read as a whole. -/
theorem whole?_clock? {f : TimeFields} :
    whole? clock? t = some f ↔ f.nano = 0 ∧ IsClock f.hour f.minute f.second t := by
  simp [whole?_eq_some, clock?_eq_some]

/-- A blank or a `T` is read. -/
theorem separator?_eq_some :
    (sign? (ofChar ' ') t <|> sign? (ofChar 'T') t) = some rest ↔
      ∃ c, (c = ofChar ' ' ∨ c = ofChar 'T') ∧ t = c :: rest := by
  have hne : ofChar ' ' ≠ ofChar 'T' := by decide
  rw [Option.orElse_eq_some, sign?_eq_some, sign?_eq_some]
  constructor
  · rintro (h | ⟨-, h⟩)
    · exact ⟨_, .inl rfl, h⟩
    · exact ⟨_, .inr rfl, h⟩
  · rintro ⟨_, rfl | rfl, rfl⟩
    · exact .inl rfl
    · exact .inr ⟨sign?_eq_none fun x hx => Option.some.inj hx ▸ hne.symm, rfl⟩

/-- A date and time is read as a whole. -/
theorem whole?_dateTime? {day : DateFields} {time : TimeFields} :
    whole? dateTime? t = some (day, time) ↔ IsDateTime day time t := by
  simp only [whole?_eq_some, dateTime?, Option.bind_eq_bind, Option.bind_eq_some_iff,
    Option.pure_def, Option.some.injEq, Prod.exists, Prod.mk.injEq, date?_eq_some,
    separator?_eq_some]
  constructor
  · rintro ⟨_, _, ⟨front, hdate, rfl⟩, _, ⟨c, hc, rfl⟩, _, _, htime, ⟨rfl, rfl⟩, rfl⟩
    exact .mk hdate hc (clockWithFraction?_eq_some.1 htime)
  · rintro ⟨hdate, hc, htime⟩
    exact ⟨_, _, ⟨_, hdate, rfl⟩, _, ⟨_, hc, rfl⟩, _, _, clockWithFraction?_eq_some.2 htime,
      ⟨rfl, rfl⟩, rfl⟩

/-- A local time is read as a whole. -/
theorem whole?_localTime? {f : TimeFields} :
    whole? localTime? t = some f ↔ IsLocalTime f t := by
  simp only [whole?_eq_some, localTime?, Option.bind_eq_bind, Option.bind_eq_some_iff,
    Prod.exists, hourMinute?_eq_some]
  constructor
  · rintro ⟨hour, minute, rest, ⟨front, hfront, rfl⟩, h⟩
    split at h
    · obtain ⟨rfl, rfl⟩ := Prod.mk.inj (Option.some.inj h)
      rw [List.append_nil]
      exact .short hfront ⟨rfl, rfl⟩
    · exact .full (clockWithFraction?_eq_some.1 h)
  · rintro (⟨hfront, hsecond, hnano⟩ | htime)
    · obtain ⟨hour, minute, second, nano⟩ := f
      cases hsecond
      cases hnano
      exact ⟨hour, minute, [], ⟨t, hfront, (List.append_nil t).symm⟩, rfl⟩
    · -- The hour and the minute of a time with seconds have a colon behind them.
      have hread := clockWithFraction?_eq_some.2 htime
      obtain @⟨_, s, ⟨hfront, hsecond⟩, hfraction⟩ := htime
      refine ⟨f.hour, f.minute, _, ⟨_, hfront, List.append_assoc _ _ _⟩, ?_⟩
      rw [List.cons_append, sign?_cons]
      exact hread

end Pattern

end Delimited
