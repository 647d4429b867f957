import Delimited.Instant
import Delimited.Proofs.Result

/-!
# Day numbers and instants

The date of a day number has that number and is the only one with it, and the UTC date and time of
an instant are those of its second: counting years, months and days back gives the count one started
from. All days of the years 1 to 9999 have a date, so that all instants of these years have a UTC
date and time, and no others. An instant is determined by its total, the nanoseconds since the start
of 1970, to which an adjustment is added whatever its sign.
-/

namespace Delimited

namespace Calendar

/-- No more days lie in the whole years before a day than before the day. -/
theorem daysInYears_yearsBefore_le (day : Nat) : daysInYears (yearsBefore day) ≤ day := by
  unfold yearsBefore
  generalize hguess : day * 400 / 146097 = guess
  simp only
  split
  · -- The year before the guess starts early enough, whatever the leap years among the first ones.
    simp only [daysInYears]
    omega
  · split
    · omega
    · omega

/-- The day lies before the end of the year that is found. -/
theorem lt_daysInYears_yearsBefore (day : Nat) : day < daysInYears (yearsBefore day + 1) := by
  unfold yearsBefore
  generalize hguess : day * 400 / 146097 = guess
  simp only
  split
  · next hbefore =>
    have hpos : guess ≠ 0 := by
      rintro rfl
      exact absurd hbefore (Nat.not_lt_zero day)
    rwa [Nat.sub_one_add_one hpos]
  · split
    · next hwithin => exact hwithin
    · simp only [daysInYears]
      omega

/-- A year has as many days as its twelve months. -/
theorem daysInYears_succ (years : Nat) :
    daysInYears (years + 1) = daysInYears years + daysBeforeMonth (years + 1) 13 := by
  have hfebruary : daysInMonth (years + 1) 2 = if isLeap (years + 1) then 29 else 28 := rfl
  -- A quotient grows where the year is a multiple.
  have hdiv : ∀ {k : Nat}, 0 < k →
      (years + 1) / k = years / k + if (years + 1) % k = 0 then 1 else 0 := by
    intro k hk
    simp only [Nat.succ_div, Nat.dvd_iff_mod_eq_zero]
  have hle : years / 100 ≤ years := Nat.div_le_self years 100
  simp only [daysBeforeMonth, hfebruary]
  simp only [daysInMonth, daysInYears, hdiv (show 0 < 4 by decide), hdiv (show 0 < 100 by decide),
    hdiv (show 0 < 400 by decide)]
  cases hleap : isLeap (years + 1) with
  | true =>
    simp only [isLeap, Bool.and_eq_true, beq_iff_eq, Bool.or_eq_true, bne_iff_ne] at hleap
    obtain ⟨hfour, hhundred | hcentury⟩ := hleap
    · have hcentury : (years + 1) % 400 ≠ 0 := by omega
      simp only [hfour, hhundred, hcentury, if_true, if_false]
      omega
    · have hhundred : (years + 1) % 100 = 0 := by omega
      simp only [hfour, hhundred, hcentury, if_true]
      omega
  | false =>
    simp only [isLeap, Bool.and_eq_false_iff, beq_eq_false_iff_ne, Bool.or_eq_false_iff,
      bne_eq_false_iff_eq] at hleap
    rcases hleap with hfour | ⟨hhundred, hcentury⟩
    · have hhundred : (years + 1) % 100 ≠ 0 := by omega
      have hcentury : (years + 1) % 400 ≠ 0 := by omega
      simp only [hfour, hhundred, hcentury, if_false, Bool.false_eq_true]
      omega
    · have hfour : (years + 1) % 4 = 0 := by omega
      simp only [hfour, hhundred, hcentury, if_true, if_false, Bool.false_eq_true]
      omega

/-- More years have no fewer days. -/
theorem daysInYears_mono {m n : Nat} (h : m ≤ n) : daysInYears m ≤ daysInYears n := by
  induction h with
  | refl => exact Nat.le_refl _
  | step _ ih => exact Nat.le_trans ih (daysInYears_succ _ ▸ Nat.le_add_right _ _)

/-- No fewer days come before a later month. -/
theorem daysBeforeMonth_mono (year : Nat) {m n : Nat} (h : m ≤ n) :
    daysBeforeMonth year m ≤ daysBeforeMonth year n := by
  induction h with
  | refl => exact Nat.le_refl _
  | step _ ih => exact Nat.le_trans ih (Nat.le_add_right _ _)

/-- The days before a month and those of the month itself lie in the year. -/
theorem daysBeforeMonth_add_le (year : Nat) {month : Nat} (h : month ≤ 12) :
    daysBeforeMonth year month + daysInMonth year month ≤ daysBeforeMonth year 13 :=
  daysBeforeMonth_mono year (Nat.succ_le_succ h)

/-- The month that is found is among those looked at, and it has the day that is found. -/
theorem monthAndDay_valid {year count month day : Nat}
    (h : daysBeforeMonth year month + day < daysBeforeMonth year (month + count)) :
    month ≤ (monthAndDay year count month day).1 ∧
      (monthAndDay year count month day).1 < month + count ∧
      1 ≤ (monthAndDay year count month day).2 ∧
      (monthAndDay year count month day).2
        ≤ daysInMonth year (monthAndDay year count month day).1 := by
  induction count generalizing month day with
  | zero =>
    rw [Nat.add_zero] at h
    omega
  | succ count ih =>
    unfold monthAndDay
    split
    · next hday => exact ⟨Nat.le_refl _, by omega, by omega, hday⟩
    · next hday =>
      have hrest : daysBeforeMonth year (month + 1) + (day - daysInMonth year month)
          < daysBeforeMonth year (month + 1 + count) := by
        rw [daysBeforeMonth, show month + 1 + count = month + (count + 1) by omega]
        omega
      obtain ⟨hlow, hhigh, hvalid⟩ := ih hrest
      exact ⟨by omega, by omega, hvalid⟩

/-- The month and day that are found are as many days from the start of the year as were looked
for. -/
theorem daysBeforeMonth_monthAndDay (year count month day : Nat) :
    daysBeforeMonth year (monthAndDay year count month day).1 + (monthAndDay year count month day).2
      = daysBeforeMonth year month + day + 1 := by
  induction count generalizing month day with
  | zero => rfl
  | succ count ih =>
    unfold monthAndDay
    split
    · rfl
    · next h =>
      rw [ih, daysBeforeMonth]
      omega

end Calendar

namespace Date

/-- The date of three numbers has them. -/
theorem eq_of_of_eq_ok {year month day : Nat} {d : Date} (h : Date.of year month day = .ok d) :
    d.year = year ∧ d.month = month ∧ d.day = day := by
  unfold Date.of at h
  split at h
  · split at h
    · split at h
      · cases h; exact ⟨rfl, rfl, rfl⟩
      · cases h
    · cases h
  · cases h

/-- A date is the date of its numbers. -/
theorem of_eq_ok (d : Date) : Date.of d.year d.month d.day = .ok d := by
  rw [Date.of, dif_pos d.year_valid, dif_pos d.month_valid, dif_pos d.day_valid]

/-- The date of a day number has that number. -/
theorem dayNumber_of_ofDayNumber? {day : Int} {d : Date} (h : ofDayNumber? day = some d) :
    (d.dayNumber : Int) = day := by
  unfold ofDayNumber? at h
  split at h
  · cases h
  · next hneg =>
    simp only at h
    generalize hyears : Calendar.yearsBefore day.toNat = years at h
    -- The year found starts no later than the day.
    have hle := Calendar.daysInYears_yearsBefore_le day.toNat
    rw [hyears] at hle
    -- The month and the day found are the rest of the days.
    have hmonth := Calendar.daysBeforeMonth_monthAndDay (years + 1) 12 1
      (day.toNat - Calendar.daysInYears years)
    generalize Calendar.monthAndDay (years + 1) 12 1 (day.toNat - Calendar.daysInYears years)
      = found at h hmonth
    have hof := Except.toOption_eq_some.1 h
    obtain ⟨hyear, hmonthOf, hdayOf⟩ := eq_of_of_eq_ok hof
    rw [← hmonthOf, ← hdayOf] at hmonth
    have hday := d.day_valid.1
    have hstart : Calendar.daysBeforeMonth (years + 1) 1 = 0 := rfl
    simp only [dayNumber, hyear, Nat.add_sub_cancel]
    omega

/-- Numbers are a date if there is such a year, month and day. -/
theorem toOption_of_eq_none_iff {year month day : Nat} (hmonth : 1 ≤ month ∧ month ≤ 12)
    (hday : 1 ≤ day ∧ day ≤ Calendar.daysInMonth year month) :
    (Date.of year month day).toOption = none ↔ ¬ (1 ≤ year ∧ year ≤ Calendar.maxYear) := by
  unfold Date.of
  by_cases hyear : 1 ≤ year ∧ year ≤ Calendar.maxYear
  · simp only [hyear, hmonth, hday, and_self, dif_pos]
    simp [Except.toOption]
  · simp only [dif_neg hyear]
    simp [Except.toOption, hyear]

/-- The days without a date are those before year 1 and behind the last year. -/
theorem ofDayNumber?_eq_none_iff {day : Int} : ofDayNumber? day = none ↔
    day < 0 ∨ (Calendar.daysInYears Calendar.maxYear : Int) ≤ day := by
  unfold ofDayNumber?
  by_cases hneg : day < 0
  · simp [hneg]
  · simp only [hneg, if_false, false_or]
    generalize hn : day.toNat = n
    have hday : day = n := by omega
    have hle := Calendar.daysInYears_yearsBefore_le n
    have hlt := Calendar.lt_daysInYears_yearsBefore n
    generalize Calendar.yearsBefore n = years at hle hlt
    have hstart : Calendar.daysBeforeMonth (years + 1) 1 = 0 := rfl
    have hrest : Calendar.daysBeforeMonth (years + 1) 1 + (n - Calendar.daysInYears years)
        < Calendar.daysBeforeMonth (years + 1) (1 + 12) := by
      have hyear : _ = _ + Calendar.daysBeforeMonth (years + 1) (1 + 12) :=
        Calendar.daysInYears_succ years
      omega
    obtain ⟨hlow, hhigh, hvalid⟩ := Calendar.monthAndDay_valid hrest
    rw [toOption_of_eq_none_iff ⟨hlow, by omega⟩ hvalid, hday]
    -- The days of a year are behind those of the last one if and only if the year is.
    simp only [Calendar.daysInYears, Calendar.maxYear] at hle hlt ⊢
    omega

/-- The day of a date lies in the year of the date. -/
theorem daysInYears_le_dayNumber (d : Date) :
    Calendar.daysInYears (d.year - 1) ≤ d.dayNumber ∧
      d.dayNumber < Calendar.daysInYears d.year := by
  have hmonth := Calendar.daysBeforeMonth_add_le d.year d.month_valid.2
  obtain ⟨hfirst, -⟩ := d.year_valid
  obtain ⟨hday, hdays⟩ := d.day_valid
  have hyear := Calendar.daysInYears_succ (d.year - 1)
  rw [Nat.sub_one_add_one (by omega)] at hyear
  rw [dayNumber]
  omega

/-- The day of a date lies before the end of the last year. -/
theorem dayNumber_lt (d : Date) : d.dayNumber < Calendar.daysInYears Calendar.maxYear :=
  Nat.lt_of_lt_of_le d.daysInYears_le_dayNumber.2 (Calendar.daysInYears_mono d.year_valid.2)

/-- The day of a date lies in the year of any date with the same day. -/
theorem year_le_of_dayNumber_eq {d d' : Date} (h : d.dayNumber = d'.dayNumber) :
    d.year ≤ d'.year := by
  by_contra hlt
  have hmono : Calendar.daysInYears d'.year ≤ Calendar.daysInYears (d.year - 1) :=
    Calendar.daysInYears_mono (by omega)
  have hlow := d.daysInYears_le_dayNumber.1
  have hhigh := d'.daysInYears_le_dayNumber.2
  omega

/-- The day of a date lies in the month of any date with the same day of the same year. -/
theorem month_le_of_dayNumber_eq {d d' : Date} (hyear : d.year = d'.year)
    (h : d.dayNumber = d'.dayNumber) : d.month ≤ d'.month := by
  by_contra hlt
  have hmono := Calendar.daysBeforeMonth_mono d.year (show d'.month + 1 ≤ d.month by omega)
  have hnext : Calendar.daysBeforeMonth d.year (d'.month + 1)
    = Calendar.daysBeforeMonth d.year d'.month + Calendar.daysInMonth d.year d'.month := rfl
  have hday := d'.day_valid
  simp only [dayNumber, ← hyear] at h hday
  omega

/-- Dates with the same number are the same. -/
theorem dayNumber_injective {d d' : Date} (h : d.dayNumber = d'.dayNumber) : d = d' := by
  have hyear := Nat.le_antisymm (year_le_of_dayNumber_eq h) (year_le_of_dayNumber_eq h.symm)
  have hmonth := Nat.le_antisymm (month_le_of_dayNumber_eq hyear h)
    (month_le_of_dayNumber_eq hyear.symm h.symm)
  have hday : d.day = d'.day := by
    have hfirst := d.day_valid.1
    have hfirst' := d'.day_valid.1
    simp only [dayNumber, hyear, hmonth] at h
    omega
  obtain ⟨year, month, day, _, _, _⟩ := d
  obtain ⟨year', month', day', _, _, _⟩ := d'
  cases hyear
  cases hmonth
  cases hday
  rfl

/-- The date of the number of a date is that date. -/
theorem ofDayNumber?_dayNumber (d : Date) : ofDayNumber? d.dayNumber = some d := by
  cases hfound : ofDayNumber? d.dayNumber with
  | none =>
    have hlast := d.dayNumber_lt
    have hrange := ofDayNumber?_eq_none_iff.1 hfound
    omega
  | some found =>
    have hnumber := dayNumber_of_ofDayNumber? hfound
    rw [dayNumber_injective (Int.ofNat_inj.1 hnumber)]

end Date

namespace TimeOfDay

/-- A time of day is the time of its numbers. -/
theorem of_eq_ok (t : TimeOfDay) :
    TimeOfDay.of t.hour t.minute t.second t.microsecond = .ok t := by
  rw [TimeOfDay.of, dif_pos t.hour_valid, dif_pos t.minute_valid, dif_pos t.second_valid]
  simp only [Nat.mod_eq_of_lt t.microsecond_valid]

/-- The fraction of the time of four numbers is that of the last one. -/
theorem microsecond_of_of_eq_ok {hour minute second microsecond : Nat} {t : TimeOfDay}
    (h : TimeOfDay.of hour minute second microsecond = .ok t) :
    t.microsecond = microsecond % 1000000 := by
  unfold TimeOfDay.of at h
  split at h
  · split at h
    · split at h
      · cases h; rfl
      · cases h
    · cases h
  · cases h

/-- The time of day without the fraction of the second. -/
def toSecond (t : TimeOfDay) : TimeOfDay :=
  { t with microsecond := 0, microsecond_valid := by decide }

/-- A time of day to the second is the time of its numbers. -/
theorem of_eq_ok_toSecond (t : TimeOfDay) :
    TimeOfDay.of t.hour t.minute t.second 0 = .ok t.toSecond := t.toSecond.of_eq_ok

/-- The time of a second of a day is that second. -/
theorem secondOfDay_ofSecondOfDay {second : Nat} (h : second < 86400) (microsecond : Nat) :
    (ofSecondOfDay second microsecond).secondOfDay = second := by
  simp only [secondOfDay, ofSecondOfDay]
  omega

/-- The second of a time is one of a day. -/
theorem secondOfDay_lt (t : TimeOfDay) : t.secondOfDay < 86400 := by
  have hhour := t.hour_valid
  have hminute := t.minute_valid
  have hsecond := t.second_valid
  rw [secondOfDay]
  omega

/-- The time of the second and the fraction of a time is that time. -/
theorem ofSecondOfDay_secondOfDay (t : TimeOfDay) :
    ofSecondOfDay t.secondOfDay t.microsecond = t := by
  obtain ⟨hour, minute, second, microsecond, hhour, hminute, hsecond, hmicrosecond⟩ := t
  simp only [ofSecondOfDay, secondOfDay, TimeOfDay.mk.injEq]
  omega

end TimeOfDay

namespace TimeSpan

/-- The microseconds of a span. -/
def total (s : TimeSpan) : Int := (s.days * 86400 + s.seconds) * 1000000 + s.microseconds

/-- A span is determined by its total, as only its days may be negative. -/
theorem eq_of_total_eq {a b : TimeSpan} (h : a.total = b.total) : a = b := by
  obtain ⟨days, seconds, microseconds, hseconds, hmicroseconds⟩ := a
  obtain ⟨days', seconds', microseconds', hseconds', hmicroseconds'⟩ := b
  simp only [total] at h
  obtain rfl : days = days' := by omega
  obtain rfl : seconds = seconds' := by omega
  obtain rfl : microseconds = microseconds' := by omega
  rfl

/-- What is carried or borrowed does not change the total. -/
theorem total_of (days seconds microseconds : Int) :
    (of days seconds microseconds).total = (days * 86400 + seconds) * 1000000 + microseconds := by
  simp only [total, of]
  rw [Int.fdiv_eq_ediv_of_nonneg _ (by decide), Int.fdiv_eq_ediv_of_nonneg _ (by decide),
    Int.fmod_eq_emod_of_nonneg _ (by decide), Int.fmod_eq_emod_of_nonneg _ (by decide)]
  omega

/-- The total of a span less another one. -/
theorem total_sub (a b : TimeSpan) : (a.sub b).total = a.total - b.total := by
  rw [sub, total_of, total, total]
  omega

end TimeSpan

namespace Instant

/-- The total of an instant in nanoseconds. -/
theorem total_eq (i : Instant) : i.total = i.second * 1000000000 + i.nano := rfl

/-- An instant is determined by its total. -/
theorem eq_of_total_eq {i j : Instant} (h : i.total = j.total) : i = j := by
  obtain ⟨second, nano, hnano⟩ := i
  obtain ⟨second', nano', hnano'⟩ := j
  simp only [total_eq] at h
  obtain rfl : second = second' := by omega
  obtain rfl : nano = nano' := by omega
  rfl

/-- An adjustment is added to the total, whatever its sign and size. -/
theorem total_atSecond (second adjustment : Int) :
    (atSecond second adjustment).total = second * 1000000000 + adjustment := by
  have hper : nanosPerSecond = 1000000000 := rfl
  simp only [total, atSecond, hper]
  rw [Int.fdiv_eq_ediv_of_nonneg _ (by decide), Int.fmod_eq_emod_of_nonneg _ (by decide)]
  omega

/-- Later by some nanoseconds, the total has grown by as many. -/
theorem total_later (i : Instant) (nanos : Int) : (i.later nanos).total = i.total + nanos := by
  rw [later, total_atSecond, total_eq]
  omega

/-- An instant is its second, with the nanoseconds after it. -/
theorem later_eq_self {i j : Instant} (hsecond : j.second = i.second) (hnano : j.nano = 0) :
    j.later i.nano = i := by
  apply eq_of_total_eq
  rw [total_later, total_eq, total_eq, hsecond, hnano]
  omega

/-- The microseconds from the start of 1970 to a date and time at an offset. -/
theorem total_sinceEpoch (t : DateTime) (offset : ZoneOffset) :
    (sinceEpoch t offset).total = ((t.date.dayNumber - epochDay) * 86400 + t.time.secondOfDay)
      * 1000000 + t.time.microsecond - offset := by
  rw [sinceEpoch, TimeSpan.total_sub, TimeSpan.total_of, TimeSpan.total_of]
  omega

/-- The span from the start of 1970 to a date and time in UTC is that of its days, the seconds of
its last day and its fraction. -/
theorem sinceEpoch_utc (t : DateTime) :
    sinceEpoch t 0 = ⟨t.date.dayNumber - epochDay, t.time.secondOfDay, t.time.microsecond,
      t.time.secondOfDay_lt, t.time.microsecond_valid⟩ := by
  apply TimeSpan.eq_of_total_eq
  rw [total_sinceEpoch, Int.sub_zero]
  rfl

/-- The second of a date and time in UTC. -/
theorem second_ofDateTime_utc (t : DateTime) : (ofDateTime t 0).second =
    (t.date.dayNumber - epochDay) * secondsPerDay + t.time.secondOfDay := by
  simp only [ofDateTime, sinceEpoch_utc]

/-- The nanoseconds of a date and time in UTC. -/
theorem nano_ofDateTime_utc (t : DateTime) :
    (ofDateTime t 0).nano = t.time.microsecond * 1000 := by
  simp only [ofDateTime, sinceEpoch_utc]

/-- The UTC date and time of an instant, to the second, are those of its second. -/
theorem second_ofDateTime {i : Instant} {t : DateTime} (h : i.utc? = some t) :
    (ofDateTime ⟨t.date, t.time.toSecond⟩ 0).second = i.second := by
  obtain ⟨date, hdate, rfl⟩ := Option.map_eq_some_iff.1 h
  have hday := Date.dayNumber_of_ofDayNumber? hdate
  have hper : secondsPerDay = 86400 := rfl
  -- The second of the day is what the whole days leave.
  have hsecond : (TimeOfDay.ofSecondOfDay (i.second.fmod secondsPerDay).toNat
      (i.nano / 1000)).toSecond.secondOfDay = (i.second.fmod secondsPerDay).toNat := by
    refine TimeOfDay.secondOfDay_ofSecondOfDay ?_ (i.nano / 1000)
    rw [hper, Int.fmod_eq_emod_of_nonneg _ (by decide)]
    omega
  rw [second_ofDateTime_utc, hsecond, hday, hper, Int.fdiv_eq_ediv_of_nonneg _ (by decide),
    Int.fmod_eq_emod_of_nonneg _ (by decide)]
  omega

/-- The first second of year 1. -/
def firstSecond : Int := -62135596800

/-- The second behind the last one of year 9999. -/
def endSecond : Int := 253402300800

/-- An instant before year 1 or behind year 9999. -/
def IsBeyondYears (i : Instant) : Prop := i.second < firstSecond ∨ endSecond ≤ i.second

/-- The instants without a UTC date and time are those beyond the years that have dates. -/
theorem utc?_eq_none_iff {i : Instant} : i.utc? = none ↔ i.IsBeyondYears := by
  have hper : secondsPerDay = 86400 := rfl
  have hepoch : epochDay = 719162 := rfl
  have hdays : (Calendar.daysInYears Calendar.maxYear : Int) = 3652059 := rfl
  have hfirst : firstSecond = -62135596800 := rfl
  have hend : endSecond = 253402300800 := rfl
  rw [utc?, Option.map_eq_none_iff, Date.ofDayNumber?_eq_none_iff, IsBeyondYears, hdays, hper,
    hepoch, hfirst, hend, Int.fdiv_eq_ediv_of_nonneg _ (by decide)]
  omega

/-- The instant of a date and time in UTC is not beyond the years that have dates. -/
theorem not_isBeyondYears_ofDateTime (t : DateTime) : ¬ (ofDateTime t 0).IsBeyondYears := by
  have hday := t.date.dayNumber_lt
  have hdays : Calendar.daysInYears Calendar.maxYear = 3652059 := rfl
  have hclock := t.time.secondOfDay_lt
  have hper : secondsPerDay = 86400 := rfl
  have hepoch : epochDay = 719162 := rfl
  have hfirst : firstSecond = -62135596800 := rfl
  have hend : endSecond = 253402300800 := rfl
  rw [IsBeyondYears, second_ofDateTime_utc, hper, hepoch, hfirst, hend]
  omega

/-- There is no date and time in UTC for the seconds beyond the years that have dates. -/
theorem IsBeyondYears.second_ne {i : Instant} (h : i.IsBeyondYears) (t : DateTime) :
    (ofDateTime t 0).second ≠ i.second := by
  intro heq
  have hyears := not_isBeyondYears_ofDateTime t
  unfold IsBeyondYears at h hyears
  rw [heq] at hyears
  exact hyears h

/-- Nanoseconds that are less than a second do not change the second. -/
theorem second_later {i : Instant} (hnano : i.nano = 0) {nanos : Nat} (h : nanos < 1000000000) :
    (i.later nanos).second = i.second := by
  have hper : nanosPerSecond = 1000000000 := rfl
  simp only [later, atSecond, hnano, hper]
  rw [Int.fdiv_eq_ediv_of_nonneg _ (by decide)]
  omega

end Instant

end Delimited
