import Delimited.Proofs.Calendar.DayNumber
import Delimited.Value.Instants

/-!
# Arithmetic on instants

An instant is its total, the nanoseconds since the start of 1970, written as a second and the
nanoseconds after it. Each operation does to the total what it says, whatever the signs: the
quotients are floored, so that carrying into the second changes nothing. `Instant.Made` counts the
total along with the operations that make an instant, and `Instant.Made.total_eq` says that the
count is right.

Dates and times are compared with instants by their moment, the microseconds since the start of
1970 in UTC, `DateTime.moment`. A date and time in UTC is found again in its instant; the other way
round, the nanoseconds below a microsecond are lost. `Instant.arithmetic_exact` sums this up.
-/

namespace Delimited

-- The empty sum is the zero of core, whatever else is imported.
attribute [local instance (high)] Zero.ofOfNat0

namespace Value

/-- The result of decimal arithmetic is a decimal. -/
theorem exists_of_decimalResult {r : Except DecimalFault Decimal} {v : Value}
    (h : decimalResult r = .ok v) : ∃ d, v = .decimal d := by
  obtain ⟨d, -, hd⟩ := Except.map_eq_ok.1 (Except.mapError_eq_ok.1 h)
  exact ⟨d, hd.symm⟩

/-- The sum of an integer and a value is an integer if the value is one. -/
theorem integer?_of_sum_int {k : Int} {v w : Value} (h : (int k).sum v = .ok w) :
    w.integer? = v.integer?.map (k + ·) := by
  cases v with
  | int n => cases h; rfl
  | bool b => cases h; rfl
  | float x =>
    simp only [sum, counted] at h
    split at h
    · cases h; rfl
    · cases h
  | decimal d =>
    obtain ⟨e, rfl⟩ := exists_of_decimalResult h
    rfl
  | _ => cases h

/-- An integer and a value that is one have a sum. -/
theorem sum_int_of_integer? {v : Value} {n : Int} (h : v.integer? = some n) (k : Int) :
    (int k).sum v = .ok (int (k + n)) := by
  cases v with
  | int m => cases h; rfl
  | bool b => cases h; rfl
  | _ => cases h

end Value

/-- The microseconds from the start of 1970 in UTC to a date and time at an offset. -/
def DateTime.moment (t : DateTime) (offset : ZoneOffset) : Int :=
  ((t.date.dayNumber - 719162) * 86400 + t.time.secondOfDay) * 1000000 + t.time.microsecond - offset

namespace Instant

/-! ## Totals -/

/-- Milliseconds are as many million nanoseconds, before 1970 as behind it. -/
theorem total_atMilli (millis : Int) : (atMilli millis).total = millis * 1000000 := by
  rw [atMilli, total_atSecond, Int.fdiv_eq_ediv_of_nonneg _ (by decide),
    Int.fmod_eq_emod_of_nonneg _ (by decide)]
  omega

/-- The nanoseconds of the instant of a date and time are those of the span since 1970. -/
theorem total_ofDateTime_eq (t : DateTime) (offset : ZoneOffset) :
    (ofDateTime t offset).total = (sinceEpoch t offset).total * 1000 := by
  have hper : secondsPerDay = 86400 := rfl
  simp only [total_eq, ofDateTime, TimeSpan.total, hper]
  omega

/-- The total of a date and time is its moment. -/
theorem total_ofDateTime (t : DateTime) (offset : ZoneOffset) :
    (ofDateTime t offset).total = t.moment offset * 1000 := by
  have hepoch : epochDay = 719162 := rfl
  rw [total_ofDateTime_eq, total_sinceEpoch, hepoch, DateTime.moment]

/-! ## Operations -/

/-- Values make an instant together with an adjustment if they are integers. -/
theorem ofAdjusted_eq_ok {second adjustment : Value} {i : Instant} :
    ofAdjusted second adjustment = .ok i ↔ ∃ s a, second.integer? = some s ∧
      adjustment.integer? = some a ∧ i = atSecond s a := by
  constructor
  · intro h
    unfold ofAdjusted at h
    split at h
    · next s a hs ha => exact ⟨s, a, hs, ha, (Except.ok.inj h).symm⟩
    · obtain ⟨carried, -, h⟩ := Except.bind_eq_ok.1 h
      obtain ⟨total, -, h⟩ := Except.bind_eq_ok.1 h
      cases h
  · rintro ⟨s, a, hs, ha, rfl⟩
    simp only [ofAdjusted, hs, ha]

/-- A value makes an instant by its milliseconds if it is an integer. -/
theorem ofMillis_eq_ok {millis : Value} {i : Instant} :
    ofMillis millis = .ok i ↔ ∃ m, millis.integer? = some m ∧ i = atMilli m := by
  constructor
  · intro h
    unfold ofMillis at h
    split at h
    · next m hm => exact ⟨m, hm, (Except.ok.inj h).symm⟩
    · obtain ⟨second, -, h⟩ := Except.bind_eq_ok.1 h
      cases h
  · rintro ⟨m, hm, rfl⟩
    simp only [ofMillis, hm]

/-- A value makes an instant later if it is an integer. -/
theorem laterBy_eq_ok {i j : Instant} {nanos : Value} :
    i.laterBy nanos = .ok j ↔ ∃ n, nanos.integer? = some n ∧ j = i.later n := by
  constructor
  · intro h
    obtain ⟨sum, hsum, h⟩ := Except.bind_eq_ok.1 h
    obtain ⟨s, a, hs, ha, rfl⟩ := ofAdjusted_eq_ok.1 h
    cases hs
    rw [Value.integer?_of_sum_int (Except.mapError_eq_ok.1 hsum), Option.map_eq_some_iff] at ha
    obtain ⟨n, hn, rfl⟩ := ha
    exact ⟨n, hn, rfl⟩
  · rintro ⟨n, hn, rfl⟩
    refine Except.bind_eq_ok.2 ⟨.int (i.nano + n), ?_, rfl⟩
    exact Except.mapError_eq_ok.2 (Value.sum_int_of_integer? hn i.nano)

/-- The instants that the operations make of integers, dates and times, with the nanoseconds since
the start of 1970 that the operations come to. -/
inductive Made : Instant → Int → Prop
  /-- Made of a second and an adjustment. -/
  | adjusted {second adjustment : Value} {s a : Int} {i : Instant}
      (hs : second.integer? = some s) (ha : adjustment.integer? = some a)
      (h : ofAdjusted second adjustment = .ok i) : Made i (s * 1000000000 + a)
  /-- Made of milliseconds. -/
  | millis {millis : Value} {m : Int} {i : Instant} (hm : millis.integer? = some m)
      (h : ofMillis millis = .ok i) : Made i (m * 1000000)
  /-- Made of a date and time at an offset. -/
  | zoned {t : DateTime} {offset : ZoneOffset} {i : Instant}
      (h : ofZoned (.dateTime t (some offset)) = .ok i) : Made i (t.moment offset * 1000)
  /-- Made of an instant, some nanoseconds later. -/
  | later {i j : Instant} {total : Int} {nanos : Value} {n : Int} (hi : Made i total)
      (hn : nanos.integer? = some n) (h : i.laterBy nanos = .ok j) : Made j (total + n)

/-- The total of an instant is what the operations that made it come to. -/
theorem Made.total_eq {i : Instant} {total : Int} (h : Made i total) : i.total = total := by
  induction h with
  | adjusted hs ha h =>
    obtain ⟨s', a', hs', ha', rfl⟩ := ofAdjusted_eq_ok.1 h
    cases hs.symm.trans hs'
    cases ha.symm.trans ha'
    exact total_atSecond _ _
  | millis hm h =>
    obtain ⟨m', hm', rfl⟩ := ofMillis_eq_ok.1 h
    cases hm.symm.trans hm'
    exact total_atMilli _
  | zoned h =>
    cases h
    exact total_ofDateTime _ _
  | later _ hn h ih =>
    obtain ⟨n', hn', rfl⟩ := laterBy_eq_ok.1 h
    cases hn.symm.trans hn'
    rw [total_later, ih]

/-- Nanoseconds added one after the other are added up. -/
theorem foldlM_laterBy (i : Instant) (ns : List Int) :
    ns.foldlM (fun i n => i.laterBy (.int n)) i = i.laterBy (.int ns.sum) := by
  induction ns generalizing i with
  | nil =>
    refine (laterBy_eq_ok.2 ⟨0, rfl, eq_of_total_eq ?_⟩).symm
    rw [total_later, Int.add_zero]
  | cons n ns ih =>
    have hfirst : i.laterBy (.int n) = .ok (i.later n) := laterBy_eq_ok.2 ⟨n, rfl, rfl⟩
    have hrest : (i.later n).laterBy (.int ns.sum) = .ok ((i.later n).later ns.sum) :=
      laterBy_eq_ok.2 ⟨ns.sum, rfl, rfl⟩
    rw [List.foldlM_cons, hfirst]
    refine (ih (i.later n)).trans (hrest.trans (laterBy_eq_ok.2 ⟨n + ns.sum, ?_, ?_⟩).symm)
    · rw [List.sum_cons]; rfl
    · apply eq_of_total_eq
      rw [total_later, total_later, total_later, Int.add_assoc]

/-! ## Order -/

/-- An instant is before another one if its total is less. -/
theorem order_eq_lt_iff {i j : Instant} : i.order j = .lt ↔ i.total < j.total := by
  have hi := i.nano_lt
  have hj := j.nano_lt
  rw [order, Ordering.then_eq_lt, Int.compare_eq_lt, Int.compare_eq_eq, Nat.compare_eq_lt,
    total_eq, total_eq]
  omega

/-- Instants are equal in order if their totals are. -/
theorem order_eq_eq_iff {i j : Instant} : i.order j = .eq ↔ i.total = j.total := by
  have hi := i.nano_lt
  have hj := j.nano_lt
  rw [order, Ordering.then_eq_eq, Int.compare_eq_eq, Nat.compare_eq_eq, total_eq, total_eq]
  omega

/-- An instant is behind another one if its total is greater. -/
theorem order_eq_gt_iff {i j : Instant} : i.order j = .gt ↔ j.total < i.total := by
  have hi := i.nano_lt
  have hj := j.nano_lt
  rw [order, Ordering.then_eq_gt, Int.compare_eq_gt, Int.compare_eq_eq, Nat.compare_eq_gt,
    total_eq, total_eq]
  omega

/-! ## Dates and times -/

/-- The date and time in UTC of the instant of one. -/
theorem utc?_ofDateTime (t : DateTime) : (ofDateTime t 0).utc? = some t := by
  have hper : secondsPerDay = 86400 := rfl
  have hclock := t.time.secondOfDay_lt
  have hday : (ofDateTime t 0).second.fdiv secondsPerDay + epochDay = t.date.dayNumber := by
    rw [second_ofDateTime_utc, hper, Int.fdiv_eq_ediv_of_nonneg _ (by decide)]
    omega
  have hsecond : ((ofDateTime t 0).second.fmod secondsPerDay).toNat = t.time.secondOfDay := by
    rw [second_ofDateTime_utc, hper, Int.fmod_eq_emod_of_nonneg _ (by decide)]
    omega
  have hmicrosecond : (ofDateTime t 0).nano / 1000 = t.time.microsecond := by
    rw [nano_ofDateTime_utc]
    exact Nat.mul_div_cancel _ (by decide)
  simp only [utc?, hday, hsecond, hmicrosecond, Date.ofDayNumber?_dayNumber, Option.map_some,
    TimeOfDay.ofSecondOfDay_secondOfDay]

/-- The date and time in UTC of an instant are those of its second and its microseconds. -/
theorem ofDateTime_of_utc? {i : Instant} {t : DateTime} (h : i.utc? = some t) :
    (ofDateTime t 0).second = i.second ∧ (ofDateTime t 0).nano = i.nano / 1000 * 1000 := by
  -- The fraction of a second is no part of the second.
  have hfraction :
      (ofDateTime ⟨t.date, t.time.toSecond⟩ 0).second = (ofDateTime t 0).second := by
    simp only [second_ofDateTime_utc, TimeOfDay.secondOfDay, TimeOfDay.toSecond]
  refine ⟨hfraction.symm.trans (second_ofDateTime h), ?_⟩
  obtain ⟨date, -, rfl⟩ := Option.map_eq_some_iff.1 h
  have hnano := i.nano_lt
  rw [nano_ofDateTime_utc]
  simp only [TimeOfDay.ofSecondOfDay]
  omega

/-- A date and time at an offset is the same moment in UTC as the one found in its instant. -/
theorem moment_of_utc?_ofDateTime {t u : DateTime} {offset : ZoneOffset}
    (h : (ofDateTime t offset).utc? = some u) : u.moment 0 = t.moment offset := by
  obtain ⟨hsecond, hnano⟩ := ofDateTime_of_utc? h
  have hu := total_ofDateTime u 0
  have ht := total_ofDateTime t offset
  -- The nanoseconds of a date and time are whole microseconds.
  have hmicro : (ofDateTime t offset).nano = (sinceEpoch t offset).microseconds * 1000 := rfl
  rw [total_eq] at hu ht
  omega

/-- A date and time in UTC is found in the instant of any date and time of its moment. -/
theorem utc?_of_moment_eq {t u : DateTime} {offset : ZoneOffset}
    (h : u.moment 0 = t.moment offset) : (ofDateTime t offset).utc? = some u := by
  have htotal : (ofDateTime t offset).total = (ofDateTime u 0).total := by
    rw [total_ofDateTime, total_ofDateTime, h]
  rw [eq_of_total_eq htotal, utc?_ofDateTime]

/-- Arithmetic on instants is exact.

* Whatever operations made an instant, its nanoseconds are less than a second, and its total is
  what the operations come to.
* A second and an adjustment, milliseconds, an instant and nanoseconds make an instant whenever
  they are integers, with the total that they have. Nanoseconds added one after the other have the
  effect of their sum.
* Instants are in the order of their totals.
* An instant of the years that have dates has a date and time in UTC, from which all of it but the
  nanoseconds below a microsecond is made again. No other one has, and no date and time in UTC has
  its second.
* A date and time at an offset makes an instant whose date and time in UTC is that of the same
  moment, if there is one: there is one if the instant is in those years. -/
theorem arithmetic_exact :
    (∀ (i : Instant) (total : Int), Made i total →
      0 ≤ i.nano ∧ i.nano < 1000000000 ∧ i.second * 1000000000 + i.nano = total) ∧
    (∀ (second adjustment : Value) (s a : Int), second.integer? = some s →
      adjustment.integer? = some a →
        ∃ i, ofAdjusted second adjustment = .ok i ∧ i.total = s * 1000000000 + a) ∧
    (∀ (millis : Value) (m : Int), millis.integer? = some m →
      ∃ i, ofMillis millis = .ok i ∧ i.total = m * 1000000) ∧
    (∀ (i : Instant) (nanos : Value) (n : Int), nanos.integer? = some n →
      ∃ j, i.laterBy nanos = .ok j ∧ j.total = i.total + n) ∧
    (∀ (i : Instant) (ns : List Int),
      ns.foldlM (fun i n => i.laterBy (.int n)) i = i.laterBy (.int ns.sum)) ∧
    (∀ i j : Instant, ∃ o, i.orderTo (.instant j) = .ok o ∧ (o = .lt ↔ i.total < j.total) ∧
      (o = .eq ↔ i.total = j.total) ∧ (o = .gt ↔ j.total < i.total)) ∧
    (∀ i : Instant, ¬ i.IsBeyondYears → ∃ t j, i.utc? = some t ∧
      ofZoned (.dateTime t (some 0)) = .ok j ∧ j.second = i.second ∧
        j.nano = i.nano / 1000 * 1000) ∧
    (∀ i : Instant, i.IsBeyondYears →
      i.utc? = none ∧ ∀ t : DateTime, (ofDateTime t 0).second ≠ i.second) ∧
    ∀ (t : DateTime) (offset : ZoneOffset), ∃ i, ofZoned (.dateTime t (some offset)) = .ok i ∧
      (∀ u : DateTime, i.utc? = some u ↔ u.moment 0 = t.moment offset) ∧
      (¬ i.IsBeyondYears → ∃ u, i.utc? = some u) := by
  refine ⟨fun i total h => ⟨Nat.zero_le _, i.nano_lt, h.total_eq⟩, fun second adjustment s a hs ha =>
    ⟨_, ofAdjusted_eq_ok.2 ⟨s, a, hs, ha, rfl⟩, total_atSecond s a⟩, fun millis m hm =>
    ⟨_, ofMillis_eq_ok.2 ⟨m, hm, rfl⟩, total_atMilli m⟩, fun i nanos n hn =>
    ⟨_, laterBy_eq_ok.2 ⟨n, hn, rfl⟩, total_later i n⟩, foldlM_laterBy, fun i j =>
    ⟨_, rfl, order_eq_lt_iff, order_eq_eq_iff, order_eq_gt_iff⟩, fun i hi => ?_, fun i hi =>
    ⟨utc?_eq_none_iff.2 hi, hi.second_ne⟩, fun t offset =>
    ⟨_, rfl, fun u => ⟨moment_of_utc?_ofDateTime, utc?_of_moment_eq⟩, fun hi => ?_⟩⟩
  · obtain ⟨t, ht⟩ := Option.ne_none_iff_exists'.1 (mt utc?_eq_none_iff.1 hi)
    exact ⟨t, _, ht, rfl, ofDateTime_of_utc? ht⟩
  · exact Option.ne_none_iff_exists'.1 (mt utc?_eq_none_iff.1 hi)

/-- A second before 1970 and a nanosecond less; the instant behind the last year; half past midnight
of the first day of 1970, an hour and half a second ahead of UTC. -/
theorem arithmetic_exact_early :
    ofAdjusted (.int (-1)) (.int (-1)) = .ok ⟨-2, 999999999, by decide⟩ ∧
    (-2 : Int) * 1000000000 + (999999999 : Nat) = -1 * 1000000000 + -1 ∧
    (∃ t j, utc? ⟨-2, 999999999, by decide⟩ = some t ∧ ofZoned (.dateTime t (some 0)) = .ok j ∧
      j.second = -2 ∧ j.nano = 999999000) ∧
    utc? ⟨endSecond, 0, by decide⟩ = none ∧
    ∃ i u, ofZoned (.dateTime ⟨⟨1970, 1, 1, by decide, by decide, by decide⟩,
        ⟨0, 30, 0, 0, by decide, by decide, by decide, by decide⟩⟩ (some 3600500000)) = .ok i ∧
      i.utc? = some u ∧ u.moment 0 = -1800500000 := by
  obtain ⟨hmade, -, -, -, -, -, hwithin, hbeyond, hzoned⟩ := arithmetic_exact
  have hearly : ofAdjusted (.int (-1)) (.int (-1)) = .ok ⟨-2, 999999999, by decide⟩ := rfl
  refine ⟨hearly, (hmade _ _ (.adjusted rfl rfl hearly)).2.2, hwithin _ ?_, (hbeyond _ ?_).1, ?_⟩
  · unfold IsBeyondYears firstSecond endSecond
    decide
  · exact .inr (Int.le_refl _)
  · obtain ⟨i, hi, hmoment, hyears⟩ := hzoned ⟨⟨1970, 1, 1, by decide, by decide, by decide⟩,
      ⟨0, 30, 0, 0, by decide, by decide, by decide, by decide⟩⟩ 3600500000
    have hnear : ¬ i.IsBeyondYears := by
      cases hi
      unfold IsBeyondYears firstSecond endSecond
      decide
    obtain ⟨u, hu⟩ := hyears hnear
    exact ⟨i, u, hi, hu, (hmoment u).1 hu⟩

end Instant

end Delimited
