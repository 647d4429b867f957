import Delimited.Proofs.Leaf.Canonical
import Delimited.Proofs.Leaf.Domain

/-!
# Written instants

An instant is written as the date and time of its second in UTC, with its nanoseconds behind a
point, and read back from there. `exists_of_writeInstant` says which date and time that is, and
`read_write_instant` that nothing is lost on the way, for instants before 1970 as for those behind
it: the seconds are floored on the way to the date, and the nanoseconds are never a part of it.
-/

namespace Delimited

namespace LeafType

/-- A written instant is the date and time of its second in UTC, and its nanoseconds. -/
theorem exists_of_writeInstant {i : Instant} {t : Text} (h : writeInstant i = .ok t) :
    ∃ utc : DateTime, (Instant.ofDateTime utc 0).second = i.second ∧
      t = utc.date.text ++ .ofChar ' '
        :: (utc.time.text ++ fractionText i.nano ++ [.ofChar 'Z']) := by
  unfold writeInstant at h
  split at h
  · next dt hutc =>
    cases h
    -- The date and time that is shown has microseconds, which are no part of what is written.
    exact ⟨⟨dt.date, dt.time.toSecond⟩, Instant.second_ofDateTime hutc, rfl⟩
  · cases h

/-- An instant is written if it is in one of the years that have dates. -/
theorem exists_writeInstant_iff {i : Instant} :
    (∃ t, writeInstant i = .ok t) ↔ ¬ i.IsBeyondYears := by
  constructor
  · rintro ⟨t, h⟩ hyears
    cases h.symm.trans (writeInstant_eq_error.2 ⟨hyears, rfl⟩)
  · intro hyears
    cases h : writeInstant i with
    | ok t => exact ⟨t, rfl⟩
    | error e => exact absurd (writeInstant_eq_error.1 h).1 hyears

/-- An instant in one of the years that have dates is written and read back. -/
theorem exists_write_read_instant {i : Instant} (h : ¬ i.IsBeyondYears) :
    ∃ t, writeInstant i = .ok t ∧ read instant t = .ok (.instant i) := by
  obtain ⟨t, ht⟩ := exists_writeInstant_iff.2 h
  exact ⟨t, ht, congrArg (Except.map Value.instant) (readInstant_writeInstant ht)⟩

/-- The text of an instant is exact to the nanosecond. Every instant of the years that have dates is
written as the date and time of its second in UTC, and read back as itself. Every other one has no
date in UTC and is not written. A date and time at an offset is read back as the instant that it is,
and what is read is written as a text that is read alike. -/
theorem read_write_instant :
    (∀ i : Instant, ¬ i.IsBeyondYears → ∃ (t : Text) (utc : DateTime),
      write instant (.instant i) = .ok t ∧ read instant t = .ok (.instant i) ∧
        (Instant.ofDateTime utc 0).second = i.second ∧
        t = utc.date.text ++ .ofChar ' '
          :: (utc.time.text ++ fractionText i.nano ++ [.ofChar 'Z'])) ∧
    (∀ i : Instant, i.IsBeyondYears → write instant (.instant i) = .error .overflow ∧
      ∀ utc : DateTime, (Instant.ofDateTime utc 0).second ≠ i.second) ∧
    (∀ (dt : DateTime) (offset : ZoneOffset), ¬ (Instant.ofDateTime dt offset).IsBeyondYears →
      ∃ t, write instant (.dateTime dt (some offset)) = .ok t ∧
        read instant t = .ok (.instant (Instant.ofDateTime dt offset))) ∧
    ∀ (t : Text) (v : Value), read instant t = .ok v →
      ∃ t', write instant v = .ok t' ∧ read instant t' = .ok v := by
  refine ⟨fun i hi => ?_, fun i hi => ?_, fun dt offset hi => exists_write_read_instant hi,
    fun t v h => ?_⟩
  · obtain ⟨t, hwrite, hread⟩ := exists_write_read_instant hi
    obtain ⟨utc, hsecond, htext⟩ := exists_of_writeInstant hwrite
    exact ⟨t, utc, hwrite, hread, hsecond, htext⟩
  · exact ⟨writeInstant_eq_error.2 ⟨hi, rfl⟩, hi.second_ne⟩
  · obtain ⟨i, hi, rfl⟩ := Except.map_eq_ok.1 h
    exact exists_write_read_instant (not_isBeyondYears_of_readInstant hi)

/-- The first nanosecond of the last second before 1970 is written as a date of 1969. -/
theorem read_write_instant_last :
    write instant (.instant ⟨-1, 1, by decide⟩) = .ok "1969-12-31 23:59:59.000000001Z" ∧
      read instant "1969-12-31 23:59:59.000000001Z" = .ok (.instant ⟨-1, 1, by decide⟩) := by
  have hyears : ¬ (⟨-1, 1, by decide⟩ : Instant).IsBeyondYears := by
    unfold Instant.IsBeyondYears Instant.firstSecond Instant.endSecond
    decide
  have hwrite : write instant (.instant ⟨-1, 1, by decide⟩)
      = .ok "1969-12-31 23:59:59.000000001Z" := by cbv
  obtain ⟨t, utc, ht, hread, -, -⟩ := read_write_instant.1 _ hyears
  cases hwrite.symm.trans ht
  exact ⟨hwrite, hread⟩

end LeafType

end Delimited
