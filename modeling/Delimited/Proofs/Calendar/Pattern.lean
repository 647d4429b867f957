import Delimited.Calendar.Pattern
import Delimited.Proofs.Calendar.DayNumber
import Delimited.Proofs.Number.Digits
import Delimited.Proofs.Text.Blank

/-!
# Written dates and times are read back

Each pattern, at the start of a text that its numbers were written in, reads these numbers and
leaves what follows. A pattern made of others needs no more than what they leave, so the lemmas go
from fields of fixed width up to dates with times and fractions.
-/

namespace Delimited

/-- No month has more than 31 days. -/
theorem Calendar.daysInMonth_le (year month : Nat) : daysInMonth year month ≤ 31 := by
  unfold daysInMonth
  split
  any_goals decide
  split <;> decide

namespace Pattern

variable {rest : Text}

/-- A field of fixed width is read back. -/
theorem number?_fixed {width n : Nat} (hwidth : 0 < width) (h : n < 10 ^ width) (rest : Text) :
    number? width (Digits.fixed width n ++ rest) = some (n, rest) := by
  have hlength := Digits.length_fixed hwidth h
  have hall : (Digits.fixed width n).all CodePoint.isDigit = true :=
    List.all_eq_true.2 Digits.isDigit_of_mem_fixed
  have htake : (Digits.fixed width n ++ rest).take width = Digits.fixed width n :=
    List.take_left' hlength
  have hdrop : (Digits.fixed width n ++ rest).drop width = rest := List.drop_left' hlength
  simp only [number?, htake, hdrop, hlength, hall, Digits.value_fixed, decide_true, Bool.and_self,
    if_true]

/-- A sign that stands first is read. -/
theorem sign?_cons (c : CodePoint) (rest : Text) : sign? c (c :: rest) = some rest := by
  simp [sign?]

/-- A sign that does not stand first is not read. -/
theorem sign?_eq_none {c : CodePoint} (h : ∀ x, rest.head? = some x → x ≠ c) :
    sign? c rest = none := by
  cases rest with
  | nil => rfl
  | cons x rest => simp [sign?, h x rfl]

/-- A written date is read back. -/
theorem date?_text (d : Date) (rest : Text) :
    date? (d.text ++ rest) = some (⟨d.year, d.month, d.day⟩, rest) := by
  -- Each number has as many digits as its field.
  have hyear : d.year < 10 ^ 4 := by
    have := d.year_valid.2
    have : Calendar.maxYear = 9999 := rfl
    omega
  have hmonth : d.month < 10 ^ 2 := by
    have := d.month_valid.2
    omega
  have hday : d.day < 10 ^ 2 := by
    have := d.day_valid.2
    have := Calendar.daysInMonth_le d.year d.month
    omega
  simp only [date?, Date.text, List.append_assoc, List.cons_append, number?_fixed (by decide) hyear,
    number?_fixed (by decide) hmonth, number?_fixed (by decide) hday, sign?_cons,
    Option.bind_eq_bind, Option.bind_some, Option.pure_def]

/-- The hour and the minute of a written time are read back. -/
theorem hourMinute?_text (t : TimeOfDay) (rest : Text) :
    hourMinute? (t.text ++ rest)
      = some ((t.hour, t.minute), .ofChar ':' :: (Digits.fixed 2 t.second ++ rest)) := by
  have hhour : t.hour < 10 ^ 2 := by
    have := t.hour_valid
    omega
  have hminute : t.minute < 10 ^ 2 := by
    have := t.minute_valid
    omega
  simp only [hourMinute?, TimeOfDay.text, List.append_assoc, List.cons_append,
    number?_fixed (by decide) hhour, number?_fixed (by decide) hminute, sign?_cons,
    Option.bind_eq_bind, Option.bind_some, Option.pure_def]

/-- A written time is read back. -/
theorem clock?_text (t : TimeOfDay) (rest : Text) :
    clock? (t.text ++ rest) = some (⟨t.hour, t.minute, t.second, 0⟩, rest) := by
  have hsecond : t.second < 10 ^ 2 := by
    have := t.second_valid
    omega
  simp only [clock?, hourMinute?_text, number?_fixed (by decide) hsecond, sign?_cons,
    Option.bind_eq_bind, Option.bind_some, Option.pure_def]

/-- A written fraction of a second is read back, in front of what continues none. -/
theorem fraction?_fractionText {nanos : Nat} (h : nanos < 1000000000)
    (hrest : Digits.IsEnd rest) :
    fraction? (fractionText nanos ++ rest) = some (nanos, rest) := by
  unfold fractionText
  split
  · next hzero =>
    rw [List.nil_append, fraction?, sign?_eq_none fun c hc => (hrest c hc).2, hzero]
  · next hne =>
    have hlength : (Digits.fixed 9 nanos).length = 9 := Digits.length_fixed (by decide) (by omega)
    -- One to nine digits are written, and the zeros left out are put back.
    have hspan := Digits.span_append (s := Digits.trimZeros (Digits.fixed 9 nanos)) (t := rest)
      (fun c hc => Digits.isDigit_of_mem_fixed c (Digits.mem_of_mem_trimZeros hc))
      fun c hc => (hrest c hc).1
    have hle := Digits.length_trimZeros_le (Digits.fixed 9 nanos)
    have hpos := List.length_pos_iff.2
      (Digits.trimZeros_ne_nil (t := Digits.fixed 9 nanos) (by rwa [Digits.value_fixed]))
    have hpad := Digits.padRight_trimZeros (Digits.fixed 9 nanos)
    rw [hlength] at hle hpad
    have hrange : (decide (1 ≤ (Digits.trimZeros (Digits.fixed 9 nanos)).length)
        && decide ((Digits.trimZeros (Digits.fixed 9 nanos)).length ≤ 9)) = true := by
      simp only [Bool.and_eq_true, decide_eq_true_eq]
      exact ⟨hpos, hle⟩
    rw [List.cons_append, fraction?, sign?_cons]
    simp only [hspan, hrange, hpad, Digits.value_fixed, if_true]

/-- A written time with a fraction behind it is read back. -/
theorem clockWithFraction?_text (t : TimeOfDay) {fraction : Text} {nanos : Nat}
    (h : fraction? fraction = some (nanos, rest)) :
    clockWithFraction? (t.text ++ fraction) = some (⟨t.hour, t.minute, t.second, nanos⟩, rest) := by
  simp only [clockWithFraction?, clock?_text, h, Option.bind_eq_bind, Option.bind_some,
    Option.pure_def]

/-- A written date and time with a fraction behind them is read back. -/
theorem dateTime?_text (d : Date) (t : TimeOfDay) {fraction : Text} {nanos : Nat}
    (h : fraction? fraction = some (nanos, rest)) :
    dateTime? (d.text ++ .ofChar ' ' :: (t.text ++ fraction))
      = some ((⟨d.year, d.month, d.day⟩, ⟨t.hour, t.minute, t.second, nanos⟩), rest) := by
  simp only [dateTime?, date?_text, sign?_cons, clockWithFraction?_text t h, Option.bind_eq_bind,
    Option.bind_some, Option.pure_def, Option.orElse_eq_orElse, Option.orElse_some]

/-- A written time is a local time, with a fraction behind it or without. -/
theorem localTime?_text (t : TimeOfDay) {fraction : Text} {nanos : Nat}
    (h : fraction? fraction = some (nanos, rest)) :
    localTime? (t.text ++ fraction) = some (⟨t.hour, t.minute, t.second, nanos⟩, rest) := by
  simp only [localTime?, hourMinute?_text, sign?_cons, clockWithFraction?_text t h,
    Option.bind_eq_bind, Option.bind_some]

/-- A pattern reads the whole text if it leaves nothing. -/
theorem whole?_eq_some {α : Type} {pattern : Text → Option (α × Text)} {t : Text} {a : α} :
    whole? pattern t = some a ↔ pattern t = some (a, []) := by
  constructor
  · intro h
    obtain ⟨⟨b, rest⟩, hpattern, h⟩ := Option.bind_eq_some_iff.1 h
    obtain ⟨hrest, h⟩ := Option.ite_none_right_eq_some.1 h
    cases h
    rw [hpattern, List.isEmpty_iff.1 hrest]
  · intro h
    simp [whole?, h]

end Pattern

/-! ## Words -/

/-- A field of fixed width is a word. -/
theorem Digits.isWord_fixed (width n : Nat) : (fixed width n).IsWord :=
  Text.isWord_of_isDigit isDigit_of_mem_fixed

/-- A written date is a word. -/
theorem Date.isWord_text (d : Date) : d.text.IsWord :=
  (Digits.isWord_fixed 4 _).append (Text.IsWord.cons (by decide)
    ((Digits.isWord_fixed 2 _).append (Text.IsWord.cons (by decide) (Digits.isWord_fixed 2 _))))

/-- A written time is a word. -/
theorem TimeOfDay.isWord_text (t : TimeOfDay) : t.text.IsWord :=
  (Digits.isWord_fixed 2 _).append (Text.IsWord.cons (by decide)
    ((Digits.isWord_fixed 2 _).append (Text.IsWord.cons (by decide) (Digits.isWord_fixed 2 _))))

/-- A written fraction of a second is a word. -/
theorem isWord_fractionText (nanos : Nat) : (fractionText nanos).IsWord := by
  unfold fractionText
  split
  · exact Text.isWord_nil
  · exact Text.IsWord.cons (by decide) (Text.isWord_of_isDigit fun c hc =>
      Digits.isDigit_of_mem_fixed c (Digits.mem_of_mem_trimZeros hc))

end Delimited
