import Delimited.Number.Digits
import Mathlib.Data.List.Induction
import Mathlib.Data.List.TakeWhile
import Mathlib.Tactic.Ring

/-!
# Digits and their value

A number is the value of its digits, and how many digits it has says between which powers of ten it
lies. Zeros in front of a run of digits do not change its value, and each zero behind it multiplies
the value by ten: fields of fixed width, fractions without trailing zeros and decimals shifted by a
power of ten all come down to that.
-/

namespace Delimited

namespace CodePoint

/-- The code point of a digit. -/
theorem val_ofDigit {n : Nat} (h : n < 10) : (ofDigit n).val = 0x30 + n := by
  simp only [ofDigit, Fin.ofNat]
  omega

/-- The digit of a number is a digit. -/
theorem isDigit_ofDigit {n : Nat} (h : n < 10) : (ofDigit n).isDigit = true := by
  simp only [isDigit, val_ofDigit h, Bool.and_eq_true, decide_eq_true_eq]
  omega

/-- The digit of a number stands for it. -/
theorem digitValue_ofDigit {n : Nat} (h : n < 10) : (ofDigit n).digitValue = n := by
  rw [digitValue, val_ofDigit h]
  omega

/-- A digit is one of ten code points. -/
theorem isDigit_iff {c : CodePoint} : c.isDigit = true ↔ 0x30 ≤ c.val ∧ c.val ≤ 0x39 := by
  simp [isDigit]

/-- A digit stands for a number below ten. -/
theorem digitValue_lt {c : CodePoint} (h : c.isDigit = true) : c.digitValue < 10 := by
  have := isDigit_iff.1 h
  rw [digitValue]
  omega

end CodePoint

namespace Digits

open CodePoint (ofDigit)

/-! ## The digits of a number -/

/-- The digits in front of a text are the digits, then the text. -/
theorem prepend_eq (n : Nat) (tail : Text) : prepend n tail = ofNat n ++ tail := by
  induction n using Nat.strongRecOn generalizing tail with
  | _ n ih =>
    by_cases h : n < 10
    · rw [ofNat, prepend, if_pos h, prepend, if_pos h, List.singleton_append]
    · have hofNat : ofNat n = ofNat (n / 10) ++ [ofDigit (n % 10)] := by
        rw [ofNat, prepend, if_neg h, ih (n / 10) (by omega)]
      rw [hofNat, prepend, if_neg h, ih (n / 10) (by omega), List.append_assoc,
        List.singleton_append]

/-- A number below ten is one digit. -/
theorem ofNat_of_lt {n : Nat} (h : n < 10) : ofNat n = [ofDigit n] := by
  rw [ofNat, prepend, if_pos h]

/-- A number from ten on is the digits of its tenth and a last digit. -/
theorem ofNat_of_le {n : Nat} (h : 10 ≤ n) : ofNat n = ofNat (n / 10) ++ [ofDigit (n % 10)] := by
  rw [ofNat, prepend, if_neg (by omega), prepend_eq]

/-- Every number has a digit. -/
theorem ofNat_ne_nil (n : Nat) : ofNat n ≠ [] := by
  rcases Nat.lt_or_ge n 10 with h | h
  · simp [ofNat_of_lt h]
  · simp [ofNat_of_le h]

/-- The digits of a number are digits. -/
theorem isDigit_of_mem_ofNat {n : Nat} : ∀ c ∈ ofNat n, c.isDigit = true := by
  induction n using Nat.strongRecOn with
  | _ n ih =>
    intro c hc
    rcases Nat.lt_or_ge n 10 with h | h
    · rw [ofNat_of_lt h, List.mem_singleton] at hc
      exact hc ▸ CodePoint.isDigit_ofDigit h
    · rw [ofNat_of_le h, List.mem_append, List.mem_singleton] at hc
      rcases hc with hc | rfl
      · exact ih (n / 10) (by omega) c hc
      · exact CodePoint.isDigit_ofDigit (by omega)

/-- A number other than zero, times a power of ten, has so many more zeros at its end. -/
theorem ofNat_mul_pow {n : Nat} (h : n ≠ 0) (k : Nat) :
    ofNat (n * 10 ^ k) = ofNat n ++ List.replicate k (ofDigit 0) := by
  induction k with
  | zero => simp
  | succ k ih =>
    have hpos : 0 < n * 10 ^ k := Nat.mul_pos (by omega) (Nat.pow_pos (by decide))
    calc ofNat (n * 10 ^ (k + 1))
        = ofNat (n * 10 ^ k * 10) := by rw [Nat.pow_succ, Nat.mul_assoc]
      _ = ofNat (n * 10 ^ k) ++ [ofDigit 0] := by
          rw [ofNat_of_le (by omega), Nat.mul_div_cancel _ (by decide), Nat.mul_mod_left]
      _ = ofNat n ++ List.replicate (k + 1) (ofDigit 0) := by
          rw [ih, List.append_assoc, List.replicate_succ']

/-! ## The value of digits -/

/-- A digit behind others adds to ten times their value. -/
theorem value_append_singleton (t : Text) (c : CodePoint) :
    value (t ++ [c]) = 10 * value t + c.digitValue := by
  simp [value, List.foldl_append]

/-- Digits behind others add to a power of ten of their value. -/
theorem value_append (s t : Text) : value (s ++ t) = value s * 10 ^ t.length + value t := by
  induction t using List.reverseRecOn with
  | nil => simp [value]
  | append_singleton t c ih =>
    calc value (s ++ (t ++ [c]))
        = 10 * value (s ++ t) + c.digitValue := by rw [← List.append_assoc, value_append_singleton]
      _ = 10 * (value s * 10 ^ t.length + value t) + c.digitValue := by rw [ih]
      _ = value s * 10 ^ (t.length + 1) + (10 * value t + c.digitValue) := by ring
      _ = value s * 10 ^ (t ++ [c]).length + value (t ++ [c]) := by
          rw [List.length_append, List.length_singleton, value_append_singleton]

/-- The digits of a number stand for it. -/
theorem value_ofNat (n : Nat) : value (ofNat n) = n := by
  induction n using Nat.strongRecOn with
  | _ n ih =>
    rcases Nat.lt_or_ge n 10 with h | h
    · rw [ofNat_of_lt h]
      simp [value, CodePoint.digitValue_ofDigit h]
    · rw [ofNat_of_le h, value_append_singleton, ih (n / 10) (by omega),
        CodePoint.digitValue_ofDigit (by omega)]
      omega

/-- Zeros stand for nothing. -/
theorem value_replicate (k : Nat) : value (List.replicate k (ofDigit 0)) = 0 := by
  induction k with
  | zero => rfl
  | succ k ih =>
    rw [List.replicate_succ', value_append_singleton, ih, CodePoint.digitValue_ofDigit (by decide)]

/-- Zeros in front of digits do not change their value. -/
theorem value_replicate_append (k : Nat) (t : Text) :
    value (List.replicate k (ofDigit 0) ++ t) = value t := by
  rw [value_append, value_replicate, Nat.zero_mul, Nat.zero_add]

/-- Zeros behind digits multiply their value. -/
theorem value_append_replicate (t : Text) (k : Nat) :
    value (t ++ List.replicate k (ofDigit 0)) = value t * 10 ^ k := by
  rw [value_append, value_replicate, List.length_replicate, Nat.add_zero]

/-- So many digits stand for less than that power of ten. -/
theorem value_lt {t : Text} (h : ∀ c ∈ t, c.isDigit = true) : value t < 10 ^ t.length := by
  induction t using List.reverseRecOn with
  | nil => simp [value]
  | append_singleton t c ih =>
    have hlt := ih fun x hx => h x (by simp [hx])
    have hc := CodePoint.digitValue_lt (h c (by simp))
    rw [value_append_singleton, List.length_append, List.length_singleton, Nat.pow_succ]
    omega

/-! ## How many digits a number has -/

/-- A number has at least one digit. -/
theorem count_pos (n : Nat) : 0 < count n := List.length_pos_iff.2 (ofNat_ne_nil n)

/-- A number is below the power of ten of its number of digits. -/
theorem lt_pow_count (n : Nat) : n < 10 ^ count n := by
  have h := value_lt (isDigit_of_mem_ofNat (n := n))
  rwa [value_ofNat] at h

/-- A number other than zero is at least the power of ten of its first digit. -/
theorem pow_count_le {n : Nat} (h : n ≠ 0) : 10 ^ (count n - 1) ≤ n := by
  induction n using Nat.strongRecOn with
  | _ n ih =>
    rcases Nat.lt_or_ge n 10 with hlt | hge
    · simp only [count, ofNat_of_lt hlt, List.length_singleton, Nat.sub_self, Nat.pow_zero]
      omega
    · have hle := ih (n / 10) (by omega) (by omega)
      have hcount : count n = count (n / 10) + 1 := by simp [count, ofNat_of_le hge]
      have hpos := count_pos (n / 10)
      rw [hcount, show count (n / 10) + 1 - 1 = count (n / 10) - 1 + 1 by omega, Nat.pow_succ]
      omega

/-- A power of ten adds as many digits. -/
theorem count_mul_pow {n : Nat} (h : n ≠ 0) (k : Nat) : count (n * 10 ^ k) = count n + k := by
  simp [count, ofNat_mul_pow h]

/-- A number below a power of ten has no more digits than that. -/
theorem count_le {n k : Nat} (hk : 0 < k) (h : n < 10 ^ k) : count n ≤ k := by
  rcases Nat.eq_zero_or_pos n with rfl | hn
  · rw [count, ofNat_of_lt (by decide)]
    exact hk
  · have hle := pow_count_le (Nat.pos_iff_ne_zero.1 hn)
    have := (Nat.pow_lt_pow_iff_right (by decide : 1 < 10)).1 (Nat.lt_of_le_of_lt hle h)
    omega

/-! ## Fields of fixed width and trailing zeros -/

/-- Zeros are digits. -/
theorem isDigit_of_mem_zeros {k : Nat} :
    ∀ c ∈ List.replicate k (ofDigit 0), c.isDigit = true := by
  intro c hc
  rw [(List.mem_replicate.1 hc).2]
  exact CodePoint.isDigit_ofDigit (by decide)

/-- The digits of a field of fixed width are digits. -/
theorem isDigit_of_mem_fixed {width n : Nat} : ∀ c ∈ fixed width n, c.isDigit = true :=
  List.forall_mem_append.2 ⟨isDigit_of_mem_zeros, isDigit_of_mem_ofNat⟩

/-- A field of fixed width stands for its number. -/
theorem value_fixed (width n : Nat) : value (fixed width n) = n := by
  rw [fixed, padLeft, value_replicate_append, value_ofNat]

/-- A field of fixed width has that width, if the number is not too large. -/
theorem length_fixed {width n : Nat} (hwidth : 0 < width) (h : n < 10 ^ width) :
    (fixed width n).length = width := by
  have hle : (ofNat n).length ≤ width := count_le hwidth h
  simp only [fixed, padLeft, List.length_append, List.length_replicate]
  omega

/-- Digits are those without trailing zeros, and zeros. -/
theorem trimZeros_append (t : Text) :
    trimZeros t ++ List.replicate (t.length - (trimZeros t).length) (ofDigit 0) = t := by
  -- What is trimmed, from the end, is a run of zeros.
  have hzeros : t.reverse.takeWhile (· == ofDigit 0)
      = List.replicate (t.reverse.takeWhile (· == ofDigit 0)).length (ofDigit 0) :=
    List.eq_replicate_iff.2 ⟨rfl, fun c hc => by simpa using List.mem_takeWhile_imp hc⟩
  have hsplit := List.takeWhile_append_dropWhile (p := (· == ofDigit 0)) (l := t.reverse)
  have hlength := congrArg List.length hsplit
  rw [List.length_append, List.length_reverse] at hlength
  have hcount : t.length - (trimZeros t).length
      = (t.reverse.takeWhile (· == ofDigit 0)).length := by
    rw [trimZeros, List.length_reverse]
    omega
  rw [hcount, trimZeros, ← List.reverse_replicate, ← List.reverse_append, ← hzeros, hsplit,
    List.reverse_reverse]

/-- Digits without trailing zeros are among the digits. -/
theorem mem_of_mem_trimZeros {t : Text} {c : CodePoint} (h : c ∈ trimZeros t) : c ∈ t := by
  rw [← trimZeros_append t]
  exact List.mem_append_left _ h

/-- Digits without trailing zeros are no more than the digits. -/
theorem length_trimZeros_le (t : Text) : (trimZeros t).length ≤ t.length := by
  conv => rhs; rw [← trimZeros_append t]
  simp

/-- Padding with zeros brings trailing zeros back. -/
theorem padRight_trimZeros (t : Text) : padRight t.length (trimZeros t) = t := trimZeros_append t

/-- Digits that stand for anything do not vanish without trailing zeros. -/
theorem trimZeros_ne_nil {t : Text} (h : value t ≠ 0) : trimZeros t ≠ [] := by
  intro hnil
  rw [← trimZeros_append t, hnil, List.nil_append, value_replicate] at h
  exact h rfl

/-! ## Where digits end -/

/-- Neither a digit nor a point starts the text, so that it continues no number in front of it. -/
def IsEnd (t : Text) : Prop := ∀ c, t.head? = some c → c.isDigit = false ∧ c ≠ .ofChar '.'

/-- Where nothing follows, a number ends. -/
theorem isEnd_nil : IsEnd [] := fun _ hc => nomatch hc

/-- A character that is neither a digit nor a point ends a number. -/
theorem isEnd_cons {c : CodePoint} (h : c.isDigit = false ∧ c ≠ .ofChar '.') (t : Text) :
    IsEnd (c :: t) := by
  intro x hx
  cases hx
  exact h

/-- The run of digits in front of something else. -/
theorem span_append {s t : Text} (hs : ∀ c ∈ s, c.isDigit = true)
    (ht : ∀ c, t.head? = some c → c.isDigit = false) : span (s ++ t) = (s, t) := by
  have hstop : t.takeWhile CodePoint.isDigit = [] ∧ t.dropWhile CodePoint.isDigit = t := by
    cases t with
    | nil => exact ⟨rfl, rfl⟩
    | cons c t => simp [ht c rfl]
  rw [span, List.takeWhile_append_of_pos hs, List.dropWhile_append_of_pos hs, hstop.1, hstop.2,
    List.append_nil]

end Digits

end Delimited
