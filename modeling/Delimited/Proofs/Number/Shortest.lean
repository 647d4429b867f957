import Delimited.Number.Shortest
import Delimited.Proofs.Number.Binary64
import Delimited.Proofs.Number.Decimal

/-!
# The shortest text reads back as the same number

Every number that the search for the shortest decimal can come to reads back as the magnitude it is
for: the ones found on a grid are tested, and the exact expansion, where no grid has one, is exact.
The digits of such a decimal may be written without their trailing zeros and with the point
anywhere, plainly or with an exponent; the numeral keeps its value, and so its rank.
-/

namespace Delimited

open CodePoint (ofDigit)
open Decimal (signText placePoint)
open Binary64 (unitBits units infinityRank rankOfDecimal)

namespace Shortest

/-- A grid's neighbour that is found reads back. -/
theorem reads_of_onGrid? {rank : Nat} {e : Int} {c : Candidate} (h : onGrid? rank e = some c) :
    c.reads rank = true := by
  unfold onGrid? at h
  simp only at h
  split at h
  · next hlow hhigh =>
    cases h
    split
    · exact hlow
    · exact hhigh
  · next hlow _ => cases h; exact hlow
  · next _ hhigh => cases h; exact hhigh
  · cases h

/-- A number of `j` bits before the point and `b` behind it has no more decimal digits before the
point than the power of two of the former has. -/
theorem count_le_of_lt {n b j k : Nat} (h : n < 2 ^ (b + j)) (hk : 0 < k)
    (hjk : 2 ^ j ≤ 10 ^ k) : Digits.count (n * 5 ^ b) ≤ b + k := by
  refine Digits.count_le (by omega) ?_
  calc n * 5 ^ b
      < 2 ^ (b + j) * 5 ^ b := Nat.mul_lt_mul_of_pos_right h (Nat.pow_pos (by decide))
    _ = 10 ^ b * 2 ^ j := by rw [Nat.pow_add, Nat.mul_right_comm, ← Nat.mul_pow]
    _ ≤ 10 ^ b * 10 ^ k := Nat.mul_le_mul_left _ hjk
    _ = 10 ^ (b + k) := (Nat.pow_add ..).symm

/-- A number of `b` binary places other than zero has that many decimal digits, but for the zeros
behind the point. -/
theorem lt_count_of_pow_le {n b k : Nat} (hn : n ≠ 0) (h : 10 ^ k ≤ 5 ^ b) :
    k < Digits.count (n * 5 ^ b) := by
  refine Nat.lt_of_not_le fun hcount => ?_
  refine absurd (Digits.lt_pow_count (n * 5 ^ b)) (Nat.not_lt.2 ?_)
  calc 10 ^ Digits.count (n * 5 ^ b)
      ≤ 10 ^ k := Nat.pow_le_pow_right (by decide) hcount
    _ ≤ 5 ^ b := h
    _ ≤ n * 5 ^ b := Nat.le_mul_of_pos_left _ (Nat.pos_of_ne_zero hn)

/-- A number of binary places within the range of the format is expanded exactly. -/
theorem rankOfDecimal_mul_five_pow {n b : Nat} (hn : n ≠ 0) (hb : 0 < b)
    (hmost : Digits.count (n * 5 ^ b) ≤ b + 400) (hleast : b ≤ Digits.count (n * 5 ^ b) + 400) :
    rankOfDecimal (n * 5 ^ b) (-(b : Int)) = Binary64.rankOfRatio n (2 ^ b) := by
  have hne : n * 5 ^ b ≠ 0 := Nat.mul_ne_zero hn (pow_ne_zero _ (by decide))
  have hplaces : Binary64.maxPointPlace = 400 ∧ Binary64.minPointPlace = -400 := ⟨rfl, rfl⟩
  have hmax : ¬ Binary64.maxPointPlace < -(b : Int) + Digits.count (n * 5 ^ b) := by omega
  have hmin : ¬ -(b : Int) + Digits.count (n * 5 ^ b) < Binary64.minPointPlace := by omega
  have hneg : -(b : Int) < 0 := by omega
  have hexponent : (- -(b : Int)).toNat = b := by omega
  simp only [rankOfDecimal, hne, hmax, hmin, hneg, hexponent, if_false, if_true]
  rw [show (10 : Nat) ^ b = 2 ^ b * 5 ^ b from Nat.mul_pow 2 5 b,
    Binary64.rankOfRatio_mul_right (Nat.pow_pos (by decide))]

/-- The exact expansion of a magnitude reads back. -/
theorem reads_exact {rank : Nat} (hzero : rank ≠ 0) (hrank : rank < infinityRank) :
    (exact rank).reads rank = true := by
  have hunits := Binary64.units_ne_zero hzero
  -- The expansion has no more digits than a finite magnitude, and no fewer than the least one.
  have hmost := count_le_of_lt (k := 400) (Binary64.units_lt hrank) (by decide) (by decide +kernel)
  have hleast := lt_count_of_pow_le (b := unitBits) (k := 673) hunits (by decide +kernel)
  -- The ratio that it stands for is that of the units, which are rounded to their rank.
  have hround : Binary64.rankOfRatio (units rank) (2 ^ unitBits) = rank := by
    have h := Binary64.rankOfUnits_mul_right (Nat.two_pow_pos unitBits) (units rank) 1
    rw [Nat.one_mul, Binary64.rankOfUnits_units] at h
    exact h
  have hbits : unitBits = 1074 := rfl
  have hread := rankOfDecimal_mul_five_pow hunits (by rw [hbits]; decide) hmost
    (by rw [hbits] at hleast ⊢; omega)
  simp [Candidate.reads, exact, hread, hround]

/-- Whatever the search comes to reads back. -/
theorem reads_search {rank : Nat} (hzero : rank ≠ 0) (hrank : rank < infinityRank) (place : Int)
    (gridsLeft : Nat) : (search rank place gridsLeft).reads rank = true := by
  induction gridsLeft with
  | zero => exact reads_exact hzero hrank
  | succ left ih =>
    unfold search
    split
    · next h => exact reads_of_onGrid? h
    · exact ih

/-- The shortest decimal of a finite magnitude reads back as it. -/
theorem rankOfDecimal_ofRank {rank : Nat} (hrank : rank < infinityRank) :
    rankOfDecimal (ofRank rank).digits (ofRank rank).exponent = rank := by
  unfold ofRank
  split
  · next hzero => rw [hzero]; rfl
  · next hzero => simpa [Candidate.reads] using reads_search hzero hrank (pointPlace rank) 17

end Shortest

namespace Binary64

/-- The digits of a magnitude's text and the power of ten of the last of them: they have the rank of
the magnitude, and are laid out plainly or with an exponent. -/
theorem exists_magnitudeText {rank : Nat} (hrank : rank < infinityRank) :
    ∃ (digits : Text) (e : Int), (∀ c ∈ digits, c.isDigit = true) ∧ digits ≠ [] ∧
      rankOfDecimal (Digits.value digits) e = rank ∧
      (magnitudeText rank = withFraction (placePoint digits (e + digits.length)) ∨
        ∃ f : Int, f = e + digits.length - 1 ∧ magnitudeText rank = placePoint digits 1
          ++ .ofChar 'e' :: (if f < 0 then .ofChar '-' else .ofChar '+')
            :: Digits.fixed layout.exponentWidth f.natAbs) := by
  by_cases hzero : rank = 0
  · subst hzero
    refine ⟨[ofDigit 0], 0, by simp [CodePoint.isDigit_ofDigit], by simp, ?_, .inl ?_⟩
    · rw [show Digits.value [ofDigit 0] = 0 from Digits.value_replicate 1]
      rfl
    · simp [magnitudeText, Shortest.ofRank, Digits.ofNat_of_lt, layout]
  · have hread := Shortest.rankOfDecimal_ofRank hrank
    generalize hshortest : Shortest.ofRank rank = shortest at hread
    have hdigits := Digits.isDigit_of_mem_ofNat (n := shortest.digits)
    have hvalue := Digits.value_ofNat shortest.digits
    generalize hall : Digits.ofNat shortest.digits = all at hdigits hvalue
    -- The digits left out at the end are zeros, which raise the power of ten.
    generalize hk : all.length - (Digits.trimZeros all).length = k
    have htrim := Digits.trimZeros_append all
    have hlength := Digits.length_trimZeros_le all
    rw [hk] at htrim
    have hvalue' : Digits.value (Digits.trimZeros all) * 10 ^ k = shortest.digits := by
      rw [← Digits.value_append_replicate, htrim, hvalue]
    have hrank' : rankOfDecimal (Digits.value (Digits.trimZeros all)) (shortest.exponent + k)
        = rank := by
      calc rankOfDecimal (Digits.value (Digits.trimZeros all)) (shortest.exponent + k)
          = rankOfDecimal (Digits.value (Digits.trimZeros all) * 10 ^ k)
              (shortest.exponent + k - k) := (rankOfDecimal_mul_pow ..).symm
        _ = rankOfDecimal shortest.digits shortest.exponent := by rw [hvalue', Int.add_sub_cancel]
        _ = rank := hread
    have hne : Digits.value all ≠ 0 := by
      intro hnone
      rw [← hvalue, hnone] at hread
      exact hzero (hread.symm.trans (by simp [rankOfDecimal]))
    have hplace : shortest.exponent + k + (Digits.trimZeros all).length
        = shortest.exponent + all.length := by omega
    refine ⟨Digits.trimZeros all, shortest.exponent + k,
      fun c hc => hdigits c (Digits.mem_of_mem_trimZeros hc), Digits.trimZeros_ne_nil hne, hrank',
      ?_⟩
    -- Trimmed digits have their point in the same place.
    rw [hplace]
    simp only [magnitudeText, hshortest, hall, hzero, if_false]
    split
    · exact .inl rfl
    · exact .inr ⟨_, rfl, rfl⟩

/-- With a digit behind the point, digits are written with zeros behind them at most. -/
theorem exists_isPointed_withFraction {whole fraction t : Text}
    (h : Numeral.IsPointed whole fraction t) (hwhole : ∀ c ∈ whole, c.isDigit = true) :
    ∃ k, Numeral.IsPointed whole (fraction ++ List.replicate k (ofDigit 0)) (withFraction t) := by
  have hpoint : CodePoint.isDigit (.ofChar '.') = false := by decide
  cases h with
  | plain =>
    have hnone : whole.contains (.ofChar '.') = false := by
      rw [List.contains_eq_mem, decide_eq_false_iff_not]
      exact fun hmem => by simpa [hpoint] using hwhole _ hmem
    refine ⟨1, ?_⟩
    rw [withFraction, hnone]
    exact .point [ofDigit 0]
  | point =>
    refine ⟨0, ?_⟩
    rw [withFraction, if_pos (by simp), List.replicate_zero, List.append_nil]
    exact .point fraction

/-- Digits in their place are read with the rank that they have. -/
theorem exists_parse?_withFraction (negative : Bool) {digits : Text}
    (h : ∀ c ∈ digits, c.isDigit = true) (e : Int) :
    ∃ n, Numeral.parse? (signText negative ++ withFraction (placePoint digits (e + digits.length)))
        = some n ∧ n.negative = negative ∧
      rankOfDecimal n.coefficient n.scale = rankOfDecimal (Digits.value digits) e := by
  obtain ⟨whole, fraction, hpointed, hne, hdigits, hvalue, hlength⟩ :=
    Decimal.exists_isPointed_placePoint h (e + digits.length)
  obtain ⟨k, hpointed⟩ := exists_isPointed_withFraction hpointed
    fun c hc => hdigits c (List.mem_append_left _ hc)
  have hall : ∀ c ∈ whole ++ (fraction ++ List.replicate k (ofDigit 0)), c.isDigit = true := by
    rw [← List.append_assoc]
    exact List.forall_mem_append.2 ⟨hdigits, Digits.isDigit_of_mem_zeros⟩
  have hne : whole ++ (fraction ++ List.replicate k (ofDigit 0)) ≠ [] :=
    List.append_ne_nil_of_left_ne_nil hne _
  have hparse := Numeral.parse?_pointed (isSign_signText negative) hpointed hne hall
    Digits.isEnd_nil rfl
  rw [List.append_nil] at hparse
  refine ⟨_, hparse, rfl, ?_⟩
  -- The zeros that the place of the point calls for, and the one behind it, change no value.
  have hcoefficient : Digits.value (whole ++ (fraction ++ List.replicate k (ofDigit 0)))
      = Digits.value digits * 10 ^ e.toNat * 10 ^ k := by
    rw [← List.append_assoc, Digits.value_append_replicate, hvalue]
    congr 3
    omega
  have hscale : (0 : Int) - (fraction ++ List.replicate k (ofDigit 0)).length
      = e - e.toNat - k := by
    rw [List.length_append, List.length_replicate]
    omega
  rw [Numeral.coefficient, Numeral.scale, hcoefficient, hscale]
  calc rankOfDecimal (Digits.value digits * 10 ^ e.toNat * 10 ^ k) (e - e.toNat - k)
      = rankOfDecimal (Digits.value digits * 10 ^ e.toNat) (e - e.toNat) :=
        rankOfDecimal_mul_pow ..
    _ = rankOfDecimal (Digits.value digits) e := rankOfDecimal_mul_pow ..

/-- The text of a finite magnitude is read as a numeral of its rank. -/
theorem exists_parse?_magnitudeText (negative : Bool) {rank : Nat} (hrank : rank < infinityRank) :
    ∃ n, Numeral.parse? (signText negative ++ magnitudeText rank) = some n ∧
      n.negative = negative ∧ rankOfDecimal n.coefficient n.scale = rank := by
  obtain ⟨digits, e, hdigits, hne, hround, htext⟩ := exists_magnitudeText hrank
  rcases htext with htext | ⟨f, hf, htext⟩
  · rw [htext, ← hround]
    exact exists_parse?_withFraction negative hdigits e
  · -- One digit stands in front of the point, so none but those of the magnitude are written.
    have hexponent : Numeral.parseExponent? (.ofChar 'e'
        :: (if f < 0 then .ofChar '-' else .ofChar '+')
          :: Digits.fixed layout.exponentWidth f.natAbs) = some f :=
      Numeral.parseExponent?_digits (.inl rfl) f
        (fun hnil => Digits.ofNat_ne_nil _ (List.append_eq_nil_iff.1 hnil).2)
        Digits.isDigit_of_mem_fixed (Digits.value_fixed _ _)
    obtain ⟨n, hparse, hnegative, hcoefficient, hscale⟩ :=
      Numeral.parse?_placePoint negative hdigits 1 (Digits.isEnd_cons (by decide) _) hexponent
    have hpos := List.length_pos_iff.2 hne
    have hshift : (1 - (digits.length : Int)).toNat = 0 := by omega
    rw [hshift, Nat.pow_zero, Nat.mul_one] at hcoefficient
    have hscale' : n.scale = e := by omega
    exact ⟨n, by rw [htext]; exact hparse, hnegative, by rw [hcoefficient, hscale', hround]⟩

/-- The text of a finite magnitude is a word. -/
theorem isWord_magnitudeText {rank : Nat} (hrank : rank < infinityRank) :
    (magnitudeText rank).IsWord := by
  obtain ⟨digits, e, hdigits, -, -, htext⟩ := exists_magnitudeText hrank
  rcases htext with htext | ⟨f, -, htext⟩
  · rw [htext, withFraction]
    split
    · exact Decimal.isWord_placePoint hdigits _
    · exact (Decimal.isWord_placePoint hdigits _).append
        (Text.IsWord.cons (by decide) (Text.IsWord.cons (by decide) Text.isWord_nil))
  · rw [htext]
    refine (Decimal.isWord_placePoint hdigits 1).append
      (Text.IsWord.cons (by decide) (Text.IsWord.cons ?_ ?_))
    · split <;> decide
    · exact Text.isWord_of_isDigit Digits.isDigit_of_mem_fixed

end Binary64

end Delimited
