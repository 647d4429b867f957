import Delimited.Number.Binary64
import Delimited.Proofs.Number.Digits

/-!
# Rounding to the nearest rank

The rank that a ratio is rounded to depends on the ratio alone, so numerator and denominator may be
multiplied by the same number, and a decimal may be written with more zeros. A magnitude that has a
rank is rounded to that rank. An integer has no finite rank from halfway between the largest finite
magnitude and the next power of two on.
-/

namespace Delimited

/-- Rounding depends on the ratio alone. -/
theorem roundDiv_mul_right {k : Nat} (hk : 0 < k) (n d : Nat) :
    roundDiv (n * k) (d * k) = roundDiv n d := by
  have hquotient : n * k / (d * k) = n / d := Nat.mul_div_mul_right n d hk
  have hrest : 2 * (n * k % (d * k)) = 2 * (n % d) * k := by
    rw [Nat.mul_mod_mul_right, Nat.mul_assoc]
  simp only [roundDiv, hquotient, hrest, Nat.mul_lt_mul_right hk]

/-- A whole number is not rounded. -/
theorem roundDiv_mul_self {d : Nat} (hd : 0 < d) (n : Nat) : roundDiv (n * d) d = n := by
  simp [roundDiv, Nat.mul_div_cancel _ hd, hd]

/-- Rounding goes up by one at most. -/
theorem roundDiv_le (n d : Nat) : roundDiv n d ≤ n / d + 1 := by
  unfold roundDiv
  simp only
  split
  · omega
  · split <;> omega

/-- Rounding does not go down. -/
theorem le_roundDiv (n d : Nat) : n / d ≤ roundDiv n d := by
  unfold roundDiv
  simp only
  split
  · omega
  · split <;> omega

/-- A quotient is rounded to more than an odd number from halfway to the next number on. -/
theorem lt_roundDiv_iff {n d k : Nat} (hd : 0 < d) (hk : k % 2 = 1) :
    k < roundDiv n d ↔ (2 * k + 1) * d ≤ 2 * n := by
  have hn := Nat.div_add_mod n d
  have hr := Nat.mod_lt n hd
  have hodd : (2 * k + 1) * d = 2 * (d * k) + d := by ring
  rcases Nat.lt_trichotomy (n / d) k with hlt | heq | hgt
  · have hmul : d * (n / d) + d ≤ d * k := by
      rw [← Nat.mul_succ]
      exact Nat.mul_le_mul_left d hlt
    have hround := roundDiv_le n d
    omega
  · -- Halfway goes to the even number, which is the next one.
    rw [heq] at hn
    simp only [roundDiv, heq, hk]
    split
    · omega
    · split <;> omega
  · have hmul : d * k + d ≤ d * (n / d) := by
      rw [← Nat.mul_succ]
      exact Nat.mul_le_mul_left d hgt
    have hround := le_roundDiv n d
    omega

namespace Binary64

/-- The rank depends on the ratio of units alone. -/
theorem rankOfUnits_mul_right {k : Nat} (hk : 0 < k) (n d : Nat) :
    rankOfUnits (n * k) (d * k) = rankOfUnits n d := by
  have hround : ∀ p, roundDiv (n * k) (d * k * p) = roundDiv n (d * p) := by
    intro p
    rw [show d * k * p = d * p * k by ring, roundDiv_mul_right hk]
  simp only [rankOfUnits, Nat.mul_div_mul_right n d hk, hround]

/-- The rank depends on the ratio alone. -/
theorem rankOfRatio_mul_right {k : Nat} (hk : 0 < k) (n d : Nat) :
    rankOfRatio (n * k) (d * k) = rankOfRatio n d := by
  rw [rankOfRatio, rankOfRatio, show n * k * 2 ^ unitBits = n * 2 ^ unitBits * k by ring,
    rankOfUnits_mul_right hk]

/-- The number of magnitudes per binade. -/
theorem two_pow_fractionBits : 2 ^ fractionBits = 4503599627370496 := rfl

/-- Below the second binade the units are the ranks. -/
theorem units_of_lt {rank : Nat} (h : rank < 2 ^ fractionBits) : units rank = rank := by
  simp [units, parts, h]

/-- From the second binade on the units are a significand shifted. -/
theorem units_of_le {rank : Nat} (h : 2 ^ fractionBits ≤ rank) :
    units rank = (2 ^ fractionBits + rank % 2 ^ fractionBits)
      * 2 ^ (rank / 2 ^ fractionBits - 1) := by
  simp [units, parts, Nat.not_lt.2 h]

/-- A magnitude is rounded to its own rank. -/
theorem rankOfUnits_units (rank : Nat) : rankOfUnits (units rank) 1 = rank := by
  have hbinade := two_pow_fractionBits
  rcases Nat.lt_or_ge rank (2 ^ fractionBits) with hlt | hge
  · -- Nothing is shifted out of a number of so few bits.
    rw [units_of_lt hlt]
    have hpower : Nat.log2 rank - fractionBits = 0 := by
      rcases Nat.eq_zero_or_pos rank with rfl | hpos
      · simp
      · have := (Nat.log2_lt (by omega)).2 hlt
        omega
    simp only [rankOfUnits, Nat.div_one, Nat.pow_zero, Nat.mul_one, hpower]
    simpa using roundDiv_mul_self Nat.one_pos rank
  · -- The units are a significand `s` times a power of two, whose exponent `p` their length gives.
    rw [units_of_le hge]
    generalize hp : rank / 2 ^ fractionBits - 1 = p
    generalize hs : 2 ^ fractionBits + rank % 2 ^ fractionBits = s
    have hpos : 0 < 2 ^ p := Nat.two_pow_pos p
    have hslt : s < 2 ^ (fractionBits + 1) := by
      rw [Nat.pow_succ]
      omega
    have hsle : 2 ^ fractionBits ≤ s := by omega
    have hlog : Nat.log2 (s * 2 ^ p) = fractionBits + p := by
      refine (Nat.log2_eq_iff (Nat.mul_ne_zero (by omega) (by omega))).2 ⟨?_, ?_⟩
      · rw [Nat.pow_add]
        exact Nat.mul_le_mul_right _ hsle
      · rw [show fractionBits + p + 1 = fractionBits + 1 + p by omega, Nat.pow_add]
        exact Nat.mul_lt_mul_of_pos_right hslt hpos
    simp only [rankOfUnits, Nat.div_one, Nat.one_mul, hlog, Nat.add_sub_cancel_left]
    rw [roundDiv_mul_self hpos]
    -- The significand and the binade make the rank again.
    have hsplit := Nat.div_add_mod rank (2 ^ fractionBits)
    have hquotient : 0 < rank / 2 ^ fractionBits := Nat.div_pos hge (Nat.two_pow_pos _)
    have hdiv : rank / 2 ^ fractionBits = p + 1 := by omega
    rw [hdiv] at hsplit
    rw [Nat.mul_succ, Nat.mul_comm] at hsplit
    omega

/-- A magnitude other than zero has units. -/
theorem units_ne_zero {rank : Nat} (h : rank ≠ 0) : units rank ≠ 0 := by
  intro hzero
  have hrank := rankOfUnits_units rank
  rw [hzero] at hrank
  exact h (hrank.symm.trans (by decide))

/-- A finite magnitude is below `2 ^ 1024`. -/
theorem units_lt {rank : Nat} (h : rank < infinityRank) : units rank < 2 ^ (unitBits + 1024) := by
  have hbinade := two_pow_fractionBits
  have hinfinity : infinityRank = 2047 * 2 ^ fractionBits := rfl
  have hpow : ∀ {s p q : Nat}, s < 2 ^ (fractionBits + 1) → fractionBits + 1 + p ≤ q →
      s * 2 ^ p < 2 ^ q := by
    intro s p q hs hq
    calc s * 2 ^ p < 2 ^ (fractionBits + 1) * 2 ^ p :=
          Nat.mul_lt_mul_of_pos_right hs (Nat.two_pow_pos p)
      _ = 2 ^ (fractionBits + 1 + p) := (Nat.pow_add ..).symm
      _ ≤ 2 ^ q := Nat.pow_le_pow_right (by decide) hq
  have hbits : fractionBits = 52 ∧ unitBits = 1074 := ⟨rfl, rfl⟩
  have hsucc : 2 ^ (fractionBits + 1) = 2 ^ fractionBits * 2 := Nat.pow_succ ..
  rcases Nat.lt_or_ge rank (2 ^ fractionBits) with hlt | hge
  · rw [units_of_lt hlt]
    have hlow := hpow (s := rank) (p := 0) (q := unitBits + 1024) (by omega) (by omega)
    rwa [Nat.pow_zero, Nat.mul_one] at hlow
  · rw [units_of_le hge]
    refine hpow (by omega) ?_
    have : rank / 2 ^ fractionBits < 2047 :=
      Nat.div_lt_of_lt_mul (by rwa [hinfinity, Nat.mul_comm] at h)
    omega

/-- The rank of units is not finite from halfway between the largest finite magnitude and the next
power of two on. -/
theorem infinityRank_le_rankOfUnits {n top : Nat} (htop : top = 2044) :
    infinityRank ≤ rankOfUnits n 1 ↔ (2 ^ 54 - 1) * 2 ^ top ≤ n := by
  have hinfinity : infinityRank = 2047 * 2 ^ 52 := rfl
  have hrank : rankOfUnits n 1
      = (Nat.log2 n - 52) * 2 ^ 52 + roundDiv n (2 ^ (Nat.log2 n - 52)) := by
    simp only [rankOfUnits, Nat.div_one, Nat.one_mul, show fractionBits = 52 from rfl]
  rw [hinfinity, hrank]
  generalize hpower : Nat.log2 n - 52 = power
  rcases Nat.lt_trichotomy power (top + 1) with hlt | rfl | hgt
  · -- The significand may be rounded up, but stays in the binade below the last one.
    have hn : n < 2 ^ 53 * 2 ^ power := by
      rw [← Nat.pow_add]
      exact Nat.lt_of_lt_of_le Nat.lt_log2_self (Nat.pow_le_pow_right (by decide) (by omega))
    have hquotient : n / 2 ^ power < 2 ^ 53 := (Nat.div_lt_iff_lt_mul (Nat.two_pow_pos _)).2 hn
    have hround := roundDiv_le n (2 ^ power)
    have hbelow : n < (2 ^ 54 - 1) * 2 ^ top :=
      calc n < 2 ^ 53 * 2 ^ power := hn
        _ ≤ 2 ^ 53 * 2 ^ top :=
          Nat.mul_le_mul_left _ (Nat.pow_le_pow_right (by decide) (by omega))
        _ ≤ (2 ^ 54 - 1) * 2 ^ top := Nat.mul_le_mul_right _ (by decide)
    refine iff_of_false ?_ (Nat.not_le.2 hbelow)
    omega
  · -- In the last binade it is rounded up to the next power of two, or not.
    have htwice : (2 * (2 ^ 53 - 1) + 1) * 2 ^ (top + 1) = 2 * ((2 ^ 54 - 1) * 2 ^ top) := by
      rw [Nat.pow_succ]
      ring
    have hround : 2 ^ 53 - 1 < roundDiv n (2 ^ (top + 1)) ↔ _ :=
      lt_roundDiv_iff (Nat.two_pow_pos _) (by decide)
    rw [htwice, Nat.mul_le_mul_left_iff (by decide)] at hround
    rw [← hround]
    omega
  · have hn : 2 ^ 52 * 2 ^ power ≤ n := by
      rw [← Nat.pow_add, show 52 + power = Nat.log2 n by omega]
      exact Nat.log2_self_le (by rintro rfl; simp at hpower; omega)
    have hquotient : 2 ^ 52 ≤ n / 2 ^ power := (Nat.le_div_iff_mul_le (Nat.two_pow_pos _)).2 hn
    have hround := le_roundDiv n (2 ^ power)
    have habove : (2 ^ 54 - 1) * 2 ^ top ≤ n :=
      calc (2 ^ 54 - 1) * 2 ^ top ≤ 2 ^ 54 * 2 ^ top := Nat.mul_le_mul_right _ (by decide)
        _ ≤ 2 ^ 52 * 2 ^ power := by
          rw [← Nat.pow_add, ← Nat.pow_add]
          exact Nat.pow_le_pow_right (by decide) (by omega)
        _ ≤ n := hn
    have hsecond : 2046 * 2 ^ 52 ≤ power * 2 ^ 52 := Nat.mul_le_mul_right _ (by omega)
    refine iff_of_true ?_ habove
    omega

/-- The least magnitude of an integer that is not rounded to a finite number: halfway between the
largest one and the next power of two, `2 ^ 1024 - 2 ^ 970`. -/
def overflowBound : Nat := (2 ^ 54 - 1) * 2 ^ 970

/-- The bound in units. -/
theorem overflowBound_mul : overflowBound * 2 ^ unitBits = (2 ^ 54 - 1) * 2 ^ (970 + unitBits) := by
  unfold overflowBound
  rw [Nat.mul_assoc, Nat.pow_add]

/-- A rank makes a finite number if it is below that of infinity. -/
theorem finite?_ofRank_eq_none_iff {negative : Bool} {rank : Nat} :
    (ofRank negative rank).finite? = none ↔ infinityRank ≤ rank := by
  unfold ofRank
  split
  · next h => simp [finite?, Nat.not_le.2 h]
  · next h => simp [finite?, Nat.not_lt.1 h]

/-- An integer is rounded to a finite number unless its magnitude reaches the bound. -/
theorem ofInt?_eq_none_iff {i : Int} : ofInt? i = none ↔ overflowBound ≤ i.natAbs := by
  unfold ofInt?
  rw [finite?_ofRank_eq_none_iff, infinityRank_le_rankOfUnits (show 970 + unitBits = 2044 from rfl),
    ← overflowBound_mul, Nat.mul_le_mul_right_iff (Nat.two_pow_pos _)]

/-- A decimal may be written with more zeros. -/
theorem rankOfDecimal_mul_pow (coefficient k : Nat) (e : Int) :
    rankOfDecimal (coefficient * 10 ^ k) (e - k) = rankOfDecimal coefficient e := by
  by_cases h : coefficient = 0
  · simp [h, rankOfDecimal]
  have hne : coefficient * 10 ^ k ≠ 0 := Nat.mul_ne_zero h (pow_ne_zero _ (by decide))
  have hplace : e - k + (Digits.count (coefficient * 10 ^ k) : Int)
      = e + Digits.count coefficient := by
    rw [Digits.count_mul_pow h]
    omega
  have hpow : ∀ j, 0 < 10 ^ j := fun j => Nat.pow_pos (by decide)
  simp only [rankOfDecimal, hplace, hne, h, if_false]
  split
  · rfl
  split
  · rfl
  -- A negative exponent is in the denominator; taking off zeros may bring it there.
  by_cases hneg : e < 0
  · have hexponent : (-(e - k)).toNat = (-e).toNat + k := by omega
    rw [if_pos (by omega), if_pos hneg, hexponent, Nat.pow_add, rankOfRatio_mul_right (hpow k)]
  · rw [if_neg hneg]
    split
    · have hk : k = e.toNat + (-(e - k)).toNat := by omega
      conv => lhs; arg 1; rw [hk, Nat.pow_add, ← Nat.mul_assoc]
      conv => lhs; arg 2; rw [← Nat.one_mul (10 ^ _)]
      exact rankOfRatio_mul_right (hpow _) _ _
    · have hexponent : e.toNat = k + (e - k).toNat := by omega
      rw [hexponent, Nat.pow_add, ← Nat.mul_assoc]

end Binary64

end Delimited
