/-!
# Numbers in bits

A number in a fixed number of bits, the highest first, and a run of items each of which is a number
of the same width. Bits that are cut in two are the bits of the quotient and of the number, so that
the bits of several numbers are those of one, whatever the widths it is cut into (`ofNat_add`).
-/

namespace Delimited

-- Powers are those of core, whatever else is imported.
attribute [local instance (high)] instPowNat

namespace Bits

/-- The lowest `width` bits of a number, the highest of them first. -/
def ofNat (width n : Nat) : List Bool := (List.range width).reverse.map n.testBit

/-- The bits of the items' numbers, one item behind the other. -/
def ofList {α : Type} (width : Nat) (number : α → Nat) (items : List α) : List Bool :=
  items.flatMap fun a => ofNat width (number a)

/-- There are as many bits as the width says. -/
@[simp] theorem length_ofNat (width n : Nat) : (ofNat width n).length = width := by simp [ofNat]

/-- Higher bits do not count. -/
theorem ofNat_congr {width m n : Nat} (h : m % 2 ^ width = n % 2 ^ width) :
    ofNat width m = ofNat width n := by
  refine List.map_congr_left fun i hi => ?_
  have hlt : i < width := by simpa using hi
  have htest := congrArg (Nat.testBit · i) h
  simpa [Nat.testBit_mod_two_pow, hlt] using htest

/-- The bits of a number, cut in two. -/
theorem ofNat_add (v w n : Nat) : ofNat (v + w) n = ofNat v (n / 2 ^ w) ++ ofNat w n := by
  rw [Nat.add_comm, ofNat, List.range_add, List.reverse_append, List.map_append, ofNat, ofNat,
    ← List.map_reverse, List.map_map]
  simp [Nat.testBit_div_two_pow, Function.comp_def, Nat.add_comm w]

/-- The lowest bits of a multiple of the power of two are zero. -/
theorem ofNat_mul_two_pow (width n : Nat) :
    ofNat width (n * 2 ^ width) = List.replicate width false := by
  have hzero : ofNat width (n * 2 ^ width) = ofNat width 0 := ofNat_congr (by simp)
  rw [hzero]
  simp [ofNat, List.eq_replicate_iff]

/-- Numbers of the width are told apart by their bits. -/
theorem ofNat_inj {width m n : Nat} (hm : m < 2 ^ width) (hn : n < 2 ^ width)
    (h : ofNat width m = ofNat width n) : m = n := by
  refine Nat.eq_of_testBit_eq fun i => ?_
  rcases Nat.lt_or_ge i width with hi | hi
  · exact List.map_inj_left.1 h i (by simpa using hi)
  · have hpow : 2 ^ width ≤ 2 ^ i := Nat.pow_le_pow_right (by decide) hi
    rw [Nat.testBit_lt_two_pow (Nat.lt_of_lt_of_le hm hpow),
      Nat.testBit_lt_two_pow (Nat.lt_of_lt_of_le hn hpow)]

section Items

variable {α : Type} {width : Nat} {number : α → Nat}

/-- Each item has as many bits as the width says. -/
theorem length_ofList (items : List α) :
    (ofList width number items).length = width * items.length := by
  induction items with
  | nil => rfl
  | cons a items ih =>
    rw [ofList, List.flatMap_cons, List.length_append, length_ofNat, ← ofList, ih,
      List.length_cons, Nat.mul_succ, Nat.add_comm]

/-- The bits of two runs, one behind the other. -/
theorem ofList_append (s t : List α) :
    ofList width number (s ++ t) = ofList width number s ++ ofList width number t :=
  List.flatMap_append

/-- The bits of the items at the front. -/
theorem ofList_take {k : Nat} {items : List α} (hk : k ≤ items.length) :
    ofList width number (items.take k) = (ofList width number items).take (width * k) := by
  have hlength : (ofList width number (items.take k)).length = width * k := by
    rw [length_ofList, List.length_take_of_le hk]
  conv => rhs; rw [← List.take_append_drop k items, ofList_append]
  rw [List.take_left' hlength]

/-- Runs of the same length are told apart by their bits if the items are. -/
theorem ofList_inj {s t : List α}
    (hnumber : ∀ a ∈ s, ∀ b ∈ t, ofNat width (number a) = ofNat width (number b) → a = b)
    (hlength : s.length = t.length) (h : ofList width number s = ofList width number t) :
    s = t := by
  induction s generalizing t with
  | nil => exact (List.length_eq_zero_iff.1 hlength.symm).symm
  | cons a s ih =>
    cases t with
    | nil => cases hlength
    | cons b t =>
      obtain ⟨hfirst, hrest⟩ := List.append_inj h (by rw [length_ofNat, length_ofNat])
      have hitem := hnumber a List.mem_cons_self b List.mem_cons_self hfirst
      have hitems := ih (fun x hx y hy => hnumber x (List.mem_cons_of_mem _ hx) y
        (List.mem_cons_of_mem _ hy)) (Nat.succ.inj hlength) hrest
      rw [hitem, hitems]

end Items

end Bits

end Delimited
