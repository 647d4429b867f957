import Mathlib.Data.List.Forall2

/-!
# Results of steps that can fail

When a computation in `Except` gives a result and when it fails, in terms of its parts. Steps that
are made one after another fail with the first error, `FirstError`.
-/

namespace Except

variable {ε ε' α β : Type}

/-- Two steps give a result if the first one does and the second one does from there. -/
theorem bind_eq_ok {x : Except ε α} {f : α → Except ε β} {b : β} :
    x >>= f = .ok b ↔ ∃ a, x = .ok a ∧ f a = .ok b := by
  cases x with
  | error e => exact ⟨fun h => (nomatch h), fun ⟨_, h, _⟩ => (nomatch h)⟩
  | ok a => exact ⟨fun h => ⟨a, rfl, h⟩, fun ⟨_, h, hf⟩ => Except.ok.inj h ▸ hf⟩

/-- Two steps fail if the first one does, or the second one from there. -/
theorem bind_eq_error {x : Except ε α} {f : α → Except ε β} {e : ε} :
    x >>= f = .error e ↔ x = .error e ∨ ∃ a, x = .ok a ∧ f a = .error e := by
  cases x with
  | error e' =>
    constructor
    · intro h
      cases h
      exact .inl rfl
    · rintro (h | ⟨_, h, -⟩)
      · cases h
        rfl
      · cases h
  | ok a =>
    constructor
    · exact fun h => .inr ⟨a, rfl, h⟩
    · rintro (h | ⟨_, h, hf⟩)
      · cases h
      · exact Except.ok.inj h ▸ hf

/-- A mapped step gives a result if the step does. -/
theorem map_eq_ok {x : Except ε α} {f : α → β} {b : β} :
    x.map f = .ok b ↔ ∃ a, x = .ok a ∧ f a = b := by
  cases x <;> simp [Except.map]

/-- A mapped step fails if the step does. -/
theorem map_eq_error {x : Except ε α} {f : α → β} {e : ε} :
    x.map f = .error e ↔ x = .error e := by
  cases x <;> simp [Except.map]

/-- Renaming errors leaves a result alone. -/
theorem mapError_ok (f : ε → ε') (a : α) : (ok a : Except ε α).mapError f = .ok a := rfl

/-- Renaming errors renames an error. -/
theorem mapError_error (f : ε → ε') (e : ε) :
    (error e : Except ε α).mapError f = .error (f e) := rfl

/-- A step with renamed errors gives a result if the step does. -/
theorem mapError_eq_ok {x : Except ε α} {f : ε → ε'} {a : α} :
    x.mapError f = .ok a ↔ x = .ok a := by
  cases x <;> simp [mapError_ok, mapError_error]

/-- A renamed error is that of the step. -/
theorem mapError_eq_error {x : Except ε α} {f : ε → ε'} {e : ε'} :
    x.mapError f = .error e ↔ ∃ e', x = .error e' ∧ f e' = e := by
  cases x <;> simp [mapError_ok, mapError_error]

/-- A result is what is left without the error. -/
theorem toOption_eq_some {x : Except ε α} {a : α} : x.toOption = some a ↔ x = .ok a := by
  cases x <;> simp [Except.toOption]

/-- A returned value is the result. -/
theorem pure_eq_ok {a b : α} : (pure a : Except ε α) = .ok b ↔ a = b :=
  Except.ok.injEq a b ▸ Iff.rfl

/-- A step on each item of a list gives results if every one does. -/
theorem mapM_eq_ok {f : α → Except ε β} {l : List α} {r : List β} :
    l.mapM f = .ok r ↔ List.Forall₂ (fun a b => f a = .ok b) l r := by
  induction l generalizing r with
  | nil =>
    rw [List.mapM_nil, pure_eq_ok]
    constructor
    · rintro rfl; exact .nil
    · intro h; cases h; rfl
  | cons a l ih =>
    rw [List.mapM_cons, bind_eq_ok]
    constructor
    · rintro ⟨b, hb, h⟩
      obtain ⟨bs, hbs, h⟩ := bind_eq_ok.1 h
      cases pure_eq_ok.1 h
      exact .cons hb (ih.1 hbs)
    · intro h
      cases h with
      | cons hb hbs => exact ⟨_, hb, bind_eq_ok.2 ⟨_, ih.2 hbs, rfl⟩⟩

/-- Each result of a step on the items of a list is that of one of them. -/
theorem exists_of_mapM {f : α → Except ε β} {l : List α} {r : List β} (h : l.mapM f = .ok r) :
    ∀ b ∈ r, ∃ a ∈ l, f a = .ok b := by
  have hforall := mapM_eq_ok.1 h
  clear h
  induction hforall with
  | nil => exact List.forall_mem_nil _
  | cons hab _ ih =>
    refine List.forall_mem_cons.2 ⟨⟨_, List.mem_cons_self, hab⟩, fun b hb => ?_⟩
    obtain ⟨a, ha, hab⟩ := ih b hb
    exact ⟨a, List.mem_cons_of_mem _ ha, hab⟩

/-- A step on each item of a list gives results if the steps on one of them, on those before it and
on those behind it do. -/
theorem mapM_append_cons_eq_ok {f : α → Except ε β} {front back : List α} {a : α} {r : List β} :
    (front ++ a :: back).mapM f = .ok r ↔ ∃ init b rest, front.mapM f = .ok init ∧ f a = .ok b ∧
      back.mapM f = .ok rest ∧ r = init ++ b :: rest := by
  rw [List.mapM_append, List.mapM_cons, bind_eq_ok]
  constructor
  · rintro ⟨init, hinit, h⟩
    obtain ⟨last, hlast, h⟩ := bind_eq_ok.1 h
    obtain ⟨b, hb, hlast⟩ := bind_eq_ok.1 hlast
    obtain ⟨rest, hrest, hlast⟩ := bind_eq_ok.1 hlast
    cases pure_eq_ok.1 hlast
    exact ⟨init, b, rest, hinit, hb, hrest, (pure_eq_ok.1 h).symm⟩
  · rintro ⟨init, b, rest, hinit, hb, hrest, rfl⟩
    refine ⟨init, hinit, bind_eq_ok.2 ⟨b :: rest, ?_, rfl⟩⟩
    exact bind_eq_ok.2 ⟨b, hb, bind_eq_ok.2 ⟨rest, hrest, rfl⟩⟩

/-- A step on each item of a list and on one more gives results if the steps do. -/
theorem mapM_concat_eq_ok {f : α → Except ε β} {l : List α} {a : α}
    {r : List β} : (l ++ [a]).mapM f = .ok r ↔
      ∃ init b, l.mapM f = .ok init ∧ f a = .ok b ∧ r = init ++ [b] := by
  rw [mapM_append_cons_eq_ok]
  constructor
  · rintro ⟨init, b, rest, hinit, hb, hrest, rfl⟩
    cases hrest
    exact ⟨init, b, hinit, hb, rfl⟩
  · rintro ⟨init, b, hinit, hb, rfl⟩
    exact ⟨init, b, [], hinit, hb, rfl, rfl⟩

/-! ## The first error -/

/-- The first item of a list whose step fails, with its index and the error. -/
structure FirstError (step : Nat → α → Except ε β) (l : List α) (j : Nat) (a : α) (e : ε) :
    Prop where
  /-- The item stands there. -/
  item : l[j]? = some a
  /-- Its step fails. -/
  error : step j a = .error e
  /-- The steps of the items before it do not. -/
  before : ∀ i b, i < j → l[i]? = some b → ∃ r, step i b = .ok r

/-- No step of an empty list fails. -/
theorem not_firstError_nil {step : Nat → α → Except ε β} {j : Nat} {a : α} {e : ε} :
    ¬ FirstError step [] j a e := by
  intro h
  have hitem := h.item
  simp at hitem

/-- The first error is at the first item, or it is the first one behind it. -/
theorem firstError_cons {step : Nat → α → Except ε β} {a b : α} {l : List α} {j : Nat} {e : ε} :
    FirstError step (a :: l) j b e ↔ (j = 0 ∧ b = a ∧ step 0 a = .error e) ∨
      ∃ k r, j = k + 1 ∧ step 0 a = .ok r ∧ FirstError (fun i => step (i + 1)) l k b e := by
  constructor
  · intro h
    cases j with
    | zero =>
      have hitem : a = b := by simpa using h.item
      exact .inl ⟨rfl, hitem.symm, hitem ▸ h.error⟩
    | succ k =>
      obtain ⟨r, hr⟩ := h.before 0 a (Nat.succ_pos k) rfl
      refine .inr ⟨k, r, rfl, hr, h.item, h.error, fun i c hi hc => ?_⟩
      exact h.before (i + 1) c (Nat.succ_lt_succ hi) hc
  · rintro (⟨rfl, rfl, h⟩ | ⟨k, r, rfl, hr, h⟩)
    · exact ⟨rfl, h, fun i _ hi => absurd hi (Nat.not_lt_zero i)⟩
    · refine ⟨h.item, h.error, fun i c hi hc => ?_⟩
      cases i with
      | zero =>
        have hca : a = c := by simpa using hc
        exact ⟨r, hca ▸ hr⟩
      | succ i => exact h.before i c (Nat.lt_of_succ_lt_succ hi) hc

/-- A step on each item of a list fails with the first error. -/
theorem mapM_eq_error {f : α → Except ε β} {l : List α} {e : ε} :
    l.mapM f = .error e ↔ ∃ j a, FirstError (fun _ => f) l j a e := by
  induction l with
  | nil =>
    constructor
    · intro h
      rw [List.mapM_nil] at h
      cases h
    · rintro ⟨j, a, h⟩
      exact absurd h not_firstError_nil
  | cons a l ih =>
    rw [List.mapM_cons, bind_eq_error]
    constructor
    · rintro (h | ⟨b, hb, h⟩)
      · exact ⟨0, a, firstError_cons.2 (.inl ⟨rfl, rfl, h⟩)⟩
      · rcases bind_eq_error.1 h with h | ⟨_, _, h⟩
        · obtain ⟨j, c, hc⟩ := ih.1 h
          exact ⟨j + 1, c, firstError_cons.2 (.inr ⟨j, b, rfl, hb, hc⟩)⟩
        · cases h
    · rintro ⟨j, b, h⟩
      rcases firstError_cons.1 h with ⟨-, -, h⟩ | ⟨k, r, -, hr, h⟩
      · exact .inl h
      · exact .inr ⟨r, hr, bind_eq_error.2 (.inl (ih.2 ⟨k, b, h⟩))⟩

end Except
