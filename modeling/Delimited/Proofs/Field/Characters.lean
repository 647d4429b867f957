import Delimited.Field.Decode
import Delimited.Proofs.Result

/-!
# Fields are made of the line's characters

Splitting a line leaves out delimiters, quotes, escapes and line breaks, and puts nothing in their
place. So every character of a field stands in the line, whatever the marks are, and what no line
holds is in no field either.
-/

namespace Delimited

namespace Marks

variable {m : Marks} {record : Bool}

/-- Taking doubled and escaped characters for one adds none. -/
theorem decodeQuoted_subset (m : Marks) (t : Text) : m.decodeQuoted t ⊆ t := by
  fun_induction decodeQuoted m t with
  | case1 => exact List.Subset.refl _
  | case2 => exact List.Subset.refl _
  | case3 c d rest _ ih =>
    exact List.subset_cons_of_subset c (List.cons_subset_cons d ih)
  | case4 c d rest _ ih => exact List.cons_subset_cons c ih

/-- Nor does leaving out escapes. -/
theorem decodeBare_subset (m : Marks) (t : Text) : m.decodeBare t ⊆ t := by
  fun_induction decodeBare m t with
  | case1 => exact List.Subset.refl _
  | case2 => exact List.Subset.refl _
  | case3 c d rest _ ih =>
    exact List.subset_cons_of_subset c (List.cons_subset_cons d ih)
  | case4 c d rest _ ih => exact List.cons_subset_cons c ih

/-- What stands before a part of a text stands in the text. -/
theorem subset_of_beforeLast? {part t before : Text} (h : beforeLast? part t = some before) :
    before ⊆ t := by
  induction t generalizing before with
  | nil =>
    unfold beforeLast? at h
    split at h
    · cases h
      exact List.nil_subset _
    · cases h
  | cons c rest ih =>
    unfold beforeLast? at h
    split at h
    · next rest' hrest =>
      cases h
      exact List.cons_subset_cons c (ih hrest)
    · split at h
      · cases h
        exact List.nil_subset _
      · cases h

/-- A field stands for characters of its own. -/
theorem subset_of_decode {raw t : Text} (h : m.decode raw = .ok t) : t ⊆ raw := by
  unfold decode at h
  split at h
  · cases h
    exact List.Subset.refl _
  · next c rest =>
    split at h
    · split at h
      · cases h
      · next inner hinner =>
        cases h
        calc m.decodeQuoted inner ⊆ inner := decodeQuoted_subset m inner
          _ ⊆ rest := subset_of_beforeLast? hinner
          _ ⊆ c :: rest := List.subset_cons_self c rest
    · cases h
      exact decodeBare_subset m _

/-- The raw fields of a line are parts of it. -/
theorem subset_of_fields {t : Text} {raws : List Text} (h : m.fields record t = .ok raws) :
    ∀ raw ∈ raws, raw ⊆ t := by
  -- Each field stands at the start of what the fields before it leave.
  fun_induction fields m record t generalizing raws with
  | case1 => cases h
  | case2 t f hfield =>
    cases h
    rw [← append_of_field hfield]
    exact List.forall_mem_singleton.2 (List.subset_append_left f [])
  | case3 t f c rest hfield _ ih =>
    obtain ⟨others, hothers, rfl⟩ := Except.map_eq_ok.1 h
    rw [← append_of_field hfield]
    refine List.forall_mem_cons.2 ⟨List.subset_append_left f _, fun raw hraw => ?_⟩
    calc raw ⊆ rest := ih hothers raw hraw
      _ ⊆ c :: rest := List.subset_cons_self c rest
      _ ⊆ f ++ c :: rest := List.subset_append_right f _
  | case4 t f c rest hfield _ _ =>
    cases h
    rw [← append_of_field hfield]
    exact List.forall_mem_singleton.2 (List.subset_append_left f _)
  | case5 => cases h

/-- The fields of a line are made of its characters. -/
theorem subset_of_split {line : Text} {ts : List Text} (h : m.split record line = .ok ts) :
    ∀ t ∈ ts, t ⊆ line := by
  obtain ⟨raws, hraws, hdecode⟩ := Except.bind_eq_ok.1 h
  have hparts := subset_of_fields (Except.mapError_eq_ok.1 hraws)
  intro t ht
  obtain ⟨raw, hraw, hmeaning⟩ := Except.exists_of_mapM hdecode t ht
  exact List.Subset.trans (subset_of_decode hmeaning) (hparts raw hraw)

end Marks

end Delimited
