import TableFlow.Profile.Column
import TableFlow.Proofs.Value.Order

/-!
# Extremes

The extremes of values are found value by value. Among values of the exact order, which are all
but doubles, they are values themselves and bound all of them (`Extremes.bounds_of_ofValues?`),
so they do not depend on how often and in which order the values come (`Extremes.ofValues?_congr`).
-/

namespace TableFlow

/-- In the exact order, two values that are not above each other are the same. -/
theorem Value.cmp_ne_gt_antisymm {a b : Value} (hab : cmp a b ≠ .gt) (hba : cmp b a ≠ .gt) :
    a = b := by
  rw [cmp_swap a b] at hba
  cases h : cmp a b with
  | lt => simp [h] at hba
  | eq => exact cmp_eq_iff.mp h
  | gt => exact absurd h hab

theorem Value.cmp_self_ne_gt (a : Value) : cmp a a ≠ .gt := by
  rw [cmp_eq_iff.mpr rfl]
  decide

namespace Extremes

variable {r r' : Extremes} {v a b : Value} {vs ws : List Value}

theorem below_iff (h : a.label ≠ "float") : below a b = true ↔ Value.cmp a b = .lt := by
  unfold below
  split
  · exact absurd rfl h
  · exact beq_iff_eq

theorem above_iff (h : a.label ≠ "float") : above a b = true ↔ Value.cmp a b = .gt := by
  unfold above
  split
  · exact absurd rfl h
  · exact beq_iff_eq

theorem least_add (h : v.label ≠ "float") :
    (r.add v).least = if Value.cmp v r.least = .lt then v else r.least := by
  simp only [add, below_iff h]

theorem greatest_add (h : v.label ≠ "float") :
    (r.add v).greatest = if Value.cmp v r.greatest = .gt then v else r.greatest := by
  simp only [add, above_iff h]

/-- The extremes are among the values, and all values lie between them. -/
structure Bounds (r : Extremes) (vs : List Value) : Prop where
  least_mem : r.least ∈ vs
  greatest_mem : r.greatest ∈ vs
  least_le : ∀ v ∈ vs, Value.cmp r.least v ≠ .gt
  le_greatest : ∀ v ∈ vs, Value.cmp v r.greatest ≠ .gt

theorem bounds_singleton (v : Value) : Bounds ⟨v, v⟩ [v] where
  least_mem := List.mem_singleton_self v
  greatest_mem := List.mem_singleton_self v
  least_le := List.forall_mem_singleton.mpr (Value.cmp_self_ne_gt v)
  le_greatest := List.forall_mem_singleton.mpr (Value.cmp_self_ne_gt v)

/-- One more value is the new least one, the new greatest one, or between the old ones. -/
theorem Bounds.add (h : r.Bounds vs) (hv : v.label ≠ "float") :
    (r.add v).Bounds (v :: vs) where
  least_mem := by
    rw [least_add hv]
    split
    · exact List.mem_cons_self
    · exact List.mem_cons_of_mem v h.least_mem
  greatest_mem := by
    rw [greatest_add hv]
    split
    · exact List.mem_cons_self
    · exact List.mem_cons_of_mem v h.greatest_mem
  least_le := by
    rw [least_add hv, List.forall_mem_cons]
    split
    · next hless =>
      refine ⟨Value.cmp_self_ne_gt v, fun w hw => ?_⟩
      exact Value.cmp_ne_gt_trans (by simp [hless]) (h.least_le w hw)
    · next hnot =>
      refine ⟨?_, h.least_le⟩
      rw [Value.cmp_swap v r.least]
      cases hcmp : Value.cmp v r.least <;> simp_all
  le_greatest := by
    rw [greatest_add hv, List.forall_mem_cons]
    split
    · next hgreater =>
      refine ⟨Value.cmp_self_ne_gt v, fun w hw => ?_⟩
      refine Value.cmp_ne_gt_trans (h.le_greatest w hw) ?_
      rw [Value.cmp_swap v r.greatest, hgreater]
      decide
    · next hnot => exact ⟨hnot, h.le_greatest⟩

/-- The values may be told in any order, and more than once. -/
theorem Bounds.congr (h : r.Bounds vs) (hmem : ∀ v, v ∈ vs ↔ v ∈ ws) : r.Bounds ws where
  least_mem := (hmem _).mp h.least_mem
  greatest_mem := (hmem _).mp h.greatest_mem
  least_le v hv := h.least_le v ((hmem v).mpr hv)
  le_greatest v hv := h.le_greatest v ((hmem v).mpr hv)

/-- Values have only one least and one greatest value among them. -/
theorem Bounds.unique (h : r.Bounds vs) (h' : r'.Bounds vs) : r = r' := by
  have hleast : r.least = r'.least :=
    Value.cmp_ne_gt_antisymm (h.least_le _ h'.least_mem) (h'.least_le _ h.least_mem)
  have hgreatest : r.greatest = r'.greatest :=
    Value.cmp_ne_gt_antisymm (h'.le_greatest _ h.greatest_mem) (h.le_greatest _ h'.greatest_mem)
  cases r
  cases r'
  rw [mk.injEq]
  exact ⟨hleast, hgreatest⟩

theorem bounds_foldl_add (h : r.Bounds vs) (hws : ∀ v ∈ ws, v.label ≠ "float") :
    (ws.foldl Extremes.add r).Bounds (vs ++ ws) := by
  induction ws generalizing r vs with
  | nil => rwa [List.foldl_nil, List.append_nil]
  | cons w ws ih =>
    obtain ⟨hw, hrest⟩ := List.forall_mem_cons.mp hws
    refine (ih (h.add hw) hrest).congr fun v => ?_
    simp only [List.mem_append, List.mem_cons]
    tauto

/-- The extremes of values are among them and bound them all. -/
theorem bounds_of_ofValues? (h : ofValues? vs = some r) (hvs : ∀ v ∈ vs, v.label ≠ "float") :
    r.Bounds vs := by
  cases vs with
  | nil => cases h
  | cons v vs =>
    cases h
    exact bounds_foldl_add (bounds_singleton v) (List.forall_mem_cons.mp hvs).2

theorem ofValues?_isSome_iff : (ofValues? vs).isSome = true ↔ vs ≠ [] := by
  cases vs <;> simp [ofValues?]

/-- The extremes depend on which values there are only. -/
theorem ofValues?_congr (hvs : ∀ v ∈ vs, v.label ≠ "float") (hmem : ∀ v, v ∈ vs ↔ v ∈ ws) :
    ofValues? vs = ofValues? ws := by
  have hws : ∀ v ∈ ws, v.label ≠ "float" := fun v hv => hvs v ((hmem v).mpr hv)
  by_cases hnone : vs = []
  · subst hnone
    have hempty : ws = [] := by
      rw [List.eq_nil_iff_forall_not_mem]
      exact fun v hv => List.not_mem_nil ((hmem v).mpr hv)
    rw [hempty]
  · have hsome : ws ≠ [] := by
      rintro rfl
      obtain ⟨v, hv⟩ := List.exists_mem_of_ne_nil vs hnone
      exact List.not_mem_nil ((hmem v).mp hv)
    obtain ⟨r, hr⟩ := Option.isSome_iff_exists.mp (ofValues?_isSome_iff.mpr hnone)
    obtain ⟨r', hr'⟩ := Option.isSome_iff_exists.mp (ofValues?_isSome_iff.mpr hsome)
    have hbounds := (bounds_of_ofValues? hr hvs).congr hmem
    rw [hr, hr', hbounds.unique (bounds_of_ofValues? hr' hws)]

end Extremes

end TableFlow
