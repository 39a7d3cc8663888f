import TableFlow.Proofs.Json.Layout

/-!
# The nesting limit of the reader

The reader counts down one level for every bracket or brace that it opens, so whatever text it
reads, the document is not nested deeper than the limit: `Json.depth_le_of_parse?`.

Values, items and members are read with the same fuel. `ReadsWithin` is what holds of all three of
them, and the induction is on the fuel, with one step for each.
-/

namespace TableFlow.Json

/-- With this fuel nothing is read that is nested deeper than what is left of the limit. -/
structure ReadsWithin (fuel : Nat) : Prop where
  value : ∀ {depth cs j rest}, value? fuel depth cs = some (j, rest) → j.depth ≤ depth
  items : ∀ {depth cs js rest}, items? fuel depth cs = some (js, rest) → depthItems js ≤ depth
  members : ∀ {depth cs ms rest}, members? fuel depth cs = some (ms, rest) →
    depthMembers ms ≤ depth

section Step

variable {fuel depth : Nat} {cs rest : List Char}

theorem ReadsWithin.value_succ (h : ReadsWithin fuel) {j : Json}
    (hread : value? (fuel + 1) depth cs = some (j, rest)) : j.depth ≤ depth := by
  rw [value?] at hread
  split at hread
  · cases hread
    exact Nat.zero_le _
  · cases hread
    exact Nat.zero_le _
  · cases hread
    exact Nat.zero_le _
  · obtain ⟨⟨s, r⟩, -, heq⟩ := Option.map_eq_some_iff.mp hread
    cases heq
    exact Nat.zero_le _
  · -- the bracket of an array takes one level, which its items count as well
    split at hread
    · cases hread
    · split at hread
      · cases hread
        simp [Json.depth, depthItems]
      · obtain ⟨⟨js, r⟩, hitems, heq⟩ := Option.map_eq_some_iff.mp hread
        cases heq
        exact Nat.succ_le_succ (h.items hitems)
  · split at hread
    · cases hread
    · split at hread
      · cases hread
        simp [Json.depth, depthMembers]
      · obtain ⟨⟨ms, r⟩, hmembers, heq⟩ := Option.map_eq_some_iff.mp hread
        cases heq
        exact Nat.succ_le_succ (h.members hmembers)
  · split at hread
    · cases hread
      exact Nat.zero_le _
    · cases hread

theorem ReadsWithin.items_succ (h : ReadsWithin fuel) {js : List Json}
    (hread : items? (fuel + 1) depth cs = some (js, rest)) : depthItems js ≤ depth := by
  rw [items?] at hread
  split at hread
  · cases hread
  · rename_i j after hvalue
    have hfirst := h.value hvalue
    split at hread
    · obtain ⟨⟨more, r⟩, hitems, heq⟩ := Option.map_eq_some_iff.mp hread
      cases heq
      exact Nat.max_le.mpr ⟨hfirst, h.items hitems⟩
    · cases hread
      exact Nat.max_le.mpr ⟨hfirst, Nat.zero_le _⟩
    · cases hread

theorem ReadsWithin.members_succ (h : ReadsWithin fuel) {ms : List (String × Json)}
    (hread : members? (fuel + 1) depth cs = some (ms, rest)) : depthMembers ms ≤ depth := by
  rw [members?] at hread
  split at hread
  · split at hread
    · cases hread
    · split at hread
      · split at hread
        · cases hread
        · rename_i j after hvalue
          have hfirst := h.value hvalue
          split at hread
          · obtain ⟨⟨more, r⟩, hmembers, heq⟩ := Option.map_eq_some_iff.mp hread
            cases heq
            exact Nat.max_le.mpr ⟨hfirst, h.members hmembers⟩
          · cases hread
            exact Nat.max_le.mpr ⟨hfirst, Nat.zero_le _⟩
          · cases hread
      · cases hread
  · cases hread

end Step

theorem readsWithin (fuel : Nat) : ReadsWithin fuel := by
  induction fuel with
  | zero => exact ⟨by simp [value?], by simp [items?], by simp [members?]⟩
  | succ fuel ih => exact ⟨ih.value_succ, ih.items_succ, ih.members_succ⟩

/-- No document is read that is nested deeper than the limit. -/
theorem depth_le_of_parse? {cs : List Char} {j : Json} (h : parse? cs = some j) :
    j.depth ≤ maxDepth := by
  rw [parse?] at h
  split at h
  · rename_i read rest hvalue
    split at h
    · cases h
      exact (readsWithin _).value hvalue
    · cases h
  · cases h

end TableFlow.Json
