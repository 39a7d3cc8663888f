import TableFlow.Proofs.Grouping.Projection

/-!
# Conflicts are counted by groups

A summary of conflicts is made group by group, and within a group value by value, each of which
counts the others. What comes out is symmetric.

* `ConflictSummary.conflictOf_addGroup` is what one group changes, and
  `ConflictSummary.keys_addGroup` which values it adds;
* `ConflictSummary.Summarizes` says what a summary is to the groups that it has seen.
  `Summarizes.addGroup` is one more group, and `summarizes_ofGroups` any number of them, of which
  `ofGroups_filter` drops those without a conflict;
* `Grouping.conflicts_eq_ok_iff` finds these groups in a grouping;
* `conflicts_counted` is the statement about the summary of a grouping.
-/

namespace TableFlow

/-! ## One more group -/

/-- The conflicts of a value before its first one. -/
def Conflict.unmet : Conflict := ⟨0, Counter.empty⟩

/-- One more group, in which the value meets others. -/
def Conflict.meet (c : Conflict) (others : List Value) : Conflict :=
  ⟨c.count + 1, c.partners.extend others⟩

namespace ConflictSummary

variable {s : ConflictSummary} {seen : List (List Value)}

/-- The conflicts of a value, none if it is not listed. -/
def conflictOf (s : ConflictSummary) (v : Value) : Conflict := (s.get? v).getD .unmet

theorem conflictOf_of_get? {v : Value} {c : Conflict} (h : s.get? v = some c) :
    s.conflictOf v = c := by
  rw [conflictOf, h, Option.getD_some]

theorem addEntry_eq_upsert (v : Value) (others : List Value) (entries : List (Value × Conflict)) :
    addEntry v others entries =
      Entries.upsert v (Conflict.unmet.meet others) (·.meet others) entries := by
  induction entries with
  | nil => rfl
  | cons entry rest ih =>
    obtain ⟨w, c⟩ := entry
    rw [addEntry, Entries.upsert, ih]
    rfl

/-- A group with at least two values updates one of them after the other. -/
theorem addGroup_entries {distinct : List Value} (h : 2 ≤ distinct.length) :
    (s.addGroup distinct).entries = distinct.foldl (fun entries v =>
      Entries.upsert v (Conflict.unmet.meet (distinct.filter (· ≠ v)))
        (·.meet (distinct.filter (· ≠ v))) entries) s.entries := by
  rw [addGroup, if_neg (Nat.not_lt.mpr h)]
  simp only [addEntry_eq_upsert]

theorem addGroup_of_length_lt {distinct : List Value} (h : distinct.length < 2) :
    s.addGroup distinct = s := by
  rw [addGroup, if_pos h]

/-- The values of a group with at least two of them are counted once more, each with the others. -/
theorem conflictOf_addGroup (s : ConflictSummary) (vs : List Value) (v : Value) :
    (s.addGroup vs.eraseDups).conflictOf v =
      if 2 ≤ vs.toFinset.card ∧ v ∈ vs then
        (s.conflictOf v).meet (vs.eraseDups.filter (· ≠ v))
      else s.conflictOf v := by
  rw [← FirstSeen.length_eraseDups]
  by_cases hcard : 2 ≤ vs.eraseDups.length
  · rw [conflictOf, get?, addGroup_entries hcard,
      Entries.lookup_updates (FirstSeen.nodup_eraseDups vs)]
    simp only [List.mem_eraseDups, hcard, true_and]
    split
    · rw [Option.getD_some, conflictOf, get?]
      cases s.entries.lookup v <;> rfl
    · rfl
  · rw [addGroup_of_length_lt (Nat.lt_of_not_le hcard), if_neg fun h => hcard h.1]

/-- The values of such a group are listed behind those that were met before. -/
theorem keys_addGroup {met : List Value} (hkeys : s.entries.map Prod.fst = met.eraseDups)
    (vs : List Value) : (s.addGroup vs.eraseDups).entries.map Prod.fst =
      (met ++ if 2 ≤ vs.toFinset.card then vs else []).eraseDups := by
  rw [← FirstSeen.length_eraseDups]
  split
  · next hcard =>
    have hmet : vs.eraseDups.removeAll met.eraseDups = vs.eraseDups.removeAll met := by
      refine List.filter_congr fun v _ => ?_
      simp only [List.elem_eq_mem, List.mem_eraseDups]
    rw [addGroup_entries hcard, Entries.keys_updates, List.map_id', hkeys, hmet,
      ← List.eraseDups_append, FirstSeen.eraseDups_append_eraseDups]
  · next hcard =>
    rw [addGroup_of_length_lt (Nat.lt_of_not_le hcard), hkeys, List.append_nil]

/-! ## Any number of groups -/

/-- What a summary is to the groups that it has seen, given by their values: the values of groups
with at least two of them are listed in the order in which they were first met, each with the
number of these groups, and with the number of groups that it shares with any other value. -/
structure Summarizes (s : ConflictSummary) (seen : List (List Value)) : Prop where
  keys : s.entries.map Prod.fst =
    ((seen.filter fun vs => 2 ≤ vs.toFinset.card).flatMap id).eraseDups
  count : ∀ v, (s.conflictOf v).count = seen.countP fun vs => 2 ≤ vs.toFinset.card ∧ v ∈ vs
  shared : ∀ v w, w ≠ v → (s.conflictOf v).partners.get w = seen.countP fun vs => v ∈ vs ∧ w ∈ vs
  partner : ∀ v w, (s.conflictOf v).partners.contains w = true ↔
    w ≠ v ∧ ∃ vs ∈ seen, v ∈ vs ∧ w ∈ vs

theorem two_le_card_of_mem {vs : List Value} {v w : Value} (hne : w ≠ v) (hv : v ∈ vs)
    (hw : w ∈ vs) : 2 ≤ vs.toFinset.card :=
  Finset.one_lt_card.mpr ⟨w, List.mem_toFinset.mpr hw, v, List.mem_toFinset.mpr hv, hne⟩

/-- Different values count each other once in a group. -/
theorem count_others {vs : List Value} {v w : Value} (hne : w ≠ v) :
    (vs.eraseDups.filter (· ≠ v)).count w = if w ∈ vs then 1 else 0 := by
  rw [List.count_filter (by simpa using hne), (FirstSeen.nodup_eraseDups vs).count]
  simp only [List.mem_eraseDups]

namespace Summarizes

theorem empty : Summarizes ConflictSummary.empty [] where
  keys := rfl
  count _ := rfl
  shared _ _ _ := rfl
  partner v w := by simp [conflictOf, get?, ConflictSummary.empty, Conflict.unmet, Counter.contains,
    Counter.empty]

/-- A summary that has seen some groups is shown one more. -/
theorem addGroup (h : s.Summarizes seen) (vs : List Value) :
    Summarizes (s.addGroup (Counter.ofList vs).keys) (seen ++ [vs]) := by
  rw [Counter.keys_ofList]
  constructor
  case keys =>
    rw [keys_addGroup h.keys, List.filter_append, List.flatMap_append]
    by_cases hcard : 2 ≤ vs.toFinset.card <;> simp [hcard]
  case count =>
    intro v
    rw [conflictOf_addGroup, List.countP_append, List.countP_singleton, ← h.count v]
    by_cases hmeets : 2 ≤ vs.toFinset.card ∧ v ∈ vs
    · rw [if_pos hmeets, if_pos (by simpa using hmeets)]
      rfl
    · rw [if_neg hmeets, if_neg (by simpa using hmeets), Nat.add_zero]
  case shared =>
    intro v w hne
    rw [conflictOf_addGroup, List.countP_append, List.countP_singleton, ← h.shared v w hne]
    by_cases hboth : v ∈ vs ∧ w ∈ vs
    · have hcard := two_le_card_of_mem hne hboth.1 hboth.2
      rw [if_pos ⟨hcard, hboth.1⟩, Conflict.meet, Counter.get_extend, count_others hne,
        if_pos hboth.2, if_pos (by simpa using hboth)]
    · have hnot : ¬decide (v ∈ vs ∧ w ∈ vs) = true := by rwa [decide_eq_true_iff]
      rw [if_neg hnot, Nat.add_zero]
      split
      · next hmeets =>
        have hw : w ∉ vs := fun hw => hboth ⟨hmeets.2, hw⟩
        rw [Conflict.meet, Counter.get_extend, count_others hne, if_neg hw, Nat.add_zero]
      · rfl
  case partner =>
    intro v w
    rw [conflictOf_addGroup]
    have hmore : (∃ us ∈ seen ++ [vs], v ∈ us ∧ w ∈ us) ↔
        (∃ us ∈ seen, v ∈ us ∧ w ∈ us) ∨ v ∈ vs ∧ w ∈ vs := by
      simp [or_and_right, exists_or]
    rw [hmore, and_or_left, ← h.partner v w]
    by_cases hmeets : 2 ≤ vs.toFinset.card ∧ v ∈ vs
    · rw [if_pos hmeets, Conflict.meet, Counter.contains_extend, List.mem_filter,
        List.mem_eraseDups, decide_eq_true_iff]
      simp only [hmeets.2, true_and, and_comm]
    · rw [if_neg hmeets]
      refine (or_iff_left ?_).symm
      rintro ⟨hne, hv, hw⟩
      exact hmeets ⟨two_le_card_of_mem hne hv hw, hv⟩

/-- A summary that has seen some groups is shown others, one after the other. -/
theorem foldl (h : s.Summarizes seen) (groups : List (List Value)) :
    Summarizes (groups.foldl (fun s vs => s.addGroup (Counter.ofList vs).keys) s)
      (seen ++ groups) := by
  induction groups generalizing seen s with
  | nil => rwa [List.append_nil]
  | cons vs groups ih =>
    have hrest := ih (h.addGroup vs)
    rwa [List.append_assoc] at hrest

theorem exists_get?_iff (h : s.Summarizes seen) (v : Value) :
    (∃ c, s.get? v = some c) ↔ ∃ vs ∈ seen, v ∈ vs ∧ 2 ≤ vs.toFinset.card := by
  rw [get?, Entries.exists_lookup_iff, h.keys, List.mem_eraseDups, List.mem_flatMap]
  simp only [List.mem_filter, decide_eq_true_eq, id_eq]
  exact exists_congr fun vs => and_assoc.trans (and_congr_right' and_comm)

/-- Values count each other alike. -/
theorem partners_comm (h : s.Summarizes seen) {v w : Value} {c d : Conflict}
    (hv : s.get? v = some c) (hw : s.get? w = some d) : c.partners.get w = d.partners.get v := by
  by_cases hne : w = v
  · subst hne
    rw [hv] at hw
    rw [Option.some.inj hw]
  · rw [← conflictOf_of_get? hv, ← conflictOf_of_get? hw, h.shared v w hne,
      h.shared w v (Ne.symm hne)]
    simp only [and_comm]

end Summarizes

/-- The summary of groups that are given by their values. -/
def ofGroups (groups : List (List Value)) : ConflictSummary :=
  groups.foldl (fun s vs => s.addGroup (Counter.ofList vs).keys) empty

theorem summarizes_ofGroups (groups : List (List Value)) : (ofGroups groups).Summarizes groups :=
  Summarizes.empty.foldl groups

/-- Groups of fewer than two values leave no trace. -/
theorem ofGroups_filter (groups : List (List Value)) :
    ofGroups (groups.filter fun vs => 2 ≤ vs.toFinset.card) = ofGroups groups := by
  rw [ofGroups, ofGroups, List.foldl_filter]
  congr 1
  funext s vs
  rw [Counter.keys_ofList, ← FirstSeen.length_eraseDups]
  split
  · rfl
  · next hcard =>
    rw [decide_eq_true_iff, Nat.not_le] at hcard
    exact (addGroup_of_length_lt hcard).symm

end ConflictSummary

/-! ## The groups of a grouping -/

namespace Grouping

variable {g : Grouping} {columns : List ColumnRef} {summary : ConflictSummary}

/-- The values of some columns in the rows of a group, in the order of its positions. -/
def valuesOf (g : Grouping) (positions : List Nat) (group : Value × List Nat) : List Value :=
  group.2.map (g.table.keyAt positions)

/-- The different values among them. -/
def distinctOf (g : Grouping) (positions : List Nat) (group : Value × List Nat) : Finset Value :=
  (g.valuesOf positions group).toFinset

/-- The loop over the groups goes through exactly if all positions lie in the table. -/
theorem foldlM_eq_ok_iff {t : Table} {positions : List Nat} {groups : List (Value × List Nat)}
    {s : ConflictSummary} (hlt : ∀ pos ∈ positions, pos < t.schema.width) :
    groups.foldlM (fun s (group : Value × List Nat) =>
        (projected t positions group.2).map fun vs => s.addGroup (Counter.ofList vs).keys) s =
      .ok summary ↔
      (∀ group ∈ groups, ∀ pos ∈ group.2, pos < t.size) ∧
        (groups.map fun group => group.2.map (t.keyAt positions)).foldl
          (fun s vs => s.addGroup (Counter.ofList vs).keys) s = summary := by
  induction groups generalizing s with
  | nil =>
    rw [List.foldlM_nil, List.map_nil, List.foldl_nil]
    simp [pure, Except.pure]
  | cons group groups ih =>
    rw [List.foldlM_cons, List.forall_mem_cons]
    by_cases hrange : ∀ pos ∈ group.2, pos < t.size
    · rw [projected_eq hlt hrange, List.map_cons, List.foldl_cons]
      rw [and_iff_right hrange]
      exact ih
    · cases hprojected : projected t positions group.2 with
      | error e => simp [hrange, Except.map, bind, Except.bind]
      | ok vs => exact absurd (lt_size_of_projected hprojected) hrange

/-- A grouping has a summary if the columns resolve and all positions lie in its table, and it is
that of the values of its groups. -/
theorem conflicts_eq_ok_iff : g.conflicts columns = .ok summary ↔
    ∃ positions, g.table.schema.resolveAll columns = .ok positions ∧
      (∀ group ∈ g.groups, ∀ pos ∈ group.2, pos < g.table.size) ∧
      ConflictSummary.ofGroups (g.groups.map (g.valuesOf positions)) = summary := by
  rw [conflicts]
  cases hresolve : g.table.schema.resolveAll columns with
  | error e => simp
  | ok positions =>
    obtain ⟨-, hlt⟩ := Schema.lt_width_of_resolveAll hresolve
    simp only [Except.ok.injEq, exists_eq_left']
    exact foldlM_eq_ok_iff hlt

/-- The summary of a grouping counts by groups. A value is listed if it is in a group with at
least two values, and is counted once for every such group. Its partners are the other values of
its groups, each with the number of groups that hold both, so values count each other alike. The
values are listed in the order in which these groups have them. -/
theorem conflicts_counted (h : g.conflicts columns = .ok summary) :
    ∃ positions, g.table.schema.resolveAll columns = .ok positions ∧
      (∀ group ∈ g.groups,
        projected g.table positions group.2 = .ok (g.valuesOf positions group)) ∧
      (∀ v, (∃ c, summary.get? v = some c) ↔ ∃ group ∈ g.groups,
        v ∈ g.distinctOf positions group ∧ 2 ≤ (g.distinctOf positions group).card) ∧
      (∀ v c, summary.get? v = some c →
        (c.count = g.groups.countP fun group =>
          v ∈ g.distinctOf positions group ∧ 2 ≤ (g.distinctOf positions group).card) ∧
        (∀ w, w ≠ v → c.partners.get w = g.groups.countP fun group =>
          v ∈ g.distinctOf positions group ∧ w ∈ g.distinctOf positions group) ∧
        (∀ w, c.partners.contains w = true ↔ w ≠ v ∧ ∃ group ∈ g.groups,
          v ∈ g.distinctOf positions group ∧ w ∈ g.distinctOf positions group)) ∧
      (∀ v w c d, summary.get? v = some c → summary.get? w = some d →
        c.partners.get w = d.partners.get v) ∧
      summary.entries.map Prod.fst =
        ((g.groups.filter fun group => 2 ≤ (g.distinctOf positions group).card).flatMap
          (g.valuesOf positions)).eraseDups := by
  obtain ⟨positions, hresolve, hrange, hgroups⟩ := conflicts_eq_ok_iff.mp h
  obtain ⟨-, hlt⟩ := Schema.lt_width_of_resolveAll hresolve
  have hsum : summary.Summarizes (g.groups.map (g.valuesOf positions)) :=
    hgroups ▸ ConflictSummary.summarizes_ofGroups _
  refine ⟨positions, hresolve, fun group hgroup => projected_eq hlt (hrange group hgroup), ?_,
    fun v c hget => ⟨?_, fun w hne => ?_, fun w => ?_⟩, fun v w c d => hsum.partners_comm, ?_⟩
  · intro v
    rw [hsum.exists_get?_iff]
    simp only [List.mem_map, exists_exists_and_eq_and, distinctOf, List.mem_toFinset]
  · rw [← ConflictSummary.conflictOf_of_get? hget, hsum.count v, List.countP_map]
    simp only [Function.comp_def, distinctOf, List.mem_toFinset, and_comm]
  · rw [← ConflictSummary.conflictOf_of_get? hget, hsum.shared v w hne, List.countP_map]
    simp only [Function.comp_def, distinctOf, List.mem_toFinset]
  · rw [← ConflictSummary.conflictOf_of_get? hget, hsum.partner v w]
    simp only [List.mem_map, exists_exists_and_eq_and, distinctOf, List.mem_toFinset]
  · rw [hsum.keys, List.filter_map, List.flatMap_map]
    rfl

end Grouping

/-- Fruits on shelves. Some of them are on two shelves, or twice on one. -/
def Grouping.shelves : Grouping :=
  ⟨Table.fruits, [(.str "left", [0, 1]), (.str "right", [1, 2, 1]), (.null, [0, 0])]⟩

/-- The middle weight meets both others, which never meet each other. -/
theorem shelves_conflicts :
    ∃ summary, Grouping.shelves.conflicts [.name "weight"] = .ok summary ∧
      summary.entries.map Prod.fst = [.int 1, .int 2, .int 3] ∧
      ∃ c d, summary.get? (.int 2) = some c ∧ summary.get? (.int 3) = some d ∧
        c.count = 2 ∧ c.partners.get (.int 3) = 1 ∧ d.partners.get (.int 2) = 1 ∧
        d.partners.contains (.int 1) = false ∧ d.partners.contains (.int 3) = false := by
  obtain ⟨summary, hsummary⟩ :
      ∃ summary, Grouping.shelves.conflicts [.name "weight"] = .ok summary := ⟨_, rfl⟩
  obtain ⟨positions, hresolve, -, hlisted, hcounts, hcomm, hkeys⟩ :=
    Grouping.conflicts_counted hsummary
  obtain rfl : [1] = positions := Except.ok.inj hresolve
  obtain ⟨c, hc⟩ := (hlisted (.int 2)).mpr (by decide +kernel)
  obtain ⟨d, hd⟩ := (hlisted (.int 3)).mpr (by decide +kernel)
  obtain ⟨hcount, hshared, -⟩ := hcounts _ _ hc
  obtain ⟨-, -, hpartner⟩ := hcounts _ _ hd
  have hmiddle : c.partners.get (.int 3) = 1 :=
    (hshared (.int 3) (by decide)).trans (by decide +kernel)
  refine ⟨summary, hsummary, hkeys.trans (by decide +kernel), c, d, hc, hd,
    hcount.trans (by decide +kernel), hmiddle, (hcomm _ _ _ _ hc hd).symm.trans hmiddle, ?_, ?_⟩
  · rw [Bool.eq_false_iff, Ne, hpartner]
    decide +kernel
  · rw [Bool.eq_false_iff, Ne, hpartner]
    exact fun h => h.1 rfl

end TableFlow
