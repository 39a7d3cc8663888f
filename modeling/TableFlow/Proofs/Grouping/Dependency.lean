import TableFlow.Grouping.Violation
import TableFlow.Proofs.Grouping.Conflict
import TableFlow.Proofs.Grouping.Counting

/-!
# Violated dependencies

A dependency between columns is violated by rows that agree on the first ones and differ on the
others. The program finds them group by group.

* `Table.splits` says that a group of rows has more than one value, and `Table.splits_iff` says
  it of two rows;
* `addViolations_eq` is the loop that takes over such groups with the counters of their values,
  and `exists_violations` the whole call, beside the groups that share a key;
* `Partition.mem_splits_iff` is the definition over pairs of rows;
* `dependencyViolations_exact` is the statement about all that is found;
* `conflicts_of_violations` compares the conflicts in what is found with those in all groups.
-/

namespace TableFlow

/-! ## Groups with more than one value -/

namespace Table

variable {t : Table} {positions rows : List Nat}

/-- Whether the rows at some positions have more than one value in some columns. -/
def splits (t : Table) (positions rows : List Nat) : Bool :=
  decide (1 < (Counter.ofList (rows.map (t.keyAt positions))).size)

theorem splits_iff_card : t.splits positions rows = true ↔
    2 ≤ (rows.map (t.keyAt positions)).toFinset.card := by
  rw [splits, decide_eq_true_iff, Counter.size_eq_length_keys, Counter.keys_ofList,
    FirstSeen.length_eraseDups]
  exact Iff.rfl

theorem splits_iff : t.splits positions rows = true ↔
    ∃ p ∈ rows, ∃ q ∈ rows, t.keyAt positions p ≠ t.keyAt positions q := by
  rw [splits_iff_card, Nat.succ_le_iff, Finset.one_lt_card]
  simp

/-- More than one value takes more than one row. -/
theorem one_lt_length_of_splits (h : t.splits positions rows = true) : 1 < rows.length := by
  have hcard := splits_iff_card.mp h
  have hle := List.toFinset_card_le (rows.map (t.keyAt positions))
  rw [List.length_map] at hle
  omega

/-- Rows that differ from each other cannot all be like a third one. -/
theorem exists_ne_of_splits (h : t.splits positions rows = true) (p : Nat) :
    ∃ q ∈ rows, t.keyAt positions p ≠ t.keyAt positions q := by
  obtain ⟨a, ha, b, hb, hne⟩ := splits_iff.mp h
  by_cases hpa : t.keyAt positions p = t.keyAt positions a
  · exact ⟨b, hb, fun hpb => hne (hpa.symm.trans hpb)⟩
  · exact ⟨a, ha, hpa⟩

end Table

/-! ## The loop over the buckets -/

section Adding

variable {t : Table} {positions : List Nat} {done buckets : List (Value × List Nat)}
  {counts : List (Value × Counter Value)} {lhs rhs : List ColumnRef}

/-- A group with the counter of its values in some columns. -/
def countedGroup (t : Table) (positions : List Nat) (group : Value × List Nat) :
    Value × Counter Value :=
  (group.1, Counter.ofList (group.2.map (t.keyAt positions)))

/-- One step of the loop: a bucket with more than one value becomes a group. -/
theorem addViolations_cons {bucket : Value × List Nat}
    (hlt : ∀ pos ∈ positions, pos < t.schema.width)
    (hkeys : ((done ++ bucket :: buckets).map Prod.fst).Nodup)
    (hrange : ∀ pos ∈ bucket.2, pos < t.size) :
    addViolations positions ⟨⟨t, done⟩, counts, lhs, rhs⟩ (bucket :: buckets) =
      let kept := if t.splits positions bucket.2 then [bucket] else []
      addViolations positions
        ⟨⟨t, done ++ kept⟩, counts ++ kept.map (countedGroup t positions), lhs, rhs⟩ buckets := by
  obtain ⟨key, rows⟩ := bucket
  have hprojected : Grouping.projected t positions rows = .ok (rows.map (t.keyAt positions)) :=
    Grouping.projected_eq hlt hrange
  have hadd : (⟨⟨t, done⟩, counts, lhs, rhs⟩ : Violation).add key rows
      (some (Counter.ofList (rows.map (t.keyAt positions)))) = _ :=
    Violation.add_of_fresh (key_fresh hkeys) hrange
  rw [addViolations]
  simp only [hprojected]
  by_cases hmore : 1 < (Counter.ofList (rows.map (t.keyAt positions))).size
  · have hsplits : t.splits positions rows = true := decide_eq_true hmore
    rw [if_pos hmore, hadd, if_pos hsplits]
    rfl
  · have hsplits : ¬t.splits positions rows = true := by rwa [Table.splits, decide_eq_true_iff]
    rw [if_neg hmore, if_neg hsplits, List.map_nil, List.append_nil, List.append_nil]

/-- Exactly the buckets with more than one value become groups, each with its counter. -/
theorem addViolations_eq (hlt : ∀ pos ∈ positions, pos < t.schema.width)
    (hkeys : ((done ++ buckets).map Prod.fst).Nodup)
    (hrange : ∀ bucket ∈ buckets, ∀ pos ∈ bucket.2, pos < t.size) :
    let kept := buckets.filter fun bucket => t.splits positions bucket.2
    addViolations positions ⟨⟨t, done⟩, counts, lhs, rhs⟩ buckets =
      .ok ⟨⟨t, done ++ kept⟩, counts ++ kept.map (countedGroup t positions), lhs, rhs⟩ := by
  intro kept
  induction buckets generalizing done counts with
  | nil => simp only [addViolations, kept, List.filter_nil, List.map_nil, List.append_nil]
  | cons bucket rest ih =>
    obtain ⟨hbucket, hrest⟩ := List.forall_mem_cons.mp hrange
    have hkeys' := nodup_keys_of_kept hkeys (t.splits positions bucket.2)
    rw [addViolations_cons hlt hkeys hbucket]
    simp only
    rw [ih hkeys' hrest]
    simp only [kept, List.filter_cons]
    split
    · rw [List.map_singleton, List.map_cons, List.append_assoc, List.append_assoc,
        List.singleton_append, List.singleton_append]
    · rw [List.map_nil, List.append_nil, List.append_nil]

end Adding

/-! ## All that is found -/

/-- The columns at some positions determine those at others. -/
def Table.Determines (t : Table) (determinant dependant : List Nat) : Prop :=
  ∀ row ∈ t.rows, ∀ other ∈ t.rows,
    row.AgreeOn determinant other → row.AgreeOn dependant other

namespace Partition

variable {t : Table} {determinant dependant : List Nat} {groups : List (Value × List Nat)}

/-- A group of rows has all positions with its key. -/
theorem mem_group_iff (h : Partition (t.rows.map (Row.keyAt determinant)) groups)
    {group : Value × List Nat} (hgroup : group ∈ groups) (pos : Nat) :
    pos ∈ group.2 ↔ ∃ row, t.rows[pos]? = some row ∧ row.keyAt determinant = group.1 := by
  have hlookup := (Entries.lookup_eq_some_iff h.keys_nodup).mpr hgroup
  have hmem := h.mem_iff group.1 pos
  rw [hlookup, List.getElem?_map, Option.map_eq_some_iff] at hmem
  rw [← hmem]
  simp

theorem exists_group (h : Partition (t.rows.map (Row.keyAt determinant)) groups) {pos : Nat}
    {row : Row} (hrow : t.rows[pos]? = some row) : ∃ group ∈ groups, pos ∈ group.2 := by
  have hkey : (t.rows.map (Row.keyAt determinant))[pos]? = some (row.keyAt determinant) := by
    rw [List.getElem?_map, hrow, Option.map_some]
  obtain ⟨rows, hlookup, hpos⟩ := (h.mem_iff (row.keyAt determinant) pos).mpr hkey
  exact ⟨_, (Entries.lookup_eq_some_iff h.keys_nodup).mp hlookup, hpos⟩

/-- The rows of groups with more than one value are those for which there is another row, with
the same key and another value. -/
theorem mem_splits_iff (h : Partition (t.rows.map (Row.keyAt determinant)) groups)
    (hdeterminant : ∀ pos ∈ determinant, pos < t.schema.width)
    (hdependant : ∀ pos ∈ dependant, pos < t.schema.width) {pos : Nat} {row : Row}
    (hrow : t.rows[pos]? = some row) :
    (∃ group ∈ groups, t.splits dependant group.2 = true ∧ pos ∈ group.2) ↔
      ∃ other ∈ t.rows, row.AgreeOn determinant other ∧ ¬row.AgreeOn dependant other := by
  have hwidth : ∀ {p : Nat} {r : Row}, t.rows[p]? = some r → r.length = t.schema.width :=
    fun hr => Table.width_of_mem_rows (List.mem_of_getElem? hr)
  constructor
  · rintro ⟨group, hgroup, hsplits, hpos⟩
    obtain ⟨q, hq, hne⟩ := Table.exists_ne_of_splits hsplits pos
    obtain ⟨other, hother, hkey⟩ := (h.mem_group_iff hgroup q).mp hq
    obtain ⟨same, hsame, hown⟩ := (h.mem_group_iff hgroup pos).mp hpos
    obtain rfl : row = same := Option.some.inj (hrow.symm.trans hsame)
    rw [Table.keyAt_of_getElem? hrow, Table.keyAt_of_getElem? hother] at hne
    refine ⟨other, List.mem_of_getElem? hother, ?_, ?_⟩
    · rw [← Row.keyAt_eq_iff (hwidth hrow) (hwidth hother) hdeterminant, hown, hkey]
    · rwa [← Row.keyAt_eq_iff (hwidth hrow) (hwidth hother) hdependant]
  · rintro ⟨other, hmem, hagrees, hdiffers⟩
    obtain ⟨q, hother⟩ := List.getElem?_of_mem hmem
    rw [← Row.keyAt_eq_iff (hwidth hrow) (hwidth hother) hdeterminant] at hagrees
    rw [← Row.keyAt_eq_iff (hwidth hrow) (hwidth hother) hdependant] at hdiffers
    obtain ⟨group, hgroup, hpos⟩ := h.exists_group hrow
    obtain ⟨same, hsame, hown⟩ := (h.mem_group_iff hgroup pos).mp hpos
    obtain rfl : row = same := Option.some.inj (hrow.symm.trans hsame)
    have hq : q ∈ group.2 := (h.mem_group_iff hgroup q).mpr ⟨other, hother, hagrees ▸ hown⟩
    refine ⟨group, hgroup, Table.splits_iff.mpr ⟨pos, hpos, q, hq, ?_⟩, hpos⟩
    rwa [Table.keyAt_of_getElem? hrow, Table.keyAt_of_getElem? hother]

/-- No group has more than one value exactly if the columns determine it. -/
theorem filter_splits_eq_nil_iff (h : Partition (t.rows.map (Row.keyAt determinant)) groups)
    (hdeterminant : ∀ pos ∈ determinant, pos < t.schema.width)
    (hdependant : ∀ pos ∈ dependant, pos < t.schema.width) :
    (groups.filter fun group => t.splits dependant group.2) = [] ↔
      t.Determines determinant dependant := by
  rw [List.filter_eq_nil_iff]
  constructor
  · intro hnone row hmem other hother hagrees
    by_contra hdiffers
    obtain ⟨pos, hrow⟩ := List.getElem?_of_mem hmem
    obtain ⟨group, hgroup, hsplits, -⟩ :=
      (h.mem_splits_iff hdeterminant hdependant hrow).mpr ⟨other, hother, hagrees, hdiffers⟩
    exact hnone group hgroup hsplits
  · intro hdetermines group hgroup hsplits
    obtain ⟨pos, hpos, -⟩ := Table.splits_iff.mp hsplits
    obtain ⟨row, hrow, -⟩ := (h.mem_group_iff hgroup pos).mp hpos
    obtain ⟨other, hother, hagrees, hdiffers⟩ :=
      (h.mem_splits_iff hdeterminant hdependant hrow).mp ⟨group, hgroup, hsplits, hpos⟩
    exact hdiffers (hdetermines row (List.mem_of_getElem? hrow) other hother hagrees)

end Partition

section Finding

variable {t : Table} {lhs rhs : List ColumnRef} {determinant dependant : List Nat}

/-- What is found, beside the groups of rows with one key: those with more than one row, and
those with more than one value. -/
theorem exists_violations (hsome : lhs ≠ [])
    (hlhs : t.schema.resolveAll lhs = .ok determinant)
    (hrhs : t.schema.resolveAll rhs = .ok dependant) :
    ∃ groups, Partition (t.rows.map (Row.keyAt determinant)) groups ∧
      groupByColumns t lhs none = .ok ⟨t.withUniqueIndex, groups⟩ ∧
      keyViolations t lhs = .ok ⟨t.withUniqueIndex,
        groups.filter fun group => decide (1 < group.2.length)⟩ ∧
      dependencyViolations t lhs rhs = .ok ⟨⟨t.withUniqueIndex,
        groups.filter fun group => t.splits dependant group.2⟩,
        (groups.filter fun group => t.splits dependant group.2).map (countedGroup t dependant),
        lhs, rhs⟩ := by
  obtain ⟨key, bound, groups, hkey, -, -, hbuckets, hpart⟩ := exists_columnBuckets hsome hlhs
  obtain ⟨-, hlt⟩ := Schema.lt_width_of_resolveAll hrhs
  have hsplits : t.withUniqueIndex.splits dependant = t.splits dependant := by
    unfold Table.splits
    rw [t.keyAt_withUniqueIndex]
  refine ⟨groups, hpart, groupByColumns_eq hkey hbuckets hpart, ?_, ?_⟩
  · let shared := groups.filter fun group => decide (1 < group.2.length)
    have hsub : shared.Sublist groups := List.filter_sublist
    have hkeeps : ∀ group ∈ shared, keptBy none t.withUniqueIndex group.2 = .ok true :=
      fun _ _ => rfl
    have hloop := addBuckets_of_keeps
      (by rw [List.nil_append]; exact hpart.keys_nodup.sublist (hsub.map Prod.fst))
      (fun group hgroup => hpart.lt_size group (hsub.subset hgroup)) hkeeps
    rw [List.nil_append, List.filter_true] at hloop
    rw [keyViolations, hkey]
    simp only [hbuckets]
    exact hloop
  · rw [← t.schema_withUniqueIndex] at hlt
    have hloop : addViolations dependant (Violation.empty t.withUniqueIndex lhs rhs) groups = _ :=
      addViolations_eq hlt (by rw [List.nil_append]; exact hpart.keys_nodup) hpart.lt_size
    simp only [hsplits, List.nil_append] at hloop
    rw [dependencyViolations]
    simp only [t.schema_withUniqueIndex, hrhs, hkey, hbuckets]
    rw [hloop]
    unfold countedGroup
    rw [t.keyAt_withUniqueIndex]

/-- The counters of groups with different keys are found by their keys. -/
theorem lookup_countedGroup {groups : List (Value × List Nat)}
    (hkeys : (groups.map Prod.fst).Nodup) {group : Value × List Nat} (hgroup : group ∈ groups) :
    (groups.map (countedGroup t dependant)).lookup group.1 =
      some (Counter.ofList (group.2.map (t.keyAt dependant))) := by
  refine (Entries.lookup_eq_some_iff ?_).mpr (List.mem_map.mpr ⟨group, hgroup, rfl⟩)
  rw [List.map_map]
  exact hkeys

/-- The violations of a dependency are exactly its violations: a row is in some group exactly if
another row agrees with it on the determining columns and differs on some other one. A group has
all positions with its key, in increasing order, and the groups stand in the order of their first
rows. The counter of a group is the one that the grouping gives for it, with the values in the
order in which they were first seen and at least two of them. There are no groups exactly if the
dependency holds, and all of them are among the groups of rows that share a key. -/
theorem dependencyViolations_exact (hsome : lhs ≠ [])
    (hlhs : t.schema.resolveAll lhs = .ok determinant)
    (hrhs : t.schema.resolveAll rhs = .ok dependant) :
    ∃ v, dependencyViolations t lhs rhs = .ok v ∧
      (∀ p, (∃ group ∈ v.grouping.groups, p ∈ group.2) ↔
        ∃ row, t.rows[p]? = some row ∧
          ∃ other ∈ t.rows, row.AgreeOn determinant other ∧ ¬row.AgreeOn dependant other) ∧
      v.grouping.keys.Nodup ∧
      (v.grouping.groups.Pairwise fun a b => ∃ p ∈ a.2, ∀ q ∈ b.2, p < q) ∧
      (∀ group ∈ v.grouping.groups, group.2.Pairwise (· < ·) ∧
        ∀ p, p ∈ group.2 ↔ ∃ row, t.rows[p]? = some row ∧ row.keyAt determinant = group.1) ∧
      v.counts.map Prod.fst = v.grouping.keys ∧
      (∀ group ∈ v.grouping.groups, ∃ counts,
        v.counts? group.1 = some counts ∧ v.grouping.values group.1 rhs = .ok (some counts) ∧
        counts.keys = (group.2.map (t.keyAt dependant)).eraseDups ∧
        (∀ w, counts.get w = (group.2.map (t.keyAt dependant)).count w) ∧
        2 ≤ counts.size ∧ counts.total = group.2.length) ∧
      (v.grouping.isEmpty = true ↔ t.Determines determinant dependant) ∧
      ∃ g, keyViolations t lhs = .ok g ∧ v.grouping.groups.Sublist g.groups := by
  obtain ⟨groups, hpart, -, hshared, hfound⟩ := exists_violations hsome hlhs hrhs
  obtain ⟨-, hdeterminant⟩ := Schema.lt_width_of_resolveAll hlhs
  obtain ⟨-, hdependant⟩ := Schema.lt_width_of_resolveAll hrhs
  have hsub : (groups.filter fun group => t.splits dependant group.2).Sublist groups :=
    List.filter_sublist
  have hkeys := hpart.keys_nodup.sublist (hsub.map Prod.fst)
  refine ⟨_, hfound, ?_, hkeys, hpart.ordered.sublist hsub, ?_, ?_, ?_, ?_, ⟨_, hshared, ?_⟩⟩
  · intro p
    constructor
    · rintro ⟨group, hmem, hp⟩
      obtain ⟨hgroup, hsplits⟩ := List.mem_filter.mp hmem
      obtain ⟨row, hrow, -⟩ := (hpart.mem_group_iff hgroup p).mp hp
      exact ⟨row, hrow,
        (hpart.mem_splits_iff hdeterminant hdependant hrow).mp ⟨group, hgroup, hsplits, hp⟩⟩
    · rintro ⟨row, hrow, hother⟩
      obtain ⟨group, hgroup, hsplits, hp⟩ :=
        (hpart.mem_splits_iff hdeterminant hdependant hrow).mpr hother
      exact ⟨group, List.mem_filter.mpr ⟨hgroup, hsplits⟩, hp⟩
  · intro group hmem
    exact ⟨hpart.increasing group (hsub.subset hmem), hpart.mem_group_iff (hsub.subset hmem)⟩
  · exact List.map_map
  · intro group hmem
    have hrhs' : t.withUniqueIndex.schema.resolveAll rhs = .ok dependant := by
      rwa [t.schema_withUniqueIndex]
    have hrows : (Grouping.mk t.withUniqueIndex
        (groups.filter fun group => t.splits dependant group.2)).rows? group.1 = some group.2 :=
      (Entries.lookup_eq_some_iff hkeys).mpr hmem
    have hvalues := Grouping.values_eq hrhs' hrows (hpart.lt_size group (hsub.subset hmem))
    rw [t.keyAt_withUniqueIndex] at hvalues
    refine ⟨_, lookup_countedGroup hkeys hmem, hvalues, Counter.keys_ofList _,
      Counter.get_ofList _, of_decide_eq_true (List.mem_filter.mp hmem).2, ?_⟩
    rw [Counter.total_ofList, List.length_map]
  · exact List.isEmpty_iff.trans (hpart.filter_splits_eq_nil_iff hdeterminant hdependant)
  · refine List.monotone_filter_right groups fun group hsplits => ?_
    rw [decide_eq_true_iff]
    exact Table.one_lt_length_of_splits hsplits

end Finding

/-- Five addresses. One zip code has two cities, one of them twice. -/
def Table.addresses : Table :=
  ⟨⟨["zip", "city", "street"], by decide⟩,
    [(7, [.int 10001, .str "NYC", .str "5th Ave"]), (7, [.int 2108, .str "Boston", .str "Park"]),
      (8, [.int 10001, .str "New York", .str "5th Ave"]),
      (9, [.int 10001, .str "NYC", .str "5th Ave"]),
      (9, [.int 2108, .str "Boston", .str "Tremont"])],
    by decide⟩

/-- The cities of one zip code contradict each other, and so do those of its only street. -/
theorem addresses_violations :
    ∃ v, dependencyViolations Table.addresses [.name "zip", .name "street"] [.name "city"] = .ok v ∧
      v.grouping.groups = [(.list [.int 10001, .str "5th Ave"], [0, 2, 3])] ∧
      v.grouping.isEmpty = false ∧ ¬Table.addresses.Determines [0, 2] [1] ∧
      ∃ g, keyViolations Table.addresses [.name "zip", .name "street"] = .ok g ∧
        v.grouping.groups.Sublist g.groups := by
  have hlhs : Table.addresses.schema.resolveAll [.name "zip", .name "street"] = .ok [0, 2] := rfl
  have hrhs : Table.addresses.schema.resolveAll [.name "city"] = .ok [1] := rfl
  obtain ⟨v, hv, -, -, -, -, -, -, hempty, hshared⟩ :=
    dependencyViolations_exact (List.cons_ne_nil _ _) hlhs hrhs
  have hgroups : v.grouping.groups = [(.list [.int 10001, .str "5th Ave"], [0, 2, 3])] :=
    congrArg (fun v => v.grouping.groups) (Except.ok.inj hv).symm
  have hsome : v.grouping.isEmpty = false := by
    rw [Grouping.isEmpty, hgroups]
    rfl
  refine ⟨v, hv, hgroups, hsome, ?_, hshared⟩
  rw [← hempty, hsome]
  exact Bool.false_ne_true

/-! ## Conflicts in what is found -/

/-- The groups that violate a dependency are those with at least two values among all groups of
the determining columns. The others hold no conflict, so they may be left out: the summaries of
conflicts are the same, with the same values, counts and partners in the same order, and so are
their rankings. -/
theorem conflicts_of_violations {t : Table} {lhs rhs : List ColumnRef}
    {determinant dependant : List Nat} (hsome : lhs ≠ [])
    (hlhs : t.schema.resolveAll lhs = .ok determinant)
    (hrhs : t.schema.resolveAll rhs = .ok dependant) :
    ∃ v g summary, dependencyViolations t lhs rhs = .ok v ∧ groupByColumns t lhs none = .ok g ∧
      (v.grouping.groups = g.groups.filter fun group => 2 ≤ (g.distinctOf dependant group).card) ∧
      v.grouping.conflicts rhs = .ok summary ∧ g.conflicts rhs = .ok summary ∧
      ∀ n, (v.grouping.conflicts rhs).map (·.mostCommon n) =
        (g.conflicts rhs).map (·.mostCommon n) := by
  obtain ⟨groups, hpart, hall, -, hfound⟩ := exists_violations hsome hlhs hrhs
  let g : Grouping := ⟨t.withUniqueIndex, groups⟩
  let left : Grouping := ⟨t.withUniqueIndex, groups.filter fun group => t.splits dependant group.2⟩
  have hkept :
      left.groups = groups.filter fun group => 2 ≤ (g.distinctOf dependant group).card := by
    refine List.filter_congr fun group _ => ?_
    rw [Bool.eq_iff_iff, Table.splits_iff_card, decide_eq_true_iff, Grouping.distinctOf,
      Grouping.valuesOf, t.keyAt_withUniqueIndex]
  have hresolve : t.withUniqueIndex.schema.resolveAll rhs = .ok dependant := by
    rwa [t.schema_withUniqueIndex]
  have hvalues : left.groups.map (left.valuesOf dependant) =
      (groups.map (g.valuesOf dependant)).filter fun vs => 2 ≤ vs.toFinset.card := by
    rw [hkept, List.filter_map]
    rfl
  have hfull : g.conflicts rhs =
      .ok (ConflictSummary.ofGroups (groups.map (g.valuesOf dependant))) :=
    Grouping.conflicts_eq_ok_iff.mpr ⟨dependant, hresolve, hpart.lt_size, rfl⟩
  have hleft : left.conflicts rhs =
      .ok (ConflictSummary.ofGroups (groups.map (g.valuesOf dependant))) := by
    refine Grouping.conflicts_eq_ok_iff.mpr ⟨dependant, hresolve, ?_, ?_⟩
    · exact fun group hgroup => hpart.lt_size group (List.mem_of_mem_filter hgroup)
    · rw [hvalues, ConflictSummary.ofGroups_filter]
  exact ⟨_, g, _, hfound, hall, hkept, hleft, hfull, fun n => by rw [hleft, hfull]⟩

/-- Of the addresses, the group of one zip code is left, and has all conflicts between cities. -/
theorem addresses_conflicts :
    ∃ v g summary, dependencyViolations Table.addresses [.name "zip"] [.name "city"] = .ok v ∧
      groupByColumns Table.addresses [.name "zip"] none = .ok g ∧
      v.grouping.size = 1 ∧ g.size = 2 ∧
      v.grouping.conflicts [.name "city"] = .ok summary ∧
      g.conflicts [.name "city"] = .ok summary ∧
      summary.entries.map Prod.fst = [.str "NYC", .str "New York"] := by
  have hlhs : Table.addresses.schema.resolveAll [.name "zip"] = .ok [0] := rfl
  have hrhs : Table.addresses.schema.resolveAll [.name "city"] = .ok [1] := rfl
  obtain ⟨v, g, summary, hv, hg, -, hleft, hfull, -⟩ :=
    conflicts_of_violations (List.cons_ne_nil _ _) hlhs hrhs
  obtain rfl := Except.ok.inj hv
  obtain rfl := Except.ok.inj hg
  refine ⟨_, _, summary, hv, hg, rfl, rfl, hleft, hfull, ?_⟩
  obtain rfl := Except.ok.inj hfull
  decide +kernel

end TableFlow
