import TableFlow.Proofs.Counter.FirstSeen
import TableFlow.Proofs.Counter.Ranking
import TableFlow.Proofs.Profile.Extremes

/-!
# What a profile says

A profile is aggregated over rows of different raw values, each with its count, its label and its
converted value in one of several columns. `Profiler.finish_eq` is the profile in terms of the
values that are not missing alone: counters of labels, and extremes of what the values of a label
are measured by.

* `DistinctRow.columns_ofEntry` says which column a converted value stands in, and
  `LabelSummary.range?_of_label` that this column has the extremes of a label;
* `Profiler.summaries_eq` is the grouping by label;
* `Profiler.topValues_eq` leads the ranked rows back to the values;
* `ColumnProfile.Describes` is what a profile says of the values, and `Profiler.finish_describes`
  that it does.
-/

namespace TableFlow

/-! ## Values and their labels -/

/-- What the values of a label are compared by: numbers and truth values themselves, and anything
else by its text. -/
def Value.measure (v : Value) : Value :=
  match v with
  | .int _ | .float _ | .bool _ => v
  | v => .str v.text

/-- The values that are not missing. -/
def Value.present (vs : List Value) : List Value := vs.filter fun v => !v.isEmpty

theorem Value.present_cons_of_empty {v : Value} (h : v.isEmpty = true) (vs : List Value) :
    present (v :: vs) = present vs := List.filter_cons_of_neg (by simp [h])

theorem Value.present_cons_of_not_empty {v : Value} (h : ¬v.isEmpty = true) (vs : List Value) :
    present (v :: vs) = v :: present vs := List.filter_cons_of_pos (by simp [h])

namespace Converter

/-- The label of a value after conversion. -/
def label (c : Converter) (v : Value) : String := (c.convert v).label

/-- What the values with a label are compared by. -/
def measures (c : Converter) (label : String) (vs : List Value) : List Value :=
  (vs.filter fun v => c.label v == label).map fun v => (c.convert v).measure

variable {c : Converter} {label : String} {v : Value} {vs ws : List Value}

theorem measures_ne_nil (h : label ∈ vs.map c.label) : c.measures label vs ≠ [] := by
  obtain ⟨v, hv, rfl⟩ := List.mem_map.mp h
  exact List.ne_nil_of_mem (List.mem_map_of_mem (List.mem_filter.mpr ⟨hv, beq_self_eq_true _⟩))

theorem mem_measures_iff : v ∈ c.measures label vs ↔
    ∃ raw ∈ vs, c.label raw = label ∧ (c.convert raw).measure = v := by
  simp only [measures, List.mem_map, List.mem_filter, beq_iff_eq, and_assoc]

theorem mem_measures_eraseDups : v ∈ c.measures label vs.eraseDups ↔ v ∈ c.measures label vs := by
  simp only [mem_measures_iff, List.mem_eraseDups]

/-- Under the label of an exact order, no doubles are compared. -/
theorem label_of_mem_measures (hlabel : label ∈ ["int", "bool", "str", "list"]) :
    ∀ v ∈ c.measures label vs, v.label ≠ "float" := by
  intro v hv
  obtain ⟨raw, -, rfl, rfl⟩ := mem_measures_iff.mp hv
  unfold label at hlabel
  intro hmeasure
  cases hconvert : c.convert raw with
  | float x =>
    rw [hconvert] at hlabel
    simp [Value.label] at hlabel
  | null | bool _ | int _ | str _ | list _ =>
    rw [hconvert] at hmeasure
    simp [Value.measure, Value.label] at hmeasure

end Converter

/-! ## Rows -/

namespace DistinctRow

/-- The converted value stands in the column of its label, and all other columns are empty. -/
theorem columns_ofEntry (c : Converter) (entry : Value × Nat) (pos : Nat) :
    columns.map (· (ofEntry c entry pos)) =
      [if c.label entry.1 = "int" then some (c.convert entry.1).measure else none,
        if c.label entry.1 = "float" then some (c.convert entry.1).measure else none,
        if c.label entry.1 = "bool" then some (c.convert entry.1).measure else none,
        if c.label entry.1 ∉ ["int", "float", "bool"] then some (c.convert entry.1).measure
          else none] := by
  unfold ofEntry Converter.cast Converter.label
  generalize c.convert entry.1 = v
  cases v <;> rfl

end DistinctRow

namespace LabelSummary

variable {c : Converter} {label : String} {vs : List Value} {n : Value → Nat}

/-- The rows of values with their counts, all at one position. -/
def rowsOf (c : Converter) (n : Value → Nat) (vs : List Value) : List DistinctRow :=
  vs.map fun v => DistinctRow.ofEntry c (v, n v) 0

/-- A column that holds the values, or none of them, has their extremes, or none. -/
theorem extremes_of_column {column : DistinctRow → Option Value} {held : Prop} [Decidable held]
    (h : ∀ v ∈ vs, column (DistinctRow.ofEntry c (v, n v) 0) =
      if held then some (c.convert v).measure else none) :
    Extremes.ofValues? ((rowsOf c n vs).filterMap column) =
      if held then Extremes.ofValues? (vs.map fun v => (c.convert v).measure) else none := by
  have hcells : (rowsOf c n vs).filterMap column =
      vs.filterMap fun v => if held then some (c.convert v).measure else none :=
    List.filterMap_map.trans (List.filterMap_congr h)
  rw [hcells]
  split
  · exact congrArg Extremes.ofValues? (congrFun List.filterMap_eq_map' vs)
  · rw [List.filterMap_none]
    rfl

/-- Of rows with one label, only the column of this label has extremes. -/
theorem range?_ofRows (h : ∀ v ∈ vs, c.label v = label) :
    (ofRows label (rowsOf c n vs)).range? =
      (Extremes.ofValues? (vs.map fun v => (c.convert v).measure)).map (label, ·) := by
  have hrow : ∀ v ∈ vs, DistinctRow.columns.map (· (DistinctRow.ofEntry c (v, n v) 0)) =
      [if label = "int" then some (c.convert v).measure else none,
        if label = "float" then some (c.convert v).measure else none,
        if label = "bool" then some (c.convert v).measure else none,
        if label ∉ ["int", "float", "bool"] then some (c.convert v).measure else none] := by
    intro v hv
    rw [DistinctRow.columns_ofEntry, h v hv]
  simp only [DistinctRow.columns, List.map_cons, List.map_nil, List.cons.injEq] at hrow
  unfold range? ofRows DistinctRow.columns
  simp only [List.map_cons, List.map_nil]
  rw [extremes_of_column fun v hv => (hrow v hv).1, extremes_of_column fun v hv => (hrow v hv).2.1,
    extremes_of_column fun v hv => (hrow v hv).2.2.1,
    extremes_of_column fun v hv => (hrow v hv).2.2.2.1]
  generalize Extremes.ofValues? (vs.map fun v => (c.convert v).measure) = r
  by_cases hint : label = "int"
  · subst hint
    cases r <;> rfl
  · by_cases hfloat : label = "float"
    · subst hfloat
      cases r <;> rfl
    · by_cases hbool : label = "bool"
      · subst hbool
        cases r <;> rfl
      · cases r <;> simp [hint, hfloat, hbool]

/-- Where a row stands does not matter for the summaries. -/
theorem all_eq_of_pos (rows : List DistinctRow) :
    all (rows.map fun row => { row with pos := 0 }) = all rows := by
  unfold all
  rw [List.map_map]
  refine List.map_congr_left fun label _ => ?_
  rw [List.filter_map]
  simp only [ofRows, List.foldr_map, List.length_map, List.filterMap_map]
  rfl

/-- The summary of the values with a label. -/
def ofValues (c : Converter) (vs : List Value) (label : String) : LabelSummary :=
  ofRows label (rowsOf c (vs.count ·) (vs.eraseDups.filter fun v => c.label v == label))

/-- All values with the label are counted. -/
theorem values_ofValues : (ofValues c vs label).values = (vs.map c.label).count label := by
  have hcounts : (ofValues c vs label).values =
      (Counter.ofList (vs.filter fun v => c.label v == label)).total := by
    show (rowsOf c _ _).foldr (fun row n => row.count + n) 0 = _
    rw [rowsOf, Counter.total, Counter.entries_ofList, FirstSeen.filter_eraseDups, List.foldr_map,
      List.foldr_map]
    refine List.foldr_ext _ _ 0 fun v hv n => ?_
    have hlabel := (List.mem_filter.mp (List.mem_eraseDups.mp hv)).2
    exact congrArg (· + n) (List.count_filter (p := fun v => c.label v == label) hlabel).symm
  rw [hcounts, Counter.total_ofList, List.count_eq_countP, List.countP_map,
    List.countP_eq_length_filter]
  rfl

theorem distinct_ofValues :
    (ofValues c vs label).distinct = (vs.eraseDups.map c.label).count label := by
  show (rowsOf c _ _).length = _
  rw [rowsOf, List.length_map, List.count_eq_countP, List.countP_map, List.countP_eq_length_filter]
  rfl

theorem range?_ofValues : (ofValues c vs label).range? =
    (Extremes.ofValues? (c.measures label vs.eraseDups)).map (label, ·) := by
  refine range?_ofRows fun v hv => ?_
  exact beq_iff_eq.mp (List.mem_filter.mp hv).2

/-- The rows of counted values are summarized label by label. -/
theorem all_rows {p : Profiler} (h : p.values = Counter.ofList vs) :
    all p.rows = (vs.map p.converter.label).eraseDups.map (ofValues p.converter vs) := by
  have hrows : (p.rows.map fun row => { row with pos := 0 }) =
      rowsOf p.converter (vs.count ·) vs.eraseDups := by
    apply List.ext_getElem
    · simp [Profiler.rows, h, Counter.entries_ofList, rowsOf]
    · intro pos hpos hpos'
      simp only [Profiler.rows, h, Counter.entries_ofList, rowsOf, List.getElem_map,
        List.getElem_mapIdx]
      rfl
  have hlabels : (rowsOf p.converter (vs.count ·) vs.eraseDups).map DistinctRow.label =
      vs.eraseDups.map p.converter.label := by
    rw [rowsOf, List.map_map]
    rfl
  rw [← all_eq_of_pos, hrows, all, hlabels, FirstSeen.eraseDups_map_eraseDups]
  refine List.map_congr_left fun label _ => ?_
  rw [ofValues, rowsOf, List.filter_map]
  rfl

/-- Numbers of the summaries make a counter of labels if they are the counts of the labels. -/
theorem foldl_addN_eq {labels : List String}
    {number : LabelSummary → Nat} (h : ∀ label, number (ofValues c vs label) = labels.count label) :
    (labels.eraseDups.map (ofValues c vs)).foldl (fun k s => k.addN s.label (number s))
      Counter.empty = Counter.ofList labels := by
  have hlabels : (labels.eraseDups.map (ofValues c vs)).map LabelSummary.label =
      labels.eraseDups := by
    rw [List.map_map]
    exact List.map_id' _
  have hnodup : ((labels.eraseDups.map (ofValues c vs)).map LabelSummary.label).Nodup := by
    rw [hlabels]
    exact FirstSeen.nodup_eraseDups labels
  rw [Counter.foldl_addN hnodup, List.map_map]
  show _ = Counter.mk (Counter.ofList labels).entries
  rw [Counter.entries_ofList]
  refine congrArg Counter.mk (List.map_congr_left fun label _ => ?_)
  exact congrArg (label, ·) (h label)

end LabelSummary

/-! ## The finished profile -/

namespace Profiler

/-- What is counted of values that are added. -/
theorem foldl_add (p : Profiler) (vs : List Value) : vs.foldl add p =
    { p with
      total := p.total + vs.length
      empty := p.empty + vs.countP Value.isEmpty
      values := p.values.extend (Value.present vs) } := by
  induction vs generalizing p with
  | nil => rfl
  | cons v vs ih =>
    rw [List.foldl_cons, ih, add]
    by_cases hv : v.isEmpty = true
    · rw [if_pos hv, Value.present_cons_of_empty hv, List.countP_cons_of_pos hv, List.length_cons]
      simp only [mk.injEq, true_and, and_true]
      omega
    · rw [if_neg hv, Value.present_cons_of_not_empty hv, List.countP_cons_of_neg hv,
        List.length_cons]
      simp only [mk.injEq, true_and]
      refine ⟨?_, rfl⟩
      omega

theorem foldl_add_start (c : Converter) (topCount : Nat) (vs : List Value) :
    vs.foldl add (start c topCount) =
      ⟨c, topCount, vs.length, vs.countP Value.isEmpty, Counter.ofList (Value.present vs)⟩ := by
  rw [foldl_add]
  simp only [start, Nat.zero_add]
  rfl

/-- The ranked rows lead back to the ranked entries. -/
theorem topValues_eq (p : Profiler) : p.topValues = p.values.mostCommon p.topCount := by
  let entryOf : DistinctRow → Value × Nat := fun row => (p.values.entries[row.pos]?).getD default
  have hfound : ∀ row ∈ p.rows,
      p.values.entries[row.pos]? = some (entryOf row) ∧ (entryOf row).2 = row.count := by
    intro row hrow
    obtain ⟨pos, hpos, rfl⟩ := List.mem_mapIdx.mp hrow
    have hentry : p.values.entries[pos]? = some p.values.entries[pos] :=
      List.getElem?_eq_getElem hpos
    show p.values.entries[pos]? = some ((p.values.entries[pos]?).getD default) ∧
      ((p.values.entries[pos]?).getD default).2 = (p.values.entries[pos]).2
    rw [hentry, Option.getD_some]
    exact ⟨rfl, rfl⟩
  have hentries : p.rows.map entryOf = p.values.entries := by
    apply List.ext_getElem?
    intro pos
    rw [List.getElem?_map, rows, List.getElem?_mapIdx]
    cases hpos : p.values.entries[pos]? with
    | none => rfl
    | some entry =>
      show some ((p.values.entries[pos]?).getD default) = some entry
      rw [hpos, Option.getD_some]
  have hranked : (p.rows.mergeSort fun a b => decide (b.count ≤ a.count)).map entryOf =
      p.values.ranked := by
    rw [List.map_mergeSort (s := fun a b => decide (b.2 ≤ a.2)), hentries]
    · rfl
    · intro a ha b hb
      rw [(hfound a ha).2, (hfound b hb).2]
  rw [Counter.mostCommon, ← hranked, ← List.map_take, topValues]
  refine (List.filterMap_congr fun row hrow => ?_).trans (congrFun List.filterMap_eq_map' _)
  have hmem : row ∈ p.rows := List.mem_mergeSort.mp (List.mem_of_mem_take hrow)
  exact (hfound row hmem).1

/-- The profile of values in terms of those that are not missing. -/
theorem finish_eq (c : Converter) (topCount : Nat) (vs : List Value) (column : String) :
    (vs.foldl add (start c topCount)).finish column =
      { column := column
        total := vs.length
        empty := vs.countP Value.isEmpty
        distinct := (Value.present vs).eraseDups.length
        kinds := Counter.ofList ((Value.present vs).map c.label)
        distinctKinds := Counter.ofList ((Value.present vs).eraseDups.map c.label)
        extremes := ((Value.present vs).map c.label).eraseDups.filterMap fun label =>
          (Extremes.ofValues? (c.measures label (Value.present vs).eraseDups)).map (label, ·)
        top := (Counter.ofList (Value.present vs)).mostCommon topCount } := by
  rw [foldl_add_start]
  generalize Value.present vs = shown
  have hsummaries : LabelSummary.all (rows ⟨c, topCount, vs.length, vs.countP Value.isEmpty,
      Counter.ofList shown⟩) =
      (shown.map c.label).eraseDups.map (LabelSummary.ofValues c shown) :=
    LabelSummary.all_rows rfl
  have hkinds : ((shown.map c.label).eraseDups.map (LabelSummary.ofValues c shown)).foldl
      (fun k s => k.addN s.label s.values) Counter.empty = Counter.ofList (shown.map c.label) :=
    LabelSummary.foldl_addN_eq fun _ => LabelSummary.values_ofValues
  have hdistinct : ((shown.map c.label).eraseDups.map (LabelSummary.ofValues c shown)).foldl
      (fun k s => k.addN s.label s.distinct) Counter.empty =
        Counter.ofList (shown.eraseDups.map c.label) := by
    rw [← FirstSeen.eraseDups_map_eraseDups]
    exact LabelSummary.foldl_addN_eq fun _ => LabelSummary.distinct_ofValues
  have hextremes : LabelSummary.range? ∘ LabelSummary.ofValues c shown = fun label =>
      (Extremes.ofValues? (c.measures label shown.eraseDups)).map (label, ·) :=
    funext fun _ => LabelSummary.range?_ofValues
  unfold finish
  rw [hsummaries]
  simp only [hkinds, hdistinct, topValues_eq, List.filterMap_map, hextremes,
    Counter.size_eq_length_keys, Counter.keys_ofList]

end Profiler

/-! ## What a profile says -/

/-- A profile of values says how many there are and how many are missing; how many different ones
there are, and what their labels are after conversion; between which values those of a label lie;
and which raw values are the most frequent ones. -/
structure ColumnProfile.Describes (p : ColumnProfile) (c : Converter) (topCount : Nat)
    (vs : List Value) : Prop where
  total : p.total = vs.length
  empty : p.empty = vs.countP Value.isEmpty
  split : p.total = p.empty + p.kinds.total
  distinct : p.distinct = (Value.present vs).toFinset.card
  distinct_split : p.distinct = p.distinctKinds.total
  labels : p.kinds.keys = ((Value.present vs).map c.label).eraseDups
  distinct_labels : p.distinctKinds.keys = p.kinds.keys
  extremes_labels : p.extremes.map Prod.fst = p.kinds.keys
  counts : ∀ label ∈ p.kinds.keys,
    1 ≤ p.distinctKinds.get label ∧ p.distinctKinds.get label ≤ p.kinds.get label
  extremes : ∀ label ∈ ["int", "bool", "str", "list"], ∀ r, (label, r) ∈ p.extremes →
    r.Bounds (c.measures label (Value.present vs))
  ranking : ∃ ranking, p.top = ranking.take topCount ∧
    Ranks ((Value.present vs).eraseDups.map fun v => (v, (Value.present vs).count v)) ranking
  top : p.top = (Counter.ofList (Value.present vs)).mostCommon topCount

namespace Profiler

/-- A finished profile describes the values that were added. -/
theorem finish_describes (c : Converter) (topCount : Nat) (vs : List Value) (column : String) :
    ((vs.foldl add (start c topCount)).finish column).Describes c topCount vs := by
  have hsome : ∀ label ∈ ((Value.present vs).map c.label).eraseDups, ∃ r,
      Extremes.ofValues? (c.measures label (Value.present vs).eraseDups) = some r := by
    intro label hlabel
    rw [← FirstSeen.eraseDups_map_eraseDups, List.mem_eraseDups] at hlabel
    exact Option.isSome_iff_exists.mp (Extremes.ofValues?_isSome_iff.mpr 
      (Converter.measures_ne_nil hlabel))
  rw [finish_eq]
  exact {
    total := rfl
    empty := rfl
    split := by
      rw [Counter.total_ofList, List.length_map, Value.present, ← List.countP_eq_length_filter,
        List.length_eq_countP_add_countP Value.isEmpty]
      simp only [Bool.not_eq_true, Bool.decide_eq_false]
    distinct := FirstSeen.length_eraseDups _
    distinct_split := by rw [Counter.total_ofList, List.length_map]
    labels := Counter.keys_ofList _
    distinct_labels := by
      rw [Counter.keys_ofList, Counter.keys_ofList, FirstSeen.eraseDups_map_eraseDups]
    extremes_labels := by
      rw [Counter.keys_ofList, List.map_filterMap]
      refine (List.filterMap_congr fun label hlabel => ?_).trans List.filterMap_some
      obtain ⟨r, hr⟩ := hsome label hlabel
      rw [hr]
      rfl
    counts := by
      intro label hlabel
      rw [Counter.keys_ofList, ← FirstSeen.eraseDups_map_eraseDups, List.mem_eraseDups] at hlabel
      rw [Counter.get_ofList, Counter.get_ofList]
      refine ⟨List.count_pos_iff.mpr hlabel, ?_⟩
      exact ((FirstSeen.eraseDups_sublist _).map c.label).count_le label
    extremes := by
      intro label hlabel r hr
      obtain ⟨other, -, hother⟩ := List.mem_filterMap.mp hr
      obtain ⟨found, hfound, hpair⟩ := Option.map_eq_some_iff.mp hother
      cases hpair
      have hbounds := Extremes.bounds_of_ofValues? hfound (Converter.label_of_mem_measures hlabel)
      exact hbounds.congr fun _ => Converter.mem_measures_eraseDups
    ranking := by
      refine ⟨_, rfl, ?_⟩
      rw [← Counter.entries_ofList]
      exact Counter.ranks_ranked _
    top := rfl }

end Profiler

end TableFlow
