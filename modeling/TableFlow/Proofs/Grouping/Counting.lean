import TableFlow.Profile.Outlier
import TableFlow.Proofs.Expr.Errors
import TableFlow.Proofs.Grouping.Partition
import TableFlow.Proofs.Operator.Staging
import TableFlow.Proofs.Pipeline.Modes
import TableFlow.Proofs.Schema.Names

/-!
# Four ways to count

The values of some columns of a table are counted by groups of rows, by a pipeline that selects
the columns first, by a collector that looks at them only, and for outliers. All of them see the
same key in a row, so all of them have the same counts.

* `Row.keyAt` is the key; `Row.project_eq`, `eval_columnKey` and `Row.keyAt_select` find it in
  the cells of a row, in the value of an expression and in the selected columns;
* `sizes_bucketsFrom` makes the sizes of groups a counter of their keys;
* `Chain.passage_of_emits` is a run of rows through stages that let all of them through, and
  `Pipeline.stream_distinct` what a collector counts in such a run;
* `countings_agree` is the statement about all four.
-/

namespace TableFlow

/-! ## Keys of rows -/

namespace Row

/-- Columns that were selected have, taken as a whole, the key that they had before. -/
theorem keyAt_select (positions : List Nat) (row : Row) :
    keyAt (List.range positions.length) (positions.map (row.getD · .null)) =
      row.keyAt positions := by
  by_cases hone : positions.length = 1
  · obtain ⟨pos, rfl⟩ := List.length_eq_one_iff.mp hone
    rfl
  · rw [keyAt_of_length_ne_one (by rwa [List.length_range]), keyAt_of_length_ne_one hone]
    refine congrArg Value.list (List.ext_getElem (by simp) fun i hi hi' => ?_)
    simp only [List.length_map] at hi'
    simp [hi']

end Row

/-- Columns without positions are bound to those that they resolve to, and have the cells there
for values. -/
theorem ColumnVar.bindAll_of_resolveAll {s : Schema} {columns : List ColumnRef}
    {positions : List Nat} (h : s.resolveAll columns = .ok positions) :
    ∃ bound, bindAll s (columns.map fun c => ⟨c, none⟩) = .ok bound ∧
      ∀ row : Row, row.length = s.width →
        collect (bound.map (ColumnVar.eval row)) = .ok (positions.map (row.getD · .null)) := by
  induction columns generalizing positions with
  | nil =>
    cases h
    exact ⟨[], rfl, fun _ _ => rfl⟩
  | cons column columns ih =>
    rw [Schema.resolveAll] at h
    cases hpos : s.resolve column with
    | error e => rw [hpos] at h; cases h
    | ok pos =>
      cases hrest : s.resolveAll columns with
      | error e => rw [hpos, hrest] at h; cases h
      | ok rest =>
        rw [hpos, hrest] at h
        cases h
        obtain ⟨bound, hbound, heval⟩ := ih hrest
        refine ⟨⟨column, some pos⟩ :: bound, ?_, fun row hrow => ?_⟩
        · rw [List.map_cons, bindAll, bind, hpos, hbound]
        · have hlt : pos < row.length := hrow ▸ Schema.lt_width_of_resolve hpos
          rw [List.map_cons, eval_of_lt hlt, collect, heval row hrow, List.map_cons,
            List.getD_eq_getElem _ _ hlt]

/-- The key expression of columns has the key of the row for its value. -/
theorem eval_columnKey {s : Schema} {columns : List ColumnRef} {positions : List Nat}
    (hsome : columns ≠ []) (hresolve : s.resolveAll columns = .ok positions) :
    ∃ key bound, columnKey columns = .ok key ∧ key.bind s = .ok bound ∧
      ∀ row : Row, row.length = s.width → bound.eval row = .ok (row.keyAt positions) := by
  obtain ⟨bound, hbound, heval⟩ := ColumnVar.bindAll_of_resolveAll hresolve
  obtain ⟨hlength, hlt⟩ := Schema.lt_width_of_resolveAll hresolve
  match columns, hsome with
  | [column], _ =>
    obtain ⟨pos, rfl⟩ := List.length_eq_one_iff.mp hlength
    have hpos : s.resolve column = .ok pos := by
      rw [Schema.resolveAll] at hresolve
      cases hcolumn : s.resolve column with
      | error e => rw [hcolumn] at hresolve; cases hresolve
      | ok found => rw [hcolumn] at hresolve; cases hresolve; rfl
    refine ⟨.ofColumn column, .column ⟨column, some pos⟩, rfl, ?_, fun row hrow => ?_⟩
    · rw [Expr.ofColumn, Expr.bind, ColumnVar.bind, hpos]
      rfl
    · have hcell : pos < row.length := hrow ▸ hlt pos List.mem_cons_self
      rw [Expr.eval, ColumnVar.eval_of_lt hcell, Row.keyAt, List.getD_eq_getElem _ _ hcell]
  | first :: second :: rest, _ =>
    refine ⟨.ofColumns (first :: second :: rest), .columns bound, rfl, ?_, fun row hrow => ?_⟩
    · rw [Expr.ofColumns, Expr.bind, hbound]
      rfl
    · rw [Expr.eval, heval row hrow, Row.keyAt_of_length_ne_one (by simp [hlength])]
      rfl

/-! ## Sizes of groups -/

/-- The keys of groups with the numbers of their rows. -/
def sizes (groups : List (Value × List Nat)) : List (Value × Nat) :=
  groups.map fun group => (group.1, group.2.length)

theorem sizes_addToBucket (key : Value) (pos : Nat) (groups : List (Value × List Nat)) :
    sizes (addToBucket key pos groups) = Counter.addEntry key 1 (sizes groups) := by
  rw [addToBucket_eq_upsert, Counter.addEntry_eq_upsert]
  exact Entries.map_upsert fun rows => List.length_append

/-- The loop that fills the buckets counts their keys. -/
theorem sizes_bucketsFrom {key : Expr} {pos : Nat} {rows : List Row} {keys : List Value}
    {groups final : List (Value × List Nat)}
    (heval : List.Forall₂ (fun row k => key.eval row = .ok k) rows keys)
    (h : bucketsFrom key pos groups rows = .ok final) :
    sizes final = ((Counter.mk (sizes groups)).extend keys).entries := by
  induction heval generalizing pos groups with
  | nil =>
    cases h
    rfl
  | @cons row k rows keys hrow _ ih =>
    rw [bucketsFrom, hrow] at h
    rw [ih h, sizes_addToBucket]
    rfl

/-- The key expression of columns puts the rows into buckets by their keys. -/
theorem exists_columnBuckets {t : Table} {columns : List ColumnRef} {positions : List Nat}
    (hsome : columns ≠ []) (hresolve : t.schema.resolveAll columns = .ok positions) :
    ∃ key bound groups, columnKey columns = .ok key ∧ key.bind t.schema = .ok bound ∧
      List.Forall₂ (fun row k => bound.eval row = .ok k) t.rows
        (t.rows.map (Row.keyAt positions)) ∧
      t.withUniqueIndex.buckets key = .ok groups ∧
      Partition (t.rows.map (Row.keyAt positions)) groups := by
  obtain ⟨key, bound, hkey, hbind, heval⟩ := eval_columnKey hsome hresolve
  have hkeys : List.Forall₂ (fun row k => bound.eval row = .ok k) t.rows
      (t.rows.map (Row.keyAt positions)) := by
    refine List.forall₂_map_right_iff.mpr (List.forall₂_same.mpr fun row hrow => ?_)
    obtain ⟨entry, hentry, rfl⟩ := List.mem_map.mp hrow
    exact heval entry.2 (t.row_width entry hentry)
  obtain ⟨groups, hbuckets, hpart⟩ := buckets_partition hbind hkeys
  exact ⟨key, bound, groups, hkey, hbind, hkeys, hbuckets, hpart⟩

/-- Groups of the rows of a table lie in it, also when it is numbered anew. -/
theorem Partition.lt_size {t : Table} {f : Row → Value} {groups : List (Value × List Nat)}
    (h : Partition (t.rows.map f) groups) :
    ∀ group ∈ groups, ∀ pos ∈ group.2, pos < t.withUniqueIndex.size := by
  intro group hgroup pos hpos
  have hlt := h.lt_length hgroup hpos
  rwa [List.length_map, Table.rows, List.length_map, ← Table.size, ← t.size_withUniqueIndex] at hlt

theorem groupByColumns_eq {t : Table} {columns : List ColumnRef} {key : Expr} {f : Row → Value}
    {groups : List (Value × List Nat)} (hkey : columnKey columns = .ok key)
    (hbuckets : t.withUniqueIndex.buckets key = .ok groups)
    (hpart : Partition (t.rows.map f) groups) :
    groupByColumns t columns none = .ok ⟨t.withUniqueIndex, groups⟩ := by
  rw [groupByColumns, hkey]
  exact groupBy_none hbuckets hpart.keys_nodup hpart.lt_size

/-- The groups of columns are counted by size as their keys are counted. -/
theorem groupByColumns_sizes {t : Table} {columns : List ColumnRef} {positions : List Nat}
    (hsome : columns ≠ []) (hresolve : t.schema.resolveAll columns = .ok positions) :
    ∃ g, groupByColumns t columns none = .ok g ∧
      sizes g.groups = (Counter.ofList (t.rows.map (Row.keyAt positions))).entries := by
  obtain ⟨key, bound, groups, hkey, hbind, hkeys, hbuckets, hpart⟩ :=
    exists_columnBuckets hsome hresolve
  refine ⟨⟨t.withUniqueIndex, groups⟩, groupByColumns_eq hkey hbuckets hpart, ?_⟩
  rw [Table.buckets, t.schema_withUniqueIndex, hbind, t.rows_withUniqueIndex] at hbuckets
  exact sizes_bucketsFrom hkeys hbuckets

/-! ## Counts of a run -/

/-- A run through stages that let every row pass, for ever, gives all rows. -/
theorem Chain.passage_of_emits {c : Chain} {f : Row → Row} {entries : List Entry}
    (hc : c.Unlimited)
    (hemits : ∀ entry ∈ entries, (pushStages entry.2 c.stages).row = .ok (some (f entry.2))) :
    (c.passage (entries.map .ok)).error = none ∧
      (c.passage (entries.map .ok)).rows = entries.map fun entry => (entry.1, f entry.2) := by
  induction entries generalizing c with
  | nil => exact ⟨rfl, rfl⟩
  | cons entry entries ih =>
    obtain ⟨hfirst, hrest⟩ := List.forall_mem_cons.mp hemits
    have hafter := hc.push entry.2
    have hstages := hc.stages_push entry.2
    have hrow : (c.push entry.2).1 = .ok (some (f entry.2)) := hfirst
    rw [List.map_cons, passage, if_neg (by simp [hc.isExhausted])]
    cases hpush : c.push entry.2 with
    | mk out after =>
      rw [hpush] at hafter hstages hrow
      obtain rfl : out = .ok (some (f entry.2)) := hrow
      obtain ⟨hnone, hrows⟩ := ih hafter (by rwa [hstages])
      refine ⟨hnone, ?_⟩
      rw [List.map_cons, ← hrows]
      rfl

/-- What is counted in a run that goes through: the keys of the rows that come out. -/
theorem Pipeline.stream_distinct {p : Pipeline} {fs : FileSystem} {columns : List ColumnRef}
    {positions : List Nat} {schema : Schema} {q : Passage}
    (hattempt : p.attempt fs = .ok (schema, q)) (hfits : p.source.RowsFit fs)
    (hstart : (Collector.distinct columns).start schema fs = .ok ⟨positions, Counter.empty⟩ fs)
    (hlt : ∀ pos ∈ positions, pos < schema.width) :
    p.stream (Collector.distinct columns) fs =
      .ok (Counter.ofList (q.rows.map fun entry => entry.2.keyAt positions)) fs := by
  have hwidth := attempt_width hattempt hfits
  obtain ⟨chain, items, hbegin, rfl, rfl, hnone⟩ := attempt_eq_ok_iff.mp hattempt
  obtain ⟨hchain, hitems⟩ := begin?_eq_ok_iff.mp hbegin
  have htakes : (Collector.distinct columns).Takes chain.schema.width
      (fun state => state.positions = positions) := by
    have hnever := (Collector.OfLibrary.distinct columns).neverStops
    refine hnever.takes fun state entry hstate hentry => ?_
    rw [Collector.distinct_add_eq (by rwa [hstate, hentry])]
    exact ⟨⟨_, rfl⟩, hstate⟩
  have hcounts : ((Collector.distinct columns).stateAfter ⟨positions, Counter.empty⟩
      (chain.passage items).rows).counts =
        Counter.ofList ((chain.passage items).rows.map fun entry => entry.2.keyAt positions) :=
    Collector.distinct_stateAfter hlt hwidth
  rw [stream_eq, streamWithStats_eq, hchain]
  simp only [hstart]
  rw [driveInto_eq htakes rfl hitems hwidth]
  simp only [hnone]
  rw [← hcounts]
  rfl

/-- A pipeline over a table, with stages that let every row pass. -/
theorem Pipeline.attempt_of_emits {t : Table} {ops : List Operator} {chain : Chain}
    {f : Row → Row} {fs : FileSystem} (hopen : Chain.openOn t.schema ops = .ok chain)
    (hops : ∀ op ∈ ops, op.isLimit = false)
    (hemits : ∀ row, row.length = t.schema.width →
      (pushStages row chain.stages).row = .ok (some (f row))) :
    ∃ q, (Pipeline.mk (.table t) ops).attempt fs = .ok (chain.schema, q) ∧
      q.rows = t.entries.map fun entry => (entry.1, f entry.2) := by
  obtain ⟨hnone, hrows⟩ := Chain.passage_of_emits (Chain.unlimited_of_openOn hops hopen)
    fun entry hentry => hemits entry.2 (t.row_width entry hentry)
  refine ⟨chain.passage (t.entries.map .ok), ?_, hrows⟩
  refine attempt_eq_ok_iff.mpr ⟨chain, t.entries.map .ok, ?_, rfl, rfl, hnone⟩
  exact begin?_eq_ok_iff.mpr ⟨chainIn_eq_ok_iff.mpr ⟨t.schema, rfl, hopen⟩, rfl⟩

theorem Schema.project_of_nodup {s : Schema} {positions : List Nat}
    (hlt : ∀ pos ∈ positions, pos < s.width) (hdistinct : positions.Nodup) :
    ∃ out, s.project positions = .ok out := by
  have hnodup : (positions.map (s.names.getD · "")).Nodup := by
    refine List.Nodup.map_on (fun i hi j hj hij => ?_) hdistinct
    simp only [List.getD_eq_getElem _ _ (hlt i hi), List.getD_eq_getElem _ _ (hlt j hj)] at hij
    exact s.nodup.getElem_inj_iff.mp hij
  exact ⟨⟨_, hnodup⟩, by rw [project, namesAt_eq hlt]; exact ofNames_of_nodup hnodup⟩

section Table

variable {t : Table} {columns : List ColumnRef} {positions : List Nat}

/-- The collector of some columns behind a table counts the keys of its rows. -/
theorem stream_distinct_eq (hsome : columns ≠ [])
    (hresolve : t.schema.resolveAll columns = .ok positions) (fs : FileSystem) :
    (Pipeline.ofSource (.table t)).stream (Collector.distinct columns) fs =
      .ok (Counter.ofList (t.rows.map (Row.keyAt positions))) fs := by
  obtain ⟨-, hlt⟩ := Schema.lt_width_of_resolveAll hresolve
  have hopen : Chain.openOn t.schema [] = .ok ⟨[], t.schema, ⟨0, 0⟩, false⟩ := rfl
  have hemits : ∀ row : Row, row.length = t.schema.width →
      (pushStages row []).row = .ok (some (id row)) := fun _ _ => rfl
  obtain ⟨q, hattempt, hrows⟩ :
      ∃ q, (Pipeline.ofSource (.table t)).attempt fs = .ok (t.schema, q) ∧
        q.rows = t.entries.map fun entry => (entry.1, id entry.2) :=
    Pipeline.attempt_of_emits hopen (fun _ hop => absurd hop List.not_mem_nil) hemits
  have hstart : (Collector.distinct columns).start t.schema fs =
      .ok ⟨positions, Counter.empty⟩ fs := by
    have hempty : columns.isEmpty = false := by
      rw [List.isEmpty_eq_false_iff]
      exact hsome
    simp only [Collector.distinct, Collector.pure, hempty, hresolve]
    rfl
  rw [Pipeline.stream_distinct hattempt (Source.rowsFit_table t fs) hstart hlt, hrows, Table.rows,
    List.map_map, List.map_map]
  rfl

/-- Behind a selection of the columns, whole rows are counted, and their keys are the same. -/
theorem distinctColumns_eq (hresolve : t.schema.resolveAll columns = .ok positions)
    (hdistinct : positions.Nodup) (fs : FileSystem) :
    (Pipeline.ofSource (.table t)).distinctColumns columns fs =
      .ok (Counter.ofList (t.rows.map (Row.keyAt positions))) fs := by
  obtain ⟨-, hlt⟩ := Schema.lt_width_of_resolveAll hresolve
  obtain ⟨out, hproject⟩ := Schema.project_of_nodup hlt hdistinct
  have hwidth : out.width = positions.length := Schema.project_width hproject
  have hselect : (Operator.select columns).openOn t.schema = .ok ⟨out, .select positions⟩ :=
    Operator.openOn_eq_ok_iff.mpr (.select hresolve hproject)
  have hopen : Chain.openOn t.schema [.select columns] =
      .ok ⟨[.select positions], out, ⟨0, 0⟩, false⟩ := by
    simp only [Chain.openOn, openStages, hselect]
  have hemits : ∀ row : Row, row.length = t.schema.width →
      (pushStages row [.select positions]).row =
        .ok (some (positions.map (row.getD · .null))) := by
    intro row hrow
    have hcells : Row.cells row positions = .ok (positions.map (row.getD · .null)) :=
      Row.cells_eq fun pos hpos => hrow ▸ hlt pos hpos
    rw [pushStages_cons, Stage.flow_eq_ok_iff.mpr (.select hcells)]
    rfl
  have hops : ∀ op ∈ [Operator.select columns], op.isLimit = false := by
    intro op hop
    rw [List.mem_singleton.mp hop]
    rfl
  obtain ⟨q, hattempt, hrows⟩ :
      ∃ q, ((Pipeline.ofSource (.table t)).select columns).attempt fs = .ok (out, q) ∧
        q.rows = t.entries.map fun entry => (entry.1, positions.map (entry.2.getD · .null)) :=
    Pipeline.attempt_of_emits hopen hops hemits
  have hstart : (Collector.distinct []).start out fs =
      .ok ⟨List.range positions.length, Counter.empty⟩ fs := by
    rw [← hwidth]
    rfl
  have hrange : ∀ pos ∈ List.range positions.length, pos < out.width := by
    intro pos hpos
    rwa [hwidth, ← List.mem_range]
  rw [Pipeline.distinctColumns, Pipeline.distinct,
    Pipeline.stream_distinct hattempt (Source.rowsFit_table t fs) hstart hrange, hrows, Table.rows,
    List.map_map, List.map_map]
  refine congrArg (fun keys => EStateM.Result.ok (Counter.ofList keys) fs) ?_
  exact List.map_congr_left fun entry _ => Row.keyAt_select positions entry.2

/-! ## Outliers -/

/-- Outliers are found among the counts of the keys. -/
theorem frequencyOutliers_eq (hsome : columns ≠ [])
    (hresolve : t.schema.resolveAll columns = .ok positions) (threshold : Threshold) :
    let counts := Counter.ofList (t.rows.map (Row.keyAt positions))
    ∃ outliers, frequencyOutliers t columns threshold = .ok outliers ∧
      outliers.map (fun o => (o.value, o.count)) = counts.entries.filter fun entry =>
        threshold.holds (Double.div (Double.ofNat entry.2) (Double.ofNat counts.total)) := by
  intro counts
  obtain ⟨-, hlt⟩ := Schema.lt_width_of_resolveAll hresolve
  have hempty : columns.isEmpty = false := by
    rw [List.isEmpty_eq_false_iff]
    exact hsome
  have hkeys : (t.rows.mapM fun row => Row.project row positions) =
      .ok (t.rows.map (Row.keyAt positions)) := by
    refine Result.mapM_eq_ok fun row hrow => Row.project_eq fun pos hpos => ?_
    obtain ⟨entry, hentry, rfl⟩ := List.mem_map.mp hrow
    rw [t.row_width entry hentry]
    exact hlt pos hpos
  let outlier (entry : Value × Nat) : Option Outlier :=
    let frequency := Double.div (Double.ofNat entry.2) (Double.ofNat counts.total)
    if threshold.holds frequency then some ⟨entry.1, entry.2, frequency⟩ else none
  refine ⟨counts.entries.filterMap outlier, ?_, ?_⟩
  · simp only [frequencyOutliers, hempty, hresolve, hkeys]
    rfl
  · rw [List.map_filterMap, ← List.filterMap_eq_filter]
    refine List.filterMap_congr fun entry _ => ?_
    simp only [outlier, Option.guard]
    split <;> rfl

/-! ## All four -/

/-- Columns that resolve to different ones are counted in four ways, with the same keys in the
same order and the same numbers: by the sizes of the groups of rows, behind a selection of the
columns, by a collector that looks at the columns of whole rows, and among the outliers, of which
those are told whose frequency passes the threshold. The keys are cells if there is one column,
and lists of cells if there are several. -/
theorem countings_agree (hsome : columns ≠ [])
    (hresolve : t.schema.resolveAll columns = .ok positions) (hdistinct : positions.Nodup) :
    ∃ counts, counts = Counter.ofList (t.rows.map (Row.keyAt positions)) ∧
      (∃ g, groupByColumns t columns none = .ok g ∧
        g.groups.map (fun group => (group.1, group.2.length)) = counts.entries) ∧
      (∀ fs, (Pipeline.ofSource (.table t)).distinctColumns columns fs = .ok counts fs) ∧
      (∀ fs, (Pipeline.ofSource (.table t)).stream (Collector.distinct columns) fs =
        .ok counts fs) ∧
      ∀ threshold, ∃ outliers, frequencyOutliers t columns threshold = .ok outliers ∧
        outliers.map (fun o => (o.value, o.count)) = counts.entries.filter fun entry =>
          threshold.holds (Double.div (Double.ofNat entry.2) (Double.ofNat counts.total)) :=
  ⟨_, rfl, groupByColumns_sizes hsome hresolve, distinctColumns_eq hresolve hdistinct,
    stream_distinct_eq hsome hresolve, frequencyOutliers_eq hsome hresolve⟩

end Table

/-- The fruits by kind: two figs, and one row without a fruit. -/
theorem fruits_countings :
    ∃ counts : Counter Value, counts.entries = [(.str "fig", 2), (.null, 1)] ∧
      (∃ g, groupByColumns Table.fruits [.name "fruit"] none = .ok g ∧
        g.groups.map (fun group => (group.1, group.2.length)) = counts.entries) ∧
      (Pipeline.ofSource (.table Table.fruits)).distinctColumns [.name "fruit"] .empty =
        .ok counts .empty ∧
      (Pipeline.ofSource (.table Table.fruits)).stream (Collector.distinct [.name "fruit"]) .empty =
        .ok counts .empty ∧
      ∃ outliers, frequencyOutliers Table.fruits [.name "fruit"] (.gt Double.zero) = .ok outliers ∧
        outliers.map (fun o => (o.value, o.count)) = counts.entries := by
  have hresolve : Table.fruits.schema.resolveAll [.name "fruit"] = .ok [0] := rfl
  obtain ⟨counts, rfl, hgroups, hselected, hcollected, houtliers⟩ :=
    countings_agree (List.cons_ne_nil _ _) hresolve (List.nodup_singleton 0)
  refine ⟨_, by decide, hgroups, hselected .empty, hcollected .empty, ?_⟩
  obtain ⟨outliers, houtliers, hpassing⟩ := houtliers (.gt Double.zero)
  refine ⟨outliers, houtliers, hpassing.trans ?_⟩
  decide +kernel

end TableFlow
