import TableFlow.Proofs.Operator.Staging
import TableFlow.Proofs.Profile.Statistics

/-!
# Profiles of converted columns

A profile converts the values that it was given. So it makes little difference whether a column was
converted before: raw values that are converted to the same value are not different any more, and
everything else is as it was.

* `Converter.convert_convert` and `Converter.isEmpty_convert` say that nothing is converted twice,
  and that no value goes missing;
* `Table.typecast_eq` is the table with all its cells converted;
* `ColumnProfile.Recast` relates the two profiles of a column, and `Profiler.run_typecast` says
  that they are related.
-/

namespace TableFlow

namespace Converter

variable {c : Converter} {cs : List Char} {label : String} {v w : Value} {vs : List Value}

/-! ## Values that are converted again -/

/-- What is read from a text is not a text, and not missing. -/
theorem eq_of_read? (h : c.read? cs = some w) : w.str? = none ∧ w.isEmpty = false := by
  obtain ⟨type, -, hread⟩ := List.exists_of_findSome?_eq_some h
  cases type with
  | int =>
    obtain ⟨i, -, rfl⟩ := Option.map_eq_some_iff.mp hread
    exact ⟨rfl, rfl⟩
  | float =>
    obtain ⟨x, -, rfl⟩ := Option.map_eq_some_iff.mp hread
    exact ⟨rfl, rfl⟩
  | bool =>
    obtain ⟨b, -, rfl⟩ := Option.map_eq_some_iff.mp hread
    exact ⟨rfl, rfl⟩

/-- A value stays as it is, or it is a text that is converted to something else. -/
theorem convert_cases (c : Converter) (v : Value) : c.convert v = v ∨
    v.isEmpty = false ∧ (c.convert v).str? = none ∧ (c.convert v).isEmpty = false := by
  cases v with
  | str s =>
    rw [convert]
    by_cases hblank : (Text.trim s.toList).isEmpty = true
    · exact .inl (if_pos hblank)
    · rw [if_neg hblank]
      cases hread : c.read? (Text.trim s.toList) with
      | none => exact .inl rfl
      | some w =>
        have hsome : (Value.str s).isEmpty = false := by
          show (s == "") = false
          rw [beq_eq_false_iff_ne]
          rintro rfl
          exact hblank rfl
        exact .inr ⟨hsome, eq_of_read? hread⟩
  | null | bool b | int i | float x | list vs => exact .inl rfl

theorem convert_of_str?_eq_none (h : v.str? = none) : c.convert v = v := by
  cases v with
  | str s => cases h
  | null | bool b | int i | float x | list vs => rfl

/-- A converted value is not converted any further. -/
theorem convert_convert (c : Converter) (v : Value) : c.convert (c.convert v) = c.convert v := by
  rcases c.convert_cases v with hsame | ⟨-, hstr, -⟩
  · rw [hsame, hsame]
  · exact convert_of_str?_eq_none hstr

/-- Exactly the missing values are missing after the conversion. -/
theorem isEmpty_convert (c : Converter) (v : Value) : (c.convert v).isEmpty = v.isEmpty := by
  rcases c.convert_cases v with hsame | ⟨hsome, -, hconverted⟩
  · rw [hsame]
  · rw [hsome, hconverted]

theorem label_convert (c : Converter) (v : Value) : c.label (c.convert v) = c.label v :=
  congrArg Value.label (c.convert_convert v)

theorem present_map_convert (c : Converter) (vs : List Value) :
    Value.present (vs.map c.convert) = (Value.present vs).map c.convert := by
  rw [Value.present, List.filter_map, Value.present]
  refine congrArg (List.map c.convert) (List.filter_congr fun v _ => ?_)
  rw [Function.comp_apply, isEmpty_convert]

theorem map_label_map_convert (c : Converter) (vs : List Value) :
    (vs.map c.convert).map c.label = vs.map c.label := by
  rw [List.map_map]
  exact List.map_congr_left fun v _ => c.label_convert v

/-- Converted values are compared by the same. -/
theorem mem_measures_map_convert :
    v ∈ c.measures label (vs.map c.convert) ↔ v ∈ c.measures label vs := by
  rw [mem_measures_iff, mem_measures_iff]
  constructor
  · rintro ⟨raw, hraw, hlabel, hmeasure⟩
    obtain ⟨u, hu, rfl⟩ := List.mem_map.mp hraw
    rw [label_convert] at hlabel
    rw [convert_convert] at hmeasure
    exact ⟨u, hu, hlabel, hmeasure⟩
  · rintro ⟨raw, hraw, hlabel, hmeasure⟩
    refine ⟨c.convert raw, List.mem_map_of_mem hraw, ?_, ?_⟩
    · rw [label_convert, hlabel]
    · rw [convert_convert, hmeasure]

/-- The converted values without repetitions are no more than the raw ones. -/
theorem eraseDups_map_convert_sublist (c : Converter) (vs : List Value) :
    (vs.map c.convert).eraseDups.Sublist (vs.eraseDups.map c.convert) := by
  rw [← FirstSeen.eraseDups_map_eraseDups]
  exact FirstSeen.eraseDups_sublist _

end Converter

/-! ## Tables that are converted -/

/-- Through stages that let every row pass, for ever, all rows come out. -/
theorem Chain.outputs_of_emits {c : Chain} {f : Row → Row} {entries : List Entry}
    (hc : c.Unlimited)
    (hemits : ∀ row, (pushStages row c.stages).row = .ok (some (f row))) :
    c.outputs entries = .ok (entries.map fun entry => (entry.1, f entry.2)) := by
  induction entries generalizing c with
  | nil => rfl
  | cons entry entries ih =>
    have hafter := hc.push entry.2
    have hstages := hc.stages_push entry.2
    have hrow : (c.push entry.2).1 = .ok (some (f entry.2)) := hemits entry.2
    rw [outputs, if_neg (by simp [hc.isExhausted])]
    rcases hpush : c.push entry.2 with ⟨out, after⟩
    rw [hpush] at hafter hstages hrow
    obtain rfl : out = .ok (some (f entry.2)) := hrow
    simp only
    rw [ih hafter (by rwa [hstages])]
    rfl

namespace Table

variable {t : Table} {pos : Nat}

/-- A table is always converted, cell by cell. -/
theorem typecast_eq (t : Table) (c : Converter) : ∃ u, t.typecast c = .ok u ∧
    u.schema = t.schema ∧
    u.entries = t.entries.map fun entry => (entry.1, entry.2.map c.convert) := by
  have hwidth : ∀ entry ∈ t.entries.map fun entry => (entry.1, entry.2.map c.convert),
      entry.2.length = t.schema.width := by
    intro entry hentry
    obtain ⟨old, hold, rfl⟩ := List.mem_map.mp hentry
    rw [List.length_map, t.row_width old hold]
  refine ⟨⟨t.schema, _, hwidth⟩, ?_, rfl, rfl⟩
  have hunlimited : Chain.Unlimited ⟨[.typecast c], t.schema, ⟨0, 0⟩, false⟩ :=
    ⟨List.forall_mem_singleton.mpr rfl, rfl⟩
  refine transform_eq_ok_iff.mpr ⟨⟨[.typecast c], t.schema, ⟨0, 0⟩, false⟩, rfl, rfl, ?_⟩
  exact Chain.outputs_of_emits (f := fun row => row.map c.convert) hunlimited fun _ => rfl

/-- The cells of a converted table are those of the table, converted. -/
theorem cellsAt_of_entries {u : Table} {c : Converter}
    (h : u.entries = t.entries.map fun entry => (entry.1, entry.2.map c.convert)) (pos : Nat) :
    u.cellsAt pos = (t.cellsAt pos).map c.convert := by
  simp only [cellsAt, rows, h, List.map_map]
  refine List.map_congr_left fun entry _ => ?_
  exact List.getD_map entry.2 .null c.convert

end Table

/-! ## Profiles -/

/-- The second profile is that of the same column with its values converted. -/
structure ColumnProfile.Recast (p q : ColumnProfile) : Prop where
  total : q.total = p.total
  empty : q.empty = p.empty
  kinds : q.kinds = p.kinds
  extremes : ∀ label ∈ ["int", "bool", "str", "list"],
    q.extremes.lookup label = p.extremes.lookup label
  distinct : q.distinct ≤ p.distinct
  distinct_kinds : ∀ label, q.distinctKinds.get label ≤ p.distinctKinds.get label

namespace Profiler

/-- The extremes of a label are those of what its values are compared by. -/
theorem lookup_extremes (c : Converter) (topCount : Nat) (vs : List Value) (column label : String) :
    ((vs.foldl add (start c topCount)).finish column).extremes.lookup label =
      Extremes.ofValues? (c.measures label (Value.present vs).eraseDups) := by
  rw [finish_eq]
  simp only
  rw [Entries.lookup_filterMap]
  split
  · rfl
  · next hlabel =>
    have hnone : c.measures label (Value.present vs).eraseDups = [] := by
      rw [List.eq_nil_iff_forall_not_mem]
      intro v hv
      obtain ⟨raw, hraw, hsame, -⟩ :=
        Converter.mem_measures_iff.mp (Converter.mem_measures_eraseDups.mp hv)
      exact hlabel (List.mem_eraseDups.mpr (List.mem_map.mpr ⟨raw, hraw, hsame⟩))
    rw [hnone]
    rfl

/-- The profile of converted values. -/
theorem finish_recast (c : Converter) (topCount : Nat) (vs : List Value) (column : String) :
    ((vs.foldl add (start c topCount)).finish column).Recast
      (((vs.map c.convert).foldl add (start c topCount)).finish column) where
  total := by
    rw [finish_eq, finish_eq]
    exact List.length_map _
  empty := by
    rw [finish_eq, finish_eq]
    show (vs.map c.convert).countP Value.isEmpty = vs.countP Value.isEmpty
    rw [List.countP_map]
    exact List.countP_congr fun v _ => by rw [Function.comp_apply, c.isEmpty_convert]
  kinds := by
    rw [finish_eq, finish_eq]
    show Counter.ofList _ = Counter.ofList _
    rw [c.present_map_convert, c.map_label_map_convert]
  extremes := by
    intro label hlabel
    rw [lookup_extremes, lookup_extremes]
    refine Extremes.ofValues?_congr (Converter.label_of_mem_measures hlabel) fun v => ?_
    rw [Converter.mem_measures_eraseDups, Converter.mem_measures_eraseDups, c.present_map_convert,
      Converter.mem_measures_map_convert]
  distinct := by
    rw [finish_eq, finish_eq]
    show (Value.present (vs.map c.convert)).eraseDups.length ≤ (Value.present vs).eraseDups.length
    rw [c.present_map_convert]
    have hle := (c.eraseDups_map_convert_sublist (Value.present vs)).length_le
    rwa [List.length_map] at hle
  distinct_kinds := by
    intro label
    rw [finish_eq, finish_eq]
    show (Counter.ofList _).get label ≤ (Counter.ofList _).get label
    rw [Counter.get_ofList, Counter.get_ofList, c.present_map_convert,
      ← c.map_label_map_convert (Value.present vs).eraseDups]
    exact ((c.eraseDups_map_convert_sublist _).map c.label).count_le label

theorem run_eq {t : Table} {column : ColumnRef} {pos : Nat} (p : Profiler)
    (h : t.schema.resolve column = .ok pos) :
    p.run t column =
      .ok (((t.cellsAt pos).foldl add p).finish ((t.schema.name? pos).getD "")) := by
  unfold run
  rw [h]
  simp only
  rw [Table.mapM_cell_eq (Schema.lt_width_of_resolve h)]

theorem run_of_unresolved {t : Table} {column : ColumnRef} {e : Error} (p : Profiler)
    (h : t.schema.resolve column = .error e) : p.run t column = .error e := by
  unfold run
  rw [h]

/-- A column has a profile before and after a table is converted, or it is not in the table. The two
profiles differ in the different values only. -/
theorem run_typecast (t : Table) (column : ColumnRef) (c : Converter) (topCount : Nat) :
    ∃ u, t.typecast c = .ok u ∧
      ((∃ pos p q, t.schema.resolve column = .ok pos ∧
          (start c topCount).run t column = .ok p ∧ (start c topCount).run u column = .ok q ∧
            p.Recast q) ∨
        ∃ e, t.schema.resolve column = .error e ∧
          (start c topCount).run t column = .error e ∧
            (start c topCount).run u column = .error e) := by
  obtain ⟨u, hcast, hschema, hentries⟩ := t.typecast_eq c
  refine ⟨u, hcast, ?_⟩
  cases hresolve : t.schema.resolve column with
  | error e =>
    have hunresolved : u.schema.resolve column = .error e := by rw [hschema, hresolve]
    exact .inr ⟨e, rfl, run_of_unresolved _ hresolve, run_of_unresolved _ hunresolved⟩
  | ok pos =>
    have hresolved : u.schema.resolve column = .ok pos := by rw [hschema, hresolve]
    refine .inl ⟨pos, _, _, rfl, run_eq _ hresolve, run_eq _ hresolved, ?_⟩
    rw [Table.cellsAt_of_entries hentries, hschema]
    exact finish_recast c topCount (t.cellsAt pos) _

end Profiler

end TableFlow
