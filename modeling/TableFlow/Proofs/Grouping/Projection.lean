import TableFlow.Proofs.Counter.FirstSeen
import TableFlow.Proofs.Grouping.Partition
import TableFlow.Proofs.Pipeline.Modes
import TableFlow.Proofs.Schema.Names

/-!
# Columns of groups

What the rows of a group have in some columns is read row by row. `Table.keyAt` is the value of
the columns at a position of a table, and `Row.keyAt_eq_iff` says that two rows have the same one
if they have the same cells. `Grouping.projected_eq` reads the values of a whole group, and
`Grouping.lt_size_of_projected` is what it takes. `Grouping.values_eq` counts them.
-/

namespace TableFlow

/-! ## Rows that agree -/

/-- Two rows have the same cells at some positions. -/
def Row.AgreeOn (positions : List Nat) (row other : Row) : Prop :=
  ∀ pos ∈ positions, row[pos]? = other[pos]?

/-- Rows of one width agree exactly if they have the same value in the columns. -/
theorem Row.keyAt_eq_iff {positions : List Nat} {row other : Row} {width : Nat}
    (hrow : row.length = width) (hother : other.length = width)
    (hlt : ∀ pos ∈ positions, pos < width) :
    row.keyAt positions = other.keyAt positions ↔ AgreeOn positions row other := by
  have hcell : ∀ pos ∈ positions,
      row.getD pos .null = other.getD pos .null ↔ row[pos]? = other[pos]? := by
    intro pos hpos
    have hwidth := hlt pos hpos
    rw [List.getD_eq_getElem _ _ (by omega), List.getD_eq_getElem _ _ (by omega),
      List.getElem?_eq_getElem (by omega), List.getElem?_eq_getElem (by omega),
      Option.some.injEq]
  by_cases hone : positions.length = 1
  · obtain ⟨pos, rfl⟩ := List.length_eq_one_iff.mp hone
    rw [AgreeOn, List.forall_mem_singleton]
    exact hcell pos List.mem_cons_self
  · rw [keyAt_of_length_ne_one hone, keyAt_of_length_ne_one hone, Value.list.injEq,
      List.map_inj_left, AgreeOn]
    exact forall₂_congr hcell

namespace Table

variable {t : Table} {positions : List Nat}

/-- The value of some columns in the row at a position. -/
def keyAt (t : Table) (positions : List Nat) (pos : Nat) : Value :=
  Row.keyAt positions (t.rows.getD pos [])

theorem keyAt_withUniqueIndex (t : Table) : t.withUniqueIndex.keyAt = t.keyAt := by
  unfold keyAt
  rw [rows_withUniqueIndex]

theorem keyAt_of_getElem? {pos : Nat} {row : Row} (h : t.rows[pos]? = some row) :
    t.keyAt positions pos = row.keyAt positions := by
  rw [keyAt, List.getD_eq_getElem?_getD, h, Option.getD_some]

theorem row?_eq (t : Table) (pos : Nat) : t.row? pos = t.rows[pos]? := by
  rw [row?, rows, List.getElem?_map]

/-- A row can be read exactly if the position lies in the table. -/
theorem rowAt_eq_ok_iff {pos : Nat} {row : Row} :
    t.rowAt pos = .ok row ↔ t.rows[pos]? = some row := by
  rw [rowAt, row?_eq]
  cases t.rows[pos]? <;> simp

end Table

/-! ## Values of groups -/

namespace Grouping

variable {t : Table} {positions rows : List Nat}

/-- In a group inside the table every row has a value. -/
theorem projected_eq (hlt : ∀ pos ∈ positions, pos < t.schema.width)
    (hrange : ∀ pos ∈ rows, pos < t.size) :
    projected t positions rows = .ok (rows.map (t.keyAt positions)) := by
  refine Result.mapM_eq_ok fun pos hpos => ?_
  have hinside : pos < t.rows.length := t.length_rows ▸ hrange pos hpos
  have hrow := List.getElem?_eq_getElem hinside
  have hcells : ∀ p ∈ positions, p < (t.rows[pos]).length := by
    intro p hp
    rw [Table.width_of_mem_rows (List.getElem_mem hinside)]
    exact hlt p hp
  simp only [Table.rowAt_eq_ok_iff.mpr hrow]
  rw [Row.project_eq hcells, Table.keyAt_of_getElem? hrow]

/-- Values were read only if all positions lie in the table. -/
theorem lt_size_of_projected {vs : List Value} (h : projected t positions rows = .ok vs) :
    ∀ pos ∈ rows, pos < t.size := by
  induction rows generalizing vs with
  | nil => exact fun _ hpos => absurd hpos List.not_mem_nil
  | cons pos rows ih =>
    rw [projected, List.mapM_cons] at h
    cases hrow : t.rowAt pos with
    | error e =>
      simp only [hrow] at h
      cases h
    | ok row =>
      cases hvalue : Row.project row positions with
      | error e =>
        simp only [hrow, hvalue] at h
        cases h
      | ok v =>
        cases hrest : projected t positions rows with
        | error e =>
          rw [projected] at hrest
          simp only [hrow, hvalue, hrest] at h
          cases h
        | ok vs =>
          refine List.forall_mem_cons.mpr ⟨?_, ih hrest⟩
          rw [← t.length_rows]
          exact (List.getElem?_eq_some_iff.mp (Table.rowAt_eq_ok_iff.mp hrow)).1

/-- The counter of a group inside the table counts the values of its rows. -/
theorem values_eq {g : Grouping} {key : Value} {columns : List ColumnRef}
    (hresolve : g.table.schema.resolveAll columns = .ok positions)
    (hgroup : g.rows? key = some rows) (hrange : ∀ pos ∈ rows, pos < g.table.size) :
    g.values key columns = .ok (some (Counter.ofList (rows.map (g.table.keyAt positions)))) := by
  obtain ⟨-, hlt⟩ := Schema.lt_width_of_resolveAll hresolve
  rw [values, hresolve]
  simp only [hgroup, projected_eq hlt hrange]
  rfl

end Grouping

end TableFlow
