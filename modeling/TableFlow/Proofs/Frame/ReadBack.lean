import Mathlib.Data.List.Enum
import TableFlow.Proofs.Frame.Kinds
import TableFlow.Proofs.Operator.Mapping

/-!
# Tables read back from frames

A table is stored column by column in a frame and read back row by row. The two directions are
computed here once, as `Table.frame` and `Table.readBack`; what becomes of the cells of a column is
in `TableFlow.Proofs.Frame.Kinds`.

* `Table.toFrame_eq` and `Table.ofFrame_frame` are the two directions;
* `Table.frame_readBack` says that a table that was read back is stored as it was stored before;
* `Table.frame_normalizes` is the whole.
-/

namespace TableFlow

/-- The types of the columns of a frame. -/
def Frame.types (f : Frame) : List ColumnType := f.columns.map FrameColumn.type

namespace Table

variable {t u : Table} {pos : Nat}

/-! ## From rows to columns -/

theorem column_eq (h : pos < t.width) : t.column (.position pos) = .ok (t.cellsAt pos) := by
  have hresolve : t.schema.resolve (.position pos) = .ok pos := if_pos h
  unfold column
  rw [hresolve]
  exact mapM_cell_eq h

/-- The kind of the column at a position. -/
def kindAt (t : Table) (pos : Nat) : ColumnKind := ColumnKind.ofValues (t.cellsAt pos)

/-- The column at a position as it is stored under a name. -/
def storedColumn (t : Table) (column : String × Nat) : FrameColumn :=
  FrameColumn.ofValues column.1 (t.cellsAt column.2)

/-- The frame that stores the table. -/
def frame (t : Table) : Frame := ⟨t.schema.names.zipIdx.map t.storedColumn⟩

theorem storeColumns_eq {names : List String} (h : pos + names.length ≤ t.width) :
    storeColumns t.rows pos names = .ok ((names.zipIdx pos).map t.storedColumn) := by
  induction names generalizing pos with
  | nil => rfl
  | cons name names ih =>
    rw [List.length_cons] at h
    have hcells : (t.rows.mapM fun row => Row.cell row pos) = .ok (t.cellsAt pos) :=
      mapM_cell_eq (by omega)
    have hrest : storeColumns t.rows (pos + 1) names =
        .ok ((names.zipIdx (pos + 1)).map t.storedColumn) := ih (by omega)
    unfold storeColumns
    simp only [hcells, hrest]
    rfl

theorem names_frame (t : Table) : t.frame.columns.map FrameColumn.name = t.schema.names := by
  show (t.schema.names.zipIdx.map t.storedColumn).map FrameColumn.name = t.schema.names
  rw [List.map_map]
  exact List.zipIdx_map_fst 0 t.schema.names

theorem length_cells_frame {c : FrameColumn} (h : c ∈ t.frame.columns) :
    c.cells.length = t.size := by
  obtain ⟨column, -, rfl⟩ := List.mem_map.mp h
  show ((t.cellsAt column.2).map _).length = t.size
  rw [List.length_map, cellsAt, List.length_map, length_rows]

theorem height_frame (h : t.frame.columns ≠ []) : t.frame.height = t.size := by
  unfold Frame.height
  split
  · rename_i hnone
    exact absurd hnone h
  · rename_i c columns hsome
    have hc : c ∈ t.frame.columns := hsome ▸ List.mem_cons_self
    exact length_cells_frame hc

/-- Every table can be stored. -/
theorem toFrame_eq (t : Table) : t.toFrame = .ok t.frame := by
  have hcolumns : storeColumns t.rows 0 t.schema.names = .ok t.frame.columns :=
    storeColumns_eq (Nat.le_of_eq (Nat.zero_add _))
  have hnames : firstRepeated? [] (t.frame.columns.map FrameColumn.name) = none := by
    rw [names_frame]
    exact firstRepeated?_eq_none_of_nodup t.schema.nodup fun _ _ => List.not_mem_nil
  have hheights : ∀ c ∈ t.frame.columns, c.cells.length = t.frame.height := by
    intro c hc
    rw [length_cells_frame hc, height_frame (List.ne_nil_of_mem hc)]
  unfold toFrame
  rw [hcolumns]
  show Frame.ofColumns t.frame.columns = _
  unfold Frame.ofColumns
  rw [hnames]
  exact if_pos (List.all_eq_true.mpr fun c hc => beq_iff_eq.mpr (hheights c hc))

/-! ## From columns to rows -/

/-- A row as it is read back from the frame that stores the table. -/
def settledRow (t : Table) (row : Row) : Row :=
  (List.range t.width).map fun pos => (t.kindAt pos).settle (row.getD pos .null)

/-- The table that is read back from the frame that stores a table. -/
def readBack (t : Table) : Table where
  schema := t.schema
  entries := (List.range t.size).zip (t.rows.map t.settledRow)
  row_width := by
    intro entry hentry
    obtain ⟨row, -, hrow⟩ := List.mem_map.mp (List.of_mem_zip hentry).2
    rw [← hrow, settledRow, List.length_map, List.length_range]
    rfl

theorem rows_frame (t : Table) :
    ((List.range t.size).map fun pos =>
      t.frame.columns.map fun c => ((c.cells[pos]?).getD .missing).value) =
        t.rows.map t.settledRow := by
  refine List.ext_getElem (by simp [length_rows]) ?_
  intro pos hpos hrow
  have hinside : pos < t.rows.length := by simpa using hrow
  -- the names of the columns do not matter, and their positions count up from zero
  have hcell : ∀ column : String × Nat,
      (((t.storedColumn column).cells[pos]?).getD .missing).value =
        (t.kindAt column.2).settle (t.rows[pos].getD column.2 .null) := by
    intro column
    have hstored : (t.storedColumn column).cells[pos]? =
        some ((t.kindAt column.2).store (t.rows[pos].getD column.2 .null)) := by
      show (((t.rows.map (·.getD column.2 .null)).map (t.kindAt column.2).store))[pos]? = _
      rw [List.getElem?_map, List.getElem?_map, List.getElem?_eq_getElem hinside]
      rfl
    rw [hstored]
    rfl
  have hpositions : t.schema.names.zipIdx.map Prod.snd = List.range t.width := by
    rw [List.zipIdx_map_snd, List.range_eq_range']
    rfl
  simp only [List.getElem_map, List.getElem_range, frame, settledRow, List.map_map,
    ← hpositions]
  exact List.map_congr_left fun column _ => hcell column

theorem ofFrame_frame (h : t.width ≠ 0) : ofFrame t.frame = .ok t.readBack := by
  have hschema : Schema.ofNames (t.frame.columns.map FrameColumn.name) = .ok t.schema :=
    Schema.ofNames_eq_ok_iff.mpr (names_frame t)
  have hcolumns : t.frame.columns ≠ [] := by
    intro hnone
    apply h
    show t.schema.names.length = 0
    rw [← names_frame, hnone]
    rfl
  unfold ofFrame
  rw [hschema]
  show ofRows t.schema ((List.range t.frame.height).map _) = _
  rw [height_frame hcolumns, rows_frame]
  have hlength : (List.range t.size).length = (t.rows.map t.settledRow).length := by
    rw [List.length_range, List.length_map, length_rows]
  have hentries := ofIndex_entries t.readBack.row_width
  rw [readBack, List.map_fst_zip (Nat.le_of_eq hlength),
    List.map_snd_zip (Nat.le_of_eq hlength.symm)] at hentries
  rw [ofRows, ← hlength, List.length_range]
  exact hentries

/-! ## The table that is read back -/

theorem rows_readBack (t : Table) : t.readBack.rows = t.rows.map t.settledRow := by
  apply List.map_snd_zip
  rw [List.length_range, List.length_map, length_rows]

theorem size_readBack (t : Table) : t.readBack.size = t.size := by
  rw [← length_rows, rows_readBack, List.length_map, length_rows]

theorem index_readBack (t : Table) : t.readBack.index = List.range t.size := by
  apply List.map_fst_zip
  rw [List.length_range, List.length_map, length_rows]

/-- The cells of a column are read back one by one. -/
theorem cellsAt_readBack (h : pos < t.width) :
    t.readBack.cellsAt pos = (t.cellsAt pos).map (t.kindAt pos).settle := by
  rw [cellsAt, rows_readBack, cellsAt, List.map_map, List.map_map]
  refine List.map_congr_left fun row _ => ?_
  show (t.settledRow row).getD pos .null = (t.kindAt pos).settle (row.getD pos .null)
  have hlt : pos < (t.settledRow row).length := by
    rw [settledRow, List.length_map, List.length_range]
    exact h
  rw [List.getD_eq_getElem _ _ hlt]
  simp only [settledRow, List.getElem_map, List.getElem_range]

/-- A table that was read back is stored as it was stored before. -/
theorem frame_readBack (t : Table) : t.readBack.frame = t.frame := by
  refine congrArg Frame.mk (List.map_congr_left fun column hcolumn => ?_)
  have hlt : column.2 < t.width := (List.mem_zipIdx' hcolumn).1
  rw [storedColumn, cellsAt_readBack hlt]
  exact FrameColumn.ofValues_settled column.1 (t.cellsAt column.2)

/-- The types of the columns do not depend on the order of the rows. -/
theorem types_frame_of_perm (hschema : u.schema = t.schema) (hrows : u.rows.Perm t.rows) :
    u.frame.types = t.frame.types := by
  simp only [Frame.types, frame, hschema, List.map_map]
  refine List.map_congr_left fun column _ => ?_
  have hcells : ∀ v, v ∈ u.cellsAt column.2 ↔ v ∈ t.cellsAt column.2 :=
    fun v => (hrows.map _).mem_iff
  exact congrArg ColumnKind.type (ColumnKind.ofValues_congr hcells)

/-- The frame `f` stores the table, and the table `n` is read back from it. Row identifiers are
lost, and the cells of each column are settled; a second time, nothing changes any more. -/
structure ReadsBack (t : Table) (f : Frame) (n : Table) : Prop where
  stored : t.toFrame = .ok f
  read : ofFrame f = .ok n
  schema : n.schema = t.schema
  size : n.size = t.size
  index : n.index = List.range t.size
  columns : ∀ pos < t.width, ∃ before after, t.column (.position pos) = .ok before ∧
    n.column (.position pos) = .ok after ∧ Settled before after
  order : ∀ u : Table, u.schema = t.schema → u.rows.Perm t.rows →
    u.toFrame.map Frame.types = .ok f.types
  again : n.toFrame = .ok f

/-- A table with columns is stored and read back in a normal form. -/
theorem frame_normalizes (t : Table) (h : t.width ≠ 0) : ∃ f n, t.ReadsBack f n := by
  refine ⟨t.frame, t.readBack, ?_⟩
  exact {
    stored := toFrame_eq t
    read := ofFrame_frame h
    schema := rfl
    size := size_readBack t
    index := index_readBack t
    columns := by
      intro pos hpos
      have hsettled := ColumnKind.settled_ofValues (t.cellsAt pos)
      refine ⟨_, _, column_eq hpos, column_eq (t := t.readBack) hpos, ?_⟩
      rw [cellsAt_readBack hpos]
      exact hsettled
    order := by
      intro u hschema hrows
      rw [toFrame_eq, ← types_frame_of_perm hschema hrows]
      rfl
    again := by rw [toFrame_eq, frame_readBack] }

/-- Columns of one kind and of mixed kinds, with identifiers that do not count up from zero. -/
def scored : Table :=
  ⟨⟨["Name", "Age", "Score", "Active", "Code", "Tags"], by decide⟩,
    [(4, [.str "Ann", .int 31, .int 2, .bool true, .int 7, .list [.int 1]]),
      (9, [.null, .null, .float (Double.ofInt 3), .bool false, .str "x7", .null])],
    by decide⟩

theorem scored_frame_normalizes : scored.width ≠ 0 ∧ ∃ f n, scored.ReadsBack f n ∧
    f.types = [.str, .i64, .f64, .bool, .str, .str] := by
  have hwidth : scored.width ≠ 0 := by decide
  obtain ⟨f, n, h⟩ := frame_normalizes scored hwidth
  refine ⟨hwidth, f, n, h, ?_⟩
  have htypes := h.order scored rfl (.refl _)
  exact (Except.ok.inj htypes).symm

end Table

end TableFlow
