import TableFlow.Schema

/-!
# Tables

A `Table` holds rows of one width under a schema. Each row comes with an
identifier, which survives filtering and projection and need not be unique.

* `Table.ofRows` numbers the rows from zero, `Table.ofIndex` takes identifiers.
* `Table.take` keeps the rows at given positions.
-/

namespace TableFlow

/-- A row with its identifier. -/
abbrev Entry := Nat × Row

/-- A table: rows as wide as the schema, each with an identifier. -/
structure Table where
  schema : Schema
  entries : List Entry
  row_width : ∀ entry ∈ entries, entry.2.length = schema.width

/-- The cell at a position of a row. -/
def Row.cell (row : Row) (pos : Nat) : Result Value :=
  match row[pos]? with
  | some v => .ok v
  | none => .error (.unknownColumn (.cell pos row.length))

/-- The cells at several positions of a row. -/
def Row.cells (row : Row) : List Nat → Result (List Value)
  | [] => .ok []
  | pos :: positions =>
    match Row.cell row pos with
    | .error e => .error e
    | .ok v =>
      match Row.cells row positions with
      | .error e => .error e
      | .ok vs => .ok (v :: vs)

/-- The cells at several positions as one value: the cell itself if there is one
position, and a list otherwise. -/
def Row.project (row : Row) (positions : List Nat) : Result Value :=
  match positions with
  | [pos] => Row.cell row pos
  | _ =>
    match Row.cells row positions with
    | .error e => .error e
    | .ok vs => .ok (.list vs)

namespace Table

/-- The table without rows. -/
def empty (schema : Schema) : Table := ⟨schema, [], by simp⟩

instance : Inhabited Table := ⟨empty default⟩

/-- The first row of another width, with its position. -/
def firstMisfit? (width pos : Nat) : List Row → Option (Nat × Row)
  | [] => none
  | row :: rows =>
    if row.length = width then firstMisfit? width (pos + 1) rows else some (pos, row)

theorem row_width_of_firstMisfit?_eq_none {width pos : Nat} {rows : List Row}
    (h : firstMisfit? width pos rows = none) : ∀ row ∈ rows, row.length = width := by
  induction rows generalizing pos with
  | nil => simp
  | cons row rows ih =>
    rw [firstMisfit?] at h
    split at h
    · rename_i fits
      intro other member
      rcases List.mem_cons.1 member with rfl | member
      · exact fits
      · exact ih h other member
    · simp at h

/-- The table of rows with the given identifiers: one identifier a row, and every
row as wide as the schema. -/
def ofIndex (schema : Schema) (index : List Nat) (rows : List Row) : Result Table :=
  if index.length = rows.length then
    match h : firstMisfit? schema.width 0 rows with
    | none =>
      .ok ⟨schema, index.zip rows, fun entry member =>
        row_width_of_firstMisfit?_eq_none h entry.2 (List.of_mem_zip member).2⟩
    | some (pos, row) => .error (.construction (.rowWidth pos row.length schema.width))
  else .error (.construction (.indexCount index.length rows.length))

/-- The table of rows numbered from zero. -/
def ofRows (schema : Schema) (rows : List Row) : Result Table :=
  ofIndex schema (List.range rows.length) rows

/-! ## Views -/

/-- The number of rows. -/
def size (t : Table) : Nat := t.entries.length

/-- The number of columns. -/
def width (t : Table) : Nat := t.schema.width

def isEmpty (t : Table) : Bool := t.entries.isEmpty

/-- The identifiers of the rows. -/
def index (t : Table) : List Nat := t.entries.map Prod.fst

def rows (t : Table) : List Row := t.entries.map Prod.snd

def row? (t : Table) (pos : Nat) : Option Row := (t.entries[pos]?).map Prod.snd

def rowId? (t : Table) (pos : Nat) : Option Nat := (t.entries[pos]?).map Prod.fst

/-- The row at a position. -/
def rowAt (t : Table) (pos : Nat) : Result Row :=
  match t.row? pos with
  | some row => .ok row
  | none => .error (.construction (.rowPosition pos t.size))

/-- The cells of one column. -/
def column (t : Table) (column : ColumnRef) : Result (List Value) :=
  match t.schema.resolve column with
  | .error e => .error e
  | .ok pos => t.rows.mapM fun row => Row.cell row pos

/-- Some identifier occurs twice. -/
def hasDuplicateIndex (t : Table) : Bool := !decide t.index.Nodup

/-! ## Derived tables -/

/-- The entries at the given positions. -/
def entriesAt (t : Table) : List Nat → Result (List Entry)
  | [] => .ok []
  | pos :: positions =>
    match t.entries[pos]? with
    | none => .error (.construction (.rowPosition pos t.size))
    | some entry =>
      match t.entriesAt positions with
      | .error e => .error e
      | .ok entries => .ok (entry :: entries)

theorem mem_of_entriesAt {t : Table} {positions : List Nat} {entries : List Entry}
    (h : t.entriesAt positions = .ok entries) : ∀ entry ∈ entries, entry ∈ t.entries := by
  induction positions generalizing entries with
  | nil =>
    rw [entriesAt] at h
    cases h
    simp
  | cons pos positions ih =>
    rw [entriesAt] at h
    split at h
    · cases h
    · rename_i entry found
      split at h
      · cases h
      · rename_i rest taken
        cases h
        intro other member
        rcases List.mem_cons.1 member with rfl | member
        · exact List.mem_of_getElem? found
        · exact ih taken other member

/-- The rows at the given positions, with their identifiers. -/
def take (t : Table) (positions : List Nat) : Result Table :=
  match h : t.entriesAt positions with
  | .error e => .error e
  | .ok entries =>
    .ok ⟨t.schema, entries, fun entry member =>
      t.row_width entry (mem_of_entriesAt h entry member)⟩

/-- The same rows, numbered from zero. -/
def resetIndex (t : Table) : Table :=
  ⟨t.schema, (List.range t.size).zip t.rows, fun entry member => by
    obtain ⟨other, inside, equal⟩ := List.mem_map.1 (List.of_mem_zip member).2
    rw [← equal]
    exact t.row_width other inside⟩

end Table

end TableFlow
