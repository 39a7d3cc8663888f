import TableFlow.Number.Width
import TableFlow.Table

/-!
# Data frames

A `Frame` is a table stored by columns, each of one type. A table column takes
the narrowest type that holds its cells: truth values, integers, doubles (which
also hold integers), and else texts. Row identifiers are not stored; a table read
from a frame numbers its rows from zero.

* `Table.toFrame` and `Table.ofFrame` convert in both directions.
-/

namespace TableFlow

/-- The type of a frame column. -/
inductive ColumnType where
  | i8 | i16 | i32 | i64
  | u8 | u16 | u32 | u64
  | f32 | f64
  | bool | str
deriving DecidableEq, Inhabited

namespace ColumnType

/-- The name of a column type. -/
def label : ColumnType → String
  | .i8 => "i8"
  | .i16 => "i16"
  | .i32 => "i32"
  | .i64 => "i64"
  | .u8 => "u8"
  | .u16 => "u16"
  | .u32 => "u32"
  | .u64 => "u64"
  | .f32 => "f32"
  | .f64 => "f64"
  | .bool => "bool"
  | .str => "str"

/-- All column types. -/
def all : List ColumnType := [i8, i16, i32, i64, u8, u16, u32, u64, f32, f64, bool, str]

/-- The column type with a name. -/
def ofLabel? (label : String) : Option ColumnType := all.find? fun t => t.label == label

end ColumnType

/-- A cell of a frame, as its column's type stores it. -/
inductive FrameCell where
  | missing
  | bool (b : Bool)
  | whole (i : Int)
  | real (x : Double)
  | text (s : String)
deriving DecidableEq, Inhabited

/-- A named column of cells of one type. -/
structure FrameColumn where
  name : String
  type : ColumnType
  cells : List FrameCell
deriving DecidableEq, Inhabited

/-- Columns of one height and with different names. -/
structure Frame where
  columns : List FrameColumn
deriving DecidableEq, Inhabited

namespace Frame

/-- The number of rows; a frame without columns has none. -/
def height (f : Frame) : Nat :=
  match f.columns with
  | [] => 0
  | c :: _ => c.cells.length

/-- The frame of these columns, if their names differ and their heights agree. -/
def ofColumns (columns : List FrameColumn) : Result Frame :=
  match firstRepeated? [] (columns.map FrameColumn.name) with
  | some name => .error (.frame (.duplicateName name))
  | none =>
    if columns.all fun c => c.cells.length == (Frame.mk columns).height then .ok ⟨columns⟩
    else .error (.frame .unequalHeights)

end Frame

/-! ## From a table -/

/-- The narrowest column type for the cells seen so far. -/
inductive ColumnKind where
  | empty | bool | int | float | text
deriving DecidableEq, Inhabited

namespace ColumnKind

/-- The kind of one cell. -/
def ofValue : Value → ColumnKind
  | .null => .empty
  | .bool _ => .bool
  | .int _ => .int
  | .float _ => .float
  | .str _ | .list _ => .text

/-- The narrowest kind that holds the cells of two kinds. -/
def merge : ColumnKind → ColumnKind → ColumnKind
  | .empty, k => k
  | k, .empty => k
  | .bool, .bool => .bool
  | .int, .int => .int
  | .float, .float => .float
  | .int, .float => .float
  | .float, .int => .float
  | _, _ => .text

/-- The narrowest kind that holds all cells. -/
def ofValues (vs : List Value) : ColumnKind :=
  vs.foldl (fun k v => k.merge (ofValue v)) .empty

/-- The type of a stored column of this kind. -/
def type : ColumnKind → ColumnType
  | .bool => .bool
  | .int => .i64
  | .float => .f64
  | .empty | .text => .str

/-- A cell stored in a column of this kind. -/
def store (k : ColumnKind) (v : Value) : FrameCell :=
  match k with
  | .bool => match v.bool? with
    | some b => .bool b
    | none => .missing
  | .int => match v with
    | .int i => .whole i.toInt
    | _ => .missing
  | .float => match v.number? with
    | some x => .real x
    | none => .missing
  | .empty | .text => if v.isNull then .missing else .text v.text

end ColumnKind

namespace FrameColumn

/-- The column that stores these cells. -/
def ofValues (name : String) (vs : List Value) : FrameColumn :=
  let kind := ColumnKind.ofValues vs
  ⟨name, kind.type, vs.map kind.store⟩

end FrameColumn

namespace FrameCell

/-- The value of a stored cell; an integer beyond 64 signed bits becomes a double. -/
def value : FrameCell → Value
  | .missing => .null
  | .bool b => .bool b
  | .whole i => (int64? i).elim (.float (Double.ofInt i)) .int
  | .real x => .float x
  | .text s => .str s

end FrameCell

namespace Table

/-- The columns of a table from a position on, in stored form. -/
def storeColumns (rows : List Row) (pos : Nat) : List String → Result (List FrameColumn)
  | [] => .ok []
  | name :: names =>
    match rows.mapM fun row => Row.cell row pos with
    | .error e => .error e
    | .ok vs =>
      match storeColumns rows (pos + 1) names with
      | .error e => .error e
      | .ok columns => .ok (FrameColumn.ofValues name vs :: columns)

/-- The table as a frame. -/
def toFrame (t : Table) : Result Frame :=
  match storeColumns t.rows 0 t.schema.names with
  | .error e => .error e
  | .ok columns => Frame.ofColumns columns

/-- The frame as a table whose rows are numbered from zero. -/
def ofFrame (f : Frame) : Result Table :=
  match Schema.ofNames (f.columns.map FrameColumn.name) with
  | .error e => .error e
  | .ok schema =>
    ofRows schema ((List.range f.height).map fun pos =>
      f.columns.map fun c => ((c.cells[pos]?).getD .missing).value)

end Table

end TableFlow
