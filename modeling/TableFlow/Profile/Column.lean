import TableFlow.Counter
import TableFlow.Frame
import TableFlow.Profile.Convert
import TableFlow.Value.Order

/-!
# Column profiles

A profile describes the values of one column: how many there are, how many are
missing, which kinds they have after conversion, the extremes of each kind, and
the most frequent raw values. Raw values are counted first; everything else is
aggregated over rows of the different values.

* `DistinctRow` is such a row, with one column for each type that values are converted to;
* `LabelSummary.all` groups the rows by label;
* `Profiler.add` takes one value, `Profiler.finish` gives the profile.
-/

namespace TableFlow

/-- The least and the greatest value of a kind. -/
structure Extremes where
  least : Value
  greatest : Value
deriving Inhabited

/-- The profile of a column. -/
structure ColumnProfile where
  column : String
  total : Nat
  empty : Nat
  distinct : Nat
  /-- How many values have each kind. -/
  kinds : Counter String
  /-- How many different raw values have each kind. -/
  distinctKinds : Counter String
  extremes : List (String × Extremes)
  top : List (Value × Nat)

namespace ColumnProfile

/-- The share of missing values, in percent. -/
def emptyPercent (p : ColumnProfile) : Double :=
  if p.total = 0 then Double.zero
  else Double.mul (Double.div (Double.ofNat p.empty) (Double.ofNat p.total)) (Double.ofNat 100)

end ColumnProfile

namespace Extremes

/-- The first value stands below the second one. A NaN stands below nothing, and
every number stands below it, so it is an extreme only among NaNs. -/
def below (a b : Value) : Bool :=
  match a, b with
  | .float x, .float y => !x.isNaN && (y.isNaN || Double.lt x y)
  | a, b => Value.cmp a b == .lt

/-- The first value stands above the second one, with NaNs at the end as well. -/
def above (a b : Value) : Bool :=
  match a, b with
  | .float x, .float y => !x.isNaN && (y.isNaN || Double.lt y x)
  | a, b => Value.cmp a b == .gt

/-- The extremes with one more value. -/
def add (r : Extremes) (v : Value) : Extremes :=
  ⟨if below v r.least then v else r.least, if above v r.greatest then v else r.greatest⟩

/-- The extremes of several values; no values have none. -/
def ofValues? : List Value → Option Extremes
  | [] => none
  | v :: vs => some (vs.foldl add ⟨v, v⟩)

end Extremes

/-! ## Rows of different values -/

/-- A raw value that was counted: its position among the different values, its count, the label
of its kind, and what it was converted to in the column of its type. The other columns are empty
there. -/
structure DistinctRow where
  pos : Nat
  count : Nat
  label : String
  int : Option Int64
  float : Option Double
  bool : Option Bool
  text : Option String

namespace DistinctRow

/-- The row of a value with its count, at a position. -/
def ofEntry (c : Converter) (entry : Value × Nat) (pos : Nat) : DistinctRow :=
  let (label, v) := c.cast entry.1
  { pos := pos
    count := entry.2
    label := label
    int := match v with
      | .int i => some i
      | _ => none
    float := match v with
      | .float x => some x
      | _ => none
    bool := v.bool?
    text := match v with
      | .int _ | .float _ | .bool _ => none
      | v => some v.text }

/-- The typed columns, in the order in which they are asked for extremes. -/
def columns : List (DistinctRow → Option Value) :=
  [fun row => row.int.map .int, fun row => row.float.map .float, fun row => row.bool.map .bool,
    fun row => row.text.map .str]

end DistinctRow

/-- What is aggregated over the rows with one label: the number of values, the number of
different ones, and the extremes of each typed column. -/
structure LabelSummary where
  label : String
  values : Nat
  distinct : Nat
  extremes : List (Option Extremes)

namespace LabelSummary

/-- The aggregates over rows with a label. -/
def ofRows (label : String) (rows : List DistinctRow) : LabelSummary :=
  { label := label
    values := rows.foldr (fun row n => row.count + n) 0
    distinct := rows.length
    extremes := DistinctRow.columns.map fun column => Extremes.ofValues? (rows.filterMap column) }

/-- The summaries of all labels, in the order in which the labels first appear. -/
def all (rows : List DistinctRow) : List LabelSummary :=
  (rows.map DistinctRow.label).eraseDups.map fun label =>
    ofRows label (rows.filter fun row => row.label == label)

/-- The extremes of the first typed column that has some. -/
def range? (s : LabelSummary) : Option (String × Extremes) :=
  (s.extremes.findSome? id).map (s.label, ·)

end LabelSummary

/-! ## The profiler -/

/-- A profile under way: the counts of the values that are not missing. -/
structure Profiler where
  converter : Converter
  topCount : Nat
  total : Nat
  empty : Nat
  values : Counter Value

namespace Profiler

/-- A profile of no values yet. -/
def start (converter : Converter) (topCount : Nat) : Profiler :=
  ⟨converter, topCount, 0, 0, Counter.empty⟩

/-- Takes one value. -/
def add (p : Profiler) (v : Value) : Profiler :=
  if v.isEmpty then { p with total := p.total + 1, empty := p.empty + 1 }
  else { p with total := p.total + 1, values := p.values.add v }

/-- The rows of the different values that were taken. -/
def rows (p : Profiler) : List DistinctRow :=
  p.values.entries.mapIdx fun pos entry => DistinctRow.ofEntry p.converter entry pos

/-- The most frequent raw values: rows by falling count, equal counts in their old order. The
positions of the rows lead back to the values. -/
def topValues (p : Profiler) : List (Value × Nat) :=
  let ranked := p.rows.mergeSort fun a b => decide (b.count ≤ a.count)
  (ranked.take p.topCount).filterMap fun row => p.values.entries[row.pos]?

/-- The profile of the values taken so far. -/
def finish (p : Profiler) (column : String) : ColumnProfile :=
  let summaries := LabelSummary.all p.rows
  { column := column
    total := p.total
    empty := p.empty
    distinct := p.values.size
    kinds := summaries.foldl (fun c s => c.addN s.label s.values) Counter.empty
    distinctKinds := summaries.foldl (fun c s => c.addN s.label s.distinct) Counter.empty
    extremes := summaries.filterMap LabelSummary.range?
    top := p.topValues }

/-- The profile of a column of a table. -/
def run (p : Profiler) (t : Table) (column : ColumnRef) : Result ColumnProfile :=
  match t.schema.resolve column with
  | .error e => .error e
  | .ok pos =>
    match t.rows.mapM fun row => Row.cell row pos with
    | .error e => .error e
    | .ok vs => .ok ((vs.foldl add p).finish ((t.schema.name? pos).getD ""))

end Profiler

/-- The profiles of all columns of a data frame. -/
def profileFrame (f : Frame) (converter : Converter) (topCount : Nat) :
    Result (List ColumnProfile) :=
  match Table.ofFrame f with
  | .error e => .error e
  | .ok t =>
    (List.range t.width).mapM fun pos =>
      (Profiler.start converter topCount).run t (.position pos)

end TableFlow
