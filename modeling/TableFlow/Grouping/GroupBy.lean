import TableFlow.Expr.Bind
import TableFlow.Expr.Eval
import TableFlow.Frame
import TableFlow.Grouping.Basic

/-!
# Grouping by a key

`groupBy` puts every row of a table into the group of its key, the value of an
expression. A table whose row identifiers repeat is numbered anew first. A
`Having` keeps some of the groups.
-/

namespace TableFlow

/-- Which groups are kept. -/
inductive Having where
  /-- The groups of exactly this many rows. -/
  | size (n : Nat)
  /-- The groups for which a callback returns true. -/
  | holds (f : Table → Value)

namespace Having

/-- Whether a group is kept. A callback has to return a truth value. -/
def keeps (h : Having) (t : Table) (rows : List Nat) : Result Bool :=
  match h with
  | .size n => .ok (rows.length == n)
  | .holds f =>
    match t.take rows with
    | .error e => .error e
    | .ok group =>
      match f group with
      | .bool b => .ok b
      | v => .error (.contract v)

end Having

/-- The table, numbered anew if row identifiers repeat. -/
def Table.withUniqueIndex (t : Table) : Table :=
  if t.hasDuplicateIndex then t.resetIndex else t

/-- Adds a position to the bucket of a key; a new key goes to the end. -/
def addToBucket (key : Value) (pos : Nat) :
    List (Value × List Nat) → List (Value × List Nat)
  | [] => [(key, [pos])]
  | (other, rows) :: rest =>
    if other = key then (other, rows ++ [pos]) :: rest
    else (other, rows) :: addToBucket key pos rest

/-- Buckets of positions by key, for rows from a position on. -/
def bucketsFrom (key : Expr) (pos : Nat) (buckets : List (Value × List Nat)) :
    List Row → Result (List (Value × List Nat))
  | [] => .ok buckets
  | row :: rows =>
    match key.eval row with
    | .error e => .error e
    | .ok v => bucketsFrom key (pos + 1) (addToBucket v pos buckets) rows

/-- The positions of a table's rows by key, keys in the order of their first row. -/
def Table.buckets (t : Table) (key : Expr) : Result (List (Value × List Nat)) :=
  match key.bind t.schema with
  | .error e => .error e
  | .ok key => bucketsFrom key 0 [] t.rows

/-- Adds the buckets that are kept as groups. -/
def addBuckets (having : Option Having) (g : Grouping) :
    List (Value × List Nat) → Result Grouping
  | [] => .ok g
  | (key, rows) :: rest =>
    match (having.map fun h => h.keeps g.table rows).getD (.ok true) with
    | .error e => .error e
    | .ok false => addBuckets having g rest
    | .ok true =>
      match g.add key rows with
      | .error e => .error e
      | .ok g => addBuckets having g rest

/-- Groups the rows of a table by the value of an expression. -/
def groupBy (t : Table) (key : Expr) (having : Option Having) : Result Grouping :=
  let t := t.withUniqueIndex
  match t.buckets key with
  | .error e => .error e
  | .ok buckets => addBuckets having (Grouping.empty t) buckets

/-- The key made of columns: the cell itself of one column, a list of several. -/
def columnKey (columns : List ColumnRef) : Result Expr :=
  match columns with
  | [] => .error (.construction .noKeyColumns)
  | [column] => .ok (.ofColumn column)
  | columns => .ok (.ofColumns columns)

/-- Groups the rows of a table by columns. -/
def groupByColumns (t : Table) (columns : List ColumnRef) (having : Option Having) :
    Result Grouping :=
  match columnKey columns with
  | .error e => .error e
  | .ok key => groupBy t key having

/-- Groups the rows of a table by a callable on columns. -/
def groupByCallable (t : Table) (columns : List ColumnRef) (f : Callable)
    (having : Option Having) : Result Grouping :=
  match Expr.ofCallableColumns f columns with
  | .error e => .error e
  | .ok key => groupBy t key having

/-- Groups the rows of a data frame. -/
def groupByFrame (f : Frame) (key : Expr) (having : Option Having) : Result Grouping :=
  match Table.ofFrame f with
  | .error e => .error e
  | .ok t => groupBy t key having

end TableFlow
