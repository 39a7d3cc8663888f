import TableFlow.Expr.Bind
import TableFlow.Expr.Eval
import TableFlow.Profile.Convert

/-!
# Operators

An `Operator` describes one step of a pipeline. Opening it on a schema gives the
schema of its output and a `Stage`, the state with which it takes rows.

* `Operator.ofRename`, `Operator.ofInsert` and `Operator.ofUpdate` are the checks with
  which an operator is built; it carries what they found.
* `Operator.openOn` binds expressions and references, before any row is read.
* `Stage.flow` says what becomes of a row, and `Stage.next` is the stage after it.
-/

namespace TableFlow

/-- The values of inserted columns. -/
inductive InsertValues where
  /-- The same value in every new column. -/
  | const (v : Value)
  /-- One value for each new column. -/
  | list (vs : List Value)
  /-- Computed from the row: a list of values if there are several new columns. -/
  | expr (e : Expr)

instance : Inhabited InsertValues := ⟨.const .null⟩

/-- The number of listed values, if it is another one than that of the columns. -/
def InsertValues.misfit? (width : Nat) : InsertValues → Option Nat
  | .list vs => if vs.length = width then none else some vs.length
  | .const _ | .expr _ => none

/-- The new values of updated columns. -/
inductive UpdateFunc where
  | const (v : Value)
  /-- Computed from the row: a list of values if several columns are updated. -/
  | expr (e : Expr)
  /-- Looked up by the old value; the last pair with this key counts, and a value
  without a pair stays. -/
  | map (pairs : List (Value × Value))
  /-- Computed from the old values: a list if several columns are updated. -/
  | callable (f : Callable)

instance : Inhabited UpdateFunc := ⟨.const .null⟩

/-- One step of a pipeline. -/
inductive Operator where
  /-- Keeps the rows on which the predicate holds, or drops them if negated. -/
  | filter (p : Predicate) (negated : Bool)
  | select (columns : List ColumnRef)
  | rename (columns : List ColumnRef) (names : List String)
      (named : names.length = columns.length)
  | limit (rows : Nat)
  | insert (names : List String) (pos : Option Nat) (values : InsertValues)
      (new : names ≠ []) (fits : values.misfit? names.length = none)
  | update (columns : List ColumnRef) (func : UpdateFunc) (old : columns ≠ [])
  | typecast (converter : Converter)

instance : Inhabited Operator := ⟨.limit 0⟩

/-- What becomes of a row. -/
inductive Flow where
  | emit (row : Row)
  | drop
  /-- The row goes on, and no further row will. -/
  | emitLast (row : Row)
  /-- The row is dropped, and no further row will go on. -/
  | stop
deriving DecidableEq, Inhabited

/-- No further row will go on. -/
def Flow.stops : Flow → Bool
  | .emitLast _ | .stop => true
  | .emit _ | .drop => false

/-- An operator that is taking rows. -/
inductive Stage where
  | filter (p : Predicate) (negated : Bool)
  | select (positions : List Nat)
  | pass
  | limit (rows count : Nat)
  | insert (pos width : Nat) (values : InsertValues)
  | update (positions : List Nat) (func : UpdateFunc)
  | typecast (converter : Converter)

instance : Inhabited Stage := ⟨.pass⟩

/-- A stage and the schema of the rows that it emits. -/
structure OpenedStage where
  schema : Schema
  stage : Stage
deriving Inhabited

/-! ## Building operators -/

namespace Operator

/-- Renames columns; there has to be one name for each. -/
def ofRename (columns : List ColumnRef) (names : List String) : Result Operator :=
  if named : names.length = columns.length then .ok (.rename columns names named)
  else .error (.construction (.renameCount names.length columns.length))

/-- Inserts at least one column; a list of values has to give one for each. -/
def ofInsert (names : List String) (pos : Option Nat) (values : InsertValues) :
    Result Operator :=
  if new : names = [] then .error (.construction .insertNothing)
  else
    match fits : values.misfit? names.length with
    | none => .ok (.insert names pos values new fits)
    | some count => .error (.construction (.insertCount count names.length))

/-- Updates at least one column. -/
def ofUpdate (columns : List ColumnRef) (func : UpdateFunc) : Result Operator :=
  if old : columns = [] then .error (.construction .updateNothing)
  else .ok (.update columns func old)

/-- The name of an operator. -/
def name : Operator → String
  | .filter _ negated => if negated then "delete" else "filter"
  | .select _ => "select"
  | .rename _ _ _ => "rename"
  | .limit _ => "limit"
  | .insert _ _ _ _ _ => "insert"
  | .update _ _ _ => "update"
  | .typecast _ => "typecast"

end Operator

/-! ## Opening -/

/-- Binds the expression of inserted values. -/
def InsertValues.bind (s : Schema) : InsertValues → Result InsertValues
  | .expr e => (e.bind s).map .expr
  | values => .ok values

/-- Binds the expression of updated values. -/
def UpdateFunc.bind (s : Schema) : UpdateFunc → Result UpdateFunc
  | .expr e => (e.bind s).map .expr
  | func => .ok func

/-- Opens an operator on the schema of its input. -/
def Operator.openOn (s : Schema) : Operator → Result OpenedStage
  | .filter p negated => (p.bind s).map fun p => ⟨s, .filter p negated⟩
  | .select columns =>
    match s.resolveAll columns with
    | .error e => .error e
    | .ok positions => (s.project positions).map fun out => ⟨out, .select positions⟩
  | .rename columns names _ =>
    match s.resolveAll columns with
    | .error e => .error e
    | .ok positions => (s.rename positions names).map fun out => ⟨out, .pass⟩
  | .limit rows => .ok ⟨s, .limit rows 0⟩
  | .insert names pos values _ _ =>
    match s.insert pos names with
    | .error e => .error e
    | .ok out =>
      (values.bind s).map fun values => ⟨out, .insert (pos.getD s.width) names.length values⟩
  | .update columns func _ =>
    match s.resolveAll columns with
    | .error e => .error e
    | .ok positions => (func.bind s).map fun func => ⟨s, .update positions func⟩
  | .typecast converter => .ok ⟨s, .typecast converter⟩

/-! ## Taking rows -/

/-- The values for several columns that a computed value stands for. -/
def Value.spread (width : Nat) (v : Value) : Result (List Value) :=
  if width = 1 then .ok [v]
  else
    match v with
    | .list vs => if vs.length = width then .ok vs else .error (.type (.notValues width v))
    | v => .error (.type (.notValues width v))

/-- The values of `width` inserted columns. -/
def InsertValues.values (row : Row) (width : Nat) : InsertValues → Result (List Value)
  | .const v => .ok (List.replicate width v)
  | .list vs => .ok vs
  | .expr e =>
    match e.eval row with
    | .error err => .error err
    | .ok v => v.spread width

/-- The value of the last pair with this key, or the key itself. -/
def mapped (pairs : List (Value × Value)) (v : Value) : Value :=
  (pairs.reverse.lookup v).getD v

/-- The new values of the columns at the given positions. -/
def UpdateFunc.values (row : Row) (positions : List Nat) : UpdateFunc → Result (List Value)
  | .const v => .ok (List.replicate positions.length v)
  | .expr e =>
    match e.eval row with
    | .error err => .error err
    | .ok v => v.spread positions.length
  | .map pairs => (Row.cells row positions).map fun vs => vs.map (mapped pairs)
  | .callable f =>
    match Row.cells row positions with
    | .error e => .error e
    | .ok vs =>
      match f.call vs with
      | .error e => .error e
      | .ok v => v.spread positions.length

/-- Puts values at positions of a row, one after the other. -/
def Row.assign (row : Row) : List (Nat × Value) → Result Row
  | [] => .ok row
  | (pos, v) :: rest =>
    if pos < row.length then Row.assign (row.set pos v) rest
    else .error (.unknownColumn (.cell pos row.length))

namespace Stage

/-- What becomes of a row. An insertion panics on a row that is shorter than its position, which
no chain hands to it; this has no counterpart here, where the new values go to the end. -/
def flow (row : Row) : Stage → Result Flow
  | .filter p negated =>
    (p.eval row).map fun holds => if holds != negated then .emit row else .drop
  | .select positions => (Row.cells row positions).map .emit
  | .pass => .ok (.emit row)
  | .limit rows count =>
    if rows ≤ count then .ok .stop
    else if count + 1 = rows then .ok (.emitLast row)
    else .ok (.emit row)
  | .insert pos width values =>
    (values.values row width).map fun vs => .emit (row.take pos ++ vs ++ row.drop pos)
  | .update positions func =>
    match func.values row positions with
    | .error e => .error e
    | .ok vs => (Row.assign row (positions.zip vs)).map .emit
  | .typecast converter => .ok (.emit (row.map converter.convert))

/-- The stage after a row. -/
def next : Stage → Stage
  | .limit rows count => .limit rows (if rows ≤ count then count else count + 1)
  | s => s

/-- No further row will be emitted. -/
def isExhausted : Stage → Bool
  | .limit rows count => rows ≤ count
  | _ => false

end Stage

end TableFlow
