import TableFlow.Counter
import TableFlow.Operator.Chain
import TableFlow.Profile.Column

/-!
# Collectors

What can be made of the rows of a run: a table, their number, counts of their
values, profiles of their columns, or a file.
-/

namespace TableFlow.Collector

/-- A collector that touches no files and takes as many rows as there are. -/
def pure {σ α : Type} (start : Schema → Result σ) (add : σ → Entry → Result σ)
    (finish : σ → Result α) : Collector σ α :=
  { start := fun s => Action.ofExcept (start s)
    add := fun state entry =>
      match add state entry with
      | .error e => (.error e, state)
      | .ok state => (.ok .drop, state)
    finish := fun state => Action.ofExcept (finish state)
    abandon := fun _ => Action.ofExcept (.ok ()) }

/-- The entries seen so far, the last one first. -/
structure Gathered where
  schema : Schema
  entries : List Entry

/-- The table of all rows. -/
def table : Collector Gathered Table :=
  pure (fun s => .ok ⟨s, []⟩)
    (fun g entry => .ok { g with entries := entry :: g.entries })
    (fun g =>
      let entries := g.entries.reverse
      Table.ofIndex g.schema (entries.map Prod.fst) (entries.map Prod.snd))

/-- The number of rows. -/
def count : Collector Nat Nat := pure (fun _ => .ok 0) (fun n _ => .ok (n + 1)) .ok

/-- The state of a count of values. -/
structure Counting where
  positions : List Nat
  counts : Counter Value

/-- Counts of the values of the given columns, of all columns if none are given. -/
def distinct (columns : List ColumnRef) : Collector Counting (Counter Value) :=
  pure
    (fun s =>
      if columns.isEmpty then .ok ⟨List.range s.width, Counter.empty⟩
      else (s.resolveAll columns).map fun positions => ⟨positions, Counter.empty⟩)
    (fun c entry =>
      (Row.project entry.2 c.positions).map fun v => { c with counts := c.counts.add v })
    (fun c => .ok c.counts)

/-- A column that is being profiled. -/
structure ProfiledColumn where
  position : Nat
  name : String
  profiler : Profiler

/-- Takes the cells of a row into the profiles of their columns. -/
def profileRow (row : Row) : List ProfiledColumn → Result (List ProfiledColumn)
  | [] => .ok []
  | c :: cs =>
    match Row.cell row c.position with
    | .error e => .error e
    | .ok v =>
      (profileRow row cs).map fun cs => { c with profiler := c.profiler.add v } :: cs

/-- Profiles of the given columns, of all columns if none are given. -/
def profile (columns : Option (List ColumnRef)) (topCount : Nat) (converter : Converter) :
    Collector (List ProfiledColumn) (List ColumnProfile) :=
  pure
    (fun s =>
      let positions := match columns with
        | some columns => s.resolveAll columns
        | none => .ok (List.range s.width)
      positions.map fun positions => positions.map fun pos =>
        ⟨pos, (s.name? pos).getD "", Profiler.start converter topCount⟩)
    (fun cs entry => profileRow entry.2 cs)
    (fun cs => .ok (cs.map fun c => c.profiler.finish c.name))

/-- The state of a file that is being written. -/
structure Writing where
  writer : CsvWriter
  written : Nat

/-- Writes all rows to a file and counts them. The file is created at the start, and
what was written reaches it at the end of the run, also of one that failed. -/
def write (file : CsvFile) : Collector Writing Nat :=
  { start := fun s => do
      let writer ← file.create
      match writer.writeHeader s with
      | (.ok (), writer) => Pure.pure ⟨writer, 0⟩
      | (.error e, writer) => do
        -- the file stays, with what the writer had taken so far
        writer.flush
        throw e
    add := fun w entry =>
      match w.writer.writeRow entry.2 with
      | (.ok (), writer) => (.ok .drop, ⟨writer, w.written + 1⟩)
      | (.error e, writer) => (.error e, ⟨writer, w.written⟩)
    finish := fun w => do
      w.writer.flush
      Pure.pure w.written
    abandon := fun w => w.writer.flush }

end TableFlow.Collector
