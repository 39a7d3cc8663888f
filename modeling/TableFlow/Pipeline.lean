import TableFlow.Operator.Collector

/-!
# Pipelines

A `Pipeline` is a source of rows with operators behind it. Nothing is read before
a result is asked for; then the schema of the source is read first, the operators
and the collector are opened on it, and only then the source is opened.

* `Pipeline.stream` runs a collector, `Pipeline.toTable` and the like are its uses.
* `Pipeline.rowCursor` hands out rows one at a time.
-/

namespace TableFlow

/-- Where rows come from. -/
inductive Source where
  | table (t : Table)
  | csv (f : CsvFile)
  /-- Rows from elsewhere, of any width, with errors among them. -/
  | rows (schema : Schema) (items : List Item)

namespace Source

instance : Inhabited Source := ⟨.rows default []⟩

/-- The schema of a source. -/
def columns : Source → Action Error Schema
  | .table t => Action.ofExcept (.ok t.schema)
  | .csv f => f.columns
  | .rows schema _ => Action.ofExcept (.ok schema)

/-- The items of a source. -/
def items : Source → Action Error (List Item)
  | .table t => Action.ofExcept (.ok (t.entries.map .ok))
  | .csv f => f.rows
  | .rows _ items => Action.ofExcept (.ok items)

end Source

/-- A source with operators behind it. -/
structure Pipeline where
  source : Source
  operators : List Operator
deriving Inhabited

/-- The result of a run, with what the run says about itself and the number of items
that it took from its source. -/
structure Report (α : Type) where
  result : Result α
  stats : Stats
  taken : Nat

namespace Pipeline

/-- The pipeline without operators. -/
def ofSource (source : Source) : Pipeline := ⟨source, []⟩

/-- The number of operators. -/
def size (p : Pipeline) : Nat := p.operators.length

def isEmpty (p : Pipeline) : Bool := p.operators.isEmpty

/-! ## Builders -/

/-- The pipeline with one more operator. -/
def append (p : Pipeline) (op : Operator) : Pipeline := ⟨p.source, p.operators ++ [op]⟩

def limit (p : Pipeline) (rows : Nat) : Pipeline := p.append (.limit rows)

/-- Keeps the rows on which a predicate holds, and of these at most `rows` if given. -/
def filter (p : Pipeline) (predicate : Predicate) (rows : Option Nat) : Pipeline :=
  let filtered := p.append (.filter predicate false)
  match rows with
  | some rows => filtered.limit rows
  | none => filtered

/-- Drops the rows on which a predicate holds. -/
def delete (p : Pipeline) (predicate : Predicate) : Pipeline :=
  p.append (.filter predicate true)

def select (p : Pipeline) (columns : List ColumnRef) : Pipeline := p.append (.select columns)

/-- Selects columns under new names. -/
def selectAs (p : Pipeline) (columns : List ColumnRef) (names : List String) :
    Result Pipeline :=
  let positions := (List.range columns.length).map .position
  (Operator.ofRename positions names).map fun rename => (p.select columns).append rename

def rename (p : Pipeline) (columns : List ColumnRef) (names : List String) :
    Result Pipeline :=
  (Operator.ofRename columns names).map p.append

def insert (p : Pipeline) (names : List String) (pos : Option Nat) (values : InsertValues) :
    Result Pipeline :=
  (Operator.ofInsert names pos values).map p.append

def update (p : Pipeline) (columns : List ColumnRef) (func : UpdateFunc) : Result Pipeline :=
  (Operator.ofUpdate columns func).map p.append

def typecast (p : Pipeline) (converter : Converter) : Pipeline := p.append (.typecast converter)

/-! ## Runs -/

/-- Opens the operators on the schema of the source. -/
def openChain (p : Pipeline) : Action Error Chain := do
  let schema ← p.source.columns
  Action.ofExcept (Chain.openOn schema p.operators)

/-- The schema of the rows that come out. -/
def columns (p : Pipeline) : Action Error Schema := do
  let chain ← p.openChain
  pure chain.schema

/-- Drives opened operators over the items of the source into a collector. A run
that fails is abandoned by the collector before its error is reported. -/
def driveInto {σ α : Type} (p : Pipeline) (collector : Collector σ α) (chain : Chain)
    (state : σ) : Action Error (Report α) := fun fs =>
  match p.source.items fs with
  | .error e fs =>
    match collector.abandon state fs with
    | .ok _ fs => .error e fs
    | .error _ fs => .error e fs
  | .ok items fs =>
    let driven := drive collector ⟨chain, state⟩ items
    let taken := items.length - driven.rest.length
    let stats := driven.running.chain.stats
    match driven.error with
    | some e =>
      -- a second error, while the run is abandoned, is not told
      match collector.abandon driven.running.state fs with
      | .ok _ fs => .ok ⟨.error e, stats, taken⟩ fs
      | .error _ fs => .ok ⟨.error e, stats, taken⟩ fs
    | none =>
      match collector.finish driven.running.state fs with
      | .ok a fs => .ok ⟨.ok a, stats, taken⟩ fs
      | .error e fs => .ok ⟨.error e, stats, taken⟩ fs

/-- Runs a collector: what it gives, and how the run went once the source was open.
An error before that is the error of the action. -/
def streamReport {σ α : Type} (p : Pipeline) (collector : Collector σ α) :
    Action Error (Report α) := do
  let chain ← p.openChain
  let state ← collector.start chain.schema
  p.driveInto collector chain state

/-- Runs a collector: what it gives, and the numbers of rows read and emitted. -/
def streamWithStats {σ α : Type} (p : Pipeline) (collector : Collector σ α) :
    Action Error (α × Stats) := do
  let report ← p.streamReport collector
  let result ← Action.ofExcept report.result
  pure (result, report.stats)

/-- Runs a collector. -/
def stream {σ α : Type} (p : Pipeline) (collector : Collector σ α) : Action Error α := do
  let (result, _) ← p.streamWithStats collector
  pure result

/-- A collector that only lets rows pass. -/
def discard : Collector Unit Unit := Collector.pure (fun _ => .ok ()) (fun _ _ => .ok ()) .ok

/-- Runs the operators without a result. There is nothing to run without operators. -/
def run (p : Pipeline) : Action Error (Option Stats) :=
  if p.isEmpty then pure none
  else do
    let (_, stats) ← p.streamWithStats discard
    pure (some stats)

/-- The table of the rows that come out. -/
def toTable (p : Pipeline) : Action Error Table := p.stream Collector.table

/-- The data frame of the rows that come out. -/
def toFrame (p : Pipeline) : Action Error Frame := do
  let t ← p.toTable
  Action.ofExcept t.toFrame

/-- The first rows that come out. -/
def head (p : Pipeline) (rows : Nat) : Action Error Table := (p.limit rows).toTable

/-- The number of rows that come out. -/
def count (p : Pipeline) : Action Error Nat := p.stream Collector.count

/-- Counts of the rows that come out. -/
def distinct (p : Pipeline) : Action Error (Counter Value) := p.stream (Collector.distinct [])

/-- Counts of the values of some columns. -/
def distinctColumns (p : Pipeline) (columns : List ColumnRef) : Action Error (Counter Value) :=
  (p.select columns).distinct

/-- Profiles of columns, with the ten most frequent values. -/
def profile (p : Pipeline) (columns : Option (List ColumnRef)) :
    Action Error (List ColumnProfile) :=
  p.stream (Collector.profile columns 10 {})

/-- Writes the rows that come out to a file and counts them. -/
def write (p : Pipeline) (file : CsvFile) : Action Error Nat := p.stream (Collector.write file)

end Pipeline

/-! ## Row by row -/

/-- A run that hands out rows one at a time; it is over after the last row and after
an error. -/
structure RowCursor where
  chain : Chain
  /-- The items that were not taken yet. -/
  rest : List Item
  finished : Bool
deriving Inhabited

namespace RowCursor

/-- Pushes items until a row comes out or the run is over. -/
def advance (chain : Chain) : List Item → Option (Result Entry) × RowCursor
  | [] => (none, ⟨chain, [], true⟩)
  | item :: items =>
    -- a chain that can emit nothing more leaves the item in the source
    if chain.isExhausted then (none, ⟨chain, item :: items, true⟩)
    else
      match item with
      | .error e => (some (.error e), ⟨chain, items, true⟩)
      | .ok entry =>
        match chain.push entry.2 with
        | (.error e, chain) => (some (.error e), ⟨chain, items, true⟩)
        | (.ok (some row), chain) => (some (.ok (entry.1, row)), ⟨chain, items, false⟩)
        | (.ok none, chain) => advance chain items

/-- The next row or error, if the run is not over. -/
def next (c : RowCursor) : Option (Result Entry) × RowCursor :=
  if c.finished then (none, c) else advance c.chain c.rest

/-- What the next calls of `next` give. -/
def take (c : RowCursor) : Nat → List (Option (Result Entry)) × RowCursor
  | 0 => ([], c)
  | n + 1 =>
    let (item, c) := c.next
    let (items, c) := c.take n
    (item :: items, c)

end RowCursor

/-- Opens a run that hands out rows one at a time. -/
def Pipeline.rowCursor (p : Pipeline) : Action Error RowCursor := do
  let chain ← p.openChain
  let items ← p.source.items
  pure ⟨chain, items, false⟩

end TableFlow
