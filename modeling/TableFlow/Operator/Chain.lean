import TableFlow.Csv.File
import TableFlow.Operator.Basic

/-!
# Chains

A `Chain` is a sequence of opened stages through which rows are pushed one by one.
A `Collector` takes the rows that come out at its end, and may ask to stop as a stage
may. `drive` pushes the items of a source until they end, one of them fails, or no
further row is wanted.

* `Chain.push` is one row through all stages, `Running.push` one into a collector.
* `drive` is a run over a list of items.
-/

namespace TableFlow

/-- Numbers of rows that were pushed into a chain and that came out of it. -/
structure Stats where
  read : Nat
  emitted : Nat
deriving DecidableEq, Inhabited, Repr

/-- Opened stages, the schema of what they emit, and what happened so far. -/
structure Chain where
  stages : List Stage
  schema : Schema
  stats : Stats
  stopped : Bool
deriving Inhabited

/-- Opens operators one after the other, each on the schema of the one before. -/
def openStages (s : Schema) : List Operator → Result (List Stage × Schema)
  | [] => .ok ([], s)
  | op :: ops =>
    match op.openOn s with
    | .error e => .error e
    | .ok opened =>
      match openStages opened.schema ops with
      | .error e => .error e
      | .ok (stages, out) => .ok (opened.stage :: stages, out)

/-- The outcome of pushing a row through stages: the row that comes out, if any,
whether a stage asked to stop, and the stages after the row. -/
structure Pushed where
  row : Result (Option Row)
  stopped : Bool
  stages : List Stage
deriving Inhabited

/-- Pushes a row through stages. Stages behind one that drops it, or fails on it, do
not see it. -/
def pushStages (row : Row) : List Stage → Pushed
  | [] => ⟨.ok (some row), false, []⟩
  | s :: ss =>
    match s.flow row with
    | .error e => ⟨.error e, false, s :: ss⟩
    | .ok (.emit out) =>
      let rest := pushStages out ss
      ⟨rest.row, rest.stopped, s.next :: rest.stages⟩
    | .ok (.emitLast out) =>
      let rest := pushStages out ss
      ⟨rest.row, true, s.next :: rest.stages⟩
    | .ok .drop => ⟨.ok none, false, s.next :: ss⟩
    | .ok .stop => ⟨.ok none, true, s.next :: ss⟩

namespace Chain

/-- Opens a chain of operators on the schema of a source. -/
def openOn (s : Schema) (ops : List Operator) : Result Chain :=
  match openStages s ops with
  | .error e => .error e
  | .ok (stages, out) => .ok ⟨stages, out, ⟨0, 0⟩, false⟩

/-- The chain can emit nothing more. -/
def isExhausted (c : Chain) : Bool := c.stopped || c.stages.any Stage.isExhausted

/-- Pushes a row: the row that comes out, if any, and the chain after it. -/
def push (c : Chain) (row : Row) : Result (Option Row) × Chain :=
  let pushed := pushStages row c.stages
  let emitted := match pushed.row with
    | .ok (some _) => c.stats.emitted + 1
    | _ => c.stats.emitted
  (pushed.row,
    ⟨pushed.stages, c.schema, ⟨c.stats.read + 1, emitted⟩, c.stopped || pushed.stopped⟩)

/-- The chain once the collector behind it has taken a row with this outcome. -/
def heed (c : Chain) (flow : Flow) : Chain := { c with stopped := c.stopped || flow.stops }

theorem heed_of_goes_on {flow : Flow} (h : flow.stops = false) (c : Chain) : c.heed flow = c := by
  rw [heed, h, Bool.or_false]

@[simp]
theorem heed_drop (c : Chain) : c.heed .drop = c := c.heed_of_goes_on rfl

end Chain

/-! ## Collectors -/

/-- Takes the rows that come out of a chain. Opening and ending may touch files; a
row that is refused may still have changed the state. -/
structure Collector (σ α : Type) where
  start : Schema → Action Error σ
  /-- Takes a row; the outcome only says whether the run should stop. -/
  add : σ → Entry → Result Flow × σ
  /-- No further row will be taken. -/
  isExhausted : σ → Bool := fun _ => false
  /-- Ends a run that went through. -/
  finish : σ → Action Error α
  /-- Ends a run that failed. -/
  abandon : σ → Action Error Unit

/-- A chain with the state of a collector at its end. -/
structure Running (σ : Type) where
  chain : Chain
  state : σ

namespace Running

variable {σ α : Type}

/-- The chain or the collector at its end will take no further row. -/
def isExhausted (collector : Collector σ α) (r : Running σ) : Bool :=
  r.chain.isExhausted || collector.isExhausted r.state

/-- Pushes a row into a chain and hands what comes out to the collector. -/
def push (collector : Collector σ α) (r : Running σ) (entry : Entry) :
    Result Unit × Running σ :=
  match r.chain.push entry.2 with
  | (.error e, chain) => (.error e, ⟨chain, r.state⟩)
  | (.ok none, chain) => (.ok (), ⟨chain, r.state⟩)
  | (.ok (some row), chain) =>
    match collector.add r.state (entry.1, row) with
    | (.error e, state) => (.error e, ⟨chain, state⟩)
    | (.ok flow, state) => (.ok (), ⟨chain.heed flow, state⟩)

end Running

/-- The end of a run: the error that ended it, if any, the state at the end, and the
items that were not taken. -/
structure Driven (σ : Type) where
  error : Option Error
  running : Running σ
  rest : List Item

/-- Pushes items until they end, one of them fails, or the run is exhausted. -/
def drive {σ α : Type} (collector : Collector σ α) (r : Running σ) : List Item → Driven σ
  | [] => ⟨none, r, []⟩
  | item :: items =>
    if r.isExhausted collector then ⟨none, r, item :: items⟩
    else
      match item with
      | .error e => ⟨some e, r, items⟩
      | .ok entry =>
        match r.push collector entry with
        | (.error e, r) => ⟨some e, r, items⟩
        | (.ok (), r) => drive collector r items

end TableFlow
