import TableFlow.Pipeline
import TableFlow.Proofs.Operator.Passage

/-!
# Runs of a pipeline from their start

A run reads the columns of its source, opens the operators and the collector, and then
reads the items of the source. Reading changes no files, so what a source gives is a
function of the file system.

* `Pipeline.streamReport_eq` and `Pipeline.streamWithStats_eq` take a run apart into these
  steps;
* `Pipeline.driveInto_eq` is its last step for a collector that takes all of the rows, as
  the passage of the items through the chain;
* `Pipeline.attempt` is what a pipeline makes of its source, whoever collects the rows, and
  `Collector.Gathers.streamWithStats_eq` the run into a collector that touches no files.
-/

namespace TableFlow

/-! ## Sources -/

namespace Source

/-- The schema of a source, in a file system. -/
def columnsIn (fs : FileSystem) : Source → Result Schema
  | .table t => .ok t.schema
  | .csv f => f.columnsIn fs
  | .rows schema _ => .ok schema

/-- The items of a source, in a file system. -/
def itemsIn (fs : FileSystem) : Source → Result (List Item)
  | .table t => .ok (t.entries.map .ok)
  | .csv f => f.rowsIn fs
  | .rows _ items => .ok items

theorem columns_eq (source : Source) (fs : FileSystem) :
    source.columns fs = Action.ofExcept (source.columnsIn fs) fs := by
  cases source <;> rfl

theorem items_eq (source : Source) (fs : FileSystem) :
    source.items fs = Action.ofExcept (source.itemsIn fs) fs := by
  cases source <;> rfl

/-- The items of a source are errors and rows of its width. -/
def RowsFit (source : Source) (fs : FileSystem) : Prop :=
  ∀ s items, source.columns fs = .ok s fs → source.items fs = .ok items fs →
    ∀ item ∈ items, item.Fits s.width

end Source

namespace Action

variable {ε α : Type}

theorem ofExcept_eq_ok_iff {r : Except ε α} {fs after : FileSystem} {a : α} :
    Action.ofExcept r fs = .ok a after ↔ r = .ok a ∧ after = fs := by
  cases r <;> simp [Action.ofExcept, eq_comm]

end Action

theorem CsvFile.columns_eq_ok_iff {f : CsvFile} {fs : FileSystem} {s : Schema} :
    f.columns fs = .ok s fs ↔ f.columnsIn fs = .ok s := by
  unfold columns Action.inspect
  cases f.columnsIn fs <;> simp

theorem CsvFile.rows_eq_ok_iff {f : CsvFile} {fs : FileSystem} {items : List Item} :
    f.rows fs = .ok items fs ↔ f.rowsIn fs = .ok items := by
  unfold rows Action.inspect
  cases f.rowsIn fs <;> simp

theorem Source.rowsFit_table (t : Table) (fs : FileSystem) : (Source.table t).RowsFit fs := by
  intro s items hcolumns hitems item hitem entry hentry
  cases hcolumns
  cases hitems
  obtain ⟨row, hrow, rfl⟩ := List.mem_map.mp hitem
  cases hentry
  exact t.row_width _ hrow

/-- A line of another width than the schema is an error. -/
theorem CsvFile.item_fits (width : Nat) (row : Except Csv.Fault (List String)) (id : Nat) :
    Item.Fits width (item width row id) := by
  intro entry hentry
  unfold item at hentry
  split at hentry
  · cases hentry
  · split at hentry
    · rename_i hwidth
      cases hentry
      rw [List.length_map, hwidth]
    · cases hentry

theorem CsvFile.rowsIn_fit {f : CsvFile} {fs : FileSystem} {s : Schema} {items : List Item}
    (hcolumns : f.columnsIn fs = .ok s) (hrows : f.rowsIn fs = .ok items) :
    ∀ item ∈ items, item.Fits s.width := by
  simp only [rowsIn, hcolumns] at hrows
  split at hrows
  · cases hrows
  · cases hrows
    intro item hitem entry hentry
    rw [List.mem_singleton.mp hitem] at hentry
    cases hentry
  · cases hrows
    intro item hitem
    obtain ⟨⟨row, id⟩, -, rfl⟩ := List.mem_map.mp hitem
    exact item_fits s.width row id

theorem Source.rowsFit_csv (f : CsvFile) (fs : FileSystem) : (Source.csv f).RowsFit fs := by
  intro s items hcolumns hitems
  rw [columns_eq] at hcolumns
  rw [items_eq] at hitems
  exact CsvFile.rowsIn_fit (Action.ofExcept_eq_ok_iff.mp hcolumns).1
    (Action.ofExcept_eq_ok_iff.mp hitems).1

namespace Pipeline

/-! ## Opening -/

/-- The opened operators of a pipeline, in a file system. -/
def chainIn (p : Pipeline) (fs : FileSystem) : Result Chain :=
  match p.source.columnsIn fs with
  | .error e => .error e
  | .ok s => Chain.openOn s p.operators

theorem chainIn_eq_ok_iff {p : Pipeline} {fs : FileSystem} {chain : Chain} :
    p.chainIn fs = .ok chain ↔
      ∃ s, p.source.columnsIn fs = .ok s ∧ Chain.openOn s p.operators = .ok chain := by
  unfold chainIn
  cases p.source.columnsIn fs <;> simp

/-- No rows were read or emitted when everything has just been opened. -/
theorem chainIn_stats {p : Pipeline} {fs : FileSystem} {chain : Chain}
    (h : p.chainIn fs = .ok chain) : chain.stats = ⟨0, 0⟩ := by
  obtain ⟨s, -, hopen⟩ := chainIn_eq_ok_iff.mp h
  unfold Chain.openOn at hopen
  split at hopen <;> cases hopen
  rfl

theorem openChain_eq (p : Pipeline) (fs : FileSystem) :
    p.openChain fs = Action.ofExcept (p.chainIn fs) fs := by
  show EStateM.bind _ _ fs = _
  simp only [EStateM.bind, p.source.columns_eq, chainIn]
  cases p.source.columnsIn fs <;> rfl

theorem columns_eq (p : Pipeline) (fs : FileSystem) :
    p.columns fs = Action.ofExcept ((p.chainIn fs).map Chain.schema) fs := by
  show EStateM.bind _ _ fs = _
  simp only [EStateM.bind, p.openChain_eq]
  cases p.chainIn fs <;> rfl

/-- The rows that come out of an opened pipeline have the width of its columns. -/
theorem passage_width {p : Pipeline} {fs : FileSystem} {chain : Chain} {items : List Item}
    (hchain : p.chainIn fs = .ok chain) (hitems : p.source.itemsIn fs = .ok items)
    (hfits : p.source.RowsFit fs) :
    ∀ entry ∈ (chain.passage items).rows, entry.2.length = chain.schema.width := by
  unfold chainIn at hchain
  split at hchain
  · cases hchain
  · rename_i s hcolumns
    have hwidth : ∀ item ∈ items, item.Fits s.width := by
      apply hfits s items
      · rw [Source.columns_eq, hcolumns]
        rfl
      · rw [Source.items_eq, hitems]
        rfl
    exact Chain.passage_width (Chain.openOn_carries hchain) hwidth

/-! ## Running -/

theorem streamReport_eq {σ α : Type} (p : Pipeline) (collector : Collector σ α)
    (fs : FileSystem) :
    p.streamReport collector fs =
      match p.chainIn fs with
      | .error e => .error e fs
      | .ok chain =>
        match collector.start chain.schema fs with
        | .error e after => .error e after
        | .ok state after => p.driveInto collector chain state after := by
  show EStateM.bind _ _ fs = _
  simp only [EStateM.bind, p.openChain_eq]
  cases p.chainIn fs with
  | error e => rfl
  | ok chain =>
    show EStateM.bind _ _ fs = _
    simp only [EStateM.bind]
    cases collector.start chain.schema fs <;> rfl

theorem streamWithStats_eq_report {σ α : Type} (p : Pipeline) (collector : Collector σ α)
    (fs : FileSystem) :
    p.streamWithStats collector fs =
      match p.streamReport collector fs with
      | .error e after => .error e after
      | .ok report after =>
        match report.result with
        | .error e => .error e after
        | .ok a => .ok (a, report.stats) after := by
  show EStateM.bind _ _ fs = _
  simp only [EStateM.bind]
  cases p.streamReport collector fs with
  | error e after => rfl
  | ok report after =>
    show EStateM.bind _ _ after = _
    simp only [EStateM.bind, Action.ofExcept]
    cases report.result <;> rfl

theorem streamWithStats_eq {σ α : Type} (p : Pipeline) (collector : Collector σ α)
    (fs : FileSystem) :
    p.streamWithStats collector fs =
      match p.chainIn fs with
      | .error e => .error e fs
      | .ok chain =>
        match collector.start chain.schema fs with
        | .error e after => .error e after
        | .ok state after =>
          match p.driveInto collector chain state after with
          | .error e last => .error e last
          | .ok report last =>
            match report.result with
            | .error e => .error e last
            | .ok a => .ok (a, report.stats) last := by
  rw [streamWithStats_eq_report, streamReport_eq]
  cases p.chainIn fs with
  | error e => rfl
  | ok chain =>
    simp only
    cases collector.start chain.schema fs <;> rfl

end Pipeline

/-! ## Collectors that take all rows -/

namespace Pipeline

/-- A run into a collector that takes all rows, once everything is open. -/
theorem driveInto_eq {σ α : Type} {p : Pipeline} {collector : Collector σ α} {chain : Chain}
    {state : σ} {good : σ → Prop} {fs : FileSystem} {items : List Item} {width : Nat}
    (htakes : collector.Takes width good) (hstate : good state)
    (hitems : p.source.itemsIn fs = .ok items)
    (hwidth : ∀ entry ∈ (chain.passage items).rows, entry.2.length = width) :
    p.driveInto collector chain state fs =
      let passage := chain.passage items
      let last := collector.stateAfter state passage.rows
      let taken := items.length - passage.rest.length
      match passage.error with
      | some e =>
        match collector.abandon last fs with
        | .ok _ after => .ok ⟨.error e, passage.chain.stats, taken⟩ after
        | .error _ after => .ok ⟨.error e, passage.chain.stats, taken⟩ after
      | none =>
        match collector.finish last fs with
        | .ok a after => .ok ⟨.ok a, passage.chain.stats, taken⟩ after
        | .error e after => .ok ⟨.error e, passage.chain.stats, taken⟩ after := by
  have hdrive := drive_of_accepts chain items (htakes.accepts hstate hwidth)
  cases herror : (chain.passage items).error <;>
    simp only [driveInto, p.source.items_eq, hitems, Action.ofExcept, hdrive, herror] <;> rfl

/-- An opened pipeline and the items of its source. -/
def begin? (p : Pipeline) (fs : FileSystem) : Result (Chain × List Item) :=
  match p.chainIn fs with
  | .error e => .error e
  | .ok chain => (p.source.itemsIn fs).map fun items => (chain, items)

/-- What a pipeline makes of its source, with the schema of the rows that come out: an
error if it does not open, its source does not, or one of the items fails. -/
def attempt (p : Pipeline) (fs : FileSystem) : Result (Schema × Passage) :=
  match p.begin? fs with
  | .error e => .error e
  | .ok (chain, items) =>
    match (chain.passage items).error with
    | some e => .error e
    | none => .ok (chain.schema, chain.passage items)

theorem begin?_eq_ok_iff {p : Pipeline} {fs : FileSystem} {chain : Chain} {items : List Item} :
    p.begin? fs = .ok (chain, items) ↔
      p.chainIn fs = .ok chain ∧ p.source.itemsIn fs = .ok items := by
  unfold begin?
  cases p.chainIn fs with
  | error e => simp
  | ok opened =>
    simp only [Result.map_eq_ok_iff, Prod.mk.injEq, Except.ok.injEq]
    constructor
    · rintro ⟨found, hitems, rfl, rfl⟩
      exact ⟨rfl, hitems⟩
    · rintro ⟨rfl, hitems⟩
      exact ⟨items, hitems, rfl, rfl⟩

theorem attempt_eq_ok_iff {p : Pipeline} {fs : FileSystem} {schema : Schema} {q : Passage} :
    p.attempt fs = .ok (schema, q) ↔ ∃ chain items, p.begin? fs = .ok (chain, items) ∧
      chain.schema = schema ∧ chain.passage items = q ∧ q.error = none := by
  unfold attempt
  cases p.begin? fs with
  | error e => simp
  | ok begun =>
    obtain ⟨chain, items⟩ := begun
    cases herror : (chain.passage items).error with
    | some e =>
      constructor
      · intro h
        simp [herror] at h
      · rintro ⟨_, _, ⟨⟩, -, rfl, hnone⟩
        simp [herror] at hnone
    | none =>
      constructor
      · intro h
        simp only [herror, Except.ok.injEq, Prod.mk.injEq] at h
        obtain ⟨rfl, rfl⟩ := h
        exact ⟨chain, items, rfl, rfl, rfl, herror⟩
      · rintro ⟨_, _, ⟨⟩, rfl, rfl, -⟩
        simp [herror]

theorem attempt_eq_error_iff {p : Pipeline} {fs : FileSystem} {e : Error} :
    p.attempt fs = .error e ↔ p.begin? fs = .error e ∨
      ∃ chain items, p.begin? fs = .ok (chain, items) ∧
        (chain.passage items).error = some e := by
  unfold attempt
  cases p.begin? fs with
  | error cause => simp
  | ok begun =>
    obtain ⟨chain, items⟩ := begun
    cases herror : (chain.passage items).error <;> simp [herror]

theorem attempt_width {p : Pipeline} {fs : FileSystem} {schema : Schema} {q : Passage}
    (hattempt : p.attempt fs = .ok (schema, q)) (hfits : p.source.RowsFit fs) :
    ∀ entry ∈ q.rows, entry.2.length = schema.width := by
  obtain ⟨chain, items, hbegin, rfl, rfl, -⟩ := attempt_eq_ok_iff.mp hattempt
  obtain ⟨hchain, hitems⟩ := begin?_eq_ok_iff.mp hbegin
  exact passage_width hchain hitems hfits

end Pipeline

/-- A collector that touches no files and takes every row of the schema that it starts
on. -/
structure Collector.Gathers {σ α : Type} (collector : Collector σ α) (init : Schema → σ)
    (good : Schema → σ → Prop) (result : σ → Result α) : Prop where
  start : ∀ s fs, collector.start s fs = .ok (init s) fs
  good_init : ∀ s, good s (init s)
  takes : ∀ s, collector.Takes s.width (good s)
  finish : ∀ state fs, collector.finish state fs = Action.ofExcept (result state) fs
  abandon : ∀ state fs, collector.abandon state fs = .ok () fs

/-- A run into a collector that touches no files fails as the pipeline itself does, and
otherwise collects the rows that come out. -/
theorem Collector.Gathers.streamWithStats_eq {σ α : Type} {collector : Collector σ α}
    {init : Schema → σ} {good : Schema → σ → Prop} {result : σ → Result α}
    (h : collector.Gathers init good result) {p : Pipeline} {fs : FileSystem}
    (hfits : p.source.RowsFit fs) :
    p.streamWithStats collector fs =
      match p.attempt fs with
      | .error e => .error e fs
      | .ok (schema, passage) =>
        match result (collector.stateAfter (init schema) passage.rows) with
        | .error e => .error e fs
        | .ok a => .ok (a, passage.chain.stats) fs := by
  rw [Pipeline.streamWithStats_eq, Pipeline.attempt, Pipeline.begin?]
  cases hchain : p.chainIn fs with
  | error e => rfl
  | ok chain =>
    simp only [h.start]
    cases hitems : p.source.itemsIn fs with
    | error e =>
      simp only [Pipeline.driveInto, p.source.items_eq, hitems, Action.ofExcept, h.abandon]
      rfl
    | ok items =>
      rw [Pipeline.driveInto_eq (h.takes chain.schema) (h.good_init chain.schema) hitems
        (Pipeline.passage_width hchain hitems hfits)]
      simp only [Except.map]
      cases (chain.passage items).error with
      | some e => simp only [h.abandon]
      | none =>
        simp only [h.finish, Action.ofExcept]
        cases result (collector.stateAfter (init chain.schema) (chain.passage items).rows) <;> rfl

end TableFlow
