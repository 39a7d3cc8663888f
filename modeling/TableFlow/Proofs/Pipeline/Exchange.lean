import TableFlow.Proofs.Operator.Staging
import TableFlow.Proofs.Pipeline.Modes

/-!
# Operators in the place of others

Operators that make the same of every row may stand in each other's place. Whatever stands in
front of them and behind them, no run can tell them apart.

* `SameFate` says that sequences of stages make the same of every row, and `Chain.Alike` that
  chains differ in such sequences only;
* `Chain.Alike.push` is one step, after which the chains are alike again; `Chain.RunsAlike.drive`
  and `Chain.CursorsAlike.take` are whole runs, into a collector and row by row;
* `SameOpening` are operators that open into such stages or fail with the same error, and
  `SameOpening.interchangeable` says that they can be exchanged in every pipeline.
-/

namespace TableFlow

/-! ## Stages -/

/-- Stages that count nothing, and make the same of every row. -/
structure SameFate (xs ys : List Stage) : Prop where
  left : ∀ stage ∈ xs, stage.isLimit = false
  right : ∀ stage ∈ ys, stage.isLimit = false
  row : ∀ row, (pushStages row xs).row = (pushStages row ys).row

/-- Stages that are the same, but for some of them that make the same of every row. -/
inductive StagesAlike : List Stage → List Stage → Prop
  | intro {xs ys : List Stage} (front : List Stage) (h : SameFate xs ys) (back : List Stage) :
      StagesAlike (front ++ (xs ++ back)) (front ++ (ys ++ back))

/-- Stages that count nothing, with others behind them: they are as before, and the others see
what they let through. -/
theorem pushStages_append_of_not_limit {xs : List Stage}
    (h : ∀ stage ∈ xs, stage.isLimit = false) (row : Row) (back : List Stage) :
    pushStages row (xs ++ back) =
      match (pushStages row xs).row with
      | .error e => ⟨.error e, false, xs ++ back⟩
      | .ok none => ⟨.ok none, false, xs ++ back⟩
      | .ok (some mid) =>
        ⟨(pushStages mid back).row, (pushStages mid back).stopped,
          xs ++ (pushStages mid back).stages⟩ := by
  obtain ⟨hstages, hstopped⟩ := pushStages_of_not_limit h row
  rw [pushStages_append, hstages, hstopped]
  rcases (pushStages row xs).row with e | _ | mid
  · rfl
  · rfl
  · simp only [Bool.false_or]

theorem StagesAlike.push {as bs : List Stage} (h : StagesAlike as bs) (row : Row) :
    (pushStages row as).row = (pushStages row bs).row ∧
      (pushStages row as).stopped = (pushStages row bs).stopped ∧
        StagesAlike (pushStages row as).stages (pushStages row bs).stages := by
  obtain ⟨front, hsame, back⟩ := h
  rw [pushStages_append row front, pushStages_append row front]
  rcases (pushStages row front).row with e | _ | mid
  · exact ⟨rfl, rfl, .intro _ hsame back⟩
  · exact ⟨rfl, rfl, .intro _ hsame back⟩
  · -- the row has come as far as the stages that differ
    simp only
    rw [pushStages_append_of_not_limit hsame.left, pushStages_append_of_not_limit hsame.right,
      hsame.row mid]
    rcases (pushStages mid _).row with e | _ | last
    · exact ⟨rfl, rfl, .intro _ hsame back⟩
    · exact ⟨rfl, rfl, .intro _ hsame back⟩
    · exact ⟨rfl, rfl, .intro _ hsame _⟩

theorem StagesAlike.any_isExhausted {as bs : List Stage} (h : StagesAlike as bs) :
    as.any Stage.isExhausted = bs.any Stage.isExhausted := by
  have hnone : ∀ stages : List Stage, (∀ stage ∈ stages, stage.isLimit = false) →
      stages.any Stage.isExhausted = false := by
    intro stages hlimits
    rw [List.any_eq_false]
    intro stage hmem
    simp [Stage.isExhausted_of_not_limit (hlimits stage hmem)]
  obtain ⟨front, hsame, back⟩ := h
  simp only [List.any_append, hnone _ hsame.left, hnone _ hsame.right]

/-! ## Chains -/

namespace Chain

/-- Chains that are the same, but for stages that make the same of every row. -/
structure Alike (c d : Chain) : Prop where
  stages : StagesAlike c.stages d.stages
  schema : c.schema = d.schema
  stats : c.stats = d.stats
  stopped : c.stopped = d.stopped

variable {c d : Chain}

theorem Alike.isExhausted (h : Alike c d) : c.isExhausted = d.isExhausted := by
  rw [Chain.isExhausted, Chain.isExhausted, h.stopped, h.stages.any_isExhausted]

/-- The same comes out for every row, and the chains are alike after it. -/
theorem Alike.push (h : Alike c d) (row : Row) :
    (c.push row).1 = (d.push row).1 ∧ Alike (c.push row).2 (d.push row).2 := by
  obtain ⟨hrow, hstopped, hstages⟩ := h.stages.push row
  refine ⟨hrow, hstages, h.schema, ?_, ?_⟩
  · simp only [Chain.push, hrow, h.stats]
  · simp only [Chain.push, hstopped, h.stopped]

theorem Alike.heed (h : Alike c d) (flow : Flow) : Alike (c.heed flow) (d.heed flow) :=
  ⟨h.stages, h.schema, h.stats, by rw [Chain.heed, Chain.heed, h.stopped]⟩

/-! ## Into a collector -/

section Collecting

variable {σ α : Type} {a b : Running σ}

/-- Runs with chains that are alike, and the same state of the collector. -/
structure RunsAlike (a b : Running σ) : Prop where
  chain : Alike a.chain b.chain
  state : a.state = b.state

theorem RunsAlike.isExhausted (h : RunsAlike a b) (collector : Collector σ α) :
    a.isExhausted collector = b.isExhausted collector := by
  rw [Running.isExhausted, Running.isExhausted, h.chain.isExhausted, h.state]

theorem RunsAlike.push (h : RunsAlike a b) (collector : Collector σ α) (entry : Entry) :
    (a.push collector entry).1 = (b.push collector entry).1 ∧
      RunsAlike (a.push collector entry).2 (b.push collector entry).2 := by
  obtain ⟨hrow, hafter⟩ := h.chain.push entry.2
  unfold Running.push
  rcases ha : a.chain.push entry.2 with ⟨outcome, chain⟩
  rcases hb : b.chain.push entry.2 with ⟨outcome', chain'⟩
  rw [ha, hb] at hrow hafter
  cases hrow
  rcases outcome with e | _ | row
  · exact ⟨rfl, hafter, h.state⟩
  · exact ⟨rfl, hafter, h.state⟩
  · -- the collector is handed the same row, and both chains are told the same
    simp only [h.state]
    rcases collector.add b.state (entry.1, row) with ⟨e | flow, state⟩
    · exact ⟨rfl, hafter, rfl⟩
    · exact ⟨rfl, hafter.heed flow, rfl⟩

/-- Runs that end alike: with the same error, if any, and the same items left. -/
structure EndAlike (a b : Driven σ) : Prop where
  error : a.error = b.error
  running : RunsAlike a.running b.running
  rest : a.rest = b.rest

theorem RunsAlike.drive (h : RunsAlike a b) (collector : Collector σ α) (items : List Item) :
    EndAlike (TableFlow.drive collector a items) (TableFlow.drive collector b items) := by
  induction items generalizing a b with
  | nil => exact ⟨rfl, h, rfl⟩
  | cons item items ih =>
    have hexhausted := h.isExhausted collector
    by_cases hend : b.isExhausted collector = true
    · simp only [TableFlow.drive, hexhausted, hend, if_true]
      exact ⟨rfl, h, rfl⟩
    · simp only [TableFlow.drive, hexhausted, hend, Bool.false_eq_true, if_false]
      cases item with
      | error e => exact ⟨rfl, h, rfl⟩
      | ok entry =>
        obtain ⟨houtcome, hafter⟩ := h.push collector entry
        rcases ha : a.push collector entry with ⟨outcome, later⟩
        rcases hb : b.push collector entry with ⟨outcome', later'⟩
        rw [ha, hb] at houtcome hafter
        cases houtcome
        simp only [ha, hb]
        cases outcome with
        | error e => exact ⟨rfl, hafter, rfl⟩
        | ok u => exact ih hafter

end Collecting

/-! ## Row by row -/

/-- Cursors that have the same before them, and chains that are alike. -/
structure CursorsAlike (a b : RowCursor) : Prop where
  chain : Alike a.chain b.chain
  rest : a.rest = b.rest
  finished : a.finished = b.finished

theorem Alike.advance (h : Alike c d) (items : List Item) :
    (RowCursor.advance c items).1 = (RowCursor.advance d items).1 ∧
      CursorsAlike (RowCursor.advance c items).2 (RowCursor.advance d items).2 := by
  induction items generalizing c d with
  | nil => exact ⟨rfl, h, rfl, rfl⟩
  | cons item items ih =>
    by_cases hend : d.isExhausted = true
    · simp only [RowCursor.advance, h.isExhausted, hend, if_true]
      exact ⟨trivial, h, rfl, rfl⟩
    · simp only [RowCursor.advance, h.isExhausted, hend, Bool.false_eq_true, if_false]
      cases item with
      | error e => exact ⟨rfl, h, rfl, rfl⟩
      | ok entry =>
        obtain ⟨hrow, hafter⟩ := h.push entry.2
        rcases hc : c.push entry.2 with ⟨outcome, later⟩
        rcases hd : d.push entry.2 with ⟨outcome', later'⟩
        rw [hc, hd] at hrow hafter
        cases hrow
        simp only [hc, hd]
        cases outcome with
        | error e => exact ⟨rfl, hafter, rfl, rfl⟩
        | ok row =>
          cases row with
          | none => exact ih hafter
          | some row => exact ⟨rfl, hafter, rfl, rfl⟩

theorem CursorsAlike.next {a b : RowCursor} (h : CursorsAlike a b) :
    a.next.1 = b.next.1 ∧ CursorsAlike a.next.2 b.next.2 := by
  rw [RowCursor.next, RowCursor.next, h.finished, h.rest]
  split
  · exact ⟨rfl, h⟩
  · exact h.chain.advance b.rest

theorem CursorsAlike.take {a b : RowCursor} (h : CursorsAlike a b) (n : Nat) :
    (a.take n).1 = (b.take n).1 := by
  induction n generalizing a b with
  | zero => rfl
  | succ n ih =>
    obtain ⟨hitem, hafter⟩ := h.next
    simp only [RowCursor.take, hitem, ih hafter]

end Chain

/-! ## Pipelines -/

/-- The first answers of a run that hands out rows one at a time. -/
def Pipeline.answers (p : Pipeline) (n : Nat) : Action Error (List (Option (Result Entry))) := do
  let cursor ← p.rowCursor
  pure (cursor.take n).1

/-- Nothing that can be done with two pipelines tells them apart: they have the same columns or
the same error of opening; every collector is given the same rows with the same identifiers,
ends with the same result or the same error, and reports the same numbers of rows read and
emitted and of items taken; and row by row they give the same answers. -/
structure Pipeline.Indistinguishable (p q : Pipeline) : Prop where
  columns : p.columns = q.columns
  streamReport : ∀ {σ α : Type} (collector : Collector σ α),
    p.streamReport collector = q.streamReport collector
  run : p.run = q.run
  answers : p.answers = q.answers

/-- Operators that may stand in each other's place, in every pipeline and on every table. -/
structure Interchangeable (xs ys : List Operator) : Prop where
  pipeline : ∀ source front back, Pipeline.Indistinguishable ⟨source, front ++ (xs ++ back)⟩
    ⟨source, front ++ (ys ++ back)⟩
  table : ∀ (t : Table) front back,
    t.transform (front ++ (xs ++ back)) = t.transform (front ++ (ys ++ back))

/-- On every schema, both fail to open with the same error, or both open into stages that make
the same of every row. -/
def SameOpening (xs ys : List Operator) : Prop :=
  ∀ s, Result.Alike (fun a b => SameFate a.1 b.1 ∧ a.2 = b.2) (openStages s xs) (openStages s ys)

namespace SameOpening

variable {xs ys : List Operator}

theorem openOn (h : SameOpening xs ys) (s : Schema) (front back : List Operator) :
    Result.Alike Chain.Alike (Chain.openOn s (front ++ (xs ++ back)))
      (Chain.openOn s (front ++ (ys ++ back))) := by
  simp only [Chain.openOn, openStages_append]
  cases openStages s front with
  | error e => exact .inl ⟨e, rfl, rfl⟩
  | ok opened =>
    obtain ⟨stages, mid⟩ := opened
    simp only
    rcases h mid with ⟨e, hx, hy⟩ | ⟨⟨as, out⟩, ⟨bs, out'⟩, hx, hy, hsame, hout⟩
    · rw [hx, hy]
      exact .inl ⟨e, rfl, rfl⟩
    · cases hout
      rw [hx, hy]
      simp only
      cases openStages out back with
      | error e => exact .inl ⟨e, rfl, rfl⟩
      | ok last => exact .inr ⟨_, _, rfl, rfl, .intro _ hsame _, rfl, rfl, rfl⟩

theorem chainIn (h : SameOpening xs ys) (source : Source) (front back : List Operator)
    (fs : FileSystem) :
    Result.Alike Chain.Alike (Pipeline.chainIn ⟨source, front ++ (xs ++ back)⟩ fs)
      (Pipeline.chainIn ⟨source, front ++ (ys ++ back)⟩ fs) := by
  unfold Pipeline.chainIn
  cases source.columnsIn fs with
  | error e => exact .inl ⟨e, rfl, rfl⟩
  | ok s => exact h.openOn s front back

theorem columns (h : SameOpening xs ys) (source : Source) (front back : List Operator) :
    Pipeline.columns ⟨source, front ++ (xs ++ back)⟩ =
      Pipeline.columns ⟨source, front ++ (ys ++ back)⟩ := by
  funext fs
  rw [Pipeline.columns_eq, Pipeline.columns_eq]
  rcases h.chainIn source front back fs with ⟨e, hx, hy⟩ | ⟨c, d, hx, hy, halike⟩
  · rw [hx, hy]
  · rw [hx, hy, Except.map, Except.map, halike.schema]

theorem streamReport (h : SameOpening xs ys) (source : Source) (front back : List Operator)
    {σ α : Type} (collector : Collector σ α) :
    Pipeline.streamReport ⟨source, front ++ (xs ++ back)⟩ collector =
      Pipeline.streamReport ⟨source, front ++ (ys ++ back)⟩ collector := by
  funext fs
  rw [Pipeline.streamReport_eq, Pipeline.streamReport_eq]
  rcases h.chainIn source front back fs with ⟨e, hx, hy⟩ | ⟨c, d, hx, hy, halike⟩
  · rw [hx, hy]
  · rw [hx, hy]
    simp only [halike.schema]
    cases collector.start d.schema fs with
    | error e after => rfl
    | ok state after =>
      simp only [Pipeline.driveInto]
      cases source.items after with
      | error e last => rfl
      | ok items last =>
        have hruns : Chain.RunsAlike ⟨c, state⟩ ⟨d, state⟩ := ⟨halike, rfl⟩
        have hend := hruns.drive collector items
        simp only [hend.error, hend.running.state, hend.rest, hend.running.chain.stats]

theorem run (h : SameOpening xs ys) (hxs : xs ≠ []) (hys : ys ≠ []) (source : Source)
    (front back : List Operator) :
    Pipeline.run ⟨source, front ++ (xs ++ back)⟩ =
      Pipeline.run ⟨source, front ++ (ys ++ back)⟩ := by
  funext fs
  rw [Pipeline.run_eq (by simp [Pipeline.isEmpty, hxs]), Pipeline.run_eq
    (by simp [Pipeline.isEmpty, hys]), Pipeline.streamWithStats_eq_report,
    Pipeline.streamWithStats_eq_report, h.streamReport source front back]

theorem answers (h : SameOpening xs ys) (source : Source) (front back : List Operator) :
    Pipeline.answers ⟨source, front ++ (xs ++ back)⟩ =
      Pipeline.answers ⟨source, front ++ (ys ++ back)⟩ := by
  funext n fs
  show EStateM.bind _ _ fs = EStateM.bind _ _ fs
  simp only [EStateM.bind, Pipeline.rowCursor_eq, Pipeline.begin?]
  rcases h.chainIn source front back fs with ⟨e, hx, hy⟩ | ⟨c, d, hx, hy, halike⟩
  · rw [hx, hy]
  · rw [hx, hy]
    simp only
    cases source.itemsIn fs with
    | error e => rfl
    | ok items =>
      have hcursors : Chain.CursorsAlike ⟨c, items, false⟩ ⟨d, items, false⟩ := ⟨halike, rfl, rfl⟩
      simp only [Except.map, hcursors.take n]

theorem transform (h : SameOpening xs ys) (t : Table) (front back : List Operator) :
    t.transform (front ++ (xs ++ back)) = t.transform (front ++ (ys ++ back)) := by
  unfold Table.transform
  rcases h.openOn t.schema front back with ⟨e, hx, hy⟩ | ⟨c, d, hx, hy, halike⟩
  · rw [hx, hy]
  · have hruns : Chain.RunsAlike (⟨c, ⟨d.schema, []⟩⟩ : Running Collector.Gathered)
        ⟨d, ⟨d.schema, []⟩⟩ := ⟨halike, rfl⟩
    have hend := hruns.drive Collector.table (t.entries.map .ok)
    simp only [hx, hy, halike.schema, hend.error, hend.running.state]

/-- Operators that open alike may be exchanged everywhere. There has to be one on each side, since
a pipeline without operators does not run. -/
theorem interchangeable (h : SameOpening xs ys) (hxs : xs ≠ []) (hys : ys ≠ []) :
    Interchangeable xs ys where
  pipeline source front back :=
    ⟨h.columns source front back, h.streamReport source front back, h.run hxs hys source front back,
      h.answers source front back⟩
  table := h.transform

end SameOpening

end TableFlow
