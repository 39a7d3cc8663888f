import Mathlib.Logic.Basic
import TableFlow.Proofs.Counter.Entries
import TableFlow.Proofs.Pipeline.Start

/-!
# The ways to run a pipeline

A pipeline may be run into a table, a count of its rows or of their values, into nothing,
or row by row. `Pipeline.modes_agree` says that it makes no difference: either all of these
give the rows of one table, or all of them fail with one error, and row by row this is seen
behind the rows that came out before it.

* `Collector.table_gathers`, `count_gathers`, `distinct_gathers` and `discard_gathers` are
  the collectors, which take all rows, and `Row.keyAt` is what a row is counted by;
* `RowCursor.next_eq` is one call for the next row, in terms of the answers that are
  pending, and `RowCursor.gives_pending` any number of them.
-/

namespace TableFlow

/-! ## Collectors -/

namespace Row

/-- The key that some columns make of a row: the cell of a single one, and a list of several. -/
def keyAt (positions : List Nat) (row : Row) : Value :=
  match positions with
  | [pos] => row.getD pos .null
  | positions => .list (positions.map (row.getD · .null))

variable {row : Row} {positions : List Nat}

theorem keyAt_of_length_ne_one (h : positions.length ≠ 1) :
    row.keyAt positions = .list (positions.map (row.getD · .null)) := by
  unfold keyAt
  split
  · exact absurd rfl h
  · rfl

theorem project_eq (h : ∀ pos ∈ positions, pos < row.length) :
    project row positions = .ok (row.keyAt positions) := by
  unfold project
  split
  · exact cell_eq (h _ List.mem_cons_self)
  · next hone =>
    have hlength : positions.length ≠ 1 := by
      intro hlength
      obtain ⟨pos, rfl⟩ := List.length_eq_one_iff.mp hlength
      exact hone pos rfl
    rw [cells_eq h, keyAt_of_length_ne_one hlength]

end Row

namespace Collector

theorem table_gathers : table.Gathers (fun s => ⟨s, []⟩) (fun s g => g.schema = s)
    (fun g => Table.ofIndex g.schema (g.entries.reverse.map Prod.fst)
      (g.entries.reverse.map Prod.snd)) where
  start _ _ := rfl
  good_init _ := rfl
  takes _ := OfLibrary.table.neverStops.takes fun _ _ hgood _ => ⟨⟨_, rfl⟩, hgood⟩
  finish _ _ := rfl
  abandon _ _ := rfl

theorem count_gathers : count.Gathers (fun _ => 0) (fun _ _ => True) .ok where
  start _ _ := rfl
  good_init _ := trivial
  takes _ := OfLibrary.count.neverStops.takes fun _ _ _ _ => ⟨⟨_, rfl⟩, trivial⟩
  finish _ _ := rfl
  abandon _ _ := rfl

theorem discard_gathers :
    Pipeline.discard.Gathers (fun _ => ()) (fun _ _ => True) .ok where
  start _ _ := rfl
  good_init _ := trivial
  takes _ := OfLibrary.discard.neverStops.takes fun _ _ _ _ => ⟨⟨_, rfl⟩, trivial⟩
  finish _ _ := rfl
  abandon _ _ := rfl

/-- A row that has the counted columns adds its key. -/
theorem distinct_add_eq {columns : List ColumnRef} {state : Counting} {entry : Entry}
    (hlt : ∀ pos ∈ state.positions, pos < entry.2.length) :
    (distinct columns).add state entry =
      (.ok .drop, ⟨state.positions, state.counts.add (entry.2.keyAt state.positions)⟩) := by
  simp only [distinct, Collector.pure, Row.project_eq hlt]
  rfl

theorem distinct_gathers :
    (distinct []).Gathers (fun s => ⟨List.range s.width, Counter.empty⟩)
      (fun s c => c.positions = List.range s.width) (fun c => .ok c.counts) where
  start _ _ := rfl
  good_init _ := rfl
  takes s := (OfLibrary.distinct []).neverStops.takes fun state entry hgood hwidth => by
    have hlt : ∀ pos ∈ state.positions, pos < entry.2.length := by
      intro pos hpos
      rwa [hwidth, ← List.mem_range, ← hgood]
    rw [distinct_add_eq hlt]
    exact ⟨⟨_, rfl⟩, hgood⟩
  finish _ _ := rfl
  abandon _ _ := rfl

/-! What has been gathered when all rows have been taken. -/

theorem table_stateAfter (g : Gathered) (rows : List Entry) :
    table.stateAfter g rows = ⟨g.schema, rows.reverse ++ g.entries⟩ := by
  unfold stateAfter
  induction rows generalizing g with
  | nil => rfl
  | cons entry rows ih =>
    rw [List.foldl_cons, ih]
    simp [table, Collector.pure]

theorem count_stateAfter (n : Nat) (rows : List Entry) :
    count.stateAfter n rows = n + rows.length := by
  unfold stateAfter
  induction rows generalizing n with
  | nil => rfl
  | cons entry rows ih =>
    rw [List.foldl_cons, ih]
    simp only [count, Collector.pure, List.length_cons]
    omega

theorem distinct_stateAfter {columns : List ColumnRef} {state : Counting} {rows : List Entry}
    {width : Nat} (hlt : ∀ pos ∈ state.positions, pos < width)
    (hwidth : ∀ entry ∈ rows, entry.2.length = width) :
    ((distinct columns).stateAfter state rows).counts =
      state.counts.extend (rows.map fun entry => entry.2.keyAt state.positions) := by
  unfold stateAfter
  induction rows generalizing state with
  | nil => rfl
  | cons entry rows ih =>
    obtain ⟨hentry, hrest⟩ := List.forall_mem_cons.mp hwidth
    rw [List.foldl_cons, distinct_add_eq (by rwa [hentry]), ih (by exact hlt) hrest]
    rfl

end Collector

/-! ## Row by row -/

/-- The rows that come out, and the error behind them if there is one. -/
def Passage.answers (q : Passage) : List (Result Entry) :=
  q.rows.map .ok ++ q.error.toList.map .error

namespace RowCursor

/-- The answers that have not been given yet. -/
def pending (c : RowCursor) : List (Result Entry) :=
  if c.finished then [] else (c.chain.passage c.rest).answers

/-- The calls for the next row give these answers one after the other, and nothing on
every further call. -/
def Gives (c : RowCursor) (answers : List (Result Entry)) : Prop :=
  ∀ further, (c.take (answers.length + further)).1 =
    answers.map some ++ List.replicate further none

theorem advance_eq (chain : Chain) (items : List Item) :
    (advance chain items).1 = (chain.passage items).answers.head? ∧
      (advance chain items).2.pending = (chain.passage items).answers.tail := by
  fun_induction chain.passage items with
  | case1 chain => exact ⟨rfl, rfl⟩
  | case2 chain item items hend =>
    cases item <;> simp [advance, hend, Passage.answers, pending]
  | case3 chain items hopen e => simp [advance, hopen, Passage.answers, pending]
  | case4 chain items hopen entry e after hpush =>
    simp [advance, hopen, hpush, Passage.answers, pending]
  | case5 chain items hopen entry after hpush ih =>
    simpa [advance, hopen, hpush] using ih
  | case6 chain items hopen entry row after hpush ih =>
    -- the row is handed out, and the items behind it stay in the source
    simp [advance, hopen, hpush, Passage.withFirst, Passage.answers, pending]

/-- A call gives the first of the pending answers, and leaves the others. -/
theorem next_eq (c : RowCursor) :
    c.next.1 = c.pending.head? ∧ c.next.2.pending = c.pending.tail := by
  unfold next
  by_cases hend : c.finished = true
  · simp [pending, hend]
  · simpa [pending, hend] using advance_eq c.chain c.rest

theorem gives_pending (c : RowCursor) : c.Gives c.pending := by
  intro further
  obtain ⟨answers, hanswers⟩ : ∃ answers, c.pending = answers := ⟨_, rfl⟩
  rw [hanswers]
  induction answers generalizing c with
  | nil =>
    -- once there are none, there never will be any
    rw [List.length_nil, Nat.zero_add]
    induction further generalizing c with
    | zero => rfl
    | succ further ih =>
      obtain ⟨hnext, hlater⟩ := c.next_eq
      rw [hanswers] at hnext hlater
      have hrest := ih c.next.2 hlater
      simp only [take, hnext, hrest]
      rfl
  | cons answer answers ih =>
    obtain ⟨hnext, hlater⟩ := c.next_eq
    rw [hanswers] at hnext hlater
    have hrest := ih c.next.2 hlater
    have hlength : (answer :: answers).length + further = answers.length + further + 1 := by
      rw [List.length_cons]
      omega
    rw [hlength]
    simp only [take, hnext, hrest]
    rfl

end RowCursor

/-! ## All modes -/

namespace Pipeline

/-- Every way to run the pipeline gives the rows of the table. -/
structure Yields (p : Pipeline) (fs : FileSystem) (t : Table) : Prop where
  toTable : p.toTable fs = .ok t fs
  count : p.count fs = .ok t.size fs
  distinct : ∃ counts, p.distinct fs = .ok counts fs ∧ counts.total = t.size
  run : p.isEmpty = false → ∃ stats, p.run fs = .ok (some stats) fs ∧ stats.emitted = t.size
  rowCursor : ∃ cursor, p.rowCursor fs = .ok cursor fs ∧ cursor.Gives (t.entries.map .ok)

/-- The pipeline fails with the error at one of the items of its source, and these are the
rows that come out for the items before it. -/
def BreaksAfter (p : Pipeline) (fs : FileSystem) (rows : List Entry) (e : Error) : Prop :=
  ∃ s before bad rest t, p.source.columns fs = .ok s fs ∧
    p.source.items fs = .ok (before ++ bad :: rest) fs ∧
    (Pipeline.mk (.rows s before) p.operators).toTable fs = .ok t fs ∧ t.entries = rows ∧
    (Pipeline.mk (.rows s (before ++ [bad])) p.operators).toTable fs = .error e fs

/-- Every way to run the pipeline fails with the error: row by row, either before the
first row or behind the rows that come out before the item that fails. -/
structure Fails (p : Pipeline) (fs : FileSystem) (e : Error) : Prop where
  toTable : p.toTable fs = .error e fs
  count : p.count fs = .error e fs
  distinct : p.distinct fs = .error e fs
  run : p.isEmpty = false → p.run fs = .error e fs
  rowCursor : p.rowCursor fs = .error e fs ∨
    ∃ cursor rows, p.rowCursor fs = .ok cursor fs ∧ p.BreaksAfter fs rows e ∧
      cursor.Gives (rows.map .ok ++ [.error e])

/-! ### From what the pipeline makes of its source -/

theorem stream_eq {σ α : Type} (p : Pipeline) (collector : Collector σ α) (fs : FileSystem) :
    p.stream collector fs =
      match p.streamWithStats collector fs with
      | .error e after => .error e after
      | .ok (a, _) after => .ok a after := by
  show EStateM.bind _ _ fs = _
  simp only [EStateM.bind]
  cases p.streamWithStats collector fs <;> rfl

theorem run_eq {p : Pipeline} (hops : p.isEmpty = false) (fs : FileSystem) :
    p.run fs =
      match p.streamWithStats discard fs with
      | .error e after => .error e after
      | .ok (_, stats) after => .ok (some stats) after := by
  unfold run
  rw [hops]
  show EStateM.bind _ _ fs = _
  simp only [EStateM.bind]
  cases p.streamWithStats discard fs <;> rfl

theorem rowCursor_eq (p : Pipeline) (fs : FileSystem) :
    p.rowCursor fs =
      match p.begin? fs with
      | .error e => .error e fs
      | .ok (chain, items) => .ok ⟨chain, items, false⟩ fs := by
  show EStateM.bind _ _ fs = _
  simp only [EStateM.bind, p.openChain_eq, begin?]
  cases p.chainIn fs with
  | error e => rfl
  | ok chain =>
    show EStateM.bind _ _ fs = _
    simp only [EStateM.bind, p.source.items_eq]
    cases p.source.itemsIn fs <;> rfl

/-- The numbers of a run that went through. -/
theorem attempt_emitted {p : Pipeline} {fs : FileSystem} {schema : Schema} {q : Passage}
    (hattempt : p.attempt fs = .ok (schema, q)) : q.chain.stats.emitted = q.rows.length := by
  obtain ⟨chain, items, hbegin, -, rfl, -⟩ := attempt_eq_ok_iff.mp hattempt
  obtain ⟨hchain, -⟩ := begin?_eq_ok_iff.mp hbegin
  obtain ⟨hemitted, -⟩ := chain.passage_counts items
  rw [hemitted, chainIn_stats hchain, Nat.zero_add]

theorem toTable_of_attempt {p : Pipeline} {fs : FileSystem} {schema : Schema} {q : Passage}
    (hattempt : p.attempt fs = .ok (schema, q)) (hfits : p.source.RowsFit fs) :
    p.toTable fs = .ok ⟨schema, q.rows, attempt_width hattempt hfits⟩ fs := by
  have hindex := Table.ofIndex_entries (attempt_width hattempt hfits)
  simp only [toTable, stream_eq, Collector.table_gathers.streamWithStats_eq hfits, hattempt,
    Collector.table_stateAfter, List.append_nil, List.reverse_reverse, hindex]

theorem toTable_of_attempt_error {p : Pipeline} {fs : FileSystem} {e : Error}
    (hattempt : p.attempt fs = .error e) (hfits : p.source.RowsFit fs) :
    p.toTable fs = .error e fs := by
  simp only [toTable, stream_eq, Collector.table_gathers.streamWithStats_eq hfits, hattempt]

theorem yields_of_attempt {p : Pipeline} {fs : FileSystem} {schema : Schema} {q : Passage}
    (hattempt : p.attempt fs = .ok (schema, q)) (hfits : p.source.RowsFit fs) :
    p.Yields fs ⟨schema, q.rows, attempt_width hattempt hfits⟩ where
  toTable := toTable_of_attempt hattempt hfits
  count := by
    simp only [count, stream_eq, Collector.count_gathers.streamWithStats_eq hfits, hattempt,
      Collector.count_stateAfter, Nat.zero_add]
    rfl
  distinct := by
    have htotal : ((Collector.distinct []).stateAfter
        ⟨List.range schema.width, Counter.empty⟩ q.rows).counts.total = q.rows.length := by
      rw [Collector.distinct_stateAfter (fun _ => List.mem_range.mp) (attempt_width hattempt hfits),
        Counter.total_extend, List.length_map]
      exact Nat.zero_add _
    refine ⟨_, ?_, htotal⟩
    simp only [distinct, stream_eq, Collector.distinct_gathers.streamWithStats_eq hfits, hattempt]
  run hops := by
    refine ⟨_, ?_, attempt_emitted hattempt⟩
    simp only [run_eq hops, Collector.discard_gathers.streamWithStats_eq hfits, hattempt]
  rowCursor := by
    obtain ⟨chain, items, hbegin, -, rfl, hnone⟩ := attempt_eq_ok_iff.mp hattempt
    refine ⟨⟨chain, items, false⟩, by rw [rowCursor_eq, hbegin], ?_⟩
    have hgives := RowCursor.gives_pending ⟨chain, items, false⟩
    simpa [RowCursor.pending, Passage.answers, hnone] using hgives

/-- Where an opened run fails, a pipeline over the items up to that place fails, and one
over those before it gives the rows that came out. -/
theorem breaksAfter_of_passage {p : Pipeline} {fs : FileSystem} {chain : Chain}
    {items : List Item} {e : Error} (hbegin : p.begin? fs = .ok (chain, items))
    (herror : (chain.passage items).error = some e) (hfits : p.source.RowsFit fs) :
    p.BreaksAfter fs (chain.passage items).rows e := by
  obtain ⟨hchain, hitems⟩ := begin?_eq_ok_iff.mp hbegin
  obtain ⟨s, hcolumns, hopen⟩ := chainIn_eq_ok_iff.mp hchain
  obtain ⟨before, bad, rest, rfl, hnone, hrows, hbad⟩ := Chain.passage_breaks herror
  have hsource : p.source.columns fs = .ok s fs := by
    rw [p.source.columns_eq, hcolumns]
    rfl
  have hread : p.source.items fs = .ok (before ++ bad :: rest) fs := by
    rw [p.source.items_eq, hitems]
    rfl
  have hfit : ∀ part, part ⊆ before ++ bad :: rest → (Source.rows s part).RowsFit fs := by
    rintro part hpart _ _ ⟨⟩ ⟨⟩ item hitem
    exact hfits s _ hsource hread item (hpart hitem)
  have hbefore : (Pipeline.mk (.rows s before) p.operators).attempt fs =
      .ok (chain.schema, chain.passage before) := by
    have hopened : (Pipeline.mk (.rows s before) p.operators).chainIn fs = .ok chain := hopen
    exact attempt_eq_ok_iff.mpr
      ⟨chain, before, begin?_eq_ok_iff.mpr ⟨hopened, rfl⟩, rfl, rfl, hnone⟩
  have hupto : (Pipeline.mk (.rows s (before ++ [bad])) p.operators).attempt fs = .error e := by
    simp only [attempt, begin?, chainIn, Source.columnsIn, Source.itemsIn, hopen, Except.map,
      hbad]
  have hfitBefore := hfit before (List.subset_append_left _ _)
  have hfitUpto := hfit (before ++ [bad]) (by simp)
  exact ⟨s, before, bad, rest, _, hsource, hread, toTable_of_attempt hbefore hfitBefore, hrows,
    toTable_of_attempt_error hupto hfitUpto⟩

theorem fails_of_attempt {p : Pipeline} {fs : FileSystem} {e : Error}
    (hattempt : p.attempt fs = .error e) (hfits : p.source.RowsFit fs) : p.Fails fs e where
  toTable := toTable_of_attempt_error hattempt hfits
  count := by
    simp only [count, stream_eq, Collector.count_gathers.streamWithStats_eq hfits, hattempt]
  distinct := by
    simp only [distinct, stream_eq, Collector.distinct_gathers.streamWithStats_eq hfits, hattempt]
  run hops := by
    simp only [run_eq hops, Collector.discard_gathers.streamWithStats_eq hfits, hattempt]
  rowCursor := by
    rcases attempt_eq_error_iff.mp hattempt with hbegin | ⟨chain, items, hbegin, herror⟩
    · left
      rw [rowCursor_eq, hbegin]
    · right
      refine ⟨⟨chain, items, false⟩, (chain.passage items).rows, by rw [rowCursor_eq, hbegin],
        breaksAfter_of_passage hbegin herror hfits, ?_⟩
      have hgives := RowCursor.gives_pending ⟨chain, items, false⟩
      simpa [RowCursor.pending, Passage.answers, herror] using hgives

/-- All ways to run a pipeline agree: either they give the rows of one table, or they fail
with one error. -/
theorem modes_agree (p : Pipeline) (fs : FileSystem) (hfits : p.source.RowsFit fs) :
    Xor (∃ t, p.Yields fs t) (∃ e, p.Fails fs e) := by
  cases hattempt : p.attempt fs with
  | ok outcome =>
    left
    refine ⟨⟨_, yields_of_attempt hattempt hfits⟩, ?_⟩
    rintro ⟨e, hfails⟩
    have htable := toTable_of_attempt hattempt hfits
    rw [hfails.toTable] at htable
    cases htable
  | error e =>
    right
    refine ⟨⟨e, fails_of_attempt hattempt hfits⟩, ?_⟩
    rintro ⟨t, hyields⟩
    have htable := toTable_of_attempt_error hattempt hfits
    rw [hyields.toTable] at htable
    cases htable

/-- Two rows, and an item that failed between them. -/
def interrupted : Source :=
  .rows ⟨["a"], by decide⟩ [.ok (0, [.str "x"]), .error (.malformed 2 1 3), .ok (2, [.str "y"])]

/-- Behind a limit of one row the item that failed is never met. Without the limit it ends
every way to run the pipeline. -/
theorem interrupted_modes_agree :
    interrupted.RowsFit .empty ∧
      Pipeline.toTable ⟨interrupted, [.limit 1]⟩ .empty =
        .ok ⟨⟨["a"], by decide⟩, [(0, [.str "x"])], by decide⟩ .empty ∧
      Xor (∃ t, Pipeline.Yields ⟨interrupted, [.limit 1]⟩ .empty t)
        (∃ e, Pipeline.Fails ⟨interrupted, [.limit 1]⟩ .empty e) ∧
      Pipeline.toTable ⟨interrupted, []⟩ .empty = .error (.malformed 2 1 3) .empty ∧
      Xor (∃ t, Pipeline.Yields ⟨interrupted, []⟩ .empty t)
        (∃ e, Pipeline.Fails ⟨interrupted, []⟩ .empty e) := by
  have hfits : interrupted.RowsFit .empty := by
    rintro _ _ ⟨⟩ ⟨⟩ item hitem entry rfl
    have hentry : entry = (0, [.str "x"]) ∨ entry = (2, [.str "y"]) := by simpa using hitem
    rcases hentry with rfl | rfl <;> rfl
  exact ⟨hfits, rfl, modes_agree ⟨interrupted, [.limit 1]⟩ .empty hfits, rfl,
    modes_agree ⟨interrupted, []⟩ .empty hfits⟩

end Pipeline

end TableFlow
