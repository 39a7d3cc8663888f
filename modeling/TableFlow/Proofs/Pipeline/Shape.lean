import TableFlow.Proofs.Operator.Phases
import TableFlow.Proofs.Pipeline.Modes
import TableFlow.Proofs.Pipeline.Writing

/-!
# Rows and schema in step

A table and a delimited file hand out rows of the width of their columns, and an opened chain
keeps rows and schema in step. So every row that reaches the end of a pipeline has as many
values as the pipeline has columns, and what cannot be opened fails before anything is read.

* `Collector.onlyOf` is a collector that refuses rows of other widths, and
  `Pipeline.streamReport_onlyOf` says that a run never notices: no such row is handed over;
* `Pipeline.InStep` puts the facts about a pipeline with columns together,
  `Pipeline.FailsUnread` those about one that does not open;
* `Pipeline.error_of_toTable` finds the error of a table that is not made: in what the source
  gives, or in an operator on a row, but not in putting the rows together;
* `Pipeline.inStep_or_failsUnread` is the main statement, and `Pipeline.loneRow_out_of_step` says
  why it leaves out rows of other widths, some errors of building, and collectors that change
  the source.
-/

namespace TableFlow

/-! ## Collectors that look at widths -/

/-- The collector, except that it refuses rows of other widths. -/
def Collector.onlyOf {σ α : Type} (collector : Collector σ α) (width : Nat) : Collector σ α :=
  { collector with
    add := fun state entry =>
      if entry.2.length = width then collector.add state entry
      else (.error (.malformed entry.1 width entry.2.length), state) }

section OnlyOf

variable {σ α : Type} (collector : Collector σ α) (width : Nat)

@[simp]
theorem Collector.onlyOf_start : (collector.onlyOf width).start = collector.start := rfl

@[simp]
theorem Collector.onlyOf_finish : (collector.onlyOf width).finish = collector.finish := rfl

@[simp]
theorem Collector.onlyOf_abandon : (collector.onlyOf width).abandon = collector.abandon := rfl

theorem Collector.onlyOf_add {state : σ} {entry : Entry} (h : entry.2.length = width) :
    (collector.onlyOf width).add state entry = collector.add state entry := if_pos h

end OnlyOf

/-- A run does not notice what a collector would do with rows that cannot come. -/
theorem drive_onlyOf {σ α : Type} (collector : Collector σ α) {width out : Nat}
    {r : Running σ} {items : List Item} (hcarry : StagesCarry width r.chain.stages out)
    (hitems : ∀ item ∈ items, item.Fits width) :
    drive (collector.onlyOf out) r items = drive collector r items := by
  induction items generalizing r with
  | nil => rfl
  | cons item items ih =>
    obtain ⟨hitem, hrest⟩ := List.forall_mem_cons.mp hitems
    have hexhausted : r.isExhausted (collector.onlyOf out) = r.isExhausted collector := rfl
    by_cases hend : r.isExhausted collector = true
    · simp only [drive, hexhausted, hend, if_true]
    · cases item with
      | error e => simp only [drive, hexhausted, hend, Bool.false_eq_true, if_false]
      | ok entry =>
        obtain ⟨hlater, hwidth⟩ := pushStages_width hcarry (hitem entry rfl)
        simp only [drive, hexhausted, hend, Bool.false_eq_true, if_false, Running.push]
        rcases hpush : r.chain.push entry.2 with ⟨e | row, chain⟩
        · rfl
        · obtain ⟨hrow, rfl⟩ := Prod.mk.inj hpush
          cases row with
          | none => exact ih hlater hrest
          | some row =>
            have hout : row.length = out := hwidth row hrow
            have hadd : (collector.onlyOf out).add r.state (entry.1, row) =
                collector.add r.state (entry.1, row) := collector.onlyOf_add out hout
            simp only [hadd]
            rcases collector.add r.state (entry.1, row) with ⟨e | flow, state⟩
            · rfl
            · exact ih hlater hrest

namespace Pipeline

variable {p : Pipeline} {fs : FileSystem} {chain : Chain} {s : Schema}

/-- A run that reads rows of the right width never notices that the collector refuses rows of
other widths. -/
theorem streamReport_onlyOf {σ α : Type} {collector : Collector σ α}
    (hcolumns : p.source.columnsIn fs = .ok s)
    (hopen : Chain.openOn s p.operators = .ok chain)
    (hfits : ∀ state after items, collector.start chain.schema fs = .ok state after →
      p.source.itemsIn after = .ok items → ∀ item ∈ items, item.Fits s.width) :
    p.streamReport (collector.onlyOf chain.schema.width) fs = p.streamReport collector fs := by
  have hchain : p.chainIn fs = .ok chain := chainIn_eq_ok_iff.mpr ⟨s, hcolumns, hopen⟩
  simp only [streamReport_eq, hchain, Collector.onlyOf_start]
  cases hstart : collector.start chain.schema fs with
  | error e after => rfl
  | ok state after =>
    simp only [driveInto, p.source.items_eq, Action.ofExcept, Collector.onlyOf_abandon,
      Collector.onlyOf_finish]
    cases hitems : p.source.itemsIn after with
    | error e => rfl
    | ok items =>
      have hdrive : drive (collector.onlyOf chain.schema.width) ⟨chain, state⟩ items =
          drive collector ⟨chain, state⟩ items :=
        drive_onlyOf collector (Chain.openOn_carries hopen)
          (hfits state after items hstart hitems)
      simp only [hdrive]

end Pipeline

/-! ## Sources that check their rows -/

namespace Source

variable {source : Source} {fs : FileSystem}

/-- The source is a table or a delimited file, and not rows from elsewhere. -/
def Checked : Source → Prop
  | .table _ | .csv _ => True
  | .rows _ _ => False

theorem Checked.rowsFit (h : source.Checked) (fs : FileSystem) : source.RowsFit fs := by
  cases source with
  | table t => exact rowsFit_table t fs
  | csv f => exact rowsFit_csv f fs
  | rows schema items => cases h

theorem Checked.items_fit (h : source.Checked) {s : Schema} {items : List Item}
    (hcolumns : source.columnsIn fs = .ok s) (hitems : source.itemsIn fs = .ok items) :
    ∀ item ∈ items, item.Fits s.width := by
  apply h.rowsFit fs s items
  · rw [columns_eq, hcolumns]
    rfl
  · rw [items_eq, hitems]
    rfl

/-- What goes wrong when a source is opened or read, once its columns are known, is no error of
building or binding. -/
theorem Checked.isEarly_of_itemsIn (h : source.Checked) {s : Schema} {e : Error}
    (hcolumns : source.columnsIn fs = .ok s) (hitems : source.itemsIn fs = .error e) :
    e.isEarly = false := by
  cases source with
  | table t => cases hitems
  | csv f =>
    simp only [columnsIn] at hcolumns
    simp only [itemsIn, CsvFile.rowsIn, hcolumns] at hitems
    split at hitems
    · rename_i cause hrecords
      cases hitems
      unfold CsvFile.openRecords at hrecords
      split at hrecords <;> cases hrecords
      rfl
    · cases hitems
    · cases hitems
  | rows schema items => cases h

theorem Checked.isEarly_of_mem (h : source.Checked) {items : List Item} {e : Error}
    (hitems : source.itemsIn fs = .ok items) (he : .error e ∈ items) : e.isEarly = false := by
  cases source with
  | table t =>
    cases hitems
    simp at he
  | csv f =>
    simp only [itemsIn, CsvFile.rowsIn] at hitems
    split at hitems
    · cases hitems
    · split at hitems
      · cases hitems
      · cases hitems
        cases List.mem_singleton.mp he
        rfl
      · cases hitems
        obtain ⟨⟨row, id⟩, -, hitem⟩ := List.mem_map.mp he
        unfold CsvFile.item at hitem
        split at hitem
        · cases hitem
          rfl
        · split at hitem <;> cases hitem
          rfl
  | rows schema items => cases h

end Source

/-! ## Runs that fail -/

namespace Chain

variable {c : Chain} {items : List Item} {e : Error}

/-- After some of the rows among the items, a stage fails on another one of them. -/
def FailsOnRow (c : Chain) (items : List Item) (e : Error) : Prop :=
  ∃ before entry, (∀ row ∈ before, ∃ id, .ok (id, row) ∈ items) ∧ .ok entry ∈ items ∧
    ((c.after before).push entry.2).1 = .error e

theorem FailsOnRow.cons {first : Entry} (h : (c.push first.2).2.FailsOnRow items e) :
    c.FailsOnRow (.ok first :: items) e := by
  obtain ⟨before, entry, hbefore, hentry, hpush⟩ := h
  refine ⟨first.2 :: before, entry, List.forall_mem_cons.mpr ⟨⟨first.1, by simp⟩, ?_⟩,
    List.mem_cons_of_mem _ hentry, hpush⟩
  intro row hrow
  obtain ⟨id, hid⟩ := hbefore row hrow
  exact ⟨id, List.mem_cons_of_mem _ hid⟩

/-- A run fails at an item that is an error, or on a row that a stage fails on. -/
theorem error_of_passage (h : (c.passage items).error = some e) :
    .error e ∈ items ∨ c.FailsOnRow items e := by
  fun_induction c.passage items with
  | case1 c => cases h
  | case2 c item items hend => cases h
  | case3 c items hopen cause =>
    cases h
    exact .inl List.mem_cons_self
  | case4 c items hopen entry cause after hpush =>
    cases h
    exact .inr ⟨[], entry, by simp, List.mem_cons_self, congrArg Prod.fst hpush⟩
  | case5 c items hopen entry after hpush ih =>
    rcases ih h with hitem | hrow
    · exact .inl (List.mem_cons_of_mem _ hitem)
    · exact .inr (FailsOnRow.cons (by rwa [hpush]))
  | case6 c items hopen entry row after hpush ih =>
    rcases ih h with hitem | hrow
    · exact .inl (List.mem_cons_of_mem _ hitem)
    · exact .inr (FailsOnRow.cons (by rwa [hpush]))

/-- An error of building that operators raise on a row, though they were built, is one that
the body of a callable has given. -/
theorem FailsOnRow.exists_callable {s : Schema} {ops : List Operator} {fault : BuildFault}
    (h : c.FailsOnRow items (.construction fault)) (hbuilt : ∀ op ∈ ops, op.Built)
    (hopen : openOn s ops = .ok c) (hitems : ∀ item ∈ items, item.Fits s.width) :
    ∃ f ∈ ops.flatMap Operator.callables, ∃ args, f.func args = .error (.construction fault) := by
  obtain ⟨before, entry, hbefore, hentry, hpush⟩ := h
  have hrows : ∀ row ∈ before, row.length = s.width := by
    intro row hrow
    obtain ⟨id, hid⟩ := hbefore row hrow
    exact hitems _ hid (id, row) rfl
  rcases error_of_push hbuilt hopen hrows (hitems _ hentry entry rfl) hpush with hrow | hfault
  · rcases hrow with ⟨_, ⟨⟩⟩ | ⟨f, hf, hfails⟩
    rcases hfails.arity_or_func with ⟨_, _, ⟨⟩⟩ | hfunc
    exact ⟨f, hf, hfunc⟩
  · obtain ⟨front, op, back, -, hfault, -⟩ := hfault
    obtain ⟨_, _, ⟨⟩⟩ := Operator.arity_of_arityFault hfault

end Chain

namespace Pipeline

variable {p : Pipeline} {fs : FileSystem} {e : Error}

/-- A table is not made because its source cannot be read, or because of an operator on a row.
The rows that come out always go together. -/
theorem error_of_toTable {s : Schema} {chain : Chain} {after : FileSystem} (hsource : p.source.Checked)
    (hcolumns : p.source.columnsIn fs = .ok s) (hopen : Chain.openOn s p.operators = .ok chain)
    (h : p.toTable fs = .error e after) :
    e.isEarly = false ∨
      ∃ items, p.source.itemsIn fs = .ok items ∧ chain.FailsOnRow items e := by
  have hchain : p.chainIn fs = .ok chain := chainIn_eq_ok_iff.mpr ⟨s, hcolumns, hopen⟩
  have hfits := hsource.rowsFit fs
  cases hattempt : p.attempt fs with
  | ok outcome =>
    obtain ⟨schema, q⟩ := outcome
    rw [toTable_of_attempt hattempt hfits] at h
    cases h
  | error cause =>
    rw [toTable_of_attempt_error hattempt hfits] at h
    cases h
    rcases attempt_eq_error_iff.mp hattempt with hbegin | ⟨opened, items, hbegin, herror⟩
    · rw [begin?, hchain] at hbegin
      have hitems := Result.map_eq_error_iff.mp hbegin
      exact .inl (hsource.isEarly_of_itemsIn hcolumns hitems)
    · obtain ⟨hopened, hitems⟩ := begin?_eq_ok_iff.mp hbegin
      rw [hchain] at hopened
      cases hopened
      rcases Chain.error_of_passage herror with hitem | hrow
      · exact .inl (hsource.isEarly_of_mem hitems hitem)
      · exact .inr ⟨items, hitems, hrow⟩

end Pipeline

/-! ## Row by row -/

namespace RowCursor

theorem mem_pending_of_take {c : RowCursor} {n : Nat} {answer : Result Entry}
    (h : some answer ∈ (c.take n).1) : answer ∈ c.pending := by
  induction n generalizing c with
  | zero => cases h
  | succ n ih =>
    obtain ⟨hnext, hlater⟩ := c.next_eq
    simp only [take, List.mem_cons] at h
    rcases h with hfirst | hrest
    · rw [hnext] at hfirst
      exact List.mem_of_mem_head? hfirst.symm
    · have hmem := ih hrest
      rw [hlater] at hmem
      exact List.mem_of_mem_tail hmem

/-- The rows that a cursor hands out are rows that come out of its chain. -/
theorem mem_rows_of_take {c : RowCursor} {n : Nat} {entry : Entry}
    (h : some (.ok entry) ∈ (c.take n).1) : entry ∈ (c.chain.passage c.rest).rows := by
  have hpending := mem_pending_of_take h
  unfold pending at hpending
  split at hpending
  · cases hpending
  · rcases List.mem_append.mp hpending with hrow | herror
    · obtain ⟨row, hrow, heq⟩ := List.mem_map.mp hrow
      cases heq
      exact hrow
    · obtain ⟨e, -, heq⟩ := List.mem_map.mp herror
      cases heq

end RowCursor

namespace Pipeline

/-! ## Pipelines whose source checks its rows -/

/-- The rows and the columns of a pipeline are in step, whatever is done with the rows. -/
structure InStep (p : Pipeline) (fs : FileSystem) (out : Schema) : Prop where
  names_nodup : out.names.Nodup
  /-- Whatever rows of the source's width have been pushed, a row that comes out fits. -/
  push : ∀ s chain, p.source.columns fs = .ok s fs → p.openChain fs = .ok chain fs →
    ∀ rows row last, (∀ r ∈ rows, r.length = s.width) → row.length = s.width →
      ((chain.after rows).push row).1 = .ok (some last) → last.length = out.width
  /-- A collector that starts without touching the columns of the source is handed no rows of
  other widths. -/
  handed : ∀ {σ α : Type} (collector : Collector σ α),
    (∀ state after, collector.start out fs = .ok state after →
      p.source.columnsIn after = p.source.columnsIn fs) →
        p.streamReport (collector.onlyOf out.width) fs = p.streamReport collector fs
  /-- A file is handed no rows of other widths, even if it is the one that is read. -/
  written : ∀ file, p.streamReport ((Collector.write file).onlyOf out.width) fs =
    p.streamReport (Collector.write file) fs
  yielded : ∀ cursor after, p.rowCursor fs = .ok cursor after →
    ∀ n entry, some (.ok entry) ∈ (cursor.take n).1 → entry.2.length = out.width
  toTable : ∀ t after, p.toTable fs = .ok t after → t.schema = out
  /-- An error of building does not come from putting a table together: an operator has raised
  it on a row of the source. -/
  construction : ∀ fault after, p.toTable fs = .error (.construction fault) after →
    ∃ chain items, p.openChain fs = .ok chain fs ∧ p.source.items fs = .ok items fs ∧
      chain.FailsOnRow items (.construction fault)
  /-- If all operators were built, the body of one of their callables has given it. -/
  construction_of_built : (∀ op ∈ p.operators, op.Built) → ∀ fault after,
    p.toTable fs = .error (.construction fault) after →
      ∃ f ∈ p.operators.flatMap Operator.callables, ∃ args,
        f.func args = .error (.construction fault)

/-- The pipeline fails with the error before its source is opened: a run that had opened the
source would have ended with a report. -/
structure FailsUnread (p : Pipeline) (fs : FileSystem) (e : Error) : Prop where
  toTable : p.toTable fs = .error e fs
  count : p.count fs = .error e fs
  distinct : p.distinct fs = .error e fs
  rowCursor : p.rowCursor fs = .error e fs
  streamReport : ∀ {σ α : Type} (collector : Collector σ α), p.streamReport collector fs = .error e fs

variable {p : Pipeline} {fs : FileSystem}

theorem exists_of_columns {out : Schema} (h : p.columns fs = .ok out fs) :
    ∃ s chain, p.source.columnsIn fs = .ok s ∧ Chain.openOn s p.operators = .ok chain ∧
      chain.schema = out := by
  rw [columns_eq, Action.ofExcept_eq_ok_iff, Result.map_eq_ok_iff] at h
  obtain ⟨⟨chain, hchain, hschema⟩, -⟩ := h
  obtain ⟨s, hcolumns, hopen⟩ := chainIn_eq_ok_iff.mp hchain
  exact ⟨s, chain, hcolumns, hopen, hschema⟩

/-- A file that is created leaves the rows of a source that checks them as they were, or takes
them all away. -/
theorem items_fit_of_write {s schema : Schema} {file : CsvFile} {w : Collector.Writing}
    {after : FileSystem} {items : List Item} (hsource : p.source.Checked)
    (hcolumns : p.source.columnsIn fs = .ok s)
    (hstart : (Collector.write file).start schema fs = .ok w after)
    (hitems : p.source.itemsIn after = .ok items) : ∀ item ∈ items, item.Fits s.width := by
  obtain ⟨made, place, hroom, rfl⟩ := Collector.roomFor_of_write hstart
  cases hkind : p.source with
  | table t =>
    rw [hkind] at hcolumns hitems
    exact Source.Checked.items_fit (show (Source.table t).Checked from trivial) hcolumns hitems
  | csv f =>
    rw [hkind] at hcolumns hitems
    exact CsvFile.rowsIn_fit_opened hroom hcolumns hitems
  | rows schema items =>
    rw [hkind] at hsource
    cases hsource

theorem inStep_of_columns {out : Schema} (hsource : p.source.Checked)
    (h : p.columns fs = .ok out fs) : p.InStep fs out := by
  obtain ⟨s, chain, hcolumns, hopen, rfl⟩ := exists_of_columns h
  have hchain : p.chainIn fs = .ok chain := chainIn_eq_ok_iff.mpr ⟨s, hcolumns, hopen⟩
  have hcarry := Chain.openOn_carries hopen
  have hraised : ∀ fault after, p.toTable fs = .error (.construction fault) after →
      ∃ items, p.source.itemsIn fs = .ok items ∧ chain.FailsOnRow items (.construction fault) := by
    intro fault after htable
    exact (error_of_toTable hsource hcolumns hopen htable).resolve_left (by simp [Error.isEarly])
  refine ⟨chain.schema.nodup, ?_, ?_, ?_, ?_, ?_, ?_, ?_⟩
  · intro s' chain' hs' hchain' rows row last hrows hrow hlast
    rw [p.source.columns_eq, hcolumns] at hs'
    rw [openChain_eq, hchain] at hchain'
    cases hs'
    cases hchain'
    exact Chain.push_after_width hcarry hrows hrow hlast
  · intro σ α collector hkept
    refine streamReport_onlyOf hcolumns hopen fun state after items hstart hitems => ?_
    exact hsource.items_fit ((hkept state after hstart).trans hcolumns) hitems
  · intro file
    exact streamReport_onlyOf hcolumns hopen fun w after items hstart hitems =>
      items_fit_of_write hsource hcolumns hstart hitems
  · intro cursor after hcursor n entry hentry
    rw [rowCursor_eq] at hcursor
    split at hcursor
    · cases hcursor
    · rename_i opened items hbegin
      cases hcursor
      obtain ⟨hopened, hitems⟩ := begin?_eq_ok_iff.mp hbegin
      rw [hchain] at hopened
      cases hopened
      exact Chain.passage_width hcarry (hsource.items_fit hcolumns hitems) entry
        (RowCursor.mem_rows_of_take hentry)
  · intro t after htable
    cases hattempt : p.attempt fs with
    | error e =>
      rw [toTable_of_attempt_error hattempt (hsource.rowsFit fs)] at htable
      cases htable
    | ok outcome =>
      obtain ⟨schema, q⟩ := outcome
      rw [toTable_of_attempt hattempt (hsource.rowsFit fs)] at htable
      cases htable
      obtain ⟨opened, items, hbegin, rfl, -⟩ := attempt_eq_ok_iff.mp hattempt
      obtain ⟨hopened, -⟩ := begin?_eq_ok_iff.mp hbegin
      rw [hchain] at hopened
      cases hopened
      rfl
  · intro fault after htable
    obtain ⟨items, hitems, hrow⟩ := hraised fault after htable
    exact ⟨chain, items, by rw [openChain_eq, hchain]; rfl,
      by rw [p.source.items_eq, hitems]; rfl, hrow⟩
  · intro hbuilt fault after htable
    obtain ⟨items, hitems, hrow⟩ := hraised fault after htable
    exact hrow.exists_callable hbuilt hopen (hsource.items_fit hcolumns hitems)

theorem failsUnread_of_openOn {s : Schema} {e : Error} (hcolumns : p.source.columns fs = .ok s fs)
    (hopen : Chain.openOn s p.operators = .error e) : p.FailsUnread fs e := by
  have hchain : p.chainIn fs = .error e := by
    rw [p.source.columns_eq, Action.ofExcept_eq_ok_iff] at hcolumns
    simp only [chainIn, hcolumns.1, hopen]
  have hreport : ∀ {σ α : Type} (collector : Collector σ α),
      p.streamReport collector fs = .error e fs := by
    intro σ α collector
    simp only [streamReport_eq, hchain]
  refine ⟨?_, ?_, ?_, ?_, hreport⟩
  · simp only [toTable, stream_eq, streamWithStats_eq_report, hreport]
  · simp only [count, stream_eq, streamWithStats_eq_report, hreport]
  · simp only [distinct, stream_eq, streamWithStats_eq_report, hreport]
  · simp only [rowCursor_eq, begin?, hchain]

/-- Whatever the operators are, over a table or a delimited file: if the pipeline has columns,
rows and columns stay in step. If the operators do not open on the columns of the source, every
way to run the pipeline fails with the error of opening them, and would do so whatever the rows
of the source were. -/
theorem inStep_or_failsUnread (p : Pipeline) (fs : FileSystem) (hsource : p.source.Checked) :
    (∀ out, p.columns fs = .ok out fs → p.InStep fs out) ∧
      ∀ s e, p.source.columns fs = .ok s fs → Chain.openOn s p.operators = .error e →
        ∀ source, source.columns fs = .ok s fs → (Pipeline.mk source p.operators).FailsUnread fs e :=
  ⟨fun _ hcolumns => inStep_of_columns hsource hcolumns,
    fun _ _ _ hopen _ hcolumns => failsUnread_of_openOn hcolumns hopen⟩

/-- Two rows, each with the list of its cells spread over two new columns between them, of
which one stays in front of the first old one. -/
def spread : Pipeline :=
  ⟨.table ⟨⟨["a", "b"], by decide⟩, [(4, [.int 1, .str "x"]), (9, [.int 2, .str "y"])], by decide⟩,
    [.insert ["c", "d"] (some 1) (.expr (.ofColumns [.name "a", .name "b"])) (by decide) rfl,
      .select [.name "d", .position 0], .rename [.position 1] ["k"] rfl]⟩

/-- The two columns that are left are in step with the rows. The column that is gone cannot be
selected any more, and this shows before a row is read. -/
theorem spread_inStep :
    spread.source.Checked ∧ spread.InStep .empty ⟨["d", "k"], by decide⟩ ∧
      spread.toTable .empty =
        .ok ⟨⟨["d", "k"], by decide⟩, [(4, [.str "x", .int 1]), (9, [.str "y", .int 2])],
          by decide⟩ .empty ∧
      (spread.select [.name "c"]).FailsUnread .empty (.unknownColumn (.reference (.name "c"))) := by
  have hsource : spread.source.Checked := trivial
  obtain ⟨hinStep, -⟩ := inStep_or_failsUnread spread .empty hsource
  obtain ⟨-, hfails⟩ := inStep_or_failsUnread (spread.select [.name "c"]) .empty hsource
  exact ⟨hsource, hinStep _ rfl, rfl, hfails _ _ rfl rfl spread.source rfl⟩

/-- A row, with an operator on it. -/
def loneRow (op : Operator) : Pipeline :=
  ⟨.table ⟨⟨["a"], List.nodup_singleton "a"⟩, [(0, [.int 1])], List.forall_mem_singleton.mpr rfl⟩,
    [op]⟩

/-- Always raises an error of building. -/
def unwilling : Callable := .unary "unwilling" fun _ => .error (.construction .insertNothing)

/-- Counts rows, and widens a file before it does. -/
def widening : Collector Nat Nat :=
  { Collector.count with
    start := fun _ fs => .ok 0 (fs.put ["a.csv"] (.file (Utf8.ofString "a,b\n1,2\n"))) }

/-- Where rows and columns fall out of step. The body of a callable may raise an error of
building, and so may an expression that was put together without its constructor; neither
shows before the table is made. A row of another width than that of the source, when it is
pushed, comes out with as many values as it has. And a collector that widens the file that is
to be read is handed the wider rows. -/
theorem loneRow_out_of_step :
    (∃ op, op.Built ∧ (loneRow op).source.Checked ∧
      (loneRow op).columns .empty = .ok ⟨["a"], by decide⟩ .empty ∧
      (loneRow op).toTable .empty = .error (.construction .insertNothing) .empty) ∧
    (∃ op, (loneRow op).columns .empty = .ok ⟨["a"], by decide⟩ .empty ∧
      (loneRow op).toTable .empty = .error (.construction (.argumentOutOfRange 0 0)) .empty) ∧
    (∃ op chain, op.Built ∧ (loneRow op).columns .empty = .ok ⟨["a"], by decide⟩ .empty ∧
      (loneRow op).openChain .empty = .ok chain .empty ∧
      (chain.push [.int 1, .int 2]).1 = .ok (some [.int 1, .int 2])) ∧
    ∃ (p : Pipeline) (fs after : FileSystem), p.source.Checked ∧
      p.columns fs = .ok ⟨["a"], by decide⟩ fs ∧
      p.streamReport widening fs = .ok ⟨.ok 1, ⟨1, 1⟩, 1⟩ after ∧
      p.streamReport (widening.onlyOf 1) fs = .ok ⟨.error (.malformed 0 1 2), ⟨1, 1⟩, 1⟩ after := by
  refine ⟨?_, ?_, ?_, ?_⟩
  · exact ⟨.update [.name "a"] (.callable unwilling) (by decide), trivial, trivial, rfl, rfl⟩
  · exact ⟨.update [.name "a"] (.expr (.get [] 0)) (by decide), rfl, rfl⟩
  · exact ⟨.limit 5, _, trivial, rfl, rfl, rfl⟩
  · exact ⟨.ofSource (.csv (CsvFile.ofPath "a.csv")),
      ⟨[(["a.csv"], .file (Utf8.ofString "a\n1\n"))]⟩, _, trivial, rfl, rfl, rfl⟩

end Pipeline

end TableFlow
