import TableFlow.Proofs.Operator.Survivors
import TableFlow.Proofs.Pipeline.Modes

/-!
# The first rows of a pipeline

A pipeline behind which a limit stands reads its source up to the row that fills the limit,
and no further; `Pipeline.limit_reads_no_further` says how far that is, and that nothing
behind it makes a difference.

* `Pipeline.HandsOver` is what a run does, whatever collects the rows;
  `Pipeline.HandsOver.toTable` is its table.
-/

namespace TableFlow

/-- The end of a run that went through: the result of the collector, and the numbers that
the run reports. -/
def Collector.closing {σ α : Type} (collector : Collector σ α) (state : σ) (stats : Stats)
    (taken : Nat) : Action Error (Report α) := fun fs =>
  match collector.finish state fs with
  | .ok a after => .ok ⟨.ok a, stats, taken⟩ after
  | .error e after => .ok ⟨.error e, stats, taken⟩ after

namespace Pipeline

variable {p : Pipeline} {fs : FileSystem} {chain : Chain} {items : List Item}
  {rows : List Entry} {stats : Stats} {taken : Nat}

/-- Whatever collector takes these rows, a run over the items hands it these rows and no
others, ends well, and reports these numbers. -/
def HandsOver (p : Pipeline) (fs : FileSystem) (schema : Schema) (items : List Item)
    (rows : List Entry) (stats : Stats) (taken : Nat) : Prop :=
  ∀ ⦃σ α : Type⦄ (collector : Collector σ α) (state : σ) (after : FileSystem),
    collector.start schema fs = .ok state after → p.source.items after = .ok items after →
      collector.Accepts state rows →
      p.streamReport collector fs =
        collector.closing (collector.stateAfter state rows) stats taken after

theorem handsOver_of_passage {last : Chain} {rest : List Item} (hchain : p.chainIn fs = .ok chain)
    (hpassage : chain.passage items = ⟨rows, none, last, rest⟩) :
    p.HandsOver fs chain.schema items rows last.stats (items.length - rest.length) := by
  intro σ α collector state after hstart hitems haccepts
  have hdrive : drive collector ⟨chain, state⟩ items = _ :=
    drive_of_accepts chain items (by rwa [hpassage])
  rw [hpassage] at hdrive
  have hdriven : p.driveInto collector chain state after =
      collector.closing (collector.stateAfter state rows) last.stats
        (items.length - rest.length) after := by
    simp only [driveInto, hitems, hdrive]
    rfl
  simp only [streamReport_eq, hchain, hstart, hdriven]

/-- The rows that are handed over make a table if they fit the schema. -/
theorem HandsOver.toTable {schema : Schema} (h : p.HandsOver fs schema items rows stats taken)
    (hitems : p.source.items fs = .ok items fs)
    (hwidth : ∀ entry ∈ rows, entry.2.length = schema.width) :
    p.toTable fs = .ok ⟨schema, rows, hwidth⟩ fs := by
  have haccepts : Collector.table.Accepts ⟨schema, []⟩ rows :=
    (Collector.table_gathers.takes schema).accepts rfl hwidth
  have hreport := h Collector.table ⟨schema, []⟩ fs rfl hitems haccepts
  have hindex := Table.ofIndex_entries hwidth
  have hfinish : Collector.table.closing (Collector.table.stateAfter ⟨schema, []⟩ rows) stats
      taken fs = .ok ⟨.ok ⟨schema, rows, hwidth⟩, stats, taken⟩ fs := by
    simp only [Collector.closing, Collector.table_stateAfter, Collector.table_gathers.finish,
      List.append_nil, List.reverse_reverse, hindex]
    rfl
  simp only [Pipeline.toTable, stream_eq, streamWithStats_eq_report, hreport, hfinish]

/-! ## A limit behind a pipeline -/

/-- A limit that has counted no rows. -/
def limiter (schema : Schema) (n : Nat) : Chain := ⟨[.limit n 0], schema, ⟨0, 0⟩, false⟩

theorem limiter_counts (schema : Schema) (n : Nat) : (limiter schema n).Counts n 0 where
  stages_eq := rfl
  reached_of_stopped hstopped := by cases hstopped

@[simp]
theorem schema_followedBy_limiter (c : Chain) (schema : Schema) (n : Nat) :
    (c.followedBy (limiter schema n)).schema = schema := rfl

@[simp]
theorem stats_limiter (schema : Schema) (n : Nat) : (limiter schema n).stats = ⟨0, 0⟩ := rfl

/-- A limit opens behind whatever opens. -/
theorem chainIn_limit (hchain : p.chainIn fs = .ok chain) (n : Nat) :
    (p.limit n).chainIn fs = .ok (chain.followedBy (limiter chain.schema n)) := by
  obtain ⟨s, hcolumns, hopen⟩ := chainIn_eq_ok_iff.mp hchain
  refine chainIn_eq_ok_iff.mpr ⟨s, hcolumns, ?_⟩
  exact Chain.openOn_append_eq_ok_iff.mpr ⟨chain, limiter chain.schema n, hopen, rfl, rfl⟩

/-- The run ends with the row that fills the limit, whatever the source holds behind it. -/
theorem limit_handsOver {n k : Nat} (hlimits : ∀ op ∈ p.operators, op.isLimit = false)
    (hchain : p.chainIn fs = .ok chain) (hnth : NthSurvivor chain.stages items n k rows)
    (tail : List Item) :
    (p.limit n).HandsOver fs chain.schema (items.take k ++ tail) rows ⟨k, n⟩ k := by
  obtain ⟨s, -, hopen⟩ := chainIn_eq_ok_iff.mp hchain
  obtain ⟨last, hpassage, hstats⟩ := Chain.passage_to_limit
    (Chain.unlimited_of_openOn hlimits hopen) (limiter_counts chain.schema n) hnth tail
  have hrun := handsOver_of_passage (chainIn_limit hchain n) hpassage
  have htaken : (items.take k ++ tail).length - tail.length = k := by
    rw [List.length_append, Nat.add_sub_cancel, List.length_take_of_le hnth.le_length]
  rw [hstats, chainIn_stats hchain, htaken] at hrun
  simpa using hrun

/-- A limit that is not reached lets the run read everything. -/
theorem limit_handsOver_all {n : Nat} (hlimits : ∀ op ∈ p.operators, op.isLimit = false)
    (hchain : p.chainIn fs = .ok chain) (hrows : survivors chain.stages items = .ok rows)
    (hfew : rows.length < n) :
    (p.limit n).HandsOver fs chain.schema items rows ⟨items.length, rows.length⟩
      items.length := by
  obtain ⟨s, -, hopen⟩ := chainIn_eq_ok_iff.mp hchain
  obtain ⟨a, b, hpassage, -, -, hread, -, hemitted⟩ := Chain.passage_before_limit
    (Chain.unlimited_of_openOn hlimits hopen) (limiter_counts chain.schema n) hrows (by omega)
  have hrun := handsOver_of_passage (chainIn_limit hchain n) hpassage
  have hstats : (a.followedBy b).stats = ⟨a.stats.read, b.stats.emitted⟩ := rfl
  rw [hstats, hread, hemitted, chainIn_stats hchain] at hrun
  simpa using hrun

/-- Behind a pipeline without limits, a limit of `n` rows ends the run with the `n`-th row
that comes out: the items up to this row are taken, they are counted, and the rows are handed
over with their identifiers. Any other items may stand behind them. If fewer rows come out,
all items are taken. -/
theorem limit_reads_no_further (p : Pipeline) (n : Nat) {s : Schema}
    (hlimits : ∀ op ∈ p.operators, op.isLimit = false)
    (hcolumns : p.source.columns fs = .ok s fs) (hopen : p.openChain fs = .ok chain fs)
    (hitems : p.source.items fs = .ok items fs) :
    (∀ k rows, NthSurvivor chain.stages items n k rows →
      (p.limit n).HandsOver fs chain.schema items rows ⟨k, n⟩ k ∧
      ((∀ item ∈ items.take k, item.Fits s.width) →
        ∃ t, p.head n fs = .ok t fs ∧ t.schema = chain.schema ∧ t.entries = rows) ∧
      ∀ source tail, source.columns fs = .ok s fs →
        ((Pipeline.mk source p.operators).limit n).HandsOver fs chain.schema
          (items.take k ++ tail) rows ⟨k, n⟩ k) ∧
    ∀ rows, survivors chain.stages items = .ok rows → rows.length < n →
      (p.limit n).HandsOver fs chain.schema items rows ⟨items.length, rows.length⟩ items.length ∧
      ((∀ item ∈ items, item.Fits s.width) →
        ∃ t, p.head n fs = .ok t fs ∧ t.schema = chain.schema ∧ t.entries = rows) := by
  rw [p.source.columns_eq, Action.ofExcept_eq_ok_iff] at hcolumns
  rw [p.openChain_eq, Action.ofExcept_eq_ok_iff] at hopen
  have hchain : p.chainIn fs = .ok chain := hopen.1
  have hopened : Chain.openOn s p.operators = .ok chain := by
    obtain ⟨found, hfound, hopened⟩ := chainIn_eq_ok_iff.mp hchain
    obtain rfl : s = found := Except.ok.inj (hcolumns.1.symm.trans hfound)
    exact hopened
  have hcarry := Chain.openOn_carries hopened
  constructor
  · intro k rows hnth
    have hrun : (p.limit n).HandsOver fs chain.schema items rows ⟨k, n⟩ k := by
      have hsplit := limit_handsOver hlimits hchain hnth (items.drop k)
      rwa [List.take_append_drop] at hsplit
    refine ⟨hrun, ?_, ?_⟩
    · intro hfits
      exact ⟨_, hrun.toTable hitems (survivors_width hcarry hfits hnth.rows_eq), rfl, rfl⟩
    · intro source tail hsource
      rw [source.columns_eq, Action.ofExcept_eq_ok_iff] at hsource
      have hother : (Pipeline.mk source p.operators).chainIn fs = .ok chain :=
        chainIn_eq_ok_iff.mpr ⟨s, hsource.1, hopened⟩
      exact limit_handsOver (p := ⟨source, p.operators⟩) hlimits hother hnth tail
  · intro rows hrows hfew
    have hrun := limit_handsOver_all hlimits hchain hrows hfew
    refine ⟨hrun, ?_⟩
    intro hfits
    exact ⟨_, hrun.toTable hitems (survivors_width hcarry hfits hrows), rfl, rfl⟩

/-- Numbers, of which the second and the fourth are large, and an item that failed. -/
def readings : Pipeline :=
  ⟨.rows ⟨["n"], by decide⟩
    [.ok (10, [.int 1]), .ok (11, [.int 5]), .ok (12, [.null]), .ok (13, [.int 7]),
      .error (.malformed 14 1 2), .ok (15, [.int 9])],
    [.filter (.compare .gt (.ofColumn (.name "n")) (.const (.int 2))) false]⟩

/-- The fourth item is the second large number. It is the last item that is read for two of
them, and the item behind it, which failed, is never met. -/
theorem readings_limit :
    ∃ chain, readings.openChain .empty = .ok chain .empty ∧
      NthSurvivor chain.stages
        [.ok (10, [.int 1]), .ok (11, [.int 5]), .ok (12, [.null]), .ok (13, [.int 7]),
          .error (.malformed 14 1 2), .ok (15, [.int 9])]
        2 4 [(11, [.int 5]), (13, [.int 7])] ∧
      (readings.limit 2).HandsOver .empty chain.schema
        [.ok (10, [.int 1]), .ok (11, [.int 5]), .ok (12, [.null]), .ok (13, [.int 7]),
          .error (.malformed 14 1 2), .ok (15, [.int 9])]
        [(11, [.int 5]), (13, [.int 7])] ⟨4, 2⟩ 4 ∧
      ∃ t, readings.head 2 .empty = .ok t .empty ∧ t.schema = ⟨["n"], by decide⟩ ∧
        t.entries = [(11, [.int 5]), (13, [.int 7])] := by
  have hnth : NthSurvivor
      [.filter (.compare .gt (.column ⟨.name "n", some 0⟩) (.const (.int 2))) false]
      [.ok (10, [.int 1]), .ok (11, [.int 5]), .ok (12, [.null]), .ok (13, [.int 7]),
        .error (.malformed 14 1 2), .ok (15, [.int 9])]
      2 4 [(11, [.int 5]), (13, [.int 7])] := by
    refine ⟨by decide, rfl, rfl, ?_⟩
    intro j hj fewer hfewer
    match j with
    | 0 | 1 | 2 | 3 =>
      cases hfewer
      decide
  have hcolumns : readings.source.columns .empty = .ok ⟨["n"], by decide⟩ .empty := rfl
  obtain ⟨hreach, -⟩ := limit_reads_no_further readings 2 (by decide) hcolumns rfl rfl
  obtain ⟨hhanded, hhead, -⟩ := hreach 4 _ hnth
  refine ⟨_, rfl, hnth, hhanded, hhead ?_⟩
  rintro item hitem entry rfl
  have hentry : entry = (10, [.int 1]) ∨ entry = (11, [.int 5]) ∨ entry = (12, [.null]) ∨
      entry = (13, [.int 7]) := by simpa using hitem
  rcases hentry with rfl | rfl | rfl | rfl <;> rfl

end Pipeline

end TableFlow
