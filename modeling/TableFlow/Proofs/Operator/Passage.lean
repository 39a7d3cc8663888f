import TableFlow.Proofs.Operator.Outputs

/-!
# Items on their way through a chain

A run takes items from a source until they end, one of them fails, or the chain can emit
nothing more. What happens to the items does not depend on who collects the rows, as long as
they are taken.

* `Chain.passage` is this common part: the rows that come out, the error that ends the run,
  the chain at its end, and the items that were not taken;
* `drive_of_accepts` is a run into any collector that takes the rows and does not ask to stop,
  in these terms;
* `Chain.passage_width` and `Chain.passage_counts` are the widths and the numbers of the
  rows that come out;
* `Chain.passage_breaks` finds the item at which a run that fails does so.
-/

namespace TableFlow

/-- What becomes of items that are offered to a chain. -/
structure Passage where
  /-- The rows that come out, in order. -/
  rows : List Entry
  /-- The error that ends the run, if one does. -/
  error : Option Error
  chain : Chain
  /-- The items that were not taken. -/
  rest : List Item

/-- The passage with one more row in front. -/
def Passage.withFirst (entry : Entry) (p : Passage) : Passage :=
  ⟨entry :: p.rows, p.error, p.chain, p.rest⟩

/-- An error, or a row of this width. -/
def Item.Fits (width : Nat) (item : Item) : Prop :=
  ∀ entry, item = .ok entry → entry.2.length = width

namespace Chain

/-- Offers items to a chain. -/
def passage (c : Chain) : List Item → Passage
  | [] => ⟨[], none, c, []⟩
  | item :: items =>
    if c.isExhausted then ⟨[], none, c, item :: items⟩
    else
      match item with
      | .error e => ⟨[], some e, c, items⟩
      | .ok entry =>
        match c.push entry.2 with
        | (.error e, after) => ⟨[], some e, after, items⟩
        | (.ok none, after) => after.passage items
        | (.ok (some row), after) => (after.passage items).withFirst (entry.1, row)

/-! ## Numbers -/

theorem push_read (c : Chain) (row : Row) : (c.push row).2.stats.read = c.stats.read + 1 := rfl

theorem push_emitted (c : Chain) (row : Row) :
    (c.push row).2.stats.emitted =
      match (c.push row).1 with
      | .ok (some _) => c.stats.emitted + 1
      | _ => c.stats.emitted := rfl

/-- Every row that comes out was counted when it went in and when it came out, and no
more rows went in than there were items. -/
theorem passage_counts (c : Chain) (items : List Item) :
    (c.passage items).chain.stats.emitted = c.stats.emitted + (c.passage items).rows.length ∧
      c.stats.read + (c.passage items).rows.length ≤ (c.passage items).chain.stats.read ∧
      (c.passage items).chain.stats.read ≤ c.stats.read + items.length := by
  fun_induction c.passage items with
  | case1 c => simp
  | case2 c item items hend => simp
  | case3 c items hopen e => simp
  | case4 c items hopen entry e after hpush =>
    have hread := c.push_read entry.2
    have hemitted := c.push_emitted entry.2
    rw [hpush] at hread hemitted
    simp only [List.length_nil, List.length_cons] at hread hemitted ⊢
    omega
  | case5 c items hopen entry after hpush ih =>
    have hread := c.push_read entry.2
    have hemitted := c.push_emitted entry.2
    rw [hpush] at hread hemitted
    simp only [List.length_cons] at hread hemitted ⊢
    omega
  | case6 c items hopen entry row after hpush ih =>
    have hread := c.push_read entry.2
    have hemitted := c.push_emitted entry.2
    rw [hpush] at hread hemitted
    simp only [Passage.withFirst, List.length_cons] at hread hemitted ⊢
    omega

theorem passage_of_isExhausted {c : Chain} (h : c.isExhausted = true) (items : List Item) :
    c.passage items = ⟨[], none, c, items⟩ := by
  fun_cases c.passage items with
  | case1 => rfl
  | case2 item items hend => rfl
  | case3 => contradiction
  | case4 => contradiction
  | case5 => contradiction
  | case6 => contradiction

/-- A chain that can still emit something takes the first of the items. -/
theorem passage_reads {c : Chain} {items : List Item} (hopen : ¬c.isExhausted = true)
    (hitems : items ≠ []) (hdone : (c.passage items).error = none) :
    c.stats.read < (c.passage items).chain.stats.read := by
  fun_cases c.passage items with
  | case1 => exact absurd rfl hitems
  | case2 item items hend => exact absurd hend hopen
  | case3 items hopen e => simp [passage, hopen] at hdone
  | case4 items hopen entry e after hpush => simp [passage, hopen, hpush] at hdone
  | case5 items hopen entry after hpush =>
    have hread := c.push_read entry.2
    have hcounts := after.passage_counts items
    rw [hpush] at hread
    simp only at hread
    omega
  | case6 items hopen entry row after hpush =>
    have hread := c.push_read entry.2
    have hcounts := after.passage_counts items
    rw [hpush] at hread
    simp only [Passage.withFirst] at hread ⊢
    omega

/-! ## Widths -/

/-- The rows that come out have the width of the last stage. -/
theorem passage_width {c : Chain} {width out : Nat} {items : List Item}
    (hcarry : StagesCarry width c.stages out) (hitems : ∀ item ∈ items, item.Fits width) :
    ∀ entry ∈ (c.passage items).rows, entry.2.length = out := by
  fun_induction c.passage items with
  | case1 c => simp
  | case2 c item items hend => simp
  | case3 c items hopen e => simp
  | case4 c items hopen entry e after hpush => simp
  | case5 c items hopen entry after hpush ih =>
    obtain ⟨hitem, hrest⟩ := List.forall_mem_cons.mp hitems
    obtain ⟨hstages, -⟩ := pushStages_width hcarry (hitem entry rfl)
    obtain ⟨-, rfl⟩ := Prod.mk.inj hpush
    exact ih hstages hrest
  | case6 c items hopen entry row after hpush ih =>
    obtain ⟨hitem, hrest⟩ := List.forall_mem_cons.mp hitems
    obtain ⟨hstages, hwidth⟩ := pushStages_width hcarry (hitem entry rfl)
    obtain ⟨hrow, rfl⟩ := Prod.mk.inj hpush
    exact List.forall_mem_cons.mpr ⟨hwidth row hrow, ih hstages hrest⟩

/-! ## Runs that are over before they start -/

theorem openStages_isExhausted {s out : Schema} {ops : List Operator} {stages : List Stage}
    (h : openStages s ops = .ok (stages, out)) :
    stages.any Stage.isExhausted = true ↔ .limit 0 ∈ ops := by
  induction ops generalizing s stages with
  | nil =>
    cases h
    simp
  | cons op ops ih =>
    rw [openStages] at h
    split at h
    · cases h
    rename_i opened hopen
    split at h
    · cases h
    rename_i rest last hrest
    cases h
    have hfirst : opened.stage.isExhausted = true ↔ op = .limit 0 := by
      -- only a limit can be reached, and one of no rows is reached before there is any
      cases Operator.opensAs_of_openOn hopen <;> simp [Stage.isExhausted]
    rw [List.any_cons, Bool.or_eq_true, hfirst, ih hrest, List.mem_cons, eq_comm]

/-- A chain is over before it starts exactly if one of its limits is zero. -/
theorem isExhausted_of_openOn {s : Schema} {ops : List Operator} {c : Chain}
    (h : openOn s ops = .ok c) : c.isExhausted = true ↔ .limit 0 ∈ ops := by
  unfold openOn at h
  split at h
  · cases h
  · rename_i hstages
    cases h
    simpa [isExhausted] using openStages_isExhausted hstages

/-! ## Where a run fails -/

/-- A run that fails does so at one of its items: those before it go through, and it makes
no difference what comes after it. -/
theorem passage_breaks {c : Chain} {items : List Item} {e : Error}
    (h : (c.passage items).error = some e) :
    ∃ before bad rest, items = before ++ bad :: rest ∧ (c.passage before).error = none ∧
      (c.passage before).rows = (c.passage items).rows ∧
      (c.passage (before ++ [bad])).error = some e := by
  fun_induction c.passage items with
  | case1 c => cases h
  | case2 c item items hend => cases h
  | case3 c items hopen cause =>
    cases h
    exact ⟨[], .error e, items, rfl, rfl, rfl, by simp [passage, hopen]⟩
  | case4 c items hopen entry cause after hpush =>
    cases h
    exact ⟨[], .ok entry, items, rfl, rfl, rfl, by simp [passage, hopen, hpush]⟩
  | case5 c items hopen entry after hpush ih =>
    obtain ⟨before, bad, rest, rfl, hnone, hrows, hbad⟩ := ih h
    refine ⟨.ok entry :: before, bad, rest, rfl, ?_, ?_, ?_⟩
    all_goals simpa [passage, hopen, hpush]
  | case6 c items hopen entry row after hpush ih =>
    obtain ⟨before, bad, rest, rfl, hnone, hrows, hbad⟩ := ih h
    refine ⟨.ok entry :: before, bad, rest, rfl, ?_, ?_, ?_⟩
    all_goals simpa [passage, hopen, hpush, Passage.withFirst]

end Chain

/-! ## Runs into a collector -/

section Collecting

variable {σ α : Type} {collector : Collector σ α}

/-- The collector takes the row, and does not ask for the end of the run. -/
def Collector.Absorbs (collector : Collector σ α) (state : σ) (entry : Entry) : Prop :=
  ∃ flow, (collector.add state entry).1 = .ok flow ∧ flow.stops = false

/-- The rows are taken one after the other, from this state on, and more would be. -/
def Collector.Accepts (collector : Collector σ α) : σ → List Entry → Prop
  | state, [] => collector.isExhausted state = false
  | state, entry :: rows => collector.isExhausted state = false ∧ collector.Absorbs state entry ∧
      collector.Accepts (collector.add state entry).2 rows

/-- While its state is good, the collector takes every row of this width and would take more,
and the state stays good. -/
structure Collector.Takes (collector : Collector σ α) (width : Nat) (good : σ → Prop) : Prop where
  goes_on : ∀ state, good state → collector.isExhausted state = false
  absorbs : ∀ state entry, good state → entry.2.length = width → collector.Absorbs state entry
  stays : ∀ state entry, good state → entry.2.length = width → good (collector.add state entry).2

/-- A collector that never stops only has to take the rows. -/
theorem Collector.NeverStops.takes (h : collector.NeverStops) {width : Nat} {good : σ → Prop}
    (hadd : ∀ state entry, good state → entry.2.length = width →
      (∃ flow, (collector.add state entry).1 = .ok flow) ∧ good (collector.add state entry).2) :
    collector.Takes width good where
  goes_on state _ := h.isExhausted state
  absorbs state entry hgood hwidth := by
    obtain ⟨⟨flow, hflow⟩, -⟩ := hadd state entry hgood hwidth
    exact ⟨flow, hflow, h.add hflow⟩
  stays state entry hgood hwidth := (hadd state entry hgood hwidth).2

/-- The state of a collector after some rows. -/
def Collector.stateAfter (collector : Collector σ α) (state : σ) (rows : List Entry) : σ :=
  rows.foldl (fun state entry => (collector.add state entry).2) state

/-- A run is exhausted when the chain is, as long as the collector would take more. -/
theorem Collector.Accepts.isExhausted_eq {state : σ} {rows : List Entry}
    (h : collector.Accepts state rows) (c : Chain) :
    Running.isExhausted collector ⟨c, state⟩ = c.isExhausted := by
  have hlasts : collector.isExhausted state = false := by
    cases rows with
    | nil => exact h
    | cons entry rows => exact h.1
  rw [Running.isExhausted, hlasts, Bool.or_false]

theorem Collector.Takes.accepts {width : Nat} {good : σ → Prop} (h : collector.Takes width good)
    {state : σ} (hstate : good state) {rows : List Entry}
    (hrows : ∀ entry ∈ rows, entry.2.length = width) : collector.Accepts state rows := by
  induction rows generalizing state with
  | nil => exact h.goes_on state hstate
  | cons entry rows ih =>
    obtain ⟨hfirst, hrest⟩ := List.forall_mem_cons.mp hrows
    exact ⟨h.goes_on state hstate, h.absorbs state entry hstate hfirst,
      ih (h.stays state entry hstate hfirst) hrest⟩

/-- A row that comes out and is taken leaves the chain as it is. -/
theorem Running.push_of_absorbs {c after : Chain} {state : σ} {entry : Entry} {row : Row}
    (hpush : c.push entry.2 = (.ok (some row), after))
    (htaken : collector.Absorbs state (entry.1, row)) :
    Running.push collector ⟨c, state⟩ entry =
      (.ok (), ⟨after, (collector.add state (entry.1, row)).2⟩) := by
  obtain ⟨flow, hflow, hgoes⟩ := htaken
  have hadd : collector.add state (entry.1, row) =
      (.ok flow, (collector.add state (entry.1, row)).2) := Prod.ext hflow rfl
  simp only [push, hpush]
  rw [hadd]
  simp only [after.heed_of_goes_on hgoes]

/-- A run into a collector that takes the rows ends as the items do on their way through
the chain, with the rows taken one after the other. -/
theorem drive_of_accepts (c : Chain) {state : σ} (items : List Item)
    (hrows : collector.Accepts state (c.passage items).rows) :
    drive collector ⟨c, state⟩ items =
      ⟨(c.passage items).error,
        ⟨(c.passage items).chain, collector.stateAfter state (c.passage items).rows⟩,
        (c.passage items).rest⟩ := by
  have hexhausted := hrows.isExhausted_eq c
  -- the state grows by one row at a time
  fun_induction c.passage items generalizing state with
  | case1 c => rfl
  | case2 c item items hend =>
    cases item <;> simp only [drive, hexhausted, hend, if_true] <;> rfl
  | case3 c items hopen e =>
    simp only [drive, hexhausted, hopen]
    rfl
  | case4 c items hopen entry e after hpush =>
    simp only [drive, hexhausted, hopen, Running.push, hpush]
    rfl
  | case5 c items hopen entry after hpush ih =>
    simp only [drive, hexhausted, hopen, Running.push, hpush]
    exact ih hrows (hrows.isExhausted_eq after)
  | case6 c items hopen entry row after hpush ih =>
    obtain ⟨-, htaken, hrest⟩ := hrows
    simp only [drive, hexhausted, hopen, Running.push_of_absorbs hpush htaken]
    exact ih hrest (hrest.isExhausted_eq after)

end Collecting

end TableFlow
