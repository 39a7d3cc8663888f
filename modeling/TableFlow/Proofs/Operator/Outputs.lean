import TableFlow.Operator.Batch
import TableFlow.Proofs.Operator.Collecting
import TableFlow.Proofs.Operator.Width

/-!
# What comes out of a chain

A run pushes rows until they end, one of them fails, or the chain can emit nothing more.

* `Chain.outputs` are the rows that come out, as a function of those that go in;
* `Chain.drive_table` finds them in the table that a run gathers, and
  `Chain.outputs_width` gives their width;
* `Table.transform_eq_ok_iff` is the transformation of a table in these terms: the rows
  that come out always fit the schema of the chain.
-/

namespace TableFlow

namespace Chain

/-! ## Rows in and out of a chain -/

/-- The rows that come out of a chain for rows that go in. -/
def outputs (c : Chain) : List Entry → Result (List Entry)
  | [] => .ok []
  | entry :: entries =>
    if c.isExhausted then .ok []
    else
      match c.push entry.2 with
      | (.error e, _) => .error e
      | (.ok none, after) => after.outputs entries
      | (.ok (some row), after) => (after.outputs entries).map ((entry.1, row) :: ·)

theorem outputs_of_isExhausted {c : Chain} (h : c.isExhausted = true) (entries : List Entry) :
    c.outputs entries = .ok [] := by
  cases entries with
  | nil => rfl
  | cons entry entries => rw [outputs, if_pos h]

/-- A run into a table gathers the rows that come out, the last one first. -/
theorem drive_table (c : Chain) (schema : Schema) (seen entries : List Entry) :
    let driven := drive Collector.table ⟨c, ⟨schema, seen⟩⟩ (entries.map .ok)
    match c.outputs entries with
    | .error e => driven.error = some e
    | .ok out => driven.error = none ∧ driven.running.state.entries = out.reverse ++ seen := by
  -- the rows seen so far are an accumulator, so they are arbitrary in the induction
  induction entries generalizing c seen with
  | nil => simp [drive, outputs]
  | cons entry entries ih =>
    rw [List.map_cons]
    have hexhausted := Running.isExhausted_of_neverStops Collector.OfLibrary.table.neverStops
    by_cases hend : c.isExhausted = true
    · simp [drive, outputs, hexhausted, hend]
    · simp only [drive, outputs, hexhausted, hend, Running.push]
      obtain ⟨row, after⟩ := c.push entry.2
      cases row with
      | error e => simp
      | ok row =>
        cases row with
        | none => exact ih after seen
        | some row =>
          have hrest := ih after ((entry.1, row) :: seen)
          simp only [Collector.table, Collector.pure, heed_drop] at hrest ⊢
          cases hout : after.outputs entries with
          | error e => simpa [hout, Except.map] using hrest
          | ok out => simpa [hout, Except.map] using hrest

theorem openOn_carries {s : Schema} {ops : List Operator} {c : Chain}
    (h : openOn s ops = .ok c) : StagesCarry s.width c.stages c.schema.width := by
  unfold openOn at h
  split at h
  · cases h
  · rename_i hstages
    cases h
    exact openStages_carry hstages

/-- The rows that come out have the width of the last stage. -/
theorem outputs_width {c : Chain} {width out : Nat} {entries after : List Entry}
    (hcarry : StagesCarry width c.stages out)
    (hrows : ∀ entry ∈ entries, entry.2.length = width) (h : c.outputs entries = .ok after) :
    ∀ entry ∈ after, entry.2.length = out := by
  induction entries generalizing c after with
  | nil =>
    cases h
    simp
  | cons entry entries ih =>
    obtain ⟨hfirst, hrest⟩ := List.forall_mem_cons.mp hrows
    obtain ⟨hstages, hwidth⟩ := pushStages_width hcarry hfirst
    rw [outputs] at h
    split at h
    · cases h
      simp
    · split at h
      · cases h
      · rename_i hpush
        obtain ⟨-, rfl⟩ := Prod.mk.inj hpush
        exact ih hstages hrest h
      · rename_i row _ hpush
        obtain ⟨hrow, rfl⟩ := Prod.mk.inj hpush
        obtain ⟨later, hlater, rfl⟩ := Result.map_eq_ok_iff.mp h
        exact List.forall_mem_cons.mpr ⟨hwidth row hrow, ih hstages hrest hlater⟩

end Chain

/-! ## Tables -/

namespace Table

theorem length_rows (t : Table) : t.rows.length = t.size := by
  rw [rows, List.length_map, size]

theorem width_of_mem_rows {t : Table} {row : Row} (h : row ∈ t.rows) :
    row.length = t.schema.width := by
  obtain ⟨entry, hentry, rfl⟩ := List.mem_map.mp h
  exact t.row_width entry hentry

/-- The cells at a position of the rows. -/
def cellsAt (t : Table) (pos : Nat) : List Value := t.rows.map (·.getD pos .null)

theorem mapM_cell_eq {t : Table} {pos : Nat} (h : pos < t.width) :
    (t.rows.mapM fun row => Row.cell row pos) = .ok (t.cellsAt pos) := by
  refine Result.mapM_eq_ok fun row hrow => Row.cell_eq ?_
  rw [width_of_mem_rows hrow]
  exact h

theorem firstMisfit?_eq_none {width pos : Nat} {rows : List Row}
    (h : ∀ row ∈ rows, row.length = width) : firstMisfit? width pos rows = none := by
  induction rows generalizing pos with
  | nil => rfl
  | cons row rows ih =>
    obtain ⟨hrow, hrows⟩ := List.forall_mem_cons.mp h
    rw [firstMisfit?, if_pos hrow]
    exact ih hrows

/-- Entries of the right width, taken apart, are put together again. -/
theorem ofIndex_entries {schema : Schema} {entries : List Entry}
    (hwidth : ∀ entry ∈ entries, entry.2.length = schema.width) :
    ofIndex schema (entries.map Prod.fst) (entries.map Prod.snd) = .ok ⟨schema, entries, hwidth⟩ := by
  have hrows : ∀ row ∈ entries.map Prod.snd, row.length = schema.width := by
    intro row hrow
    obtain ⟨entry, hentry, rfl⟩ := List.mem_map.mp hrow
    exact hwidth entry hentry
  have hzip : (entries.map Prod.fst).zip (entries.map Prod.snd) = entries := by
    rw [List.zip_map']
    exact List.map_id' entries
  unfold ofIndex
  rw [if_pos (by simp)]
  split
  · congr
  · rename_i hmisfit
    rw [firstMisfit?_eq_none hrows] at hmisfit
    cases hmisfit

/-- A transformed table has the rows that come out of the chain of the operators. -/
theorem transform_eq_ok_iff {t u : Table} {ops : List Operator} :
    t.transform ops = .ok u ↔ ∃ chain, Chain.openOn t.schema ops = .ok chain ∧
      u.schema = chain.schema ∧ chain.outputs t.entries = .ok u.entries := by
  unfold transform
  -- a chain that does not open gives no table, and no rows either
  cases hopen : Chain.openOn t.schema ops with
  | error e => simp
  | ok chain =>
    have hdriven := Chain.drive_table chain chain.schema [] t.entries
    simp only [Except.ok.injEq, exists_eq_left']
    cases hout : chain.outputs t.entries with
    | error e =>
      rw [hout] at hdriven
      simp only [hdriven]
      simp
    | ok out =>
      rw [hout] at hdriven
      obtain ⟨hnone, hentries⟩ := hdriven
      -- the rows fit, so the table that is put together from them is never refused
      have hwidth : ∀ entry ∈ out, entry.2.length = chain.schema.width :=
        Chain.outputs_width (Chain.openOn_carries hopen) t.row_width hout
      simp only [hnone, hentries, List.append_nil, List.reverse_reverse, ofIndex_entries hwidth]
      constructor
      · intro heq
        cases heq
        exact ⟨rfl, rfl⟩
      · rintro ⟨hschema, heq⟩
        cases u
        simp_all

end Table

end TableFlow
