import TableFlow.Proofs.Operator.Staging

/-!
# Chains after rows

A chain goes on after every row that is pushed into it, also after one on which a stage has
failed.

* `Chain.after` is the chain after some rows, and `Chain.emitted` are the rows that have come
  out of it;
* `Chain.after_followedBy` are two chains, one behind the other: the second one has seen what
  the first one emitted;
* `Chain.emitted_width` and `Chain.after_carries` are the widths.
-/

namespace TableFlow

namespace Chain

/-- The chain after rows have been pushed, whatever became of them. -/
def after (c : Chain) : List Row → Chain
  | [] => c
  | row :: rows => (c.push row).2.after rows

/-- The rows that come out while rows are pushed. -/
def emitted (c : Chain) : List Row → List Row
  | [] => []
  | row :: rows =>
    match (c.push row).1 with
    | .ok (some out) => out :: (c.push row).2.emitted rows
    | .ok none | .error _ => (c.push row).2.emitted rows

/-- The chain behind another one has seen the rows that came out of that one. -/
theorem after_followedBy (a b : Chain) (rows : List Row) :
    (a.followedBy b).after rows = (a.after rows).followedBy (b.after (a.emitted rows)) := by
  induction rows generalizing a b with
  | nil => rfl
  | cons row rows ih =>
    have hpush := push_followedBy a b row
    rcases hfirst : a.push row with ⟨e | none | out, later⟩
    all_goals
      rw [hfirst] at hpush
      simp only [after, emitted, hpush, hfirst, ih]

/-- A chain without stages stays one. -/
theorem after_stages_eq_nil {c : Chain} (h : c.stages = []) (rows : List Row) :
    (c.after rows).stages = [] := by
  induction rows generalizing c with
  | nil => exact h
  | cons row rows ih =>
    apply ih
    show (pushStages row c.stages).stages = []
    rw [h]
    rfl

/-! ## Widths -/

section Widths

variable {c : Chain} {width out : Nat} {rows : List Row}

theorem after_carries (hcarry : StagesCarry width c.stages out)
    (hrows : ∀ row ∈ rows, row.length = width) :
    StagesCarry width (c.after rows).stages out := by
  induction rows generalizing c with
  | nil => exact hcarry
  | cons row rows ih =>
    obtain ⟨hrow, hrest⟩ := List.forall_mem_cons.mp hrows
    exact ih (pushStages_width hcarry hrow).1 hrest

/-- Whatever has been pushed before, a row that comes out has the width of the last stage. -/
theorem push_after_width (hcarry : StagesCarry width c.stages out)
    (hrows : ∀ row ∈ rows, row.length = width) {row last : Row} (hrow : row.length = width)
    (hlast : ((c.after rows).push row).1 = .ok (some last)) : last.length = out :=
  (pushStages_width (after_carries hcarry hrows) hrow).2 last hlast

theorem emitted_width (hcarry : StagesCarry width c.stages out)
    (hrows : ∀ row ∈ rows, row.length = width) : ∀ row ∈ c.emitted rows, row.length = out := by
  induction rows generalizing c with
  | nil => simp [emitted]
  | cons row rows ih =>
    obtain ⟨hrow, hrest⟩ := List.forall_mem_cons.mp hrows
    obtain ⟨hlater, hlast⟩ := pushStages_width hcarry hrow
    rw [emitted]
    split
    · rename_i last hpush
      exact List.forall_mem_cons.mpr ⟨hlast last hpush, ih hlater hrest⟩
    · exact ih hlater hrest
    · exact ih hlater hrest

end Widths

/-! ## One stage -/

end Chain

theorem Stage.flow_limit (limit count : Nat) (row : Row) :
    ∃ flow, (Stage.limit limit count).flow row = .ok flow := by
  rw [Stage.flow]
  by_cases hfull : limit ≤ count
  · exact ⟨.stop, if_pos hfull⟩
  · rw [if_neg hfull]
    by_cases hlast : count + 1 = limit
    · exact ⟨.emitLast row, if_pos hlast⟩
    · exact ⟨.emit row, if_neg hlast⟩

/-- What a stage counts never makes it fail. -/
theorem Stage.flow_next_eq_error_iff {stage : Stage} {row : Row} {e : Error} :
    stage.next.flow row = .error e ↔ stage.flow row = .error e := by
  cases hlimit : stage.isLimit with
  | false => rw [Stage.next_of_not_limit hlimit]
  | true =>
    cases stage with
    | limit limit count =>
      obtain ⟨flow, hflow⟩ := Stage.flow_limit limit count row
      obtain ⟨later, hlater⟩ :=
        Stage.flow_limit limit (if limit ≤ count then count else count + 1) row
      rw [Stage.next, hflow, hlater]
      simp
    | filter | select | pass | insert | update | typecast => cases hlimit

theorem pushStages_singleton_stages (row : Row) (stage : Stage) :
    (pushStages row [stage]).stages = [stage] ∨
      (pushStages row [stage]).stages = [stage.next] := by
  rw [pushStages_cons]
  cases stage.flow row with
  | error e => exact .inl rfl
  | ok flow =>
    refine .inr ?_
    cases hgoes : flow.row? <;> simp [hgoes, pushStages]

/-- What comes out of a single stage. -/
theorem pushStages_singleton_row (row : Row) (stage : Stage) :
    (pushStages row [stage]).row = (stage.flow row).map Flow.row? := by
  rw [pushStages_cons]
  cases stage.flow row with
  | error e => rfl
  | ok flow => cases hgoes : flow.row? <;> simp [hgoes, pushStages, Except.map]

theorem pushStages_singleton_eq_error_iff {row : Row} {stage : Stage} {e : Error} :
    (pushStages row [stage]).row = .error e ↔ stage.flow row = .error e := by
  rw [pushStages_singleton_row, Result.map_eq_error_iff]

/-- A chain of one stage fails on a row when the stage does, whatever has been pushed
before. -/
theorem Chain.push_after_eq_error_iff {c : Chain} {stage : Stage} (hstage : c.stages = [stage])
    (rows : List Row) {row : Row} {e : Error} :
    ((c.after rows).push row).1 = .error e ↔ stage.flow row = .error e := by
  induction rows generalizing c stage with
  | nil =>
    show (pushStages row c.stages).row = .error e ↔ _
    rw [hstage]
    exact pushStages_singleton_eq_error_iff
  | cons first rows ih =>
    have hpush : (c.push first).2.stages = (pushStages first [stage]).stages := by
      rw [← hstage]
      rfl
    rcases pushStages_singleton_stages first stage with hsame | hcounted
    · exact ih (hpush.trans hsame)
    · exact (ih (hpush.trans hcounted)).trans Stage.flow_next_eq_error_iff

end TableFlow
