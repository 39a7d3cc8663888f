import TableFlow.Proofs.Operator.Outputs

/-!
# Streaming and batches

Operators may be applied to a table all at once, each row going through all of them
before the next row is read, or in two batches, the second one on the table that the
first one gives. `Table.transform_append` is the agreement of the two.

* `pushStages_append` and `Chain.push_followedBy` are one row through two sequences of
  stages, one behind the other;
* `Chain.outputs_followedBy` and `Chain.outputs_of_followedBy` are whole runs.

Two batches that go through always make a run that goes through: it reads no more rows
than the first batch, and where it ends early the second batch ignores what is left. The
converse needs a second batch without limits, since one with a limit may end the run
before a row on which the first batch fails.
-/

namespace TableFlow

/-! ## One row -/

/-- Stages behind others see what those let through. -/
theorem pushStages_append (row : Row) (xs ys : List Stage) :
    pushStages row (xs ++ ys) =
      match (pushStages row xs).row with
      | .error e => ⟨.error e, (pushStages row xs).stopped, (pushStages row xs).stages ++ ys⟩
      | .ok none => ⟨.ok none, (pushStages row xs).stopped, (pushStages row xs).stages ++ ys⟩
      | .ok (some mid) =>
        ⟨(pushStages mid ys).row, (pushStages row xs).stopped || (pushStages mid ys).stopped,
          (pushStages row xs).stages ++ (pushStages mid ys).stages⟩ := by
  induction xs generalizing row with
  | nil => simp [pushStages]
  | cons stage xs ih =>
    rw [List.cons_append, pushStages_cons, pushStages_cons]
    cases stage.flow row with
    | error e => rfl
    | ok flow =>
      cases hnext : flow.row? with
      | none => simp only [hnext, List.cons_append]
      | some next =>
        simp only [hnext]
        rw [ih next]
        cases (pushStages next xs).row with
        | error e => rfl
        | ok mid => cases mid <;> simp [Bool.or_assoc]

namespace Chain

/-- The stages of one chain and, behind them, those of another one. -/
def followedBy (a b : Chain) : Chain :=
  ⟨a.stages ++ b.stages, b.schema, ⟨a.stats.read, b.stats.emitted⟩, a.stopped || b.stopped⟩

theorem push_followedBy (a b : Chain) (row : Row) :
    (a.followedBy b).push row =
      match a.push row with
      | (.error e, after) => (.error e, after.followedBy b)
      | (.ok none, after) => (.ok none, after.followedBy b)
      | (.ok (some mid), after) => ((b.push mid).1, after.followedBy (b.push mid).2) := by
  simp only [push, followedBy]
  rw [pushStages_append]
  cases (pushStages row a.stages).row with
  | error e => simp [Bool.or_right_comm]
  | ok mid =>
    cases mid with
    | none => simp [Bool.or_right_comm]
    | some mid => simp [Bool.or_assoc, Bool.or_left_comm]

theorem isExhausted_followedBy (a b : Chain) :
    (a.followedBy b).isExhausted = (a.isExhausted || b.isExhausted) := by
  simp only [isExhausted, followedBy, List.any_append]
  cases a.stopped <;> cases b.stopped <;> simp

/-! ## Runs -/

/-- Rows that go through one chain, and then through another one, go through both
together. -/
theorem outputs_followedBy {a b : Chain} {entries mid out : List Entry}
    (ha : a.outputs entries = .ok mid) (hb : b.outputs mid = .ok out) :
    (a.followedBy b).outputs entries = .ok out := by
  -- a row leaves other chains behind, and takes at most one row from the middle
  induction entries generalizing a b mid out with
  | nil =>
    cases ha
    exact hb
  | cons entry entries ih =>
    by_cases haEnd : a.isExhausted = true
    · rw [outputs_of_isExhausted haEnd] at ha
      cases ha
      cases hb
      exact outputs_of_isExhausted (by simp [isExhausted_followedBy, haEnd]) _
    by_cases hbEnd : b.isExhausted = true
    · -- the second chain takes none of the rows that the first one may still give
      rw [outputs_of_isExhausted hbEnd] at hb
      cases hb
      exact outputs_of_isExhausted (by simp [isExhausted_followedBy, hbEnd]) _
    have hopen : ¬(a.followedBy b).isExhausted = true := by
      simp [isExhausted_followedBy, haEnd, hbEnd]
    rw [outputs, if_neg haEnd] at ha
    rw [outputs, if_neg hopen, push_followedBy]
    rcases hpush : a.push entry.2 with ⟨e | row, after⟩
    · rw [hpush] at ha
      cases ha
    cases row with
    | none =>
      -- the row does not reach the second chain
      rw [hpush] at ha
      exact ih ha hb
    | some row =>
      rw [hpush] at ha
      obtain ⟨later, hlater, rfl⟩ := Result.map_eq_ok_iff.mp ha
      rw [outputs, if_neg hbEnd] at hb
      simp only
      rcases hlast : b.push row with ⟨e | last, bAfter⟩
      · rw [hlast] at hb
        cases hb
      cases last with
      | none =>
        rw [hlast] at hb
        exact ih hlater hb
      | some last =>
        rw [hlast] at hb
        obtain ⟨rest, hrest, rfl⟩ := Result.map_eq_ok_iff.mp hb
        simp only
        rw [ih hlater hrest]
        rfl

end Chain

/-! ## Without limits -/

/-- The operator counts rows. -/
def Operator.isLimit : Operator → Bool
  | .limit _ => true
  | _ => false

/-- The stage counts rows. -/
def Stage.isLimit : Stage → Bool
  | .limit _ _ => true
  | _ => false

theorem Operator.OpensAs.isLimit {s : Schema} {op : Operator} {opened : OpenedStage}
    (h : op.OpensAs s opened) : opened.stage.isLimit = op.isLimit := by
  cases h <;> rfl

namespace Stage

/-- A stage that does not count rows does not change. -/
theorem next_of_not_limit {stage : Stage} (h : stage.isLimit = false) : stage.next = stage := by
  cases stage <;> first | rfl | cases h

theorem isExhausted_of_not_limit {stage : Stage} (h : stage.isLimit = false) :
    stage.isExhausted = false := by
  cases stage <;> first | rfl | cases h

theorem Gives.stops_of_not_limit {stage : Stage} {row : Row} {flow : Flow}
    (h : stage.Gives row flow) (hlimit : stage.isLimit = false) : flow.stops = false := by
  cases h with
  | full hfull => cases hlimit
  | last => cases hlimit
  | kept | dropped | select | pass | counted | insert | update | typecast => rfl

end Stage

/-- A row leaves stages that do not count rows as they were. -/
theorem pushStages_of_not_limit {stages : List Stage}
    (h : ∀ stage ∈ stages, stage.isLimit = false) (row : Row) :
    (pushStages row stages).stages = stages ∧ (pushStages row stages).stopped = false := by
  induction stages generalizing row with
  | nil => exact ⟨rfl, rfl⟩
  | cons stage stages ih =>
    obtain ⟨hstage, hstages⟩ := List.forall_mem_cons.mp h
    rw [pushStages_cons]
    cases hflow : stage.flow row with
    | error e => exact ⟨rfl, rfl⟩
    | ok flow =>
      have hstops : flow.stops = false := (Stage.gives_of_flow hflow).stops_of_not_limit hstage
      have hnext : stage.next = stage := Stage.next_of_not_limit hstage
      cases hgoes : flow.row? with
      | none => simp only [hgoes, hnext, hstops, and_self]
      | some out =>
        obtain ⟨hrest, hlast⟩ := ih hstages out
        simp only [hgoes, hnext, hstops, hrest, hlast, Bool.or_self, and_self]

namespace Chain

/-- The chain takes rows for ever. -/
structure Unlimited (c : Chain) : Prop where
  stages : ∀ stage ∈ c.stages, stage.isLimit = false
  goes_on : c.stopped = false

theorem Unlimited.isExhausted {c : Chain} (h : c.Unlimited) : c.isExhausted = false := by
  have hany : c.stages.any Stage.isExhausted = false := by
    rw [List.any_eq_false]
    intro stage hmem
    simp [Stage.isExhausted_of_not_limit (h.stages stage hmem)]
  simp [Chain.isExhausted, h.goes_on, hany]

theorem Unlimited.push {c : Chain} (h : c.Unlimited) (row : Row) : (c.push row).2.Unlimited := by
  obtain ⟨hstages, hstopped⟩ := pushStages_of_not_limit h.stages row
  refine ⟨?_, ?_⟩
  · show ∀ stage ∈ (pushStages row c.stages).stages, stage.isLimit = false
    rw [hstages]
    exact h.stages
  · show (c.stopped || (pushStages row c.stages).stopped) = false
    rw [hstopped, h.goes_on]
    rfl

theorem Unlimited.stages_push {c : Chain} (h : c.Unlimited) (row : Row) :
    (c.push row).2.stages = c.stages := (pushStages_of_not_limit h.stages row).1

theorem unlimited_of_openOn {s : Schema} {ops : List Operator} {c : Chain}
    (hops : ∀ op ∈ ops, op.isLimit = false) (h : openOn s ops = .ok c) : c.Unlimited := by
  unfold openOn at h
  split at h
  · cases h
  · rename_i stages out hopen
    cases h
    refine ⟨?_, rfl⟩
    -- operators and stages correspond one to one
    induction ops generalizing s stages with
    | nil =>
      cases hopen
      simp
    | cons op ops ih =>
      obtain ⟨hop, hrest⟩ := List.forall_mem_cons.mp hops
      rw [openStages] at hopen
      split at hopen
      · cases hopen
      · rename_i opened hopened
        split at hopen
        · cases hopen
        · rename_i later last hlater
          cases hopen
          exact List.forall_mem_cons.mpr
            ⟨(Operator.opensAs_of_openOn hopened).isLimit.trans hop, ih hrest _ hlater⟩

/-- Rows that go through a chain with an unlimited one behind it go through the first
one, and what comes out goes through the second one. -/
theorem outputs_of_followedBy {a b : Chain} {entries out : List Entry} (hb : b.Unlimited)
    (h : (a.followedBy b).outputs entries = .ok out) :
    ∃ mid, a.outputs entries = .ok mid ∧ b.outputs mid = .ok out := by
  induction entries generalizing a b out with
  | nil =>
    cases h
    exact ⟨[], rfl, rfl⟩
  | cons entry entries ih =>
    have hend : (a.followedBy b).isExhausted = a.isExhausted := by
      simp [isExhausted_followedBy, hb.isExhausted]
    by_cases haEnd : a.isExhausted = true
    · rw [outputs_of_isExhausted (hend.trans haEnd)] at h
      cases h
      exact ⟨[], outputs_of_isExhausted haEnd _, rfl⟩
    rw [outputs, hend, if_neg haEnd, push_followedBy] at h
    rcases hpush : a.push entry.2 with ⟨e | row, after⟩
    · rw [hpush] at h
      cases h
    cases row with
    | none =>
      rw [hpush] at h
      obtain ⟨mid, hmid, hout⟩ := ih hb h
      refine ⟨mid, ?_, hout⟩
      rw [outputs, if_neg haEnd, hpush]
      exact hmid
    | some row =>
      rw [hpush] at h
      simp only at h
      -- what the second chain makes of the rest does not depend on the row it has seen
      have hlater : (b.push row).2.Unlimited := hb.push row
      have hopen : ¬b.isExhausted = true := by simp [hb.isExhausted]
      rcases hlast : b.push row with ⟨e | last, bAfter⟩
      · rw [hlast] at h
        cases h
      rw [hlast] at h hlater
      cases last with
      | none =>
        obtain ⟨mid, hmid, hout⟩ := ih hlater h
        refine ⟨(entry.1, row) :: mid, ?_, ?_⟩
        · rw [outputs, if_neg haEnd, hpush]
          exact Result.map_eq_ok_iff.mpr ⟨mid, hmid, rfl⟩
        · rw [outputs, if_neg hopen, hlast]
          exact hout
      | some last =>
        obtain ⟨rest, hrest, rfl⟩ := Result.map_eq_ok_iff.mp h
        obtain ⟨mid, hmid, hout⟩ := ih hlater hrest
        refine ⟨(entry.1, row) :: mid, ?_, ?_⟩
        · rw [outputs, if_neg haEnd, hpush]
          exact Result.map_eq_ok_iff.mpr ⟨mid, hmid, rfl⟩
        · rw [outputs, if_neg hopen, hlast]
          exact Result.map_eq_ok_iff.mpr ⟨rest, hout, rfl⟩

/-! ## Tables -/

/-- A chain of two lists of operators is a chain of each, one behind the other. -/
theorem openOn_append_eq_ok_iff {s : Schema} {xs ys : List Operator} {c : Chain} :
    openOn s (xs ++ ys) = .ok c ↔ ∃ a b, openOn s xs = .ok a ∧ openOn a.schema ys = .ok b ∧
      c = a.followedBy b := by
  simp only [openOn, openStages_append]
  cases openStages s xs with
  | error e => simp
  | ok front =>
    simp only [Except.ok.injEq]
    cases hys : openStages front.2 ys with
    | error e => simp [hys]
    | ok back => simp [hys, followedBy, eq_comm]

end Chain

/-- The rows and the schema of a table that two batches of operators give are those that
a single run gives. Without limits in the second batch, a single run that goes through
is two batches that do. -/
theorem Table.transform_append (t : Table) (xs ys : List Operator) :
    (∀ u v, t.transform xs = .ok u → u.transform ys = .ok v → t.transform (xs ++ ys) = .ok v) ∧
      ((∀ op ∈ ys, op.isLimit = false) → ∀ v, t.transform (xs ++ ys) = .ok v →
        ∃ u, t.transform xs = .ok u ∧ u.transform ys = .ok v) := by
  constructor
  · intro u v hu hv
    obtain ⟨a, ha, hschema, haOut⟩ := transform_eq_ok_iff.mp hu
    obtain ⟨b, hb, hv', hbOut⟩ := transform_eq_ok_iff.mp hv
    rw [hschema] at hb
    exact transform_eq_ok_iff.mpr ⟨a.followedBy b,
      Chain.openOn_append_eq_ok_iff.mpr ⟨a, b, ha, hb, rfl⟩, hv',
      Chain.outputs_followedBy haOut hbOut⟩
  · intro hops v hv
    obtain ⟨c, hc, hschema, hout⟩ := transform_eq_ok_iff.mp hv
    obtain ⟨a, b, ha, hb, rfl⟩ := Chain.openOn_append_eq_ok_iff.mp hc
    obtain ⟨mid, hmid, hlast⟩ :=
      Chain.outputs_of_followedBy (Chain.unlimited_of_openOn hops hb) hout
    -- the rows in the middle make a table, since they fit the schema of the first chain
    have hwidth : ∀ entry ∈ mid, entry.2.length = a.schema.width :=
      Chain.outputs_width (Chain.openOn_carries ha) t.row_width hmid
    refine ⟨⟨a.schema, mid, hwidth⟩, ?_, ?_⟩
    · exact transform_eq_ok_iff.mpr ⟨a, ha, rfl, hmid⟩
    · exact transform_eq_ok_iff.mpr ⟨b, hb, hschema, hlast⟩

namespace Table

/-- Three rows of two columns. -/
def letters : Table :=
  ⟨⟨["n", "c"], by decide⟩,
    [(7, [.int 1, .str "a"]), (8, [.int 2, .str "b"]), (9, [.int 3, .str "c"])], by decide⟩

/-- The first two rows, of which the second batch keeps the second column and puts a
constant in front of it. -/
theorem letters_transform_append :
    letters.transform [.limit 2, .select [.position 1]] =
        .ok ⟨⟨["c"], by decide⟩, [(7, [.str "a"]), (8, [.str "b"])], by decide⟩ ∧
      letters.transform ([.limit 2, .select [.position 1]] ++
          [.insert ["z"] (some 0) (.const (.bool true)) (by simp) rfl]) =
        .ok ⟨⟨["z", "c"], by decide⟩,
          [(7, [.bool true, .str "a"]), (8, [.bool true, .str "b"])], by decide⟩ ∧
      ∃ u, letters.transform [.limit 2, .select [.position 1]] = .ok u ∧
        u.transform [.insert ["z"] (some 0) (.const (.bool true)) (by simp) rfl] =
          .ok ⟨⟨["z", "c"], by decide⟩,
            [(7, [.bool true, .str "a"]), (8, [.bool true, .str "b"])], by decide⟩ := by
  obtain ⟨htogether, hapart⟩ := transform_append letters [.limit 2, .select [.position 1]]
    [.insert ["z"] (some 0) (.const (.bool true)) (by simp) rfl]
  have hfirst : letters.transform [.limit 2, .select [.position 1]] =
      .ok ⟨⟨["c"], by decide⟩, [(7, [.str "a"]), (8, [.str "b"])], by decide⟩ := rfl
  have hboth := htogether _ _ hfirst rfl
  exact ⟨hfirst, hboth, hapart (by decide) _ hboth⟩

end Table

end TableFlow
