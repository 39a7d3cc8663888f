import TableFlow.Operator.Chain
import TableFlow.Proofs.Result

/-!
# Rows in stages

What becomes of a row that reaches a stage, and of one that reaches a sequence of them.

* `Stage.Gives` lists what a stage makes of a row; `Stage.flow_eq_ok_iff` is its agreement
  with `Stage.flow`, and no other proof needs to look into that function;
* `pushStages_cons` is the first of several stages: the others see a row only if the first
  one lets it through, and what they are told to stop for adds up.
-/

namespace TableFlow

/-- The row that goes on, if one does. -/
def Flow.row? : Flow → Option Row
  | .emit row | .emitLast row => some row
  | .drop | .stop => none

namespace Stage

/-- What a stage makes of a row. -/
inductive Gives (row : Row) : Stage → Flow → Prop
  | kept {p : Predicate} {negated holds : Bool} (heval : p.eval row = .ok holds)
      (hkeep : holds ≠ negated) : Gives row (.filter p negated) (.emit row)
  | dropped {p : Predicate} {negated : Bool} (heval : p.eval row = .ok negated) :
      Gives row (.filter p negated) .drop
  | select {positions : List Nat} {cells : List Value}
      (hcells : Row.cells row positions = .ok cells) :
      Gives row (.select positions) (.emit cells)
  | pass : Gives row .pass (.emit row)
  | full {rows count : Nat} (hfull : rows ≤ count) : Gives row (.limit rows count) .stop
  | last {count : Nat} : Gives row (.limit (count + 1) count) (.emitLast row)
  | counted {rows count : Nat} (hmore : count + 1 < rows) :
      Gives row (.limit rows count) (.emit row)
  | insert {pos width : Nat} {values : InsertValues} {vs : List Value}
      (hvalues : values.values row width = .ok vs) :
      Gives row (.insert pos width values) (.emit (row.take pos ++ vs ++ row.drop pos))
  | update {positions : List Nat} {func : UpdateFunc} {vs : List Value} {out : Row}
      (hvalues : func.values row positions = .ok vs)
      (hassign : Row.assign row (positions.zip vs) = .ok out) :
      Gives row (.update positions func) (.emit out)
  | typecast {converter : Converter} :
      Gives row (.typecast converter) (.emit (row.map converter.convert))

theorem gives_of_flow {row : Row} {stage : Stage} {flow : Flow}
    (h : stage.flow row = .ok flow) : stage.Gives row flow := by
  cases stage with
  | filter p negated =>
    obtain ⟨holds, heval, rfl⟩ := Result.map_eq_ok_iff.mp h
    by_cases hkeep : holds = negated
    · subst hkeep
      simpa using Gives.dropped heval
    · simpa [hkeep] using Gives.kept heval hkeep
  | select positions =>
    obtain ⟨cells, hcells, rfl⟩ := Result.map_eq_ok_iff.mp h
    exact .select hcells
  | pass =>
    cases h
    exact .pass
  | limit rows count =>
    rw [Stage.flow] at h
    by_cases hfull : rows ≤ count
    · rw [if_pos hfull] at h
      cases h
      exact .full hfull
    · rw [if_neg hfull] at h
      -- the row that fills the limit goes on, and says that it is the last one
      by_cases hlast : count + 1 = rows
      · rw [if_pos hlast] at h
        cases h
        subst hlast
        exact .last
      · rw [if_neg hlast] at h
        cases h
        exact .counted (by omega)
  | insert pos width values =>
    obtain ⟨vs, hvalues, rfl⟩ := Result.map_eq_ok_iff.mp h
    exact .insert hvalues
  | update positions func =>
    rw [Stage.flow] at h
    split at h
    · cases h
    · rename_i vs hvalues
      obtain ⟨out, hassign, rfl⟩ := Result.map_eq_ok_iff.mp h
      exact .update hvalues hassign
  | typecast converter =>
    cases h
    exact .typecast

theorem flow_eq_ok_iff {row : Row} {stage : Stage} {flow : Flow} :
    stage.flow row = .ok flow ↔ stage.Gives row flow := by
  constructor
  · exact gives_of_flow
  · intro h
    cases h with
    | @kept p negated holds heval hkeep =>
      have hdiffers : (holds != negated) = true := by simpa using hkeep
      rw [Stage.flow, heval]
      simp only [Except.map, hdiffers, if_true]
    | dropped heval =>
      rw [Stage.flow, heval]
      simp [Except.map]
    | select hcells =>
      rw [Stage.flow, hcells]
      rfl
    | pass => rfl
    | full hfull => rw [Stage.flow, if_pos hfull]
    | last =>
      rw [Stage.flow, if_neg (by omega), if_pos rfl]
    | counted hmore =>
      rw [Stage.flow, if_neg (by omega), if_neg (by omega)]
    | insert hvalues =>
      rw [Stage.flow, hvalues]
      rfl
    | update hvalues hassign =>
      simp only [Stage.flow, hvalues, hassign]
      rfl
    | typecast => rfl

end Stage

/-- What becomes of a row in front of a stage: the stages behind it see the row only if
it goes on. -/
theorem pushStages_cons (row : Row) (stage : Stage) (stages : List Stage) :
    pushStages row (stage :: stages) =
      match stage.flow row with
      | .error e => ⟨.error e, false, stage :: stages⟩
      | .ok flow =>
        match flow.row? with
        | none => ⟨.ok none, flow.stops, stage.next :: stages⟩
        | some out =>
          ⟨(pushStages out stages).row, flow.stops || (pushStages out stages).stopped,
            stage.next :: (pushStages out stages).stages⟩ := by
  rw [pushStages]
  cases stage.flow row with
  | error e => rfl
  | ok flow => cases flow <;> simp [Flow.row?, Flow.stops]

end TableFlow
