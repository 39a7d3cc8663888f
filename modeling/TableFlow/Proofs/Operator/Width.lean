import Mathlib.Data.List.GetD
import TableFlow.Proofs.Operator.Flow
import TableFlow.Proofs.Operator.Opening

/-!
# Widths of rows

A chain that is opened on a schema takes rows of its width and gives rows of the width
of the schema of its output, whatever the operators compute.

* `Stage.Carries from to` says that a stage makes rows of one width of rows of another;
* `Operator.OpensAs.carries` is an operator that is opened, `Stage.Gives.width` one row;
* `openStages_carry` and `pushStages_width` say the same of a sequence of stages.

What an operator was checked for when it was built is needed here: a list of inserted
values has as many of them as there are new columns.
-/

namespace TableFlow

/-! ## Widths of schemas -/

namespace Schema

theorem ofNames_width {names : List String} {s : Schema} (h : ofNames names = .ok s) :
    s.width = names.length := by
  unfold ofNames at h
  split at h
  · cases h
    rfl
  · cases h

theorem namesAt_length {s : Schema} {positions : List Nat} {names : List String}
    (h : s.namesAt positions = .ok names) : names.length = positions.length := by
  induction positions generalizing names with
  | nil =>
    cases h
    rfl
  | cons pos positions ih =>
    rw [namesAt] at h
    split at h
    · cases h
    · split at h
      · cases h
      · rename_i rest hrest
        cases h
        simp [ih hrest]

/-- Positions below the width have names. -/
theorem namesAt_eq {s : Schema} {positions : List Nat} (hlt : ∀ pos ∈ positions, pos < s.width) :
    s.namesAt positions = .ok (positions.map (s.names.getD · "")) := by
  induction positions with
  | nil => rfl
  | cons pos positions ih =>
    obtain ⟨hpos, hrest⟩ := List.forall_mem_cons.mp hlt
    rw [namesAt, name?, List.getElem?_eq_getElem hpos, ih hrest, List.map_cons,
      List.getD_eq_getElem _ _ hpos]

theorem project_width {s out : Schema} {positions : List Nat}
    (h : s.project positions = .ok out) : out.width = positions.length := by
  unfold project at h
  split at h
  · cases h
  · rename_i names hnames
    rw [ofNames_width h, namesAt_length hnames]

theorem replaceNames_length {width : Nat} {current names : List String}
    {entries : List (Nat × String)} (h : replaceNames width current entries = .ok names) :
    names.length = current.length := by
  induction entries generalizing current with
  | nil =>
    cases h
    rfl
  | cons entry entries ih =>
    obtain ⟨pos, name⟩ := entry
    rw [replaceNames] at h
    split at h
    · have hrest := ih h
      rwa [List.length_set] at hrest
    · cases h

theorem rename_width {s out : Schema} {positions : List Nat} {names : List String}
    (h : s.rename positions names = .ok out) : out.width = s.width := by
  unfold rename at h
  split at h
  · cases h
  · rename_i replaced hreplaced
    rw [ofNames_width h, replaceNames_length hreplaced]
    rfl

theorem insert_width {s out : Schema} {pos : Option Nat} {names : List String}
    (h : s.insert pos names = .ok out) : out.width = s.width + names.length := by
  simp only [insert] at h
  split at h
  · cases h
  · rename_i hpos
    rw [ofNames_width h]
    -- the names in front of the position and those behind it are all of the old names
    have hsplit := congrArg List.length (List.take_append_drop (pos.getD s.width) s.names)
    have hwidth : s.width = s.names.length := rfl
    simp only [List.length_append] at hsplit ⊢
    omega

end Schema

/-! ## Widths of computed values -/

theorem Row.cells_length {row : Row} {positions : List Nat} {vs : List Value}
    (h : Row.cells row positions = .ok vs) : vs.length = positions.length := by
  induction positions generalizing vs with
  | nil =>
    cases h
    rfl
  | cons pos positions ih =>
    rw [Row.cells] at h
    split at h
    · cases h
    · split at h
      · cases h
      · rename_i rest hrest
        cases h
        simp [ih hrest]

theorem Row.cell_eq {row : Row} {pos : Nat} (h : pos < row.length) :
    Row.cell row pos = .ok (row.getD pos .null) := by
  rw [Row.cell, List.getElem?_eq_getElem h, List.getD_eq_getElem _ _ h]

theorem Row.cells_eq {row : Row} {positions : List Nat}
    (h : ∀ pos ∈ positions, pos < row.length) :
    Row.cells row positions = .ok (positions.map (row.getD · .null)) := by
  induction positions with
  | nil => rfl
  | cons pos positions ih =>
    obtain ⟨hpos, hrest⟩ := List.forall_mem_cons.mp h
    rw [Row.cells, Row.cell_eq hpos, ih hrest]
    rfl

/-- Positions that are all there have cells. -/
theorem Row.cells_of_lt {row : Row} {positions : List Nat}
    (hlt : ∀ pos ∈ positions, pos < row.length) : ∃ vs, Row.cells row positions = .ok vs :=
  ⟨_, Row.cells_eq hlt⟩

theorem Value.spread_length {width : Nat} {v : Value} {vs : List Value}
    (h : v.spread width = .ok vs) : vs.length = width := by
  unfold Value.spread at h
  split at h
  · rename_i hone
    cases h
    simp [hone]
  · split at h
    · split at h
      · rename_i hlen
        cases h
        exact hlen
      · cases h
    · cases h

/-- Inserted values are as many as there are new columns, as listed ones were counted
when the operator was built. -/
theorem InsertValues.values_length {row : Row} {width : Nat} {values : InsertValues}
    {vs : List Value} (hfits : values.misfit? width = none)
    (h : values.values row width = .ok vs) : vs.length = width := by
  cases values with
  | const v =>
    cases h
    simp
  | list listed =>
    cases h
    rw [misfit?] at hfits
    split at hfits
    · assumption
    · cases hfits
  | expr e =>
    rw [values] at h
    split at h
    · cases h
    · exact Value.spread_length h

theorem InsertValues.bind_fits {s : Schema} {values bound : InsertValues} {width : Nat}
    (hfits : values.misfit? width = none) (h : values.bind s = .ok bound) :
    bound.misfit? width = none := by
  cases values with
  | const v =>
    cases h
    rfl
  | list listed =>
    cases h
    exact hfits
  | expr e =>
    obtain ⟨bound, -, rfl⟩ := Result.map_eq_ok_iff.mp h
    rfl

theorem Row.assign_length {row out : Row} {cells : List (Nat × Value)}
    (h : Row.assign row cells = .ok out) : out.length = row.length := by
  induction cells generalizing row with
  | nil =>
    cases h
    rfl
  | cons cell cells ih =>
    obtain ⟨pos, v⟩ := cell
    rw [Row.assign] at h
    split at h
    · have hrest := ih h
      rwa [List.length_set] at hrest
    · cases h

/-! ## One stage -/

/-- The rows that a stage makes of rows of one width have another one. -/
def Stage.Carries (width out : Nat) : Stage → Prop
  | .select positions => out = positions.length
  | .insert _ count values => out = width + count ∧ values.misfit? count = none
  | .filter _ _ | .pass | .limit _ _ | .update _ _ | .typecast _ => out = width

theorem Operator.OpensAs.carries {s : Schema} {op : Operator} {opened : OpenedStage}
    (h : op.OpensAs s opened) : opened.stage.Carries s.width opened.schema.width := by
  cases h with
  | filter hbind => rfl
  | select hresolve hproject => exact Schema.project_width hproject
  | rename hresolve hrename => exact Schema.rename_width hrename
  | limit => rfl
  | @insert _ _ _ _ _ fits _ hinsert hbind =>
    exact ⟨Schema.insert_width hinsert, InsertValues.bind_fits fits hbind⟩
  | update hresolve hbind => rfl
  | typecast => rfl

namespace Stage

/-- Taking a row does not change what a stage does to widths. -/
theorem Carries.next {width out : Nat} {stage : Stage} (h : stage.Carries width out) :
    stage.next.Carries width out := by
  cases stage <;> exact h

theorem Gives.width {width out : Nat} {stage : Stage} {row after : Row} {flow : Flow}
    (h : stage.Gives row flow) (hcarries : stage.Carries width out) (hrow : row.length = width)
    (hafter : flow.row? = some after) : after.length = out := by
  cases h with
  | kept heval hkeep =>
    cases hafter
    exact hrow.trans hcarries.symm
  | dropped heval => cases hafter
  | select hcells =>
    cases hafter
    exact (Row.cells_length hcells).trans hcarries.symm
  | pass =>
    cases hafter
    exact hrow.trans hcarries.symm
  | full hfull => cases hafter
  | last =>
    cases hafter
    exact hrow.trans hcarries.symm
  | counted hmore =>
    cases hafter
    exact hrow.trans hcarries.symm
  | @insert pos count values vs hvalues =>
    obtain ⟨hout, hfits⟩ := hcarries
    cases hafter
    -- a row that is cut at the position has the same cells as before on its two sides
    have hvs : vs.length = count := InsertValues.values_length hfits hvalues
    have hsplit := congrArg List.length (List.take_append_drop pos row)
    simp only [List.length_append] at hsplit ⊢
    omega
  | update hvalues hassign =>
    cases hafter
    rw [Row.assign_length hassign]
    exact hrow.trans hcarries.symm
  | typecast =>
    cases hafter
    rw [List.length_map]
    exact hrow.trans hcarries.symm

end Stage

/-! ## A sequence of stages -/

/-- Each stage takes the rows of the one before. -/
def StagesCarry (width : Nat) : List Stage → Nat → Prop
  | [], out => out = width
  | stage :: stages, out => ∃ mid, stage.Carries width mid ∧ StagesCarry mid stages out

theorem openStages_carry {s out : Schema} {ops : List Operator} {stages : List Stage}
    (h : openStages s ops = .ok (stages, out)) : StagesCarry s.width stages out.width := by
  induction ops generalizing s stages with
  | nil =>
    cases h
    rfl
  | cons op ops ih =>
    rw [openStages] at h
    split at h
    · cases h
    · rename_i opened hopened
      split at h
      · cases h
      · rename_i rest last hrest
        cases h
        exact ⟨opened.schema.width, (Operator.opensAs_of_openOn hopened).carries, ih hrest⟩

/-- A row that comes out has the width of the last stage, and the stages after it carry
the same widths. -/
theorem pushStages_width {width out : Nat} {stages : List Stage} {row : Row}
    (hcarry : StagesCarry width stages out) (hrow : row.length = width) :
    StagesCarry width (pushStages row stages).stages out ∧
      ∀ after, (pushStages row stages).row = .ok (some after) → after.length = out := by
  -- the row and its width change from stage to stage
  induction stages generalizing width row with
  | nil =>
    refine ⟨hcarry, ?_⟩
    intro after hafter
    cases hafter
    exact hrow.trans hcarry.symm
  | cons stage stages ih =>
    obtain ⟨mid, hstage, hstages⟩ := hcarry
    rw [pushStages_cons]
    cases hflow : stage.flow row with
    | error e =>
      refine ⟨⟨mid, hstage, hstages⟩, ?_⟩
      intro after hafter
      cases hafter
    | ok flow =>
      simp only
      cases hnext : flow.row? with
      | none =>
        refine ⟨⟨mid, hstage.next, hstages⟩, ?_⟩
        intro after hafter
        cases hafter
      | some next =>
        have hnextWidth : next.length = mid :=
          (Stage.gives_of_flow hflow).width hstage hrow hnext
        obtain ⟨hrest, hafter⟩ := ih hstages hnextWidth
        exact ⟨⟨mid, hstage.next, hrest⟩, hafter⟩

end TableFlow
