import TableFlow.Proofs.Operator.Phases
import TableFlow.Proofs.Schema.Cells

/-!
# Names keep their values

An operator makes a schema of a schema when it is opened and a row of a row when it takes one,
by different code. `Operator.KeepsNames` says for each operator what the two together do to names
and to their cells, and `Operator.names_keep_values` that they do so whatever rows went before.

* `InsertValues.Computes` and `UpdateFunc.Computes` are the values that are put into a row, and
  `LookedUp` those that come from a list of pairs;
* `Operator.OpensAs.keepsNames` is one row in an operator that has just been opened, with one
  lemma for each operator that moves or changes something;
* `Chain.stages_after_singleton` says that rows leave the stage of an operator as it was, apart
  from what a limit counts.
-/

namespace TableFlow

/-! ## Computed values -/

/-- The values for several columns that a computed value stands for: itself for a single one,
and the items of a list otherwise. -/
def Value.SpreadsOver (v : Value) (width : Nat) (vs : List Value) : Prop :=
  if width = 1 then vs = [v] else v = .list vs ∧ vs.length = width

theorem Value.spreadsOver_of_spread {v : Value} {width : Nat} {vs : List Value}
    (h : v.spread width = .ok vs) : v.SpreadsOver width vs := by
  unfold Value.spread at h
  unfold Value.SpreadsOver
  split at h
  · rename_i hone
    cases h
    rw [if_pos hone]
  · rename_i hmany
    rw [if_neg hmany]
    split at h
    · split at h
      · rename_i hlength
        cases h
        exact ⟨rfl, hlength⟩
      · cases h
    · cases h

/-- The values that an insertion puts into a row for `width` new columns. -/
inductive InsertValues.Computes (s : Schema) (row : Row) (width : Nat) :
    InsertValues → List Value → Prop
  | const (v : Value) : Computes s row width (.const v) (List.replicate width v)
  | list (vs : List Value) : Computes s row width (.list vs) vs
  | expr {e bound : Expr} {v : Value} {vs : List Value} (hbind : e.bind s = .ok bound)
      (heval : bound.eval row = .ok v) (hspread : v.SpreadsOver width vs) :
      Computes s row width (.expr e) vs

/-- What a value is replaced by: the value of the last pair with this key, and itself if it is
the key of no pair. -/
inductive LookedUp (pairs : List (Value × Value)) (key : Value) : Value → Prop
  | last {front back : List (Value × Value)} {v : Value}
      (hpairs : pairs = front ++ (key, v) :: back) (hlast : ∀ pair ∈ back, pair.1 ≠ key) :
      LookedUp pairs key v
  | kept (hnone : ∀ pair ∈ pairs, pair.1 ≠ key) : LookedUp pairs key key

theorem lookedUp_mapped (pairs : List (Value × Value)) (key : Value) :
    LookedUp pairs key (mapped pairs key) := by
  unfold mapped
  cases hlookup : pairs.reverse.lookup key with
  | none =>
    rw [List.lookup_eq_none_iff] at hlookup
    exact .kept fun pair hpair =>
      (bne_iff_ne.mp (hlookup pair (List.mem_reverse.mpr hpair))).symm
  | some v =>
    -- the first pair from the back is the last one
    obtain ⟨back, front, hreverse, hlast⟩ := List.lookup_eq_some_iff.mp hlookup
    refine @LookedUp.last _ _ front.reverse back.reverse _ ?_ ?_
    · rw [← List.reverse_reverse pairs, hreverse]
      simp
    · exact fun pair hpair => (bne_iff_ne.mp (hlast pair (List.mem_reverse.mp hpair))).symm

/-- The values that an update puts into a row at some positions, all of them computed from the
old cells. -/
inductive UpdateFunc.Computes (s : Schema) (row : Row) (positions : List Nat) :
    UpdateFunc → List Value → Prop
  | const (v : Value) : Computes s row positions (.const v) (List.replicate positions.length v)
  | expr {e bound : Expr} {v : Value} {vs : List Value} (hbind : e.bind s = .ok bound)
      (heval : bound.eval row = .ok v) (hspread : v.SpreadsOver positions.length vs) :
      Computes s row positions (.expr e) vs
  | map {pairs : List (Value × Value)} {cells vs : List Value}
      (hcells : row.HoldsAt positions cells) (hvalues : List.Forall₂ (LookedUp pairs) cells vs) :
      Computes s row positions (.map pairs) vs
  | callable {f : Callable} {cells : List Value} {v : Value} {vs : List Value}
      (hcells : row.HoldsAt positions cells) (hcall : f.call cells = .ok v)
      (hspread : v.SpreadsOver positions.length vs) : Computes s row positions (.callable f) vs

section Values

variable {s : Schema} {row : Row} {vs : List Value}

theorem InsertValues.computes_of_values {values bound : InsertValues} {width : Nat}
    (hbind : values.bind s = .ok bound) (h : bound.values row width = .ok vs) :
    values.Computes s row width vs := by
  cases values with
  | const v =>
    cases hbind
    cases h
    exact .const v
  | list listed =>
    cases hbind
    cases h
    exact .list vs
  | expr e =>
    obtain ⟨b, hb, rfl⟩ := Result.map_eq_ok_iff.mp hbind
    rw [InsertValues.values] at h
    split at h
    · cases h
    · rename_i v hv
      exact .expr hb hv (Value.spreadsOver_of_spread h)

theorem UpdateFunc.computes_of_values {func bound : UpdateFunc} {positions : List Nat}
    (hbind : func.bind s = .ok bound) (h : bound.values row positions = .ok vs) :
    func.Computes s row positions vs := by
  cases func with
  | const v =>
    cases hbind
    cases h
    exact .const v
  | expr e =>
    obtain ⟨b, hb, rfl⟩ := Result.map_eq_ok_iff.mp hbind
    rw [UpdateFunc.values] at h
    split at h
    · cases h
    · rename_i v hv
      exact .expr hb hv (Value.spreadsOver_of_spread h)
  | map pairs =>
    cases hbind
    obtain ⟨cells, hcells, rfl⟩ := Result.map_eq_ok_iff.mp h
    refine .map (Row.holdsAt_of_cells hcells) (List.forall₂_map_right_iff.mpr ?_)
    exact List.forall₂_same.mpr fun cell _ => lookedUp_mapped pairs cell
  | callable f =>
    cases hbind
    rw [UpdateFunc.values] at h
    split at h
    · cases h
    · rename_i cells hcells
      split at h
      · cases h
      · rename_i v hv
        exact .callable (Row.holdsAt_of_cells hcells) hv (Value.spreadsOver_of_spread h)

/-- An update has one value for each of its positions. -/
theorem UpdateFunc.values_length {bound : UpdateFunc} {positions : List Nat}
    (h : bound.values row positions = .ok vs) : vs.length = positions.length := by
  cases bound with
  | const v =>
    cases h
    simp
  | expr e =>
    rw [UpdateFunc.values] at h
    split at h
    · cases h
    · exact Value.spread_length h
  | map pairs =>
    obtain ⟨cells, hcells, rfl⟩ := Result.map_eq_ok_iff.mp h
    rw [List.length_map, Row.cells_length hcells]
  | callable f =>
    rw [UpdateFunc.values] at h
    split at h
    · cases h
    · split at h
      · cases h
      · exact Value.spread_length h

end Values

/-! ## What becomes of names and cells -/

/-- The columns of the output are the referenced ones, in the given order, each with its name
and its cell. -/
structure Selects (columns : List ColumnRef) (s : Schema) (row : Row) (out : Schema)
    (after : Row) : Prop where
  count : out.width = columns.length
  column : ∀ (i : Nat) column, columns[i]? = some column → ∃ pos cell, s.resolve column = .ok pos ∧
    (s.named row)[pos]? = some cell ∧ (out.named after)[i]? = some cell

/-- New names with these values stand together behind the first `pos` columns. Every old name
keeps its order and its cell. -/
structure Inserts (names : List String) (pos : Nat) (vs : List Value) (s : Schema) (row : Row)
    (out : Schema) (after : Row) : Prop where
  count : vs.length = names.length
  fits : pos ≤ s.width
  columns : out.named after = (s.named row).take pos ++ names.zip vs ++ (s.named row).drop pos
  old : ∀ name ∈ s.names, out.cell? after name = s.cell? row name
  new : ∀ (i : Nat) name, names[i]? = some name → out.cell? after name = vs[i]?

namespace Operator

/-- What an operator does to the names of its input and to the cells of a row. References are
resolved against the names of the input, all of them before anything changes. -/
def KeepsNames (s : Schema) (row : Row) (out : Schema) (after : Row) : Operator → Prop
  | .filter _ _ | .limit _ => out = s ∧ after = row
  | .select columns => Selects columns s row out after
  | .rename columns names _ => after = row ∧ ∃ positions,
      columns.map s.resolve = positions.map .ok ∧ Rewrites positions names s.names out.names
  | .insert names pos values _ _ => ∃ vs, values.Computes s row names.length vs ∧
      Inserts names (pos.getD s.width) vs s row out after
  | .update columns func _ => out = s ∧ ∃ positions vs,
      columns.map s.resolve = positions.map .ok ∧ func.Computes s row positions vs ∧
        Rewrites positions vs row after
  | .typecast converter =>
      out.named after = (s.named row).map fun cell => (cell.1, converter.convert cell.2)

variable {s out : Schema} {row after : Row} {columns : List ColumnRef} {positions : List Nat}

theorem selects_of_cells (hrow : row.length = s.width)
    (hresolve : s.resolveAll columns = .ok positions) (hproject : s.project positions = .ok out)
    (hcells : Row.cells row positions = .ok after) : Selects columns s row out after := by
  obtain ⟨hcount, hlt⟩ := Schema.lt_width_of_resolveAll hresolve
  refine ⟨(Schema.project_width hproject).trans hcount, ?_⟩
  intro i column hcolumn
  have hresolved := congrArg (·[i]?) (Schema.map_resolve_of_resolveAll hresolve)
  simp only [List.getElem?_map, hcolumn, Option.map_some] at hresolved
  obtain ⟨pos, hpos, hcolumnPos⟩ := Option.map_eq_some_iff.mp hresolved.symm
  have hnamed := congrArg (·[i]?) (Schema.named_project hrow hproject hcells)
  have hcell := Schema.getElem?_named hrow (hlt pos (List.mem_of_getElem? hpos))
  simp only [List.getElem?_map, hpos, Option.map_some, hcell] at hnamed
  obtain ⟨cell, hout, hsame⟩ := Option.map_eq_some_iff.mp hnamed
  cases hsame
  exact ⟨pos, _, hcolumnPos.symm, hcell, hout⟩

theorem rewrites_of_rename {names : List String} (hcount : names.length = columns.length)
    (hresolve : s.resolveAll columns = .ok positions)
    (hrename : s.rename positions names = .ok out) :
    Rewrites positions names s.names out.names := by
  obtain ⟨hlength, hlt⟩ := Schema.lt_width_of_resolveAll hresolve
  unfold Schema.rename at hrename
  split at hrename
  · cases hrename
  · rename_i final hfinal
    rw [← Schema.ofNames_eq_ok_iff.mp hrename, Schema.replaceNames_eq_putAll hfinal]
    exact rewrites_putAll (hcount.trans hlength.symm) hlt

theorem inserts_of_insert {names : List String} {pos : Option Nat} {vs : List Value}
    (hrow : row.length = s.width) (hvs : vs.length = names.length)
    (hinsert : s.insert pos names = .ok out) :
    Inserts names (pos.getD s.width) vs s row out
      (row.take (pos.getD s.width) ++ vs ++ row.drop (pos.getD s.width)) where
  count := hvs
  fits := (Schema.insert_names hinsert).1
  columns := Schema.named_insert hrow hvs hinsert
  old name hname := Schema.cell?_insert hrow hvs hinsert hname
  new i name hname := by
    obtain ⟨v, hv⟩ : ∃ v, vs[i]? = some v := by
      obtain ⟨hlt, -⟩ := List.getElem?_eq_some_iff.mp hname
      exact ⟨_, List.getElem?_eq_getElem (hvs ▸ hlt)⟩
    have hzip : (names.zip vs)[i]? = some (name, v) :=
      List.getElem?_zip_eq_some.mpr ⟨hname, hv⟩
    rw [hv, Schema.cell?_eq_some_iff, Schema.named_insert hrow hvs hinsert]
    simp [List.mem_of_getElem? hzip]

/-- An operator that has just been opened does so with a row that goes on. -/
theorem OpensAs.keepsNames {op : Operator} {opened : OpenedStage} {flow : Flow}
    (h : op.OpensAs s opened) (hrow : row.length = s.width)
    (hgives : opened.stage.Gives row flow) (hafter : flow.row? = some after) :
    op.KeepsNames s row opened.schema after := by
  cases h with
  | filter hbind =>
    cases hgives with
    | kept heval hkeep =>
      cases hafter
      exact ⟨rfl, rfl⟩
    | dropped heval => cases hafter
  | limit =>
    cases hgives with
    | full hfull => cases hafter
    | last =>
      cases hafter
      exact ⟨rfl, rfl⟩
    | counted hmore =>
      cases hafter
      exact ⟨rfl, rfl⟩
  | select hresolve hproject =>
    cases hgives with
    | select hcells =>
      cases hafter
      exact selects_of_cells hrow hresolve hproject hcells
  | @rename columns names named positions out hresolve hrename =>
    cases hgives with
    | pass =>
      cases hafter
      exact ⟨rfl, positions, Schema.map_resolve_of_resolveAll hresolve,
        rewrites_of_rename named hresolve hrename⟩
  | @insert names pos values bound new fits out hinsert hbind =>
    cases hgives with
    | @insert _ _ _ vs hvalues =>
      cases hafter
      have hvs : vs.length = names.length :=
        InsertValues.values_length (InsertValues.bind_fits fits hbind) hvalues
      exact ⟨vs, InsertValues.computes_of_values hbind hvalues, inserts_of_insert hrow hvs hinsert⟩
  | @update columns func bound old positions hresolve hbind =>
    cases hgives with
    | @update _ _ vs _ hvalues hassign =>
      cases hafter
      obtain ⟨-, hlt⟩ := Schema.lt_width_of_resolveAll hresolve
      refine ⟨rfl, positions, vs, Schema.map_resolve_of_resolveAll hresolve,
        UpdateFunc.computes_of_values hbind hvalues, ?_⟩
      rw [Row.assign_eq_putAll hassign]
      exact rewrites_putAll (UpdateFunc.values_length hvalues) (hrow ▸ hlt)
  | @typecast converter =>
    cases hgives with
    | typecast =>
      cases hafter
      show s.names.zip (row.map converter.convert) = _
      rw [List.zip_map_right]
      rfl

end Operator

/-! ## After other rows -/

/-- A limit counts its rows, and no other stage changes. -/
theorem Chain.stages_after_singleton {c : Chain} {stage : Stage} (h : c.stages = [stage])
    (rows : List Row) :
    ∃ later, (c.after rows).stages = [later] ∧
      (later = stage ∨ stage.isLimit = true ∧ later.isLimit = true) := by
  induction rows generalizing c stage with
  | nil => exact ⟨stage, h, .inl rfl⟩
  | cons row rows ih =>
    have hpush : (c.push row).2.stages = (pushStages row [stage]).stages := by
      rw [← h]
      rfl
    rcases pushStages_singleton_stages row stage with hsame | hcounted
    · exact ih (hpush.trans hsame)
    · obtain ⟨later, hlater, hkind⟩ := ih (hpush.trans hcounted)
      refine ⟨later, hlater, ?_⟩
      cases hlimit : stage.isLimit with
      | false =>
        rw [Stage.next_of_not_limit hlimit, hlimit] at hkind
        exact hkind
      | true =>
        have hnext : stage.next.isLimit = true := by
          cases stage <;> first | rfl | cases hlimit
        refine .inr ⟨rfl, ?_⟩
        rcases hkind with rfl | ⟨-, hkind⟩
        · exact hnext
        · exact hkind

theorem Stage.gives_of_pushStages_singleton {stage : Stage} {row : Row} {out : Option Row}
    (h : (pushStages row [stage]).row = .ok out) :
    ∃ flow, stage.Gives row flow ∧ flow.row? = out := by
  rw [pushStages_singleton_row] at h
  obtain ⟨flow, hflow, hout⟩ := Result.map_eq_ok_iff.mp h
  exact ⟨flow, Stage.gives_of_flow hflow, hout⟩

theorem Stage.Gives.eq_of_limit {stage : Stage} {row after : Row} {flow : Flow}
    (h : stage.Gives row flow) (hlimit : stage.isLimit = true) (hafter : flow.row? = some after) :
    after = row := by
  cases h with
  | full hfull => cases hafter
  | last =>
    cases hafter
    rfl
  | counted hmore =>
    cases hafter
    rfl
  | kept | dropped | select | pass | insert | update | typecast => cases hlimit

namespace Operator

/-- Whatever rows have been pushed before, an operator does to the names of its input and to the
cells of a row the same: what comes out belongs to the schema of its output as `KeepsNames`
says, cell by cell. -/
theorem names_keep_values {op : Operator} {s : Schema} {c : Chain} {row out : Row}
    (hopen : Chain.openOn s [op] = .ok c) (rows : List Row) (hrow : row.length = s.width)
    (hout : ((c.after rows).push row).1 = .ok (some out)) :
    op.KeepsNames s row c.schema out ∧ out.length = c.schema.width := by
  obtain ⟨opened, hopened, hstage, hschema⟩ := Chain.openOn_singleton hopen
  obtain ⟨later, hlater, hkind⟩ := Chain.stages_after_singleton hstage rows
  have hpush : (pushStages row [later]).row = .ok (some out) := by
    rw [← hlater]
    exact hout
  obtain ⟨flow, hgives, hafter⟩ := Stage.gives_of_pushStages_singleton hpush
  rw [hschema]
  rcases hkind with rfl | ⟨hlimit, hcounts⟩
  · exact ⟨hopened.keepsNames hrow hgives hafter, hgives.width hopened.carries hrow hafter⟩
  · -- what a limit has counted does not show in the row
    have hsame : out = row := hgives.eq_of_limit hcounts hafter
    cases hopened with
    | limit => exact ⟨⟨rfl, hsame⟩, hsame ▸ hrow⟩
    | filter | select | rename | insert | update | typecast => cases hlimit

/-- Two names are exchanged, one found by name and the other by position, and the row stays. -/
theorem swapped_names_keep_values :
    ∃ op c, Operator.ofRename [.name "a", .position 2] ["c", "a"] = .ok op ∧
      Chain.openOn ⟨["a", "b", "c"], by decide⟩ [op] = .ok c ∧ c.schema.names = ["c", "b", "a"] ∧
      op.KeepsNames ⟨["a", "b", "c"], by decide⟩ [.int 1, .int 2, .int 3] c.schema
        [.int 1, .int 2, .int 3] := by
  have hopen : Chain.openOn ⟨["a", "b", "c"], by decide⟩
      [.rename [.name "a", .position 2] ["c", "a"] rfl] = .ok _ := rfl
  exact ⟨_, _, rfl, hopen, rfl, (names_keep_values hopen [[.int 0]] rfl rfl).1⟩

end Operator

end TableFlow
