import TableFlow.Operator.Chain
import TableFlow.Proofs.Result
import TableFlow.Proofs.Schema.Names

/-!
# Opening operators

Operators are opened one after the other, each on the schema of the one before.

* `Operator.OpensAs` lists how a single operator opens, with what it resolves and binds;
  `Operator.openOn_eq_ok_iff` is its agreement with `Operator.openOn`, and no other proof
  needs to look into that function;
* `Opens s ops out` says that operators open on `s`, the last one emitting rows of
  the schema `out`;
* `openStages_append` cuts the opening of a list of operators in two, and
  `opens_append_iff` says the same of `Opens`.
-/

namespace TableFlow

/-! ## One operator -/

namespace Operator

/-- How an operator opens on a schema. -/
inductive OpensAs (s : Schema) : Operator → OpenedStage → Prop
  | filter {p bound : Predicate} {negated : Bool} (hbind : p.bind s = .ok bound) :
      OpensAs s (.filter p negated) ⟨s, .filter bound negated⟩
  | select {columns : List ColumnRef} {positions : List Nat} {out : Schema}
      (hresolve : s.resolveAll columns = .ok positions)
      (hproject : s.project positions = .ok out) :
      OpensAs s (.select columns) ⟨out, .select positions⟩
  | rename {columns : List ColumnRef} {names : List String}
      {named : names.length = columns.length} {positions : List Nat} {out : Schema}
      (hresolve : s.resolveAll columns = .ok positions)
      (hrename : s.rename positions names = .ok out) :
      OpensAs s (.rename columns names named) ⟨out, .pass⟩
  | limit {rows : Nat} : OpensAs s (.limit rows) ⟨s, .limit rows 0⟩
  | insert {names : List String} {pos : Option Nat} {values bound : InsertValues}
      {new : names ≠ []} {fits : values.misfit? names.length = none} {out : Schema}
      (hinsert : s.insert pos names = .ok out) (hbind : values.bind s = .ok bound) :
      OpensAs s (.insert names pos values new fits)
        ⟨out, .insert (pos.getD s.width) names.length bound⟩
  | update {columns : List ColumnRef} {func bound : UpdateFunc} {old : columns ≠ []}
      {positions : List Nat} (hresolve : s.resolveAll columns = .ok positions)
      (hbind : func.bind s = .ok bound) :
      OpensAs s (.update columns func old) ⟨s, .update positions bound⟩
  | typecast {converter : Converter} :
      OpensAs s (.typecast converter) ⟨s, .typecast converter⟩

theorem opensAs_of_openOn {s : Schema} {op : Operator} {opened : OpenedStage}
    (h : op.openOn s = .ok opened) : op.OpensAs s opened := by
  cases op with
  | filter p negated =>
    obtain ⟨bound, hbind, rfl⟩ := Result.map_eq_ok_iff.mp h
    exact .filter hbind
  | select columns =>
    rw [openOn] at h
    split at h
    · cases h
    · rename_i positions hresolve
      obtain ⟨out, hproject, rfl⟩ := Result.map_eq_ok_iff.mp h
      exact .select hresolve hproject
  | rename columns names named =>
    rw [openOn] at h
    split at h
    · cases h
    · rename_i positions hresolve
      obtain ⟨out, hrename, rfl⟩ := Result.map_eq_ok_iff.mp h
      exact .rename hresolve hrename
  | limit rows =>
    cases h
    exact .limit
  | insert names pos values new fits =>
    rw [openOn] at h
    split at h
    · cases h
    · rename_i out hinsert
      obtain ⟨bound, hbind, rfl⟩ := Result.map_eq_ok_iff.mp h
      exact .insert hinsert hbind
  | update columns func old =>
    rw [openOn] at h
    split at h
    · cases h
    · rename_i positions hresolve
      obtain ⟨bound, hbind, rfl⟩ := Result.map_eq_ok_iff.mp h
      exact .update hresolve hbind
  | typecast converter =>
    cases h
    exact .typecast

theorem openOn_eq_ok_iff {s : Schema} {op : Operator} {opened : OpenedStage} :
    op.openOn s = .ok opened ↔ op.OpensAs s opened := by
  constructor
  · exact opensAs_of_openOn
  · intro h
    cases h with
    | filter hbind =>
      rw [openOn, hbind]
      rfl
    | select hresolve hproject =>
      simp only [openOn, hresolve, hproject]
      rfl
    | rename hresolve hrename =>
      simp only [openOn, hresolve, hrename]
      rfl
    | limit => rfl
    | insert hinsert hbind =>
      simp only [openOn, hinsert, hbind]
      rfl
    | update hresolve hbind =>
      simp only [openOn, hresolve, hbind]
      rfl
    | typecast => rfl

end Operator

/-! ## A list of operators -/

/-- Operators open on a schema and give rows of another one. -/
def Opens (s : Schema) (ops : List Operator) (out : Schema) : Prop :=
  ∃ stages, openStages s ops = .ok (stages, out)

/-- Operators behind others are opened on the schema that those give. -/
theorem openStages_append (s : Schema) (xs ys : List Operator) :
    openStages s (xs ++ ys) =
      match openStages s xs with
      | .error e => .error e
      | .ok (front, mid) =>
        match openStages mid ys with
        | .error e => .error e
        | .ok (back, out) => .ok (front ++ back, out) := by
  induction xs generalizing s with
  | nil =>
    simp only [List.nil_append, openStages]
    split <;> simp_all
  | cons op xs ih =>
    simp only [List.cons_append, openStages]
    cases op.openOn s with
    | error e => rfl
    | ok opened =>
      simp only [ih]
      cases openStages opened.schema xs with
      | error e => rfl
      | ok front =>
        simp only
        cases openStages front.2 ys with
        | error e => rfl
        | ok back => rfl

theorem opens_nil_iff {s out : Schema} : Opens s [] out ↔ s = out := by
  simp [Opens, openStages]

theorem opens_cons_iff {s out : Schema} {op : Operator} {ops : List Operator} :
    Opens s (op :: ops) out ↔ ∃ opened, op.openOn s = .ok opened ∧ Opens opened.schema ops out := by
  unfold Opens
  rw [openStages]
  cases op.openOn s with
  | error e => simp
  | ok opened =>
    cases hrest : openStages opened.schema ops with
    | error e => simp [hrest]
    | ok rest => simp [hrest, Prod.ext_iff]

theorem opens_append_iff {s out : Schema} {xs ys : List Operator} :
    Opens s (xs ++ ys) out ↔ ∃ mid, Opens s xs mid ∧ Opens mid ys out := by
  induction xs generalizing s with
  | nil => simp [opens_nil_iff]
  | cons op xs ih =>
    simp only [List.cons_append, opens_cons_iff, ih]
    constructor
    · rintro ⟨opened, hop, mid, hxs, hys⟩
      exact ⟨mid, ⟨opened, hop, hxs⟩, hys⟩
    · rintro ⟨mid, ⟨opened, hop, hxs⟩, hys⟩
      exact ⟨opened, hop, mid, hxs, hys⟩

/-- The schema that operators give is determined by the one they are opened on. -/
theorem Opens.unique {s out out' : Schema} {ops : List Operator} (h : Opens s ops out)
    (h' : Opens s ops out') : out = out' := by
  obtain ⟨stages, h⟩ := h
  obtain ⟨stages', h'⟩ := h'
  rw [h] at h'
  cases h'
  rfl

theorem opens_singleton_iff {s out : Schema} {op : Operator} :
    Opens s [op] out ↔ ∃ stage, op.OpensAs s ⟨out, stage⟩ := by
  rw [opens_cons_iff]
  constructor
  · rintro ⟨⟨schema, stage⟩, hop, hnil⟩
    rw [opens_nil_iff] at hnil
    subst hnil
    exact ⟨stage, Operator.openOn_eq_ok_iff.mp hop⟩
  · rintro ⟨stage, hop⟩
    exact ⟨⟨out, stage⟩, Operator.openOn_eq_ok_iff.mpr hop, opens_nil_iff.mpr rfl⟩

end TableFlow
