import TableFlow.Failure
import TableFlow.Pipeline

/-!
# Pipelines of specifications

Every step of a specification stands for some operators. `PipelineSpec.build` puts
the operators of all steps behind a pipeline; nothing is read.
-/

namespace TableFlow

/-- The predicate of a condition. Values that are no texts are matched by their text
form. -/
def Condition.predicate [Pattern.Engine] : Condition → Result Predicate
  | .compare op column value =>
    .ok (.compare op (Expr.ofColumn (.name column)) (.const value))
  | .isEmpty column => .ok (.isEmpty (Expr.ofColumn (.name column)))
  | .matchText column pattern whole =>
    Predicate.ofPattern (Expr.ofColumn (.name column)) pattern whole true false

namespace Tidying

/-- The pipeline with the texts of some columns cleaned, one column after the other. -/
def extend (op : Tidying) (p : Pipeline) : List String → Result Pipeline
  | [] => .ok p
  | column :: columns =>
    let cleaned := Expr.text op.textOp (Expr.ofColumn (.name column)) true
    match p.update [.name column] (.expr cleaned) with
    | .error e => .error e
    | .ok p => op.extend p columns

end Tidying

/-- The update function of a value or a mapping, exactly one of which has to be
there. -/
def updateFunc? (value : Option Value) (mapping : Option (Mapping Value)) :
    Option UpdateFunc :=
  match value, mapping with
  | some value, none => some (.const value)
  | none, some mapping => some (.map (mapping.entries.map fun (name, v) => (.str name, v)))
  | _, _ => none

namespace Step

/-- The pipeline with the operators of a step behind it. -/
def extend [Pattern.Engine] (p : Pipeline) (step : Step) : Except Cause Pipeline :=
  match step with
  | .select columns names =>
    let columns := columns.map .name
    match names with
    | some names => (p.selectAs columns names).mapError .error
    | none => .ok (p.select columns)
  | .rename mapping =>
    (p.rename (mapping.names.map .name) mapping.values).mapError .error
  | .filter condition =>
    (condition.predicate.map fun predicate => p.filter predicate none).mapError .error
  | .delete condition => (condition.predicate.map p.delete).mapError .error
  | .limit rows => .ok (p.limit rows.toNat)
  | .insert name position value =>
    (p.insert [name] (position.map UInt64.toNat) (.const value)).mapError .error
  | .update columns value mapping =>
    match updateFunc? value mapping with
    | some func => (p.update (columns.map .name) func).mapError .error
    | none => .error .updateSource
  | .typecast types =>
    match types with
    | some types => .ok (p.typecast ⟨types⟩)
    | none => .ok (p.typecast {})
  | .tidy op columns => (op.extend p columns).mapError .error

end Step

/-- The pipeline with the operators of steps behind it; the first step is counted from
the given place. -/
def extendBySteps [Pattern.Engine] (place : Nat) (p : Pipeline) : List Step → Outcome Pipeline
  | [] => .ok p
  | step :: steps =>
    match step.extend p with
    | .error cause => .error ⟨[.compileStep (place + 1) step.label], cause⟩
    | .ok p => extendBySteps (place + 1) p steps

/-- The pipeline with the operators of a specification behind it. -/
def PipelineSpec.build [Pattern.Engine] (spec : PipelineSpec) (p : Pipeline) : Outcome Pipeline :=
  extendBySteps 0 p spec.steps

end TableFlow
