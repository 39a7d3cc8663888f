import TableFlow.Expr.Basic
import TableFlow.Table

/-!
# Evaluation

The value of an expression and the outcome of a predicate on a row. The outcomes
of several arguments are listed first and combined afterwards, so an argument
that is not selected, or that stands behind the deciding one of a conjunction or
disjunction, does no harm when it fails.
-/

namespace TableFlow

/-- The cell of a bound column. -/
def ColumnVar.eval (row : Row) (c : ColumnVar) : Result Value :=
  match c.position with
  | none => .error (.unprepared c.reference)
  | some pos =>
    match row[pos]? with
    | some v => .ok v
    | none => .error (.type (.shortRow pos row.length))

/-- All outcomes, or the first error. -/
def collect {α : Type} : List (Result α) → Result (List α)
  | [] => .ok []
  | .error e :: _ => .error e
  | .ok a :: rest =>
    match collect rest with
    | .error e => .error e
    | .ok as => .ok (a :: as)

/-- The outcome at an index. -/
def outcomeAt (outcomes : List (Result Value)) (index : Nat) : Result Value :=
  match outcomes[index]? with
  | some outcome => outcome
  | none => .error (.construction (.argumentOutOfRange index outcomes.length))

/-- The first outcome that is not this truth value decides: in a conjunction one that is false,
and in a disjunction one that is true. -/
def firstUnlike (usual : Bool) : List (Result Bool) → Result Bool
  | [] => .ok usual
  | .ok holds :: rest => if holds = usual then firstUnlike usual rest else .ok holds
  | .error e :: _ => .error e

/-- Whether a value matches. -/
def TextMatch.test (m : TextMatch) (v : Value) : Result Bool :=
  match v with
  | .str s => .ok (m.pattern.matchesText s != m.negated)
  | v =>
    if m.asText then .ok (m.pattern.matchesText v.text != m.negated)
    else .error (.type (.notMatchable m.source v))

/-- The truth value that a value is. -/
def Value.truth : Value → Result Bool
  | .bool b => .ok b
  | v => .error (.type (.notBoolean v))

mutual

/-- The value of an expression on a row. -/
def Expr.eval (row : Row) : Expr → Result Value
  | .const v => .ok v
  | .column c => c.eval row
  | .columns cs => (collect (cs.map (ColumnVar.eval row))).map .list
  | .apply f args =>
    match collect (Expr.outcomes row args) with
    | .error e => .error e
    | .ok vs => f.call vs
  | .aggregate a args =>
    match collect (Expr.outcomes row args) with
    | .error e => .error e
    | .ok vs => a.apply vs
  | .text op arg asText =>
    match arg.eval row with
    | .error e => .error e
    | .ok v => op.apply asText v
  | .get args index => outcomeAt (Expr.outcomes row args) index
  | .pick args positions =>
    (collect (positions.map (outcomeAt (Expr.outcomes row args)))).map .list
  | .test p => (p.eval row).map .bool

/-- The outcome of each expression on a row. -/
def Expr.outcomes (row : Row) : List Expr → List (Result Value)
  | [] => []
  | e :: es => e.eval row :: Expr.outcomes row es

/-- Whether a predicate holds on a row. -/
def Predicate.eval (row : Row) : Predicate → Result Bool
  | .compare op left right =>
    match left.eval row with
    | .error e => .error e
    | .ok l => (right.eval row).map fun r => op.holds (Value.compare l r)
  | .all ps => firstUnlike true (Predicate.outcomes row ps)
  | .any ps => firstUnlike false (Predicate.outcomes row ps)
  | .not p => (p.eval row).map (!·)
  | .isNull e => (e.eval row).map Value.isNull
  | .isEmpty e => (e.eval row).map Value.isEmpty
  | .isIn e domain => (e.eval row).map fun v => decide (v ∈ domain)
  | .matchText e m =>
    match e.eval row with
    | .error err => .error err
    | .ok v => m.test v
  | .holds e =>
    match e.eval row with
    | .error err => .error err
    | .ok v => v.truth

/-- The outcome of each predicate on a row. -/
def Predicate.outcomes (row : Row) : List Predicate → List (Result Bool)
  | [] => []
  | p :: ps => p.eval row :: Predicate.outcomes row ps

end

end TableFlow
