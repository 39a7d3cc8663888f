import TableFlow.Expr.Basic

/-!
# Binding

Binding an expression to a schema gives every column it uses its position. It
fails at the first column that the schema does not have, and an earlier binding
leaves no trace.

* `Expr.bind` and `Predicate.bind` are the bindings.
* `Expr.bindPartly` and `Predicate.bindPartly` are what a binding has done when it
  ends, also when it fails.
-/

namespace TableFlow

/-- The column with its position in the schema. -/
def ColumnVar.bind (s : Schema) (c : ColumnVar) : Result ColumnVar :=
  match s.resolve c.reference with
  | .error e => .error e
  | .ok pos => .ok ⟨c.reference, some pos⟩

/-- Binds columns from left to right. -/
def ColumnVar.bindAll (s : Schema) : List ColumnVar → Result (List ColumnVar)
  | [] => .ok []
  | c :: cs =>
    match c.bind s with
    | .error e => .error e
    | .ok c =>
      match ColumnVar.bindAll s cs with
      | .error e => .error e
      | .ok cs => .ok (c :: cs)

mutual

/-- Binds the columns of an expression. -/
def Expr.bind (s : Schema) : Expr → Result Expr
  | .const v => .ok (.const v)
  | .column c => (c.bind s).map .column
  | .columns cs => (ColumnVar.bindAll s cs).map .columns
  | .apply f args => (Expr.bindAll s args).map (.apply f)
  | .aggregate a args => (Expr.bindAll s args).map (.aggregate a)
  | .text op arg asText => (arg.bind s).map fun arg => .text op arg asText
  | .get args index => (Expr.bindAll s args).map fun args => .get args index
  | .pick args positions => (Expr.bindAll s args).map fun args => .pick args positions
  | .test p => (p.bind s).map .test

/-- Binds expressions from left to right. -/
def Expr.bindAll (s : Schema) : List Expr → Result (List Expr)
  | [] => .ok []
  | e :: es =>
    match e.bind s with
    | .error err => .error err
    | .ok e => (Expr.bindAll s es).map (e :: ·)

/-- Binds the columns of a predicate. -/
def Predicate.bind (s : Schema) : Predicate → Result Predicate
  | .compare op left right =>
    match left.bind s with
    | .error e => .error e
    | .ok left => (right.bind s).map (.compare op left)
  | .all ps => (Predicate.bindAll s ps).map .all
  | .any ps => (Predicate.bindAll s ps).map .any
  | .not p => (p.bind s).map .not
  | .isNull e => (e.bind s).map .isNull
  | .isEmpty e => (e.bind s).map .isEmpty
  | .isIn e domain => (e.bind s).map fun e => .isIn e domain
  | .matchText e m => (e.bind s).map fun e => .matchText e m
  | .holds e => (e.bind s).map .holds

/-- Binds predicates from left to right. -/
def Predicate.bindAll (s : Schema) : List Predicate → Result (List Predicate)
  | [] => .ok []
  | p :: ps =>
    match p.bind s with
    | .error e => .error e
    | .ok p => (Predicate.bindAll s ps).map (p :: ·)

end

/-! ## Failed bindings -/

/-- The column with its position in the schema, or as it was. -/
def ColumnVar.bindPartly (s : Schema) (c : ColumnVar) : ColumnVar :=
  match c.bind s with
  | .ok c => c
  | .error _ => c

/-- Binds columns from left to right, up to the first one that fails. -/
def ColumnVar.bindPartlyAll (s : Schema) : List ColumnVar → List ColumnVar
  | [] => []
  | c :: cs =>
    match c.bind s with
    | .ok c => c :: ColumnVar.bindPartlyAll s cs
    | .error _ => c :: cs

mutual

/-- Binds the columns of an expression up to the first one that fails; the others stay
as they were. -/
def Expr.bindPartly (s : Schema) : Expr → Expr
  | .const v => .const v
  | .column c => .column (c.bindPartly s)
  | .columns cs => .columns (ColumnVar.bindPartlyAll s cs)
  | .apply f args => .apply f (Expr.bindPartlyAll s args)
  | .aggregate a args => .aggregate a (Expr.bindPartlyAll s args)
  | .text op arg asText => .text op (arg.bindPartly s) asText
  | .get args index => .get (Expr.bindPartlyAll s args) index
  | .pick args positions => .pick (Expr.bindPartlyAll s args) positions
  | .test p => .test (p.bindPartly s)

/-- Binds expressions from left to right, up to the first column that fails. -/
def Expr.bindPartlyAll (s : Schema) : List Expr → List Expr
  | [] => []
  | e :: es =>
    match e.bind s with
    | .ok e => e :: Expr.bindPartlyAll s es
    | .error _ => e.bindPartly s :: es

/-- Binds the columns of a predicate up to the first one that fails; the others stay
as they were. -/
def Predicate.bindPartly (s : Schema) : Predicate → Predicate
  | .compare op left right =>
    match left.bind s with
    | .ok left => .compare op left (right.bindPartly s)
    | .error _ => .compare op (left.bindPartly s) right
  | .all ps => .all (Predicate.bindPartlyAll s ps)
  | .any ps => .any (Predicate.bindPartlyAll s ps)
  | .not p => .not (p.bindPartly s)
  | .isNull e => .isNull (e.bindPartly s)
  | .isEmpty e => .isEmpty (e.bindPartly s)
  | .isIn e domain => .isIn (e.bindPartly s) domain
  | .matchText e m => .matchText (e.bindPartly s) m
  | .holds e => .holds (e.bindPartly s)

/-- Binds predicates from left to right, up to the first column that fails. -/
def Predicate.bindPartlyAll (s : Schema) : List Predicate → List Predicate
  | [] => []
  | p :: ps =>
    match p.bind s with
    | .ok p => p :: Predicate.bindPartlyAll s ps
    | .error _ => p.bindPartly s :: ps

end

end TableFlow
