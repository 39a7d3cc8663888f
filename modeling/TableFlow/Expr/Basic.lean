import TableFlow.Expr.Aggregate
import TableFlow.Expr.TextOp
import TableFlow.Pattern.Engine
import TableFlow.Schema

/-!
# Expressions and predicates

An `Expr` computes a value from a row and a `Predicate` a truth value. The two
contain each other. They are built through constructors that check the number of
arguments and the pattern texts at once; columns are found later, when an
expression is bound to a schema.
-/

namespace TableFlow

/-- A column used in an expression, with its position once it is bound. -/
structure ColumnVar where
  reference : ColumnRef
  position : Option Nat
deriving DecidableEq, Inhabited

/-- An order relation between two values. -/
inductive CompareOp where
  | eq | ne | gt | ge | lt | le
deriving DecidableEq, Inhabited

namespace CompareOp

/-- The relation holds for values that compare so. -/
def holds (op : CompareOp) (o : Ordering) : Bool :=
  match op with
  | .eq => o == .eq
  | .ne => o != .eq
  | .gt => o == .gt
  | .ge => o != .lt
  | .lt => o == .lt
  | .le => o != .gt

/-- The name of a relation. -/
def name : CompareOp → String
  | .eq => "eq"
  | .ne => "ne"
  | .gt => "gt"
  | .ge => "ge"
  | .lt => "lt"
  | .le => "le"

/-- The relation with a name. -/
def ofName? : String → Option CompareOp
  | "eq" => some .eq
  | "ne" => some .ne
  | "gt" => some .gt
  | "ge" => some .ge
  | "lt" => some .lt
  | "le" => some .le
  | _ => none

end CompareOp

/-- A pattern that a text has to match, or has not to match. -/
structure TextMatch where
  /-- The text of the pattern, as it was given. -/
  source : String
  /-- The pattern has to match the whole text. -/
  whole : Bool
  pattern : Pattern
  /-- Values that are no texts are matched by their text form. -/
  asText : Bool
  negated : Bool
deriving Inhabited

mutual

/-- A function from rows to values. -/
inductive Expr where
  | const (v : Value)
  | column (c : ColumnVar)
  /-- The list of several cells. -/
  | columns (cs : List ColumnVar)
  | apply (f : Callable) (args : List Expr)
  | aggregate (a : Aggregator) (args : List Expr)
  | text (op : TextOp) (arg : Expr) (asText : Bool)
  /-- One of several arguments. -/
  | get (args : List Expr) (index : Nat)
  /-- The list of the arguments at the given positions. -/
  | pick (args : List Expr) (positions : List Nat)
  | test (p : Predicate)

/-- A function from rows to truth values. -/
inductive Predicate where
  | compare (op : CompareOp) (left right : Expr)
  | all (ps : List Predicate)
  | any (ps : List Predicate)
  | not (p : Predicate)
  | isNull (e : Expr)
  | isEmpty (e : Expr)
  | isIn (e : Expr) (domain : List Value)
  | matchText (e : Expr) (m : TextMatch)
  /-- The value of an expression, which has to be a truth value. -/
  | holds (e : Expr)

end

instance : Inhabited Expr := ⟨.const .null⟩

instance : Inhabited Predicate := ⟨.holds default⟩

namespace Expr

/-- The cell of a column. -/
def ofColumn (c : ColumnRef) : Expr := .column ⟨c, none⟩

/-- The list of the cells of several columns. -/
def ofColumns (cs : List ColumnRef) : Expr := .columns (cs.map fun c => ⟨c, none⟩)

/-- The application of a callable. A single argument of a callable that unpacks
lists is checked only when it is called. -/
def ofCallable (f : Callable) (args : List Expr) : Result Expr :=
  if f.unpackList && args.length = 1 then .ok (.apply f args)
  else
    match f.arity.check args.length with
    | .error e => .error e
    | .ok () => .ok (.apply f args)

/-- The application of a callable to the cells of columns. -/
def ofCallableColumns (f : Callable) (cs : List ColumnRef) : Result Expr :=
  ofCallable f (cs.map ofColumn)

/-- The aggregate of at least one argument. -/
def ofAggregate (a : Aggregator) (args : List Expr) : Result Expr :=
  if args.isEmpty then .error (.construction (.noArguments a.text))
  else
    match a with
    | .custom f =>
      match f.arity.check args.length with
      | .error e => .error e
      | .ok () => .ok (.aggregate a args)
    | a => .ok (.aggregate a args)

/-- The argument with the given index. -/
def ofIndex (args : List Expr) (index : Nat) : Result Expr :=
  if index < args.length then .ok (.get args index)
  else .error (.construction (.indexOutOfRange index args.length))

/-- The list of the arguments at the given positions. -/
def ofPositions (args : List Expr) (positions : List Nat) : Result Expr :=
  match positions.find? fun pos => args.length ≤ pos with
  | some pos => .error (.construction (.indexOutOfRange pos args.length))
  | none => .ok (.pick args positions)

end Expr

namespace Predicate

/-- At least one predicate, all of which have to hold. -/
def ofAll (ps : List Predicate) : Result Predicate :=
  if ps.isEmpty then .error (.construction (.noArguments "And")) else .ok (.all ps)

/-- At least one predicate, one of which has to hold. -/
def ofAny (ps : List Predicate) : Result Predicate :=
  if ps.isEmpty then .error (.construction (.noArguments "Or")) else .ok (.any ps)

/-- A text that matches a pattern from its start on, or as a whole. -/
def ofPattern [Pattern.Engine] (e : Expr) (source : String) (whole asText negated : Bool) :
    Result Predicate :=
  match Pattern.anchored source whole with
  | .error fault => .error (.invalidPattern fault)
  | .ok pattern => .ok (.matchText e ⟨source, whole, pattern, asText, negated⟩)

end Predicate

end TableFlow
