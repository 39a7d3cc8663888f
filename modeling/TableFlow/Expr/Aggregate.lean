import TableFlow.Expr.Callable
import TableFlow.Number.Width
import TableFlow.Value.Order

/-!
# Aggregates

Functions that take the values of several cells of a row together. The largest
and the smallest value are the first ones that no other value beats in the loose
order. A sum counts in 64-bit integers until the first double and in doubles from
there on.
-/

namespace TableFlow

/-- An aggregate function. -/
inductive Aggregator where
  | max
  | min
  | mean
  | sum
  | custom (f : Callable)

namespace Aggregator

/-- The first value that is never beaten, where `wins` is the outcome of a value
that beats another. -/
def best (wins : Ordering) : List Value → Value
  | [] => .null
  | v :: vs => vs.foldl (fun champion w => if Value.compare w champion = wins then w else champion) v

/-- A running total. -/
inductive Total where
  | int (n : Int64)
  | float (x : Double)
deriving DecidableEq, Inhabited

namespace Total

/-- The sum of two integers, if it fits in 64 bits. -/
def addInt? (a b : Int64) : Option Int64 := int64? (a.toInt + b.toInt)

/-- The total with a value added. -/
def add (t : Total) (v : Value) : Result Total :=
  match t, v with
  | .int n, .int i =>
    match addInt? n i with
    | some s => .ok (.int s)
    | none => .error (.type .sumOverflow)
  | .int n, .float x => .ok (.float (Double.add (Double.ofInt n.toInt) x))
  | .float y, .int i => .ok (.float (Double.add y (Double.ofInt i.toInt)))
  | .float y, .float x => .ok (.float (Double.add y x))
  | _, v => .error (.type (.notAddable v))

/-- The total as a value. -/
def value : Total → Value
  | .int n => .int n
  | .float x => .float x

/-- The total as a double. -/
def toDouble : Total → Double
  | .int n => Double.ofInt n.toInt
  | .float x => x

/-- The total with values added one after the other. -/
def addAll (t : Total) : List Value → Result Total
  | [] => .ok t
  | v :: vs =>
    match t.add v with
    | .error e => .error e
    | .ok t => t.addAll vs

end Total

/-- The total of a list of numbers. -/
def total (vs : List Value) : Result Total := Total.addAll (.int 0) vs

/-- The aggregate of a list of values. -/
def apply (a : Aggregator) (vs : List Value) : Result Value :=
  match a with
  | .max => .ok (best .gt vs)
  | .min => .ok (best .lt vs)
  | .sum =>
    match total vs with
    | .error e => .error e
    | .ok t => .ok t.value
  | .mean =>
    match total vs with
    | .error e => .error e
    | .ok t => .ok (.float (Double.div t.toDouble (Double.ofNat vs.length)))
  | .custom f => f.call vs

/-- The description of an aggregate function. -/
def text : Aggregator → String
  | .max => "Max"
  | .min => "Min"
  | .mean => "Mean"
  | .sum => "Sum"
  | .custom f => "Custom(" ++ f.text ++ ")"

end Aggregator

end TableFlow
