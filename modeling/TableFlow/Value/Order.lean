import TableFlow.Value.Basic

/-!
# Orders on values

Two orders. `Value.cmp` is the exact one: values of different kinds stand in the
order of their kinds, doubles in the total order of their patterns, texts by code
point and lists item by item. `Value.compare` is the loose one of comparison
predicates and of the largest and smallest value: it differs from the exact order
only in that an integer and a double compare as numbers, at any depth of lists.
-/

namespace TableFlow.Value

mutual

/-- Comparison of values by kind and contents. -/
def cmp : Value → Value → Ordering
  | .null, .null => .eq
  | .bool a, .bool b => Ord.compare a b
  | .int a, .int b => Ord.compare a.toInt b.toInt
  | .float a, .float b => a.cmp b
  | .str a, .str b => Ord.compare a b
  | .list as, .list bs => cmpList as bs
  | a, b => Ord.compare a.rank b.rank

/-- Comparison of lists by their first difference. -/
def cmpList : List Value → List Value → Ordering
  | [], [] => .eq
  | [], _ :: _ => .lt
  | _ :: _, [] => .gt
  | a :: as, b :: bs => (cmp a b).then (cmpList as bs)

end

mutual

/-- Comparison of values in which integers and doubles compare as numbers. -/
def compare : Value → Value → Ordering
  | .int a, .float b => (Double.ofInt a.toInt).cmp b
  | .float a, .int b => a.cmp (Double.ofInt b.toInt)
  | .list as, .list bs => compareList as bs
  | a, b => cmp a b

/-- Loose comparison of lists by their first difference. -/
def compareList : List Value → List Value → Ordering
  | [], [] => .eq
  | [], _ :: _ => .lt
  | _ :: _, [] => .gt
  | a :: as, b :: bs => (compare a b).then (compareList as bs)

end

/-- The values are equal in the loose order. -/
def looseEq (a b : Value) : Bool := compare a b == .eq

/-- The values in the exact order, equal ones in their old order. -/
def sort (vs : List Value) : List Value := vs.mergeSort fun a b => cmp a b != .gt

end TableFlow.Value
