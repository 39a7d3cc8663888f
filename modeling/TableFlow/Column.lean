import TableFlow.Number.Digits

/-!
# Column references

A column is referred to by its name or by its position.
-/

namespace TableFlow

/-- A reference to a column of some table. -/
inductive ColumnRef where
  | position (pos : Nat)
  | name (name : String)
deriving DecidableEq, Inhabited, Repr

namespace ColumnRef

/-- The text of a reference: a position is marked with `#`. -/
def text : ColumnRef → String
  | .position p => "#" ++ Digits.text p
  | .name n => n

end ColumnRef

end TableFlow
