import TableFlow.Counter
import TableFlow.Table

/-!
# Frequency outliers

Values whose share of all rows passes a threshold.
-/

namespace TableFlow

/-- A condition on a frequency. -/
inductive Threshold where
  | gt (limit : Double)
  | ge (limit : Double)
  | lt (limit : Double)
  | le (limit : Double)
  | eq (limit : Double)
deriving DecidableEq, Inhabited

namespace Threshold

/-- The condition that a plain number stands for: frequencies above it, and for one
the frequency of a value that fills all rows. -/
def ofNumber (limit : Double) : Threshold :=
  if Double.numEq limit (Double.ofNat 1) then .eq limit else .gt limit

/-- The name of the kind of condition. -/
def kind : Threshold → String
  | .gt _ => "gt"
  | .ge _ => "ge"
  | .lt _ => "lt"
  | .le _ => "le"
  | .eq _ => "eq"

/-- The frequency that others are compared with. -/
def limit : Threshold → Double
  | .gt limit | .ge limit | .lt limit | .le limit | .eq limit => limit

/-- The frequency passes the threshold. -/
def holds (t : Threshold) (frequency : Double) : Bool :=
  match t with
  | .gt limit => Double.lt limit frequency
  | .ge limit => Double.le limit frequency
  | .lt limit => Double.lt frequency limit
  | .le limit => Double.le frequency limit
  | .eq limit => Double.numEq frequency limit

end Threshold

/-- A value whose frequency passes a threshold. -/
structure Outlier where
  value : Value
  count : Nat
  frequency : Double

/-- The values of some columns whose share of all rows passes a threshold. -/
def frequencyOutliers (t : Table) (columns : List ColumnRef) (threshold : Threshold) :
    Result (List Outlier) :=
  if columns.isEmpty then .error (.construction .noOutlierColumns)
  else
    match t.schema.resolveAll columns with
    | .error e => .error e
    | .ok positions =>
      match t.rows.mapM fun row => Row.project row positions with
      | .error e => .error e
      | .ok vs =>
        let counts := Counter.ofList vs
        .ok (counts.entries.filterMap fun (v, n) =>
          let frequency := Double.div (Double.ofNat n) (Double.ofNat counts.total)
          if threshold.holds frequency then some ⟨v, n, frequency⟩ else none)

end TableFlow
