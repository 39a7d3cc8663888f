import TableFlow.Grouping.GroupBy

/-!
# Violations of dependencies

A `Violation` is a grouping whose groups carry counts of the values that break a
rule between columns.

* `dependencyViolations` finds the groups of rows that agree on some columns and
  differ on others.
* `keyViolations` finds the groups of rows that share a key.
-/

namespace TableFlow

/-- Groups of rows that break a rule from the columns `lhs` to the columns `rhs`. -/
structure Violation where
  grouping : Grouping
  counts : List (Value × Counter Value)
  lhs : List ColumnRef
  rhs : List ColumnRef

namespace Violation

/-- No violations yet. -/
def empty (t : Table) (lhs rhs : List ColumnRef) : Violation := ⟨Grouping.empty t, [], lhs, rhs⟩

instance : Inhabited Violation := ⟨empty default [] []⟩

/-- Adds a group, and counts of its values if they are known. -/
def add (v : Violation) (key : Value) (rows : List Nat) (counts : Option (Counter Value)) :
    Result Violation :=
  match v.grouping.add key rows with
  | .error e => .error e
  | .ok grouping =>
    let counts := match counts with
      | some c => v.counts ++ [(key, c)]
      | none => v.counts
    .ok { v with grouping := grouping, counts := counts }

/-- Adds a group, and counts of its values if they are known, in place. The counts are stored
after the group. -/
def insert (v : Violation) (key : Value) (rows : List Nat) (counts : Option (Counter Value)) :
    Result Unit × Violation :=
  if v.grouping.contains key then (.error (.duplicateKey key), v)
  else
    match v.grouping.insert key rows, counts with
    | (.error e, grouping), _ => (.error e, { v with grouping := grouping })
    | (.ok (), grouping), none => (.ok (), { v with grouping := grouping })
    | (.ok (), grouping), some c =>
      (.ok (), { v with grouping := grouping, counts := Grouping.put key c v.counts })

/-- The counts of a group. -/
def counts? (v : Violation) (key : Value) : Option (Counter Value) := v.counts.lookup key

end Violation

/-- Adds the buckets whose rows differ on the given columns. -/
def addViolations (positions : List Nat) (v : Violation) :
    List (Value × List Nat) → Result Violation
  | [] => .ok v
  | (key, rows) :: rest =>
    match Grouping.projected v.grouping.table positions rows with
    | .error e => .error e
    | .ok vs =>
      let counts := Counter.ofList vs
      if 1 < counts.size then
        match v.add key rows (some counts) with
        | .error e => .error e
        | .ok v => addViolations positions v rest
      else addViolations positions v rest

/-- The groups of rows that agree on `lhs` and differ on `rhs`, with the counts of
their values of `rhs`. -/
def dependencyViolations (t : Table) (lhs rhs : List ColumnRef) : Result Violation :=
  let t := t.withUniqueIndex
  match t.schema.resolveAll rhs with
  | .error e => .error e
  | .ok positions =>
    match columnKey lhs with
    | .error e => .error e
    | .ok key =>
      match t.buckets key with
      | .error e => .error e
      | .ok buckets => addViolations positions (Violation.empty t lhs rhs) buckets

/-- The groups of more than one row that share a key. -/
def keyViolations (t : Table) (columns : List ColumnRef) : Result Grouping :=
  let t := t.withUniqueIndex
  match columnKey columns with
  | .error e => .error e
  | .ok key =>
    match t.buckets key with
    | .error e => .error e
    | .ok buckets =>
      addBuckets none (Grouping.empty t) (buckets.filter fun b => decide (1 < b.2.length))

end TableFlow
