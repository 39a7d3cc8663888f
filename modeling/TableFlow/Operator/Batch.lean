import TableFlow.Operator.Collector

/-!
# Operators on tables

Operators applied to a whole table at once. Row identifiers stay with their rows.

* `Table.transform` applies a list of operators.
* `Table.mapping` tabulates what an update makes of the values of some columns.
-/

namespace TableFlow

namespace Table

/-- Applies operators one after the other to the rows of a table. -/
def transform (t : Table) (ops : List Operator) : Result Table :=
  match Chain.openOn t.schema ops with
  | .error e => .error e
  | .ok chain =>
    let driven := drive Collector.table ⟨chain, ⟨chain.schema, []⟩⟩ (t.entries.map .ok)
    match driven.error with
    | some e => .error e
    | none =>
      let entries := driven.running.state.entries.reverse
      ofIndex chain.schema (entries.map Prod.fst) (entries.map Prod.snd)

def filter (t : Table) (p : Predicate) : Result Table := t.transform [.filter p false]

def delete (t : Table) (p : Predicate) : Result Table := t.transform [.filter p true]

def select (t : Table) (columns : List ColumnRef) : Result Table := t.transform [.select columns]

/-- Builds an operator and applies it. -/
def transformWith (t : Table) (op : Result Operator) : Result Table :=
  match op with
  | .error e => .error e
  | .ok op => t.transform [op]

def rename (t : Table) (columns : List ColumnRef) (names : List String) : Result Table :=
  t.transformWith (Operator.ofRename columns names)

def limit (t : Table) (rows : Nat) : Result Table := t.transform [.limit rows]

def insert (t : Table) (names : List String) (pos : Option Nat) (values : InsertValues) :
    Result Table :=
  t.transformWith (Operator.ofInsert names pos values)

def update (t : Table) (columns : List ColumnRef) (func : UpdateFunc) : Result Table :=
  t.transformWith (Operator.ofUpdate columns func)

def typecast (t : Table) (converter : Converter) : Result Table :=
  t.transform [.typecast converter]

/-! ## Mappings -/

/-- Names for the columns of a mapping. -/
def mappingNames (width : Nat) : List String :=
  if width = 1 then ["source", "target"]
  else
    (List.range width).map (fun i => "source" ++ Digits.text i) ++
      (List.range width).map (fun i => "target" ++ Digits.text i)

/-- Sets the target of a source; a new source goes to the end. -/
def putPair (source target : Value) : List (Value × Value) → List (Value × Value)
  | [] => [(source, target)]
  | (other, old) :: rest =>
    if other = source then (source, target) :: rest
    else (other, old) :: putPair source target rest

/-- The values of the given columns in two lists of rows, as pairs by the first one. -/
def pairsOf (positions : List Nat) (pairs : List (Value × Value)) :
    List (Row × Row) → Result (List (Value × Value))
  | [] => .ok pairs
  | (before, after) :: rest =>
    match Row.project before positions with
    | .error e => .error e
    | .ok source =>
      match Row.project after positions with
      | .error e => .error e
      | .ok target => pairsOf positions (putPair source target pairs) rest

/-- The cells of a projected value. -/
def unproject (width : Nat) (v : Value) : Row :=
  match v with
  | .list vs => if 1 < width then vs else [v]
  | v => [v]

/-- The table of the different values of some columns, each with what an update makes
of it in the last row that has it. -/
def mapping (t : Table) (columns : List ColumnRef) (func : UpdateFunc)
    (names : Option (List String)) : Result Table :=
  match t.schema.resolveAll columns with
  | .error e => .error e
  | .ok positions =>
    let width := positions.length
    let names := names.getD (mappingNames width)
    if names.length ≠ 2 * width then
      .error (.construction (.mappingNames (2 * width) names.length))
    else
      match t.update columns func with
      | .error e => .error e
      | .ok updated =>
        match pairsOf positions [] (t.rows.zip updated.rows) with
        | .error e => .error e
        | .ok pairs =>
          match Schema.ofNames names with
          | .error e => .error e
          | .ok schema =>
            ofRows schema (pairs.map fun (source, target) =>
              unproject width source ++ unproject width target)

end Table

end TableFlow
