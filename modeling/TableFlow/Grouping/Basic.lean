import TableFlow.Grouping.Conflict
import TableFlow.Table

/-!
# Groupings

A `Grouping` names groups of rows of one table by keys. Groups are lists of row
positions; they may overlap and need not cover the table. Keys differ, and keep
the order in which they were added.
-/

namespace TableFlow

/-- Named groups of row positions of a table. -/
structure Grouping where
  table : Table
  groups : List (Value × List Nat)

namespace Grouping

/-- The grouping of a table without groups. -/
def empty (t : Table) : Grouping := ⟨t, []⟩

instance : Inhabited Grouping := ⟨empty default⟩

/-- The positions of a group. -/
def rows? (g : Grouping) (key : Value) : Option (List Nat) := g.groups.lookup key

def contains (g : Grouping) (key : Value) : Bool := (g.rows? key).isSome

def keys (g : Grouping) : List Value := g.groups.map Prod.fst

def size (g : Grouping) : Nat := g.groups.length

def isEmpty (g : Grouping) : Bool := g.groups.isEmpty

/-- Adds a group under a new key. All positions have to lie in the table. -/
def add (g : Grouping) (key : Value) (rows : List Nat) : Result Grouping :=
  if g.contains key then .error (.duplicateKey key)
  else
    match rows.find? fun pos => g.table.size ≤ pos with
    | some pos => .error (.construction (.rowPosition pos g.table.size))
    | none => .ok ⟨g.table, g.groups ++ [(key, rows)]⟩

/-- Stores a value under a key, in the place of the one that was there or behind all others. -/
def put {α : Type} (key : Value) (new : α) : List (Value × α) → List (Value × α)
  | [] => [(key, new)]
  | (k, old) :: rest => if k = key then (k, new) :: rest else (k, old) :: put key new rest

/-- Adds a group to a grouping that is changed in place: the outcome, and what is left behind. -/
def insert (g : Grouping) (key : Value) (rows : List Nat) : Result Unit × Grouping :=
  if g.contains key then (.error (.duplicateKey key), g)
  else
    match rows.find? fun pos => g.table.size ≤ pos with
    | some pos => (.error (.construction (.rowPosition pos g.table.size)), g)
    | none => (.ok (), { g with groups := put key rows g.groups })

/-- The rows of a group as a table, if there is such a group. -/
def get (g : Grouping) (key : Value) : Result (Option Table) :=
  match g.rows? key with
  | none => .ok none
  | some rows => (g.table.take rows).map some

/-- All groups as tables. -/
def items (g : Grouping) : Result (List (Value × Table)) :=
  g.groups.mapM fun (key, rows) => (g.table.take rows).map fun t => (key, t)

/-- The cells of some columns in the rows at the given positions. -/
def projected (t : Table) (columns : List Nat) (rows : List Nat) : Result (List Value) :=
  rows.mapM fun pos =>
    match t.rowAt pos with
    | .error e => .error e
    | .ok row => Row.project row columns

/-- How often each value of the given columns occurs in a group. -/
def values (g : Grouping) (key : Value) (columns : List ColumnRef) :
    Result (Option (Counter Value)) :=
  match g.table.schema.resolveAll columns with
  | .error e => .error e
  | .ok positions =>
    match g.rows? key with
    | none => .ok none
    | some rows => (projected g.table positions rows).map fun vs => some (Counter.ofList vs)

/-- The conflicts between the values of the given columns within each group. -/
def conflicts (g : Grouping) (columns : List ColumnRef) : Result ConflictSummary :=
  match g.table.schema.resolveAll columns with
  | .error e => .error e
  | .ok positions =>
    g.groups.foldlM (fun summary (_, rows) =>
      (projected g.table positions rows).map fun vs =>
        summary.addGroup (Counter.ofList vs).keys) ConflictSummary.empty

end Grouping

end TableFlow
