import TableFlow.Counter
import TableFlow.Value.Json

/-!
# Conflicts within groups

A `ConflictSummary` counts, for every value that shares a group with other
values, the groups in which it does so, and the values it meets there.
-/

namespace TableFlow

/-- How often a value was in conflict, and with which values. -/
structure Conflict where
  count : Nat
  partners : Counter Value
deriving Inhabited

/-- The values in conflict, in the order in which they were met. -/
structure ConflictSummary where
  entries : List (Value × Conflict)
deriving Inhabited

namespace ConflictSummary

def empty : ConflictSummary := ⟨[]⟩

/-- Counts one more group in which `v` meets the other values. -/
def addEntry (v : Value) (others : List Value) :
    List (Value × Conflict) → List (Value × Conflict)
  | [] => [(v, ⟨1, Counter.ofList others⟩)]
  | (w, c) :: rest =>
    if w = v then (w, ⟨c.count + 1, c.partners.extend others⟩) :: rest
    else (w, c) :: addEntry v others rest

/-- Adds a group by its different values. A group of fewer than two values holds
no conflict. -/
def addGroup (s : ConflictSummary) (distinct : List Value) : ConflictSummary :=
  if distinct.length < 2 then s
  else
    ⟨distinct.foldl (fun entries v => addEntry v (distinct.filter (· ≠ v)) entries) s.entries⟩

/-- The conflicts of a value. -/
def get? (s : ConflictSummary) (v : Value) : Option Conflict := s.entries.lookup v

def size (s : ConflictSummary) : Nat := s.entries.length

def isEmpty (s : ConflictSummary) : Bool := s.entries.isEmpty

/-- The first `n` entries by falling count, equal counts in the order of the summary. -/
def mostCommon (s : ConflictSummary) (n : Nat) : List (Value × Conflict) :=
  (s.entries.mergeSort fun a b => decide (b.2.count ≤ a.2.count)).take n

end ConflictSummary

/-! ## JSON -/

/-- A summary as an array of pairs of a value and its conflicts. -/
def ConflictSummary.toJson (s : ConflictSummary) : Json :=
  .arr (s.entries.map fun (v, c) =>
    .arr [v.toJson, .obj [("count", Json.ofNat c.count), ("partners", c.partners.toJson Value.toJson)]])

end TableFlow
