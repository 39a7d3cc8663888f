import TableFlow.Json.Basic

/-!
# Counters

A `Counter` counts values and lists them in the order in which they were first
added. `Counter.mostCommon` ranks by count and keeps that order among equals. As JSON, a
counter is an array of pairs, so that values of any kind can be counted.
-/

namespace TableFlow

/-- Counts of values, in first-seen order. -/
structure Counter (α : Type) where
  entries : List (α × Nat)

namespace Counter

variable {α : Type}

def empty : Counter α := ⟨[]⟩

instance : Inhabited (Counter α) := ⟨empty⟩

/-- Adds `n` to the count of a value; a new value goes to the end. -/
def addEntry [DecidableEq α] (a : α) (n : Nat) : List (α × Nat) → List (α × Nat)
  | [] => [(a, n)]
  | (b, m) :: rest => if b = a then (b, m + n) :: rest else (b, m) :: addEntry a n rest

/-- Adds a value `n` times. -/
def addN [DecidableEq α] (c : Counter α) (a : α) (n : Nat) : Counter α :=
  ⟨addEntry a n c.entries⟩

def add [DecidableEq α] (c : Counter α) (a : α) : Counter α := c.addN a 1

/-- Adds values one by one. -/
def extend [DecidableEq α] (c : Counter α) (as : List α) : Counter α := as.foldl add c

/-- The counter of the values of a list. -/
def ofList [DecidableEq α] (as : List α) : Counter α := empty.extend as

/-- The count of a value, zero if it was never added. -/
def get [DecidableEq α] (c : Counter α) (a : α) : Nat := (c.entries.lookup a).getD 0

def contains [DecidableEq α] (c : Counter α) (a : α) : Bool := (c.entries.lookup a).isSome

/-- The number of different values. -/
def size (c : Counter α) : Nat := c.entries.length

def isEmpty (c : Counter α) : Bool := c.entries.isEmpty

/-- The sum of all counts. -/
def total (c : Counter α) : Nat := c.entries.foldr (fun entry n => entry.2 + n) 0

def keys (c : Counter α) : List α := c.entries.map Prod.fst

/-- Entries by falling count, equal counts in first-seen order. -/
def ranked (c : Counter α) : List (α × Nat) :=
  c.entries.mergeSort fun a b => decide (b.2 ≤ a.2)

/-- The first `n` entries of the ranking. -/
def mostCommon (c : Counter α) (n : Nat) : List (α × Nat) := c.ranked.take n

/-- The pairs of counted things and their counts. -/
def toJson (encode : α → Json) (c : Counter α) : Json :=
  .arr (c.entries.map fun (a, n) => .arr [encode a, Json.ofNat n])

end Counter

end TableFlow
