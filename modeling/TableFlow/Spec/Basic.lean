import TableFlow.Expr.Basic
import TableFlow.Profile.Convert

/-!
# Pipeline specifications

A `PipelineSpec` describes a run in plain data: where the rows come from, the steps
that they go through, and where they are written. Steps refer to columns by name.
-/

namespace TableFlow

/-! ## Mappings -/

/-- Values by different names, in order. -/
structure Mapping (α : Type) where
  entries : List (String × α)
  nodup : (entries.map Prod.fst).Nodup := by decide
deriving DecidableEq

namespace Mapping

variable {α : Type}

instance : Inhabited (Mapping α) := ⟨⟨[], by simp⟩⟩

/-- Sets the value of a name; a new name goes to the end. -/
def setEntry (name : String) (a : α) : List (String × α) → List (String × α)
  | [] => [(name, a)]
  | (other, old) :: rest =>
    if other = name then (name, a) :: rest else (other, old) :: setEntry name a rest

theorem mem_names_setEntry {name other : String} {a : α} {entries : List (String × α)} :
    other ∈ (setEntry name a entries).map Prod.fst ↔
      other = name ∨ other ∈ entries.map Prod.fst := by
  induction entries with
  | nil => simp [setEntry]
  | cons entry rest ih =>
    obtain ⟨key, old⟩ := entry
    rw [setEntry]
    split
    · rename_i same
      subst same
      simp
    · rw [List.map_cons, List.mem_cons, ih, List.map_cons, List.mem_cons]
      constructor <;> rintro (h | h | h) <;> simp [h]

theorem nodup_names_setEntry {name : String} {a : α} {entries : List (String × α)}
    (h : (entries.map Prod.fst).Nodup) : ((setEntry name a entries).map Prod.fst).Nodup := by
  induction entries with
  | nil => simp [setEntry]
  | cons entry rest ih =>
    obtain ⟨key, old⟩ := entry
    rw [setEntry]
    split
    · rename_i same
      subst same
      exact h
    · rename_i apart
      rw [List.map_cons, List.nodup_cons] at h ⊢
      refine ⟨fun member => ?_, ih h.2⟩
      rcases mem_names_setEntry.1 member with same | member
      · exact apart same
      · exact h.1 member

/-- The mapping with the value of a name set. -/
def set (m : Mapping α) (name : String) (a : α) : Mapping α :=
  ⟨setEntry name a m.entries, nodup_names_setEntry m.nodup⟩

/-- The mapping of some pairs; of several pairs with one name, the last value stands
at the place of the first pair. -/
def ofPairs (pairs : List (String × α)) : Mapping α :=
  pairs.foldl (fun m (name, a) => m.set name a) default

def names (m : Mapping α) : List String := m.entries.map Prod.fst

def values (m : Mapping α) : List α := m.entries.map Prod.snd

end Mapping

/-! ## Steps -/

/-- A test of one column. -/
inductive Condition where
  | compare (op : CompareOp) (column : String) (value : Value)
  | isEmpty (column : String)
  /-- The text matches a pattern from its start on, or as a whole. -/
  | matchText (column pattern : String) (whole : Bool)
deriving DecidableEq, Inhabited

/-- A cleaning of the texts in a column. -/
inductive Tidying where
  | lower
  | upper
  | trim
deriving DecidableEq, Inhabited, Repr

/-- One step of a specification. -/
inductive Step where
  | select (columns : List String) (names : Option (List String))
  | rename (mapping : Mapping String)
  | filter (condition : Condition)
  | delete (condition : Condition)
  | limit (rows : UInt64)
  | insert (name : String) (position : Option UInt64) (value : Value)
  /-- Sets a value, or looks the new value up by the text of the old one. -/
  | update (columns : List String) (value : Option Value) (mapping : Option (Mapping Value))
  | typecast (types : Option (List RawType))
  | tidy (op : Tidying) (columns : List String)
deriving DecidableEq, Inhabited

/-- Where the rows come from. -/
structure InputConfig where
  path : Option String := none
  delimiter : Option String := none
  /-- The column names of a file without a header line. -/
  header : Option (List String) := none
deriving DecidableEq, Inhabited

/-- Where the rows are written. -/
structure OutputConfig where
  path : String
  delimiter : Option String := none
deriving DecidableEq, Inhabited

/-- A description of a run. -/
structure PipelineSpec where
  version : String
  name : String
  description : Option String := none
  input : InputConfig := {}
  steps : List Step := []
  output : Option OutputConfig := none
deriving DecidableEq, Inhabited

/-! ## Names -/

/-- The column that a condition tests. -/
def Condition.column : Condition → String
  | .compare _ column _ => column
  | .isEmpty column => column
  | .matchText column _ _ => column

namespace Tidying

def name : Tidying → String
  | .lower => "lower"
  | .upper => "upper"
  | .trim => "trim"

def textOp : Tidying → TextOp
  | .lower => .lower
  | .upper => .upper
  | .trim => .trim

end Tidying

/-- The name of a step's kind. -/
def Step.label : Step → String
  | .select _ _ => "select"
  | .rename _ => "rename"
  | .filter _ => "filter"
  | .delete _ => "delete"
  | .limit _ => "limit"
  | .insert _ _ _ => "insert"
  | .update _ _ _ => "update"
  | .typecast _ => "typecast"
  | .tidy op _ => op.name

namespace PipelineSpec

/-- The version of specifications that is understood. -/
def supportedVersion : String := "0.1"

/-- The specification with one more step. -/
def withStep (spec : PipelineSpec) (step : Step) : PipelineSpec :=
  { spec with steps := spec.steps ++ [step] }

end PipelineSpec

end TableFlow
