import TableFlow.Error

/-!
# Schemas

A `Schema` is a list of different column names in order. References are resolved
against it to positions, and operators derive new schemas from it; every
derivation checks again that the names differ.
-/

namespace TableFlow

/-- The first name that occurred before in the list, or in `seen`. -/
def firstRepeated? (seen : List String) : List String → Option String
  | [] => none
  | name :: names =>
    if name ∈ seen then some name else firstRepeated? (name :: seen) names

/-- A name that is not found repeated occurs once, and not in `seen`. -/
theorem nodup_of_firstRepeated?_eq_none {seen names : List String}
    (h : firstRepeated? seen names = none) :
    names.Nodup ∧ ∀ name ∈ names, name ∉ seen := by
  induction names generalizing seen with
  | nil => simp
  | cons name names ih =>
    rw [firstRepeated?] at h
    split at h
    · simp at h
    · rename_i fresh
      obtain ⟨nodup, apart⟩ := ih h
      refine ⟨List.nodup_cons.2 ⟨fun member => ?_, nodup⟩, ?_⟩
      · exact apart name member (by simp)
      · intro other member
        rcases List.mem_cons.1 member with rfl | member
        · exact fresh
        · intro inSeen
          exact apart other member (by simp [inSeen])

/-- The names of a table's columns. -/
structure Schema where
  names : List String
  nodup : names.Nodup := by decide
deriving DecidableEq

instance : Inhabited Schema := ⟨⟨[], by simp⟩⟩

namespace Schema

/-- The schema with these names, if they differ. -/
def ofNames (names : List String) : Result Schema :=
  match h : firstRepeated? [] names with
  | none => .ok ⟨names, (nodup_of_firstRepeated?_eq_none h).1⟩
  | some name => .error (.duplicateColumn name)

/-- The number of columns. -/
def width (s : Schema) : Nat := s.names.length

def isEmpty (s : Schema) : Bool := s.names.isEmpty

def name? (s : Schema) (pos : Nat) : Option String := s.names[pos]?

/-- The position of a name. -/
def position? (s : Schema) (name : String) : Option Nat := s.names.idxOf? name

def contains (s : Schema) (name : String) : Bool := (s.position? name).isSome

/-- The text of a schema: its names between brackets. -/
def text (s : Schema) : String := "[" ++ ", ".intercalate s.names ++ "]"

/-! ## Resolving references -/

/-- The position that a reference stands for. -/
def resolve (s : Schema) (column : ColumnRef) : Result Nat :=
  match column with
  | .position pos =>
    if pos < s.width then .ok pos else .error (.unknownColumn (.reference column))
  | .name name =>
    match s.position? name with
    | some pos => .ok pos
    | none => .error (.unknownColumn (.reference column))

/-- The positions of several references; the first one that fails decides. -/
def resolveAll (s : Schema) : List ColumnRef → Result (List Nat)
  | [] => .ok []
  | column :: columns =>
    match s.resolve column with
    | .error e => .error e
    | .ok pos =>
      match s.resolveAll columns with
      | .error e => .error e
      | .ok positions => .ok (pos :: positions)

/-! ## Derived schemas -/

/-- The names at the given positions. -/
def namesAt (s : Schema) : List Nat → Result (List String)
  | [] => .ok []
  | pos :: positions =>
    match s.name? pos with
    | none => .error (.unknownColumn (.position pos s.width))
    | some name =>
      match s.namesAt positions with
      | .error e => .error e
      | .ok names => .ok (name :: names)

/-- The schema of the columns at the given positions. -/
def project (s : Schema) (positions : List Nat) : Result Schema :=
  match s.namesAt positions with
  | .error e => .error e
  | .ok names => ofNames names

/-- The schema with names inserted at a position, by default at the end. -/
def insert (s : Schema) (pos : Option Nat) (names : List String) : Result Schema :=
  let pos := pos.getD s.width
  if s.width < pos then .error (.construction (.insertPosition pos s.width))
  else ofNames (s.names.take pos ++ names ++ s.names.drop pos)

/-- Names with those at the given positions replaced, one after the other. -/
def replaceNames (width : Nat) (current : List String) :
    List (Nat × String) → Result (List String)
  | [] => .ok current
  | (pos, name) :: rest =>
    if pos < current.length then replaceNames width (current.set pos name) rest
    else .error (.unknownColumn (.position pos width))

/-- The schema with the names at the given positions replaced. -/
def rename (s : Schema) (positions : List Nat) (names : List String) : Result Schema :=
  match replaceNames s.width s.names (positions.zip names) with
  | .error e => .error e
  | .ok names => ofNames names

end Schema

end TableFlow
