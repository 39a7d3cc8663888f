import TableFlow.Number.Digits

/-!
# JSON documents

The tree of a JSON document, and the layouts in which it is written. Objects keep
their members in order, repeated names included, and a number is kept as its text,
so that nothing is lost before the reader of a document decides what a number
stands for.
-/

namespace TableFlow

/-- A JSON document. -/
inductive Json where
  | null
  | bool (b : Bool)
  | num (text : List Char)
  | str (s : String)
  | arr (items : List Json)
  | obj (members : List (String × Json))
deriving Inhabited

namespace Json

/-- A whole number. -/
def ofInt (i : Int) : Json := .num (Digits.ofInt i)

def ofNat (n : Nat) : Json := .num (Digits.ofNat n)

/-! ## Layouts -/

/-- A space, tab or line end between the parts of a document. -/
def isSpace (c : Char) : Bool := c = ' ' || c = '\n' || c = '\t' || c = '\r'

/-- Only spaces, tabs and line ends. -/
def Blank (cs : List Char) : Prop := ∀ c ∈ cs, isSpace c = true

/-- What stands between the parts of a written document. -/
structure Layout where
  /-- In front of an item or a member, and of the bracket behind the last one. -/
  newline : Nat → List Char
  /-- Behind a colon. -/
  space : List Char
  newline_blank : ∀ level, Blank (newline level)
  space_blank : Blank space

namespace Layout

/-- No blanks at all. -/
def compact : Layout :=
  { newline := fun _ => []
    space := []
    newline_blank := by simp [Blank]
    space_blank := by simp [Blank] }

/-- One item or member a line, indented by two spaces a level. -/
def pretty : Layout :=
  { newline := fun level => '\n' :: List.replicate (2 * level) ' '
    space := [' ']
    newline_blank := by
      intro level c hc
      rcases List.mem_cons.mp hc with rfl | hc
      · rfl
      · rw [List.eq_of_mem_replicate hc]
        rfl
    space_blank := by
      intro c hc
      rw [List.mem_singleton.mp hc]
      rfl }

end Layout

end Json

end TableFlow
