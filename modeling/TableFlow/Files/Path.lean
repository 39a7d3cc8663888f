import TableFlow.Text.Case
import TableFlow.Text.CharClass

/-!
# Paths

A path is a text; its components are what stands between slashes. Empty
components and single dots say nothing.
-/

namespace TableFlow.Files

/-- The components of a path. -/
def components (path : String) : List String :=
  (Text.pieces '/' path).filter fun c => c ≠ "" && c ≠ "."

/-- The path can only name a directory. -/
def endsInSlash (path : String) : Bool :=
  match (Text.pieces '/' path).reverse with
  | last :: _ :: _ => last = "" || last = "."
  | _ => false

/-- The components of the directory that holds a path. -/
def parentComponents (path : String) : List String := (components path).dropLast

/-- A path and the directories above it, the topmost one first. -/
def ancestors (path : String) : List String :=
  let parts := Text.pieces '/' path
  (List.range parts.length).map fun i => "/".intercalate (parts.take (i + 1))

/-- Parts of a path without those at the end that say nothing; the first part stays. -/
def dropSilent : List String → List String
  | [] => []
  | first :: rest =>
    first :: (rest.reverse.dropWhile fun c => c = "" || c = ".").reverse

/-- The text of the directory that holds a path. -/
def parentText (path : String) : String :=
  match dropSilent (dropSilent (Text.pieces '/' path)).dropLast with
  | [""] => "/"
  | parts => "/".intercalate parts

/-- The last component of a path, if it names something in a directory. -/
def fileName (path : String) : String :=
  match (components path).getLast? with
  | some ".." => ""
  | some name => name
  | none => ""

end TableFlow.Files
