/-!
# Faults of the file system

The ways in which an operation on files can fail, with the texts of the operating
system.
-/

namespace TableFlow.Files

/-- Why a file operation failed. -/
inductive Fault where
  | notFound
  | alreadyExists
  | notADirectory
  | isADirectory
  | invalidText
deriving DecidableEq, Inhabited, Repr

namespace Fault

/-- The text of a fault. -/
def message : Fault → String
  | .notFound => "No such file or directory (os error 2)"
  | .alreadyExists => "File exists (os error 17)"
  | .notADirectory => "Not a directory (os error 20)"
  | .isADirectory => "Is a directory (os error 21)"
  | .invalidText => "stream did not contain valid UTF-8"

end Fault

end TableFlow.Files
