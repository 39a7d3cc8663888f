import TableFlow.Error
import TableFlow.Spec.Validation

/-!
# Failures

A `Failure` is what ends a run of a specification or a command: a cause, and the
activities in which it arose, from the outside in.
-/

namespace TableFlow

/-- What was being done. -/
inductive Activity where
  | readSpec (path : String)
  | parseSpec
  | writeSpec
  | readHeader (path : String)
  /-- A step, counted from one, was turned into operators. -/
  | compileStep (number : Nat) (label : String)
  | runPipeline (name : String)
  | readSettings (path : String)
  | parseSettings (path : String)
  | createSettingsDirectory (path : String)
  | writeSettings (path : String)
  | createLogDirectory (path : String)
deriving DecidableEq, Inhabited

/-- Why something failed. -/
inductive Cause where
  | error (e : Error)
  | file (fault : Files.Fault)
  /-- A text is no JSON document of the expected shape. -/
  | malformedJson
  | invalidDelimiter (text : String)
  /-- No input was given; the hint says how to give one. -/
  | noInput (hint : String)
  | invalidSpec (findings : List Finding)
  | rejected (count : Nat)
  | updateSource
  | invalidLogFilter (text : String)

/-- A cause with the activities around it, the outermost one first. -/
structure Failure where
  during : List Activity
  cause : Cause

/-- A value or a failure. -/
abbrev Outcome := Except Failure

namespace Activity

/-- The text of an activity that failed. -/
def message : Activity → String
  | .readSpec path => "Failed to read pipeline spec file " ++ path
  | .parseSpec => "Failed to parse pipeline spec JSON"
  | .writeSpec => "Failed to write pipeline spec file"
  | .readHeader path => "Failed to read header of " ++ path
  | .compileStep number label =>
    "Step " ++ Digits.text number ++ " (" ++ label ++ ") is invalid"
  | .runPipeline name => "Pipeline '" ++ name ++ "' failed"
  | .readSettings path => "Failed to read config file " ++ path
  | .parseSettings path => "Failed to parse config file " ++ path
  | .createSettingsDirectory path => "Failed to create config directory " ++ path
  | .writeSettings path => "Failed to write config file " ++ path
  | .createLogDirectory path => "Failed to create log directory: " ++ path

end Activity

namespace Cause

/-- The text of a cause. -/
def message : Cause → String
  | .error e => e.message
  | .file fault => fault.message
  | .malformedJson => "malformed JSON"
  | .invalidDelimiter text =>
    "Invalid delimiter '" ++ text ++ "': expected a single character"
  | .noInput hint => "No input path specified (" ++ hint ++ ")"
  | .invalidSpec findings =>
    "Pipeline validation failed:\n" ++ "\n".intercalate (findings.map Finding.message)
  | .rejected count => Digits.text count ++ " validation error(s)"
  | .updateSource => "update needs exactly one of 'value' or 'mapping'"
  | .invalidLogFilter text => "Invalid log filter '" ++ text ++ "'"

end Cause

namespace Failure

/-- A cause outside any activity. -/
def ofCause (cause : Cause) : Failure := ⟨[], cause⟩

/-- An error of the library outside any activity. -/
def ofError (e : Error) : Failure := ofCause (.error e)

/-- The failure inside one more activity. -/
def within (activity : Activity) (f : Failure) : Failure := ⟨activity :: f.during, f.cause⟩

/-- The texts of a failure, from the outside in. -/
def messages (f : Failure) : List String :=
  f.during.map Activity.message ++ [f.cause.message]

/-- The outermost text of a failure. -/
def headline (f : Failure) : String :=
  match f.during with
  | activity :: _ => activity.message
  | [] => f.cause.message

/-- The lines below the outermost text: what it was caused by, numbered if there are
several causes. -/
def causeLines (texts : List String) : List String :=
  match texts with
  | [] => []
  | [text] => ["", "Caused by:", "    " ++ text]
  | texts =>
    ["", "Caused by:"] ++
      texts.zipIdx.map fun (text, i) => "    " ++ Digits.text i ++ ": " ++ text

/-- A failure as the last words of a program. -/
def report (f : Failure) : String :=
  "\n".intercalate (("Error: " ++ f.headline) :: causeLines f.messages.tail)

end Failure

end TableFlow
