import TableFlow.Spec.Basic

/-!
# Validation of specifications

A specification is checked against the column names of its input, before any row
is read. Each step is checked against the names that the steps before it leave, and
all problems are reported.

* `Step.problems` are the problems of one step, `Step.columnsAfter` the names that
  it leaves.
* `PipelineSpec.findings` are the problems of a specification with their places.
-/

namespace TableFlow

/-- What can be wrong with a specification. -/
inductive Problem where
  | unsupportedVersion (version : String)
  | selectsNothing
  /-- A step works on a column that is not there. -/
  | missingColumn (label column : String)
  | nameCount (names columns : Nat)
  | duplicateName (name : String)
  | renameTarget (source target : String)
  | insertedName (name : String)
  | insertPosition (pos width : Nat)
  | updateSource
  | noTypes
  | untestable (column : String)
  | invalidPattern (fault : Pattern.Fault)

namespace Problem

/-- The text of a problem. -/
def message : Problem → String
  | .unsupportedVersion version =>
    "Unsupported spec version '" ++ version ++ "', expected '" ++
      PipelineSpec.supportedVersion ++ "'"
  | .selectsNothing => "Select needs at least one column"
  | .missingColumn label column =>
    "Cannot " ++ label ++ " non-existent column '" ++ column ++ "'"
  | .nameCount names columns =>
    "Got " ++ Digits.text names ++ " new names for " ++ Digits.text columns ++
      " selected columns"
  | .duplicateName name => "Duplicate column name '" ++ name ++ "'"
  | .renameTarget source target =>
    "Cannot rename '" ++ source ++ "' to '" ++ target ++ "': target already exists"
  | .insertedName name => "Cannot insert column '" ++ name ++ "': column already exists"
  | .insertPosition pos width =>
    "Insert position " ++ Digits.text pos ++ " out of range for " ++ Digits.text width ++
      " columns"
  | .updateSource => "Update needs exactly one of 'value' or 'mapping'"
  | .noTypes => "Typecast type list is empty"
  | .untestable column => "Condition references non-existent column '" ++ column ++ "'"
  | .invalidPattern fault => "Invalid regex pattern: " ++ fault.message

end Problem

/-- A problem, and the place of the step that has it. -/
structure Finding where
  step : Option Nat
  problem : Problem

/-- The text of a finding; steps are counted from one. -/
def Finding.message (f : Finding) : String :=
  match f.step with
  | some i => "Step " ++ Digits.text (i + 1) ++ ": " ++ f.problem.message
  | none => "Schema: " ++ f.problem.message

/-! ## Checks -/

/-- A problem for every column that is not there. -/
def missingColumns (label : String) (available columns : List String) : List Problem :=
  (columns.filter fun column => !available.contains column).map (.missingColumn label)

/-- A problem for every name that occurred before in the list, or in `seen`. -/
def repeatedNames (seen : List String) : List String → List Problem
  | [] => []
  | name :: names =>
    if name ∈ seen then .duplicateName name :: repeatedNames seen names
    else repeatedNames (name :: seen) names

/-- The problems of a condition: its column has to be there, and its pattern has to be
a pattern as it stands. -/
def Condition.problems [Pattern.Engine] (available : List String) (condition : Condition) :
    List Problem :=
  let missing :=
    if available.contains condition.column then [] else [.untestable condition.column]
  match condition with
  | .matchText _ pattern _ =>
    match Pattern.Engine.compile pattern with
    | .error fault => missing ++ [.invalidPattern fault]
    | .ok _ => missing
  | _ => missing

/-- The names after one column got a new name. Renaming a column to its own name
changes nothing. -/
def renameColumn (available : List String) (source target : String) :
    Except Problem (List String) :=
  match available.idxOf? source with
  | none => .error (.missingColumn "rename" source)
  | some pos =>
    if source = target then .ok available
    else if available.contains target then .error (.renameTarget source target)
    else .ok (available.set pos target)

/-- The names after several columns got new names one after the other, those that
cannot be renamed keeping theirs. -/
def renameColumns (available : List String) : List (String × String) → List String
  | [] => available
  | (source, target) :: rest =>
    match renameColumn available source target with
    | .error _ => renameColumns available rest
    | .ok renamed => renameColumns renamed rest

/-- The problems of renaming columns one after the other. -/
def renameProblems (available : List String) : List (String × String) → List Problem
  | [] => []
  | (source, target) :: rest =>
    match renameColumn available source target with
    | .error problem => problem :: renameProblems available rest
    | .ok renamed => renameProblems renamed rest

namespace Step

/-- The names that a selection leaves. -/
def selectedNames (columns : List String) (names : Option (List String)) : List String :=
  match names with
  | some names => if names.length = columns.length then names else columns
  | none => columns

/-- The problems of a step on columns with these names. -/
def problems [Pattern.Engine] (available : List String) (step : Step) : List Problem :=
  match step with
  | .select columns names =>
    -- all of these are reported, also when one of them explains another
    let nothing := if columns.isEmpty then [.selectsNothing] else []
    let count := match names with
      | some names =>
        if names.length = columns.length then []
        else [.nameCount names.length columns.length]
      | none => []
    nothing ++ missingColumns "select" available columns ++ count ++
      repeatedNames [] (selectedNames columns names)
  | .rename mapping => renameProblems available mapping.entries
  | .filter condition => condition.problems available
  | .delete condition => condition.problems available
  | .limit _ => []
  | .insert name position _ =>
    if available.contains name then [.insertedName name]
    else
      match position with
      | some pos =>
        if available.length < pos.toNat then [.insertPosition pos.toNat available.length]
        else []
      | none => []
  | .update columns value mapping =>
    missingColumns "update" available columns ++
      if value.isSome == mapping.isSome then [.updateSource] else []
  | .typecast types =>
    match types with
    | some [] => [.noTypes]
    | _ => []
  | .tidy op columns => missingColumns op.name available columns

/-- The names that a step leaves of columns with these names. -/
def columnsAfter (available : List String) (step : Step) : List String :=
  match step with
  | .select columns names => selectedNames columns names
  | .rename mapping => renameColumns available mapping.entries
  | .insert name position _ =>
    if available.contains name then available
    else
      match position with
      | some pos =>
        if available.length < pos.toNat then available
        else available.take pos.toNat ++ name :: available.drop pos.toNat
      | none => available ++ [name]
  | _ => available

end Step

/-- The names that steps leave of columns with these names. -/
def columnsAfterSteps (available : List String) (steps : List Step) : List String :=
  steps.foldl Step.columnsAfter available

/-- The findings on steps, the first of which has the given place. -/
def stepFindings [Pattern.Engine] (place : Nat) (available : List String) :
    List Step → List Finding
  | [] => []
  | step :: steps =>
    (step.problems available).map (fun problem => ⟨some place, problem⟩) ++
      stepFindings (place + 1) (step.columnsAfter available) steps

/-- The findings on a specification whose input has columns with these names. -/
def PipelineSpec.findings [Pattern.Engine] (spec : PipelineSpec) (available : List String) :
    List Finding :=
  let version :=
    if spec.version = supportedVersion then []
    else [⟨none, .unsupportedVersion spec.version⟩]
  version ++ stepFindings 0 available spec.steps

end TableFlow
