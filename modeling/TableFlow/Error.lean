import TableFlow.Column
import TableFlow.Csv.Fault
import TableFlow.Pattern.Fault
import TableFlow.Value.Basic

/-!
# Errors

What can go wrong, by the moment at which it shows:

* *construction*: a function, predicate or operator is built from unfit parts;
* *binding*: a column reference does not fit the schema it is bound to;
* *evaluation*: a value of the wrong kind reaches a function on some row;
* *grouping*: a key is added twice, or a callback breaks its promise;
* reading and writing files.

Errors carry their causes. The wording is in `Error.message` alone.
-/

namespace TableFlow

/-- Why something could not be built. -/
inductive BuildFault where
  /-- A function or predicate that needs arguments was given none. -/
  | noArguments (what : String)
  | indexOutOfRange (index count : Nat)
  | argumentOutOfRange (index count : Nat)
  | insertPosition (pos width : Nat)
  | indexCount (ids rows : Nat)
  | rowWidth (pos actual width : Nat)
  | rowPosition (pos rows : Nat)
  | renameCount (names columns : Nat)
  | insertNothing
  | insertCount (values names : Nat)
  | updateNothing
  | mappingNames (expected actual : Nat)
  | noKeyColumns
  | noOutlierColumns
deriving DecidableEq, Inhabited

/-- Why a column could not be found. -/
inductive ColumnFault where
  | reference (column : ColumnRef)
  /-- A position beyond the columns of a schema. -/
  | position (pos width : Nat)
  /-- A position beyond the values of a row. -/
  | cell (pos width : Nat)
deriving DecidableEq, Inhabited

/-- Why a value did not fit a function. -/
inductive TypeFault where
  | shortRow (pos width : Nat)
  | notText (v : Value)
  | sumOverflow
  | notAddable (v : Value)
  | notNumeric
  | notMatchable (pattern : String) (v : Value)
  | notBoolean (v : Value)
  | notValues (width : Nat) (v : Value)

/-- Why a data frame could not be built. -/
inductive FrameFault where
  | duplicateName (name : String)
  | unequalHeights
deriving DecidableEq, Inhabited

/-- An error of the library. -/
inductive Error where
  | construction (fault : BuildFault)
  | arity (expected actual : Nat)
  | unknownColumn (fault : ColumnFault)
  | duplicateColumn (name : String)
  | unprepared (column : ColumnRef)
  | type (fault : TypeFault)
  | duplicateKey (key : Value)
  | malformed (row expected actual : Nat)
  /-- A callback on groups returned something other than a truth value. -/
  | contract (returned : Value)
  | invalidPattern (fault : Pattern.Fault)
  | file (fault : Files.Fault)
  | csv (fault : Csv.Fault)
  | frame (fault : FrameFault)
  /-- An error together with what was being done. -/
  | during (what : String) (cause : Error)
  /-- An error of a callback or of a source, in its own words. -/
  | other (text : String)

/-- A value or an error of the library. -/
abbrev Result := Except Error

def BuildFault.message : BuildFault → String
  | .noArguments what => what ++ " needs at least one argument"
  | .indexOutOfRange index count =>
    "index " ++ Digits.text index ++ " out of range for " ++ Digits.text count ++ " values"
  | .argumentOutOfRange index count =>
    "argument " ++ Digits.text index ++ " out of range for " ++ Digits.text count ++ " argument(s)"
  | .insertPosition pos width =>
    "insert position " ++ Digits.text pos ++ " out of range for " ++ Digits.text width ++ " columns"
  | .indexCount ids rows => Digits.text ids ++ " row identifiers for " ++ Digits.text rows ++ " rows"
  | .rowWidth pos actual width =>
    "row " ++ Digits.text pos ++ " has " ++ Digits.text actual ++ " values, schema has " ++ Digits.text width ++
      " columns"
  | .rowPosition pos rows =>
    "row position " ++ Digits.text pos ++ " out of range for " ++ Digits.text rows ++ " rows"
  | .renameCount names columns => Digits.text names ++ " new names for " ++ Digits.text columns ++ " columns"
  | .insertNothing => "no column names to insert"
  | .insertCount values names =>
    Digits.text values ++ " values for " ++ Digits.text names ++ " inserted columns"
  | .updateNothing => "no columns to update"
  | .mappingNames expected actual =>
    "expected " ++ Digits.text expected ++ " column names for the mapping, got " ++ Digits.text actual
  | .noKeyColumns => "no key columns given"
  | .noOutlierColumns => "no columns given for frequency outliers"

def ColumnFault.message : ColumnFault → String
  | .reference column => column.text
  | .position pos width =>
    "position " ++ Digits.text pos ++ " out of range for " ++ Digits.text width ++ " columns"
  | .cell pos width => "position " ++ Digits.text pos ++ " in a row of " ++ Digits.text width ++ " values"

def TypeFault.message : TypeFault → String
  | .shortRow pos width =>
    "row with " ++ Digits.text width ++ " values has no column at position " ++ Digits.text pos
  | .notText v => "expected a string, got " ++ v.described
  | .sumOverflow => "integer overflow in sum"
  | .notAddable v => "cannot add " ++ v.described
  | .notNumeric => "mean of non-numeric values"
  | .notMatchable pattern v => "cannot match pattern '" ++ pattern ++ "' against " ++ v.described
  | .notBoolean v => "predicate function returned " ++ v.described
  | .notValues width v =>
    "expected a list of " ++ Digits.text width ++ " values, got '" ++ v.text ++ "'"

def FrameFault.message : FrameFault → String
  | .duplicateName name => "column with name '" ++ name ++ "' has more than one occurrence"
  | .unequalHeights => "column heights differ"

namespace Error

/-- The text of an error. -/
def message : Error → String
  | .construction fault => "Construction error: " ++ fault.message
  | .arity expected actual =>
    "Arity mismatch: expected " ++ Digits.text expected ++ " argument(s), got " ++ Digits.text actual
  | .unknownColumn fault => "Unknown column: " ++ fault.message
  | .duplicateColumn name => "Duplicate column name: " ++ name
  | .unprepared column => "Function evaluated before prepare: " ++ column.text
  | .type fault => "Type error: " ++ fault.message
  | .duplicateKey key => "Duplicate group key: " ++ key.text
  | .malformed row expected actual =>
    "Malformed row " ++ Digits.text row ++ ": expected " ++ Digits.text expected ++ " value(s), got " ++
      Digits.text actual
  | .contract returned =>
    "Contract violation: having callback returned " ++ returned.described ++
      ", expected a boolean"
  | .invalidPattern fault => "Invalid pattern: " ++ fault.message
  | .file fault => "I/O error: " ++ fault.message
  | .csv fault => "CSV error: " ++ fault.message
  | .frame fault => "Frame error: " ++ fault.message
  | .during what cause => what ++ ": " ++ cause.message
  | .other text => text

end Error

end TableFlow
