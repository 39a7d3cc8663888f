import TableFlow.Files.Fault
import TableFlow.Number.Digits

/-!
# Faults of delimited text

What can be wrong with a delimited file. A fault names the place where the faulty
record starts.
-/

namespace TableFlow.Csv

/-- A place between two records: how many records came before it, its line counted
from one, and its byte. -/
structure Position where
  record : Nat
  line : Nat
  byte : Nat
deriving DecidableEq, Inhabited, Repr

/-- The start of a file. -/
def Position.start : Position := ⟨0, 1, 0⟩

/-- Why a record could not be read or written. -/
inductive Fault where
  /-- A record with another number of fields than the first one; a record that is
  being written has no place. -/
  | unequalLengths (place : Option Position) (expected actual : Nat)
  /-- A field that is no valid text from the given byte on. -/
  | invalidText (place : Position) (field byte : Nat)
  | file (fault : Files.Fault)
deriving DecidableEq, Inhabited, Repr

namespace Fault

/-- The text of a fault. -/
def message : Fault → String
  | .unequalLengths none expected actual =>
    "CSV error: found record with " ++ Digits.text actual ++
      " fields, but the previous record has " ++ Digits.text expected ++ " fields"
  | .unequalLengths (some p) expected actual =>
    "CSV error: record " ++ Digits.text p.record ++ " (line: " ++ Digits.text p.line ++ ", byte: " ++
      Digits.text p.byte ++ "): found record with " ++ Digits.text actual ++
      " fields, but the previous record has " ++ Digits.text expected ++ " fields"
  | .invalidText p field byte =>
    "CSV parse error: record " ++ Digits.text p.record ++ " (line " ++ Digits.text p.line ++ ", field: " ++
      Digits.text field ++ ", byte: " ++ Digits.text p.byte ++ "): invalid utf-8: invalid UTF-8 in field " ++
      Digits.text field ++ " near byte index " ++ Digits.text byte
  | .file fault => fault.message

end Fault

end TableFlow.Csv
