import TableFlow.Counter
import TableFlow.Csv.Writer
import TableFlow.Profile.Column
import TableFlow.Table
import TableFlow.Value.Json

/-!
# Reports

The texts in which commands show tables, counts and profiles.
-/

namespace TableFlow

/-- Writes records one after the other, up to the first one that is refused. -/
def Csv.Output.records (o : Csv.Output) : List (List String) → Csv.Output
  | [] => o
  | record :: rest =>
    match o.record (record.map Utf8.ofString) with
    | (.ok (), o) => o.records rest
    | (.error _, o) => o

/-- A table as text: its names and rows, with tabs between the cells. -/
def Table.report (t : Table) : String :=
  let records := t.schema.names :: t.rows.map fun row => row.map Value.text
  let output := (Csv.Output.start 0x09).records records
  (Utf8.toString? output.bytes).getD ""

/-- A counted key as text: the cells of a list have tabs between them. -/
def Value.keyText (v : Value) : String :=
  match v with
  | .list vs => "\t".intercalate (vs.map Value.text)
  | v => v.text

/-- The most frequent values of a counter, one a line behind its count. -/
def Counter.report (c : Counter Value) (top : Nat) : String :=
  String.join ((c.mostCommon top).map fun (v, n) =>
    Digits.text n ++ "\t" ++ v.keyText ++ "\n")

namespace ColumnProfile

/-- The line of one kind of values. -/
def kindLine (p : ColumnProfile) (kind : String) (n : Nat) : String :=
  let range := match p.extremes.lookup kind with
    | some r => " [" ++ r.least.text ++ " .. " ++ r.greatest.text ++ "]"
    | none => ""
  "  " ++ kind ++ ": " ++ Digits.text n ++ range ++ "\n"

/-- The line of the most frequent values, if there are any. -/
def topLine (p : ColumnProfile) : String :=
  if p.top.isEmpty then ""
  else
    "  top: " ++
      ", ".intercalate (p.top.map fun (v, n) => v.text ++ " (" ++ Digits.text n ++ ")") ++ "\n"

/-- A profile as lines of text. -/
def report (p : ColumnProfile) : String :=
  p.column ++ "\n  values: " ++ Digits.text p.total ++ " (" ++ Digits.text p.empty ++
    " empty, " ++ String.ofList p.emptyPercent.oneDecimalText ++ "%), distinct: " ++
    Digits.text p.distinct ++ "\n" ++
    String.join (p.kinds.entries.map fun (kind, n) => p.kindLine kind n) ++ p.topLine

def toJson (p : ColumnProfile) : Json :=
  .obj [("column", .str p.column),
    ("total_count", Json.ofNat p.total),
    ("empty_count", Json.ofNat p.empty),
    ("distinct_count", Json.ofNat p.distinct),
    ("datatypes", p.kinds.toJson .str),
    ("distinct_datatypes", p.distinctKinds.toJson .str),
    ("min_max", .obj (p.extremes.map fun (kind, r) =>
      (kind, .obj [("minimum", r.least.toJson), ("maximum", r.greatest.toJson)]))),
    ("top_values", .arr (p.top.map fun (v, n) => .arr [v.toJson, Json.ofNat n]))]

end ColumnProfile

end TableFlow
