import TableFlow.Json.Record
import TableFlow.Spec.Basic
import TableFlow.Value.Json

/-!
# Specifications as JSON

A specification is written with its absent parts left out. It is read from an
object or an array; absent parts get their defaults. A step carries the name of its
kind under `op`, a condition under `test`.

* `PipelineSpec.toJson` and `PipelineSpec.ofJson?` are the two directions.
-/

namespace TableFlow

/-! ## Writing -/

namespace Json

/-- A field, left out if it is absent. -/
def present {α : Type} (name : String) (encode : α → Json) : Option α → Fields
  | some a => [(name, encode a)]
  | none => []

def ofStrings (names : List String) : Json := .arr (names.map .str)

def ofMapping {α : Type} (encode : α → Json) (m : Mapping α) : Json :=
  .obj (m.entries.map fun (name, a) => (name, encode a))

def ofWord (n : UInt64) : Json := ofNat n.toNat

end Json

open Json (present ofStrings ofMapping ofWord)

namespace Condition

def toJson : Condition → Json
  | .compare op column value =>
    .obj [("test", .str op.name), ("column", .str column), ("value", value.toJson)]
  | .isEmpty column => .obj [("test", .str "is_empty"), ("column", .str column)]
  | .matchText column pattern whole =>
    .obj [("test", .str "matches"), ("column", .str column), ("pattern", .str pattern),
      ("full", .bool whole)]

end Condition

namespace Step

/-- The fields of a step, apart from the name of its kind. -/
def fields : Step → Json.Fields
  | .select columns names => ("columns", ofStrings columns) :: present "names" ofStrings names
  | .rename mapping => [("mapping", ofMapping .str mapping)]
  | .filter condition => [("condition", condition.toJson)]
  | .delete condition => [("condition", condition.toJson)]
  | .limit rows => [("rows", ofWord rows)]
  | .insert name position value =>
    ("name", .str name) :: present "position" ofWord position ++ [("value", value.toJson)]
  | .update columns value mapping =>
    ("columns", ofStrings columns) :: present "value" Value.toJson value ++
      present "mapping" (ofMapping Value.toJson) mapping
  | .typecast types => present "types" (fun ts => ofStrings (ts.map RawType.name)) types
  | .tidy _ columns => [("columns", ofStrings columns)]

def toJson (step : Step) : Json := .obj (("op", .str step.label) :: step.fields)

end Step

def InputConfig.toJson (input : InputConfig) : Json :=
  .obj (present "path" .str input.path ++ present "delimiter" .str input.delimiter ++
    present "header" ofStrings input.header)

def OutputConfig.toJson (output : OutputConfig) : Json :=
  .obj (("path", .str output.path) :: present "delimiter" .str output.delimiter)

namespace PipelineSpec

def toJson (spec : PipelineSpec) : Json :=
  .obj ([("version", .str spec.version), ("name", .str spec.name)] ++
    present "description" .str spec.description ++
    [("input", spec.input.toJson), ("steps", .arr (spec.steps.map Step.toJson))] ++
    present "output" OutputConfig.toJson spec.output)

/-- The indented JSON text of a specification. -/
def jsonText (spec : PipelineSpec) : String := String.ofList spec.toJson.pretty

end PipelineSpec

/-! ## Reading -/

namespace Json

def strings? : Json → Option (List String) := array? string?

def mapping? {α : Type} (decode : Json → Option α) (j : Json) : Option (Mapping α) :=
  (entries? decode j).map Mapping.ofPairs

end Json

open Json (string? bool? word? array? strings? mapping?)

/-- A type is written as its name, or as an object from its name to nothing. -/
def RawType.ofJson? : Json → Option RawType
  | .str name => RawType.ofName? name
  | .obj [(name, .null)] => RawType.ofName? name
  | .obj [(name, .obj [])] => RawType.ofName? name
  | _ => none

namespace Condition

/-- The names of the tests, in order. -/
def testNames : List String := ["eq", "ne", "gt", "ge", "lt", "le", "is_empty", "matches"]

/-- A test is named, or given by its place among the tests. -/
def testName? : Json → Option String
  | .str name => some name
  | j =>
    match word? j with
    | some n => testNames[n.toNat]?
    | none => none

def compareOfJson? (op : CompareOp) (j : Json) : Option Condition := do
  let fields ← Json.record? ["column", "value"] j
  let column ← fields.required "column" string?
  let value ← fields.required "value" Value.ofJson?
  pure (.compare op column value)

def ofJson? (j : Json) : Option Condition := do
  let (test, j) ← Json.tagged? "test" j
  let name ← testName? test
  match name with
  | "is_empty" =>
    let fields ← Json.record? ["column"] j
    let column ← fields.required "column" string?
    pure (.isEmpty column)
  | "matches" =>
    let fields ← Json.record? ["column", "pattern", "full"] j
    let column ← fields.required "column" string?
    let pattern ← fields.required "pattern" string?
    let whole ← fields.defaulted "full" bool? false
    pure (.matchText column pattern whole)
  | name =>
    let op ← CompareOp.ofName? name
    compareOfJson? op j

end Condition

namespace Step

def tidyOfJson? (op : Tidying) (j : Json) : Option Step := do
  let fields ← Json.record? ["columns"] j
  let columns ← fields.required "columns" strings?
  pure (.tidy op columns)

/-- Reads the fields of a step of this kind. -/
def ofFields? (kind : String) (j : Json) : Option Step :=
  match kind with
  | "select" => do
    let fields ← Json.record? ["columns", "names"] j
    let columns ← fields.required "columns" strings?
    let names ← fields.optional "names" strings?
    pure (.select columns names)
  | "rename" => do
    let fields ← Json.record? ["mapping"] j
    let mapping ← fields.required "mapping" (mapping? string?)
    pure (.rename mapping)
  | "filter" => do
    let fields ← Json.record? ["condition"] j
    let condition ← fields.required "condition" Condition.ofJson?
    pure (.filter condition)
  | "delete" => do
    let fields ← Json.record? ["condition"] j
    let condition ← fields.required "condition" Condition.ofJson?
    pure (.delete condition)
  | "limit" => do
    let fields ← Json.record? ["rows"] j
    let rows ← fields.required "rows" word?
    pure (.limit rows)
  | "insert" => do
    let fields ← Json.record? ["name", "position", "value"] j
    let name ← fields.required "name" string?
    let position ← fields.optional "position" word?
    let value ← fields.defaulted "value" Value.ofJson? .null
    pure (.insert name position value)
  | "update" => do
    let fields ← Json.record? ["columns", "value", "mapping"] j
    let columns ← fields.required "columns" strings?
    let value ← fields.optional "value" Value.ofJson?
    let mapping ← fields.optional "mapping" (mapping? Value.ofJson?)
    pure (.update columns value mapping)
  | "typecast" => do
    let fields ← Json.record? ["types"] j
    let types ← fields.optional "types" (array? RawType.ofJson?)
    pure (.typecast types)
  | "lower" => tidyOfJson? .lower j
  | "upper" => tidyOfJson? .upper j
  | "trim" => tidyOfJson? .trim j
  | _ => none

/-- Reads a step. All its numbers have to be in range, also those in members that
are of no use. -/
def ofJson? (j : Json) : Option Step := do
  guard j.inRange
  let (op, j) ← Json.tagged? "op" j
  let kind ← string? op
  ofFields? kind j

end Step

def InputConfig.ofJson? (j : Json) : Option InputConfig := do
  let fields ← Json.record? ["path", "delimiter", "header"] j
  let path ← fields.optional "path" string?
  let delimiter ← fields.optional "delimiter" string?
  let header ← fields.optional "header" strings?
  pure ⟨path, delimiter, header⟩

def OutputConfig.ofJson? (j : Json) : Option OutputConfig := do
  let fields ← Json.record? ["path", "delimiter"] j
  let path ← fields.required "path" string?
  let delimiter ← fields.optional "delimiter" string?
  pure ⟨path, delimiter⟩

namespace PipelineSpec

def ofJson? (j : Json) : Option PipelineSpec := do
  let fields ← Json.record? ["version", "name", "description", "input", "steps", "output"] j
  let version ← fields.required "version" string?
  let name ← fields.required "name" string?
  let description ← fields.optional "description" string?
  let input ← fields.defaulted "input" InputConfig.ofJson? {}
  let steps ← fields.defaulted "steps" (array? Step.ofJson?) []
  let output ← fields.optional "output" OutputConfig.ofJson?
  pure ⟨version, name, description, input, steps, output⟩

/-- Reads a specification from JSON text. -/
def parse? (s : String) : Option PipelineSpec := do
  let j ← Json.parse? s.toList
  ofJson? j

end PipelineSpec

end TableFlow
