import TableFlow.Spec.Build
import TableFlow.Spec.Json

/-!
# Running specifications

A run reads the header of its input, checks the specification against it, builds the
pipeline and streams the rows into the output file, or only counts them. The output
is created before the rows are read.

* `PipelineSpec.check` comes first, and changes nothing.
* `PipelineSpec.run` is a whole run, `RunReport` what it reports.
-/

namespace TableFlow

/-! ## Files of a run -/

/-- The delimiter that a text names: `\t` or `tab`, or a single byte. -/
def parseDelimiter (text : String) : Outcome UInt8 :=
  if text = "\\t" || text = "tab" then .ok CsvFile.tab
  else
    match Utf8.ofString text with
    | [b] => .ok b
    | _ => .error (.ofCause (.invalidDelimiter text))

/-- A file with the delimiter that is named, if any. -/
def CsvFile.withDelimiterText (f : CsvFile) (text : Option String) : Outcome CsvFile :=
  match text with
  | some text => (parseDelimiter text).map f.withDelimiter
  | none => .ok f

namespace PipelineSpec

/-- The input of a run: at the given path, or else where the specification says. -/
def inputFile (spec : PipelineSpec) (path : Option String) : Outcome CsvFile :=
  match path <|> spec.input.path with
  | none => .error (.ofCause (.noInput "pass one or set input.path in spec"))
  | some path =>
    ((CsvFile.ofPath path).withDelimiterText spec.input.delimiter).map fun file =>
      match spec.input.header with
      | some names => file.withNames names
      | none => file

/-- The output of a run, if it has one: at the given path, or else where the
specification says. -/
def outputFile (spec : PipelineSpec) (path : Option String) : Outcome (Option CsvFile) :=
  match path <|> spec.output.map OutputConfig.path with
  | none => .ok none
  | some path =>
    ((CsvFile.ofPath path).withDelimiterText (spec.output.bind OutputConfig.delimiter)).map some

end PipelineSpec

/-! ## Reports -/

/-- What a run did. -/
structure RunReport where
  rowsRead : Nat
  rowsWritten : Nat
  columnsBefore : Nat
  columnsAfter : Nat
  steps : Nat
  output : Option String
deriving DecidableEq, Inhabited

namespace RunReport

/-- What became of the number of columns. -/
def columnChange (r : RunReport) : String :=
  if r.columnsBefore < r.columnsAfter then "added"
  else if r.columnsAfter < r.columnsBefore then "removed"
  else "unchanged"

/-- The summary of a run that took so many seconds. -/
def summary (r : RunReport) (seconds : String) : String :=
  let target := match r.output with
    | some path => " → " ++ path
    | none => ""
  "Pipeline completed: " ++ Digits.text r.rowsWritten ++ " of " ++ Digits.text r.rowsRead ++
    " rows kept, " ++ r.columnChange ++ " columns (" ++ Digits.text r.columnsBefore ++ " → " ++
    Digits.text r.columnsAfter ++ "), " ++ Digits.text r.steps ++ " steps, " ++ seconds ++
    "s" ++ target

end RunReport

/-! ## Runs -/

/-- An action of the library as an action that may fail inside some activities. -/
def Action.within {α : Type} (activities : List Activity) (a : Action Error α) :
    Action Failure α :=
  a.mapError fun e => ⟨activities, .error e⟩

/-- An input with its schema, and the findings on a specification for it. -/
structure CheckedInput where
  input : CsvFile
  schema : Schema
  findings : List Finding

namespace PipelineSpec

/-- Streams the rows of a pipeline into a file, or counts them. -/
def streamInto (p : Pipeline) : Option CsvFile → Action Error (Nat × Stats)
  | some file => p.streamWithStats (Collector.write file)
  | none => p.streamWithStats Collector.count

/-- Checks a specification against the header of an input. -/
def checkAgainst [Pattern.Engine] (spec : PipelineSpec) (input : CsvFile) :
    Action Failure CheckedInput := do
  let schema ← input.columns.within [.readHeader input.path]
  pure ⟨input, schema, spec.findings schema.names⟩

/-- Checks a specification against its input, read as the specification says. -/
def check [Pattern.Engine] (spec : PipelineSpec) (inputPath : Option String) :
    Action Failure CheckedInput := do
  let input ← Action.ofExcept (spec.inputFile inputPath)
  spec.checkAgainst input

/-- Runs a specification on an input of this schema. -/
def carryOut [Pattern.Engine] (spec : PipelineSpec) (input : CsvFile) (schema : Schema)
    (outputPath : Option String) : Action Failure RunReport := do
  let pipeline ← Action.ofExcept (spec.build (Pipeline.ofSource (.csv input)))
  -- the pipeline opens once before there is an output file, and again when it runs
  let columns ← pipeline.columns.within []
  let output ← Action.ofExcept (spec.outputFile outputPath)
  let (written, stats) ← (streamInto pipeline output).within [.runPipeline spec.name]
  pure
    { rowsRead := stats.read
      rowsWritten := written
      columnsBefore := schema.width
      columnsAfter := columns.width
      steps := spec.steps.length
      output := output.map CsvFile.path }

/-- Runs a specification, with another input or output path than its own if given. -/
def run [Pattern.Engine] (spec : PipelineSpec) (inputPath outputPath : Option String) :
    Action Failure RunReport := do
  let checked ← spec.check inputPath
  if !checked.findings.isEmpty then
    throw (Failure.ofCause (.invalidSpec checked.findings))
  spec.carryOut checked.input checked.schema outputPath

/-! ## Specification files -/

/-- Reads a specification from JSON text. -/
def ofText (s : String) : Outcome PipelineSpec :=
  match parse? s with
  | some spec => .ok spec
  | none => .error ⟨[.parseSpec], .malformedJson⟩

/-- Reads a specification from a file. -/
def load (path : String) : Action Failure PipelineSpec :=
  Action.inspect fun fs =>
    match fs.readText path with
    | .error fault => .error ⟨[.readSpec path], .file fault⟩
    | .ok text => ofText text

/-- Writes a specification to a file. -/
def save (spec : PipelineSpec) (path : String) : Action Failure Unit :=
  Action.change fun fs =>
    match fs.write path (Utf8.ofString spec.jsonText) with
    | .error fault => .error ⟨[.writeSpec], .file fault⟩
    | .ok fs => .ok fs

end PipelineSpec

end TableFlow
