import TableFlow.Csv.Writer
import TableFlow.Files.System
import TableFlow.Schema
import TableFlow.Table

/-!
# Delimited files

A `CsvFile` is a path with a delimiter and, if the file has no header line, the
names of its columns. The delimiter follows the ending of the name unless it is
given: a tab for tab separated files, else a comma.

* `CsvFile.columns` reads the schema and `CsvFile.rows` the rows.
* `CsvFile.create` starts a new file; what is written reaches it at
  `CsvWriter.flush`.
-/

namespace TableFlow

/-- A delimited file. -/
structure CsvFile where
  path : String
  names : Option (List String)
  delimiter : UInt8
deriving DecidableEq, Inhabited

/-- A row or the error in its place. -/
abbrev Item := Result Entry

namespace CsvFile

def comma : UInt8 := 0x2C

def tab : UInt8 := 0x09

/-- The delimiter that the ending of a file name stands for. -/
def inferDelimiter (path : String) : UInt8 :=
  let name := (Text.lower (Files.fileName path).toList).reverse
  if ['v', 's', 't', '.'].isPrefixOf name || ['b', 'a', 't', '.'].isPrefixOf name then tab
  else comma

/-- The file at a path, with a header line. -/
def ofPath (path : String) : CsvFile := ⟨path, none, inferDelimiter path⟩

/-- The file without a header line and with the given column names. -/
def withNames (f : CsvFile) (names : List String) : CsvFile := { f with names := some names }

def withDelimiter (f : CsvFile) (delimiter : UInt8) : CsvFile := { f with delimiter := delimiter }

/-! ## Reading -/

/-- Opens the file for reading. A directory opens, and fails when it is read. -/
def openRecords (f : CsvFile) (fs : FileSystem) : Result (Except Csv.Fault (List Csv.Record)) :=
  match fs.lookup f.path with
  | .error e => .error (.during ("Failed to open " ++ f.path) (.csv (.file e)))
  | .ok .directory => .ok (.error (.file .isADirectory))
  | .ok (.file content) => .ok (.ok (Csv.scan f.delimiter content))

/-- The schema of the file: the given names, or its header line. -/
def columnsIn (f : CsvFile) (fs : FileSystem) : Result Schema :=
  match f.names with
  | some names => Schema.ofNames names
  | none =>
    match f.openRecords fs with
    | .error e => .error e
    | .ok (.error e) => .error (.csv e)
    | .ok (.ok records) =>
      match Csv.header records with
      | .error e => .error (.csv e)
      | .ok names => Schema.ofNames names

/-- A row of texts with its number; it has to be as wide as the schema. -/
def item (width : Nat) (row : Except Csv.Fault (List String)) (id : Nat) : Item :=
  match row with
  | .error e => .error (.csv e)
  | .ok texts =>
    if texts.length = width then .ok (id, texts.map .str)
    else .error (.malformed id width texts.length)

/-- The rows of the file, numbered from zero. -/
def rowsIn (f : CsvFile) (fs : FileSystem) : Result (List Item) :=
  match f.columnsIn fs with
  | .error e => .error e
  | .ok schema =>
    match f.openRecords fs with
    | .error e => .error e
    | .ok (.error e) => .ok [.error (.csv e)]
    | .ok (.ok records) =>
      .ok ((Csv.rows f.names.isNone records).zipIdx.map fun (row, id) =>
        item schema.width row id)

/-- The schema of the file. -/
def columns (f : CsvFile) : Action Error Schema := Action.inspect f.columnsIn

/-- The rows of the file. -/
def rows (f : CsvFile) : Action Error (List Item) := Action.inspect f.rowsIn

end CsvFile

/-! ## Writing -/

/-- A delimited file that is being written. -/
structure CsvWriter where
  file : CsvFile
  output : Csv.Output
deriving Inhabited

namespace CsvFile

/-- Creates the directories above the file and the empty file. -/
def create (f : CsvFile) : Action Error CsvWriter := do
  Action.mapError Error.file (Action.makeDirectories (Files.parentComponents f.path))
  Action.change fun fs =>
    match fs.write f.path [] with
    | .error e => .error (.during ("Failed to create " ++ f.path) (.csv (.file e)))
    | .ok fs => .ok fs
  pure ⟨f, Csv.Output.start f.delimiter⟩

end CsvFile

namespace CsvWriter

/-- Writes a record of texts. -/
def writeTexts (w : CsvWriter) (texts : List String) : Result Unit × CsvWriter :=
  match w.output.record (texts.map Utf8.ofString) with
  | (.ok (), output) => (.ok (), { w with output := output })
  | (.error e, output) => (.error (.csv e), { w with output := output })

/-- Writes the header line, unless the file has none. -/
def writeHeader (w : CsvWriter) (schema : Schema) : Result Unit × CsvWriter :=
  match w.file.names with
  | none => w.writeTexts schema.names
  | some _ => (.ok (), w)

/-- Writes a row by the texts of its cells. -/
def writeRow (w : CsvWriter) (row : Row) : Result Unit × CsvWriter :=
  w.writeTexts (row.map Value.text)

/-- Writes rows one after the other, whether or not the ones before were refused. -/
def writeRows (w : CsvWriter) : List Row → List (Result Unit) × CsvWriter
  | [] => ([], w)
  | row :: rows =>
    let (outcome, w) := w.writeRow row
    let (outcomes, w) := w.writeRows rows
    (outcome :: outcomes, w)

/-- Brings everything written so far into the file. -/
def flush (w : CsvWriter) : Action Error Unit :=
  Action.change fun fs =>
    match fs.write w.file.path w.output.bytes with
    | .error e => .error (.file e)
    | .ok fs => .ok fs

end CsvWriter

end TableFlow
