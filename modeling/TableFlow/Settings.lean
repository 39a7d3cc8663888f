import TableFlow.Failure
import TableFlow.Files.System
import TableFlow.Spec.Json

/-!
# Settings

The settings of the command line live in a JSON file. Every setting has a default,
so the file may be partial or missing.
-/

namespace TableFlow

/-- The settings of the command line. -/
structure Settings where
  /-- How many rows `head` shows. -/
  headRows : UInt64 := 10
  csvDelimiter : Option String := none
  /-- How many frequent values a profile shows. -/
  topCount : UInt64 := 10
  logLevel : String := "info"
  logToFile : Bool := false
deriving DecidableEq, Inhabited

namespace Settings

/-- A setting that may be `null`, in the written form of a setting that is not left
out. -/
def nullable {α : Type} (encode : α → Json) : Option α → Json
  | some a => encode a
  | none => .null

def toJson (s : Settings) : Json :=
  .obj [("head_rows", Json.ofWord s.headRows),
    ("csv_delimiter", nullable .str s.csvDelimiter),
    ("profile_top_k", Json.ofWord s.topCount),
    ("log_level", .str s.logLevel),
    ("log_to_file", .bool s.logToFile)]

def jsonText (s : Settings) : String := String.ofList s.toJson.pretty

def ofJson? (j : Json) : Option Settings := do
  let fields ← Json.record?
    ["head_rows", "csv_delimiter", "profile_top_k", "log_level", "log_to_file"] j
  let standard : Settings := {}
  let headRows ← fields.defaulted "head_rows" Json.word? standard.headRows
  let csvDelimiter ← fields.optional "csv_delimiter" Json.string?
  let topCount ← fields.defaulted "profile_top_k" Json.word? standard.topCount
  let logLevel ← fields.defaulted "log_level" Json.string? standard.logLevel
  let logToFile ← fields.defaulted "log_to_file" Json.bool? standard.logToFile
  pure ⟨headRows, csvDelimiter, topCount, logLevel, logToFile⟩

def parse? (s : String) : Option Settings := do
  let j ← Json.parse? s.toList
  ofJson? j

/-- Reads settings from a file; a missing file stands for the defaults. -/
def load (path : String) : Action Failure Settings :=
  Action.inspect fun fs =>
    if !fs.pathExists path then .ok {}
    else
      match fs.readText path with
      | .error fault => .error ⟨[.readSettings path], .file fault⟩
      | .ok text =>
        match parse? text with
        | some settings => .ok settings
        | none => .error ⟨[.parseSettings path], .malformedJson⟩

/-- Writes settings to a file and creates the directories above it. -/
def save (s : Settings) (path : String) : Action Failure Unit := do
  Action.mapError
    (fun fault => ⟨[.createSettingsDirectory (Files.parentText path)], .file fault⟩)
    (Action.makeDirectories (Files.parentComponents path))
  Action.change fun fs =>
    match fs.write path (Utf8.ofString s.jsonText) with
    | .error fault => .error ⟨[.writeSettings path], .file fault⟩
    | .ok fs => .ok fs

end Settings

end TableFlow
