import TableFlow.CommandLine.Invocation
import TableFlow.CommandLine.LogFilter
import TableFlow.CommandLine.Report
import TableFlow.Settings
import TableFlow.Spec.Run

/-!
# Running commands

What the program prints, how it ends, and what it leaves in the file system. Every
command works on files below one directory; the program reads its settings first.

* `Command.perform` runs a command, `execute` the whole program.
-/

namespace TableFlow.CommandLine

/-- A piece of output. The summary of a run is completed by the time it took. -/
inductive Printed where
  | text (s : String)
  | summary (report : RunReport)
deriving Inhabited

/-- The text of a piece of output of a program that ran so many seconds. -/
def Printed.render (seconds : String) : Printed → String
  | .text s => s
  | .summary report => report.summary seconds ++ "\n"

/-- What a command printed, and why it failed if it did so afterwards. -/
structure Response where
  printed : List Printed
  failure : Option Failure

/-- A response that only prints a text. -/
def Response.ofText (s : String) : Response := ⟨[.text s], none⟩

/-! ## Commands -/

/-- The pipeline over a file, read with the delimiter of the settings. -/
def filePipeline (settings : Settings) (path : String) : Outcome Pipeline :=
  ((CsvFile.ofPath path).withDelimiterText settings.csvDelimiter).map fun file =>
    Pipeline.ofSource (.csv file)

/-- Runs something on the pipeline over a file. -/
def onFile {α : Type} (settings : Settings) (path : String)
    (f : Pipeline → Action Error α) : Action Failure α := do
  let p ← Action.ofExcept (filePipeline settings path)
  (f p).within []

/-- Checks a specification against the header of its input, read as the ending of its
name says. -/
def review [Pattern.Engine] (spec : PipelineSpec) (inputPath : Option String) :
    Action Failure CheckedInput :=
  match inputPath <|> spec.input.path with
  | none => throw (Failure.ofCause (.noInput "pass --input or set input.path in spec"))
  | some path => spec.checkAgainst (CsvFile.ofPath path)

/-- The response to the findings on a specification. -/
def Response.ofFindings (spec : PipelineSpec) (findings : List Finding) : Response :=
  if findings.isEmpty then
    Response.ofText ("✓ '" ++ spec.name ++ "' is valid (" ++
      Digits.text spec.steps.length ++ " steps)\n")
  else
    ⟨findings.map fun f => .text ("✗ " ++ f.message ++ "\n"),
      some (Failure.ofCause (.rejected findings.length))⟩

/-- Checks the specification of a file. -/
def validateSpec [Pattern.Engine] (specPath : String) (inputPath : Option String) :
    Action Failure Response := do
  let spec ← PipelineSpec.load specPath
  let checked ← review spec inputPath
  pure (Response.ofFindings spec checked.findings)

/-- Runs a command. -/
def Command.perform [Pattern.Engine] (settings : Settings) : Command → Action Failure Response
  | .head file rows => do
    let rows := rows.getD settings.headRows
    let t ← onFile settings file fun p => p.head rows.toNat
    pure (Response.ofText t.report)
  | .count file => do
    let n ← onFile settings file Pipeline.count
    pure (Response.ofText (Digits.text n ++ "\n"))
  | .distinct file columns top => do
    let counts ← onFile settings file fun p => p.distinctColumns (columns.map .name)
    let top := match top with
      | some top => top.toNat
      | none => counts.size
    pure (Response.ofText (counts.report top))
  | .profile file columns asJson => do
    let columns := if columns.isEmpty then none else some (columns.map ColumnRef.name)
    let profiles ← onFile settings file fun p =>
      p.stream (Collector.profile columns settings.topCount.toNat {})
    if asJson then
      let json := Json.arr (profiles.map ColumnProfile.toJson)
      pure (Response.ofText (String.ofList json.pretty ++ "\n"))
    else pure (Response.ofText (String.join (profiles.map ColumnProfile.report)))
  | .run spec input output => do
    let spec ← PipelineSpec.load spec
    let report ← spec.run input output
    pure ⟨[.summary report], none⟩
  | .validate spec input => validateSpec spec input

/-! ## The program -/

/-- The directories of the user's settings and data. -/
structure UserDirectories where
  config : String
  data : String
deriving DecidableEq, Inhabited

/-- The name of the program. -/
def programName : String := "openclean"

/-- The version of the program. -/
def programVersion : String := "0.1.0"

/-- Where the settings are found if no other path is given. -/
def UserDirectories.settingsPath (dirs : UserDirectories) : String :=
  dirs.config ++ "/" ++ programName ++ "/config.json"

/-- Where log files are written. -/
def UserDirectories.logPath (dirs : UserDirectories) : String :=
  dirs.data ++ "/" ++ programName ++ "/logs"

/-- Checks the log filter, and creates the directory of the log files if they are
wanted. -/
def startLog (dirs : UserDirectories) (level : String) (toFile : Bool) :
    Action Failure Unit := do
  if !LogFilter.isValid level then
    throw (Failure.ofCause (.invalidLogFilter level))
  if toFile then
    Action.mapError (fun fault => ⟨[.createLogDirectory dirs.logPath], .file fault⟩)
      (Action.makeDirectories (Files.components dirs.logPath))

/-- Reads the settings and runs the command. -/
def Invocation.run [Pattern.Engine] (dirs : UserDirectories) (i : Invocation) :
    Action Failure Response := do
  let settings ← Settings.load (i.config.getD dirs.settingsPath)
  startLog dirs (if i.verbose then "debug" else settings.logLevel) settings.logToFile
  i.command.perform settings

/-- The text that explains the program. -/
def helpText : String :=
  "Profile, filter and clean CSV files\n\nUsage: " ++ programName ++
    " [OPTIONS] <COMMAND>\n\nCommands:\n" ++
    String.join (Invocation.commandNames.map fun name => "  " ++ name ++ "\n") ++
    "\nOptions:\n      --config <CONFIG>\n  -v, --verbose\n  -h, --help\n  -V, --version\n"

/-- The end of the program: its exit code, what it printed, and the failure that it
ended with. -/
structure Exit where
  code : UInt8
  printed : List Printed
  failure : Option Failure

/-- The whole program. -/
def execute [Pattern.Engine] (dirs : UserDirectories) (arguments : List String)
    (fs : FileSystem) : Exit × FileSystem :=
  match Invocation.parse arguments with
  | .error .misuse => (⟨2, [], none⟩, fs)
  | .error .help => (⟨0, [.text helpText], none⟩, fs)
  | .error .version => (⟨0, [.text (programName ++ " " ++ programVersion ++ "\n")], none⟩, fs)
  | .ok invocation =>
    match invocation.run dirs fs with
    | .error failure fs => (⟨1, [], some failure⟩, fs)
    | .ok response fs =>
      let code := if response.failure.isSome then 1 else 0
      (⟨code, response.printed, response.failure⟩, fs)

/-! ## The files of a command -/

/-- The paths among the arguments of a command. -/
def Command.paths : Command → List String
  | .head file _ | .count file | .distinct file _ _ | .profile file _ _ => [file]
  | .run spec input output => spec :: input.toList ++ output.toList
  | .validate spec input => spec :: input.toList

/-- The paths in the specification of a command. -/
def Command.specPaths (fs : FileSystem) (c : Command) : List String :=
  match c with
  | .run spec _ _ | .validate spec _ =>
    match PipelineSpec.load spec fs with
    | .ok spec _ => spec.input.path.toList ++ (spec.output.map OutputConfig.path).toList
    | .error _ _ => []
  | _ => []

/-- The paths that the program may read before it knows its specification. -/
def Invocation.paths (dirs : UserDirectories) (i : Invocation) : List String :=
  i.config.getD dirs.settingsPath :: dirs.logPath :: i.command.paths

end TableFlow.CommandLine
