import TableFlow.CommandLine.Run
import TableFlow.Pattern.Grammar

/-!
# The program

Copies the files that a command may touch into a `FileSystem`, runs the command on
it, and brings the changed files back.
-/

namespace TableFlow.CommandLine

/-- What stands at a path on disk. What cannot be read and is no missing file is taken
for a directory. -/
def readNode (path : String) : IO (Option Files.Node) := do
  try
    let content ← IO.FS.readBinFile path
    return some (.file content.toList)
  catch
    | .noFileOrDirectory _ _ _ => return none
    | _ => return some .directory

/-- The file system with what stands at a path and above it on disk. -/
def loadPath (fs : FileSystem) (path : String) : IO FileSystem := do
  let mut fs := fs
  for above in Files.ancestors path do
    match ← readNode above with
    | some node => fs := fs.put (Files.components above) node
    | none => continue
  return fs

/-- Brings the file or directory at a path back to disk if it changed. -/
def storePath (before after : FileSystem) (path : String) : IO Unit := do
  match before.lookup path, after.lookup path with
  | .ok old, .ok new => if old ≠ new then store new
  | .error _, .ok new => store new
  | _, _ => return
where
  store : Files.Node → IO Unit
    | .directory => IO.FS.createDirAll path
    | .file content => do
      let parent := Files.parentText path
      if parent ≠ "" then IO.FS.createDirAll parent
      IO.FS.writeBinFile path ⟨content.toArray⟩

/-- The directory that a variable names, or else one below the home directory. -/
def userDirectory (name fallback : String) : IO String := do
  match ← IO.getEnv name with
  | some path => if path.startsWith "/" then return path
  | none => pure ()
  return ((← IO.getEnv "HOME").getD "") ++ "/" ++ fallback

/-- A number of milliseconds in seconds, with two places. -/
def secondsText (milliseconds : Nat) : String :=
  let hundredths := (milliseconds + 5) / 10
  let places := Digits.text (hundredths % 100)
  Digits.text (hundredths / 100) ++ "." ++ (if places.length = 1 then "0" else "") ++ places

/-- Runs the program on the files on disk. -/
def runProgram (arguments : List String) : IO UInt32 := do
  let started ← IO.monoMsNow
  let dirs : UserDirectories :=
    ⟨← userDirectory "XDG_CONFIG_HOME" ".config",
      ← userDirectory "XDG_DATA_HOME" ".local/share"⟩
  let mut paths := []
  let mut fs := FileSystem.empty
  match Invocation.parse arguments with
  | .error _ => pure ()
  | .ok invocation =>
    paths := invocation.paths dirs
    fs ← paths.foldlM loadPath fs
    let more := invocation.command.specPaths fs
    fs ← more.foldlM loadPath fs
    paths := paths ++ more
  let (ending, after) := execute dirs arguments fs
  paths.forM (storePath fs after)
  let seconds := secondsText ((← IO.monoMsNow) - started)
  for printed in ending.printed do
    IO.print (printed.render seconds)
  match ending.failure with
  | some failure => IO.eprintln failure.report
  | none => if ending.code = 2 then IO.eprint helpText
  return ending.code.toUInt32

end TableFlow.CommandLine

def main (arguments : List String) : IO UInt32 :=
  TableFlow.CommandLine.runProgram arguments
