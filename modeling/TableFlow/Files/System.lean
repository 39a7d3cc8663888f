import TableFlow.Files.Fault
import TableFlow.Files.Path
import TableFlow.Text.Utf8

/-!
# File systems

A `FileSystem` says what stands at which path below one directory. Actions on
files are functions on file systems that may fail; what they did before they
failed stays done.

* `FileSystem.read`, `FileSystem.write` and `FileSystem.makeDirectories` are the
  operations, with the faults of the operating system.
-/

namespace TableFlow

namespace Files

/-- What stands at a path. -/
inductive Node where
  | file (content : List UInt8)
  | directory
deriving DecidableEq, Inhabited

end Files

/-- Files and directories by the components of their paths. -/
structure FileSystem where
  entries : List (List String × Files.Node)
deriving DecidableEq, Inhabited

namespace FileSystem

open Files (Node Fault)

def empty : FileSystem := ⟨[]⟩

/-- What stands at a list of components; the top directory always exists. -/
def node? (fs : FileSystem) : List String → Option Node
  | [] => some .directory
  | path => fs.entries.lookup path

/-- Follows components from a directory, upwards at a double dot. -/
def walk (fs : FileSystem) (current : List String) : List String → Except Fault (List String)
  | [] => .ok current
  | ".." :: rest =>
    match fs.node? current with
    | some .directory => fs.walk current.dropLast rest
    | some (.file _) => .error .notADirectory
    | none => .error .notFound
  | name :: rest =>
    match fs.node? current with
    | some .directory => fs.walk (current ++ [name]) rest
    | some (.file _) => .error .notADirectory
    | none => .error .notFound

/-- What stands at a path. -/
def lookup (fs : FileSystem) (path : String) : Except Fault Node :=
  if path = "" then .error .notFound
  else
    match fs.walk [] (Files.components path) with
    | .error e => .error e
    | .ok place =>
      match fs.node? place with
      | none => .error .notFound
      | some (.file content) =>
        -- a path that ends in a slash asks for a directory
        if Files.endsInSlash path then .error .notADirectory else .ok (.file content)
      | some .directory => .ok .directory

/-- Something stands at a path. -/
def pathExists (fs : FileSystem) (path : String) : Bool :=
  match fs.lookup path with
  | .ok _ => true
  | .error _ => false

/-- Puts a node at a list of components. -/
def putEntry (path : List String) (node : Node) :
    List (List String × Node) → List (List String × Node)
  | [] => [(path, node)]
  | (other, old) :: rest =>
    if other = path then (path, node) :: rest else (other, old) :: putEntry path node rest

def put (fs : FileSystem) (path : List String) (node : Node) : FileSystem :=
  ⟨putEntry path node fs.entries⟩

/-- The content of a file. -/
def read (fs : FileSystem) (path : String) : Except Fault (List UInt8) :=
  match fs.lookup path with
  | .error e => .error e
  | .ok .directory => .error .isADirectory
  | .ok (.file content) => .ok content

/-- The text of a file. -/
def readText (fs : FileSystem) (path : String) : Except Fault String :=
  match fs.read path with
  | .error e => .error e
  | .ok content =>
    match Utf8.toString? content with
    | some s => .ok s
    | none => .error .invalidText

/-- The place at which a file of this path can be created. -/
def filePlace (fs : FileSystem) (path : String) : Except Fault (List String) :=
  if path = "" then .error .notFound
  else
    match (Files.components path).reverse with
    | [] => .error .isADirectory
    | name :: parents =>
      match fs.walk [] parents.reverse with
      | .error e => .error e
      | .ok parent =>
        match fs.node? parent with
        | none => .error .notFound
        | some (.file _) => .error .notADirectory
        | some .directory =>
          if name = ".." || Files.endsInSlash path then .error .isADirectory
          else
            match fs.node? (parent ++ [name]) with
            | some .directory => .error .isADirectory
            | _ => .ok (parent ++ [name])

/-- Creates a file with this content, or replaces the content of a file. -/
def write (fs : FileSystem) (path : String) (content : List UInt8) : Except Fault FileSystem :=
  match fs.filePlace path with
  | .error e => .error e
  | .ok place => .ok (fs.put place (.file content))

/-- Creates one directory. -/
def createDirectory (fs : FileSystem) (path : List String) : Except Fault FileSystem :=
  match path.reverse with
  | [] => .error .alreadyExists
  | name :: parents =>
    match fs.walk [] parents.reverse with
    | .error e => .error e
    | .ok parent =>
      match fs.node? parent with
      | none => .error .notFound
      | some (.file _) => .error .notADirectory
      | some .directory =>
        if name = ".." then .error .alreadyExists
        else
          match fs.node? (parent ++ [name]) with
          | some _ => .error .alreadyExists
          | none => .ok (fs.put (parent ++ [name]) .directory)

/-- A directory stands at these components. -/
def isDirectory (fs : FileSystem) (path : List String) : Bool :=
  match fs.walk [] path with
  | .error _ => false
  | .ok place => fs.node? place == some .directory

/-- Makes a directory and the missing directories above it: the deepest one is tried
first, and those above it only when it has no parent. Directories that were made
stay when a later one cannot be made. -/
def makeDirectories (fs : FileSystem) (path : List String) : Except Fault Unit × FileSystem :=
  match path with
  | [] => (.ok (), fs)
  | first :: rest =>
    match fs.createDirectory (first :: rest) with
    | .ok made => (.ok (), made)
    | .error .notFound =>
      match makeDirectories fs (first :: rest).dropLast with
      | (.error e, above) => (.error e, above)
      | (.ok (), above) =>
        match above.createDirectory (first :: rest) with
        | .ok made => (.ok (), made)
        | .error e =>
          if above.isDirectory (first :: rest) then (.ok (), above) else (.error e, above)
    | .error e => if fs.isDirectory (first :: rest) then (.ok (), fs) else (.error e, fs)
termination_by path.length
decreasing_by simp

/-- The file system with a directory and those above it, if all of them can be made. -/
def createDirectories (fs : FileSystem) (path : List String) : Except Fault FileSystem :=
  match fs.makeDirectories path with
  | (.ok (), made) => .ok made
  | (.error e, _) => .error e

end FileSystem

/-- The file system with a file, and with the directories above it. -/
def FileSystem.withFile (fs : FileSystem) (path : String) (content : List UInt8) :
    Except Files.Fault FileSystem :=
  match fs.createDirectories (Files.parentComponents path) with
  | .error e => .error e
  | .ok fs => fs.write path content

/-- An action on files: it may change the file system, and may fail afterwards. -/
abbrev Action (ε : Type) := EStateM ε FileSystem

namespace Action

variable {ε δ α : Type}

/-- An outcome that does not depend on files. -/
def ofExcept (r : Except ε α) : Action ε α := fun fs =>
  match r with
  | .ok a => .ok a fs
  | .error e => .error e fs

/-- Looks at the file system. -/
def inspect (f : FileSystem → Except ε α) : Action ε α := fun fs =>
  match f fs with
  | .ok a => .ok a fs
  | .error e => .error e fs

/-- Changes the file system. -/
def change (f : FileSystem → Except ε FileSystem) : Action ε Unit := fun fs =>
  match f fs with
  | .ok fs => .ok () fs
  | .error e => .error e fs

/-- Makes a directory and the missing directories above it. -/
def makeDirectories (path : List String) : Action Files.Fault Unit := fun fs =>
  match fs.makeDirectories path with
  | (.ok (), made) => .ok () made
  | (.error e, left) => .error e left

/-- Rewords the error of an action. -/
def mapError (f : ε → δ) (a : Action ε α) : Action δ α := fun fs =>
  match a fs with
  | .ok a fs => .ok a fs
  | .error e fs => .error (f e) fs

end Action

end TableFlow
