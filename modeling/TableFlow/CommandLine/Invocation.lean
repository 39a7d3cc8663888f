import TableFlow.CommandLine.Scan

/-!
# Commands

What the program is asked to do. Options that concern every command may stand before
or behind the name of the command; behind it they win.

* `Invocation.parse` reads the arguments of the program.
-/

namespace TableFlow.CommandLine

/-- A command with its arguments. -/
inductive Command where
  /-- Shows the first rows of a file. -/
  | head (file : String) (rows : Option UInt64)
  /-- Counts the rows of a file. -/
  | count (file : String)
  /-- Counts the different values of columns, and shows the most frequent ones. -/
  | distinct (file : String) (columns : List String) (top : Option UInt64)
  /-- Profiles the columns of a file. -/
  | profile (file : String) (columns : List String) (asJson : Bool)
  /-- Runs a specification. -/
  | run (spec : String) (input output : Option String)
  /-- Checks a specification against its input. -/
  | validate (spec : String) (input : Option String)
deriving DecidableEq, Inhabited

/-- What the program is asked to do. -/
structure Invocation where
  /-- The path of the settings. -/
  config : Option String
  verbose : Bool
  command : Command
deriving DecidableEq, Inhabited

namespace Invocation

/-- The options of every command. -/
def globalOptions : List OptionSpec :=
  [⟨"config", none, .one .path⟩, ⟨"verbose", some 'v', .nothing⟩,
    ⟨"help", some 'h', .nothing⟩]

/-- The options before the name of a command. -/
def leadingOptions : List OptionSpec := globalOptions ++ [⟨"version", some 'V', .nothing⟩]

/-- The names of the commands. -/
def commandNames : List String := ["head", "count", "distinct", "profile", "run", "validate"]

/-- The options of a command, apart from those of every command. -/
def commandOptions (name : String) : List OptionSpec :=
  match name with
  | "head" => [⟨"rows", some 'n', .one .count⟩]
  | "distinct" => [⟨"columns", some 'c', .several .anything⟩, ⟨"top", none, .one .count⟩]
  | "profile" => [⟨"columns", some 'c', .several .anything⟩, ⟨"json", none, .nothing⟩]
  | "run" => [⟨"input", some 'i', .one .path⟩, ⟨"output", some 'o', .one .path⟩]
  | "validate" => [⟨"input", some 'i', .one .path⟩]
  | _ => []

/-- The command with a name and scanned arguments, if nothing is missing. -/
def command? (name : String) (s : Scan) : Option Command :=
  match s.words with
  | [file] =>
    match name with
    | "head" => some (.head file (s.number? "rows"))
    | "count" => some (.count file)
    | "distinct" =>
      if s.has "columns" then some (.distinct file (s.valuesOf "columns") (s.number? "top"))
      else none
    | "profile" => some (.profile file (s.valuesOf "columns") (s.has "json"))
    | "run" => some (.run file (s.value? "input") (s.value? "output"))
    | "validate" => some (.validate file (s.value? "input"))
    | _ => none
  | _ => none

/-- Asks for help on the program or one of its commands. -/
def helpOn : List String → Stop
  | [] => .help
  | [name] => if commandNames.contains name || name = "help" then .help else .misuse
  | _ => .misuse

/-- Reads the arguments of the program. -/
def parse (arguments : List String) : Except Stop Invocation :=
  match (Scan.start leadingOptions 1).upToWord arguments with
  | .error stop => .error stop
  | .ok (leading, name, rest) =>
    if leading.wordsOnly then .error .misuse
    else if name = "help" then .error (helpOn rest)
    else if !commandNames.contains name then .error .misuse
    else
      match (Scan.start (commandOptions name ++ globalOptions) 1).all rest with
      | .error stop => .error stop
      | .ok s =>
        match command? name s with
        | none => .error .misuse
        | some command =>
          .ok
            { config := s.value? "config" <|> leading.value? "config"
              verbose := s.has "verbose" || leading.has "verbose"
              command := command }

end Invocation

end TableFlow.CommandLine
