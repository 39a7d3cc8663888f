import TableFlow.Number.Digits
import TableFlow.Number.Width

/-!
# Scanning arguments

Arguments are words and options. An option has a long name and maybe a letter; it
takes nothing, one value, or several values. A value follows its option or is
attached to it, several letters may share a dash, and after a double dash all
arguments are words.

* `Scan.step` takes one argument, `Scan.finish` ends the scan.
-/

namespace TableFlow.CommandLine

/-- What kind of text an option or a word accepts. -/
inductive Accepts where
  | anything
  /-- A path, which is not empty. -/
  | path
  /-- A number of 64 bits. -/
  | count
deriving DecidableEq, Inhabited, Repr

/-- The number that a text writes, maybe behind a plus sign. -/
def count? (s : String) : Option UInt64 :=
  let digits := match s.toList with
    | '+' :: rest => rest
    | cs => cs
  (Digits.value? digits).bind uint64?

/-- The text is of the accepted kind. -/
def Accepts.admits (a : Accepts) (s : String) : Bool :=
  match a with
  | .anything => true
  | .path => s ≠ ""
  | .count => (count? s).isSome

/-- What an option takes. -/
inductive Takes where
  | nothing
  | one (a : Accepts)
  /-- At least one value; the option may be repeated. -/
  | several (a : Accepts)
deriving DecidableEq, Inhabited, Repr

/-- An option of a command. -/
structure OptionSpec where
  name : String
  letter : Option Char
  takes : Takes
deriving DecidableEq, Inhabited

/-- Why a scan ended without a result. -/
inductive Stop where
  /-- The arguments are not understood. -/
  | misuse
  | help
  | version
deriving DecidableEq, Inhabited, Repr

/-- What was found so far: options with their values, words, and the option that
still takes values. -/
structure Scan where
  options : List OptionSpec
  /-- How many words there may be. -/
  maxWords : Nat
  found : List (String × List String)
  words : List String
  pending : Option (OptionSpec × List String)
  /-- A double dash was seen. -/
  wordsOnly : Bool
deriving Inhabited

namespace Scan

/-- A scan for these options, before any argument. -/
def start (options : List OptionSpec) (maxWords : Nat) : Scan :=
  ⟨options, maxWords, [], [], none, false⟩

/-- Notes an option with its values. An option with at most one value must not be
repeated, and every value has to be of the accepted kind. -/
def note (s : Scan) (option : OptionSpec) (values : List String) : Except Stop Scan :=
  let fresh := !(s.found.map Prod.fst).contains option.name
  let good := match option.takes with
    | .nothing => fresh && values.isEmpty
    | .one a => fresh && values.length == 1 && values.all a.admits
    | .several a => !values.isEmpty && values.all a.admits
  if good then .ok { s with found := s.found ++ [(option.name, values)] } else .error .misuse

/-- Notes the option that still takes values. -/
def settle (s : Scan) : Except Stop Scan :=
  match s.pending with
  | none => .ok s
  | some (option, values) => { s with pending := none }.note option values

/-- An option without an attached value: it is noted, or waits for values. The
options for help and for the version end the scan. -/
def begin (s : Scan) (option : OptionSpec) : Except Stop Scan :=
  match option.takes with
  | .nothing =>
    if option.name = "help" then .error .help
    else if option.name = "version" then .error .version
    else s.note option []
  | _ => .ok { s with pending := some (option, []) }

/-- A text at its first equals sign. -/
def splitEquals (cs : List Char) : List Char × Option (List Char) :=
  match cs.span (· ≠ '=') with
  | (name, _ :: value) => (name, some value)
  | (name, []) => (name, none)

/-- Takes an option by its name, maybe with a value attached. -/
def long (s : Scan) (cs : List Char) : Except Stop Scan := do
  let s ← s.settle
  let (name, value) := splitEquals cs
  match s.options.find? fun o => o.name == String.ofList name with
  | none => .error .misuse
  | some option =>
    match value with
    | none => s.begin option
    | some value => s.note option [String.ofList value]

/-- Takes options by their letters; what follows the letter of an option with values
is its value, behind an equals sign or not. -/
def letters (s : Scan) : List Char → Except Stop Scan
  | [] => .ok s
  | c :: cs =>
    match s.options.find? fun o => o.letter == some c with
    | none => .error .misuse
    | some option =>
      match option.takes, cs with
      | .nothing, cs =>
        match s.begin option with
        | .error stop => .error stop
        | .ok s => s.letters cs
      | _, [] => s.begin option
      | _, '=' :: value => s.note option [String.ofList value]
      | _, value => s.note option [String.ofList value]

/-- Takes a word. Words are paths. -/
def word (s : Scan) (w : String) : Except Stop Scan :=
  if s.words.length < s.maxWords && Accepts.path.admits w then
    .ok { s with words := s.words ++ [w] }
  else .error .misuse

/-- Takes an argument that is no option: a value of the option that still takes
values, or a word. -/
def plain (s : Scan) (w : String) : Except Stop Scan :=
  match s.pending with
  | some (option, values) =>
    let s := { s with pending := some (option, values ++ [w]) }
    match option.takes with
    | .several _ => .ok s
    | _ => s.settle
  | none => s.word w

/-- Takes one argument. -/
def step (s : Scan) (argument : String) : Except Stop Scan :=
  if s.wordsOnly then s.word argument
  else
    match argument.toList with
    | ['-', '-'] => s.settle.map fun s => { s with wordsOnly := true }
    | '-' :: '-' :: name => s.long name
    | '-' :: c :: cs => s.settle >>= fun s => s.letters (c :: cs)
    | _ => s.plain argument

/-- Takes all arguments. -/
def all (s : Scan) (arguments : List String) : Except Stop Scan :=
  arguments.foldlM step s >>= settle

/-- Takes arguments up to the first word: the scan before it, the word, and the
arguments behind it. -/
def upToWord (s : Scan) : List String → Except Stop (Scan × String × List String)
  | [] => .error .misuse
  | argument :: rest =>
    match s.step argument with
    | .error stop => .error stop
    | .ok next =>
      if s.words.length < next.words.length then .ok (next, argument, rest)
      else next.upToWord rest

/-- An option was found. -/
def has (s : Scan) (name : String) : Bool := (s.found.map Prod.fst).contains name

/-- All values of an option. -/
def valuesOf (s : Scan) (name : String) : List String :=
  (s.found.filter fun (other, _) => other == name).flatMap Prod.snd

/-- The value of an option. -/
def value? (s : Scan) (name : String) : Option String := (s.valuesOf name).head?

/-- The number that an option has as its value. -/
def number? (s : Scan) (name : String) : Option UInt64 := (s.value? name).bind count?

end Scan

end TableFlow.CommandLine
