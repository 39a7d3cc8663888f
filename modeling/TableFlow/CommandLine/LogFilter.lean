import TableFlow.Number.Digits
import TableFlow.Text.CharClass

/-!
# Log filters

A log filter is a list of directives between commas. A directive is a level, or a
target with spans and their fields, followed by an equals sign and a level.

* `LogFilter.isValid` says whether a text is a log filter.
-/

namespace TableFlow.CommandLine.LogFilter

/-- The names of the levels. -/
def levelNames : List (List Char) :=
  [['o', 'f', 'f'], ['e', 'r', 'r', 'o', 'r'], ['w', 'a', 'r', 'n'], ['i', 'n', 'f', 'o'],
    ['d', 'e', 'b', 'u', 'g'], ['t', 'r', 'a', 'c', 'e']]

/-- The text is the name of a level in any case, its number, or empty. -/
def isLevel (cs : List Char) : Bool :=
  let digits := match cs with
    | '+' :: rest => rest
    | cs => cs
  match Digits.value? digits with
  | some n => n ≤ 5
  | none => cs.isEmpty || levelNames.contains (cs.map Char.toLower)

/-- What the next character of a directive belongs to. -/
inductive State where
  | start
  /-- A level or a target. -/
  | name
  | span
  /-- Fields of a span; something was read of the one under way. -/
  | field (started : Bool)
  /-- Behind the fields of a span. -/
  | fields
  /-- Behind a span. -/
  | target
  /-- A level, with the last character first. -/
  | level (read : List Char)
deriving DecidableEq, Inhabited

/-- A directive may start with this character. -/
def startsName (c : Char) : Bool :=
  c = '-' || c = ':' || c = '_' || Text.isWord c

/-- Takes one character of a directive. -/
def step (s : State) (c : Char) : Option State :=
  match s with
  | .start =>
    if c = '[' then some .span
    else if startsName c then some .name else none
  | .name =>
    -- a level without a target is read as a name as well, so any name will do
    if c = '=' then some (.level [])
    else if c = '[' then some .span else some .name
  | .span =>
    if c = ']' then some .target
    else if c = '\x7b' then some (.field false) else some .span
  | .field started =>
    if c = '\x7d' then if started then some .fields else none
    else some (.field true)
  | .fields => if c = ']' then some .target else none
  | .target => if c = '=' then some (.level []) else none
  | .level read => some (.level (c :: read))

/-- A directive may end here. -/
def State.accepts : State → Bool
  | .name | .target => true
  | .level read => isLevel read.reverse
  | _ => false

/-- The text is a directive. -/
def isDirective (cs : List Char) : Bool :=
  match (Text.trim cs).foldlM step .start with
  | some s => s.accepts
  | none => false

/-- The text is a log filter; empty directives say nothing. -/
def isValid (text : String) : Bool :=
  (Text.pieces ',' text).all fun d => d = "" || isDirective d.toList

end TableFlow.CommandLine.LogFilter
