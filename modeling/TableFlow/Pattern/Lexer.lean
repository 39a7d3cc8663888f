import TableFlow.Json.Reader
import TableFlow.Pattern.Fault
import TableFlow.Pattern.Node

/-!
# Parts of patterns

The flags of a pattern and the parts that stand for one character, one set of
characters or one test: escapes, numbers and names of classes.
-/

namespace TableFlow.Pattern

/-- How the rest of a group is read. -/
structure Flags where
  ignoreCase : Bool := false
  multiLine : Bool := false
  dotNewline : Bool := false
  anyLineEnd : Bool := false
  verbose : Bool := false
deriving DecidableEq, Inhabited

mutual

/-- The text after leading blanks and comments. -/
def skipSpace : List Char → List Char
  | [] => []
  | c :: cs =>
    if Text.isBlank c then skipSpace cs
    else if c = '#' then skipComment cs
    else c :: cs

/-- The text after a comment and the blanks that follow it. -/
def skipComment : List Char → List Char
  | [] => []
  | c :: cs => if c = '\n' then skipSpace cs else skipComment cs

end

/-- The next significant text: verbose patterns have insignificant blanks. -/
def Flags.skip (f : Flags) (cs : List Char) : List Char := if f.verbose then skipSpace cs else cs

/-- A part of a pattern that is no group, class or operator. -/
inductive Part where
  | literal (c : Char)
  | set (s : CharSet)
  | look (l : Look)
deriving DecidableEq, Inhabited

namespace Part

/-- The character with a code point, if there is one. -/
def ofCode (n : Nat) : Except Fault Char :=
  if n.isValidChar then .ok (Char.ofNat n) else .error .invalidCode

/-- Reads `count` hexadecimal digits after `value`. -/
def hexDigits (f : Flags) : Nat → Nat → List Char → Except Fault (Nat × List Char)
  | 0, value, cs => .ok (value, cs)
  | _ + 1, _, [] => .error .invalidCode
  | count + 1, value, c :: cs =>
    match Json.hexDigit? c with
    | none => .error .invalidCode
    | some d => hexDigits f count (value * 16 + d) (f.skip cs)

/-- Reads hexadecimal digits up to a closing brace. -/
def hexBraced (f : Flags) (fuel value count : Nat) (cs : List Char) :
    Except Fault (Nat × List Char) :=
  match fuel, cs with
  | 0, _ => .error .invalidCode
  | _, [] => .error .invalidCode
  | fuel + 1, c :: cs =>
    if c = '\x7d' then
      if count = 0 then .error .invalidCode else .ok (value, f.skip cs)
    else match Json.hexDigit? c with
      | none => .error .invalidCode
      | some d => hexBraced f fuel (value * 16 + d) (count + 1) (f.skip cs)

/-- The character of a hexadecimal escape with `width` digits or digits in braces. -/
def hexEscape (f : Flags) (width : Nat) (cs : List Char) : Except Fault (Part × List Char) :=
  match f.skip cs with
  | '\x7b' :: rest => do
    let rest := f.skip rest
    let (n, rest) ← hexBraced f (rest.length + 1) 0 0 rest
    let c ← ofCode n
    pure (.literal c, rest)
  | cs => do
    let (n, rest) ← hexDigits f width 0 cs
    let c ← ofCode n
    pure (.literal c, rest)

/-- A character of the name of a word test. -/
def isTestNameChar (c : Char) : Bool := c.isAlpha || c = '-'

/-- The word test named in braces after `\b`. Braces that hold no name are left for
a repetition. -/
def wordTest (f : Flags) (cs : List Char) : Except Fault (Part × List Char) :=
  match cs with
  | '\x7b' :: rest =>
    match f.skip rest with
    | [] => .error .unclosedCount
    | c :: inner =>
      if isTestNameChar c then
        let text := (c :: inner).filter fun c => !(f.verbose && Text.isBlank c)
        let name := text.takeWhile isTestNameChar
        match (c :: inner).dropWhile fun c =>
            isTestNameChar c || (f.verbose && Text.isBlank c) with
        | '\x7d' :: rest =>
          match String.ofList name with
          | "start" => .ok (.look .wordStart, rest)
          | "end" => .ok (.look .wordEnd, rest)
          | "start-half" => .ok (.look .wordStartHalf, rest)
          | "end-half" => .ok (.look .wordEndHalf, rest)
          | _ => .error .unknownEscape
        | _ => .error .unknownEscape
      else .ok (.look .wordBoundary, cs)
  | cs => .ok (.look .wordBoundary, cs)

/-- An ASCII character that stands for itself after a backslash. -/
def isPlainEscape (c : Char) : Bool := c.toNat < 0x80 && !c.isAlphanum && c ≠ '<' && c ≠ '>'

/-- The part after a backslash. -/
def escape (f : Flags) : List Char → Except Fault (Part × List Char)
  | [] => .error .unknownEscape
  | c :: cs =>
    if c.isDigit then .error .backreference
    else if isPlainEscape c then .ok (.literal c, cs)
    else match c with
      | 'x' => hexEscape f 2 cs
      | 'u' => hexEscape f 4 cs
      | 'U' => hexEscape f 8 cs
      | 'p' => .error .unsupportedClass
      | 'P' => .error .unsupportedClass
      | 'd' => .ok (.set .digit, cs)
      | 'D' => .ok (.set (.compl .digit), cs)
      | 's' => .ok (.set .blank, cs)
      | 'S' => .ok (.set (.compl .blank), cs)
      | 'w' => .ok (.set .word, cs)
      | 'W' => .ok (.set (.compl .word), cs)
      | 'a' => .ok (.literal '\x07', cs)
      | 'f' => .ok (.literal '\x0c', cs)
      | 't' => .ok (.literal '\t', cs)
      | 'n' => .ok (.literal '\n', cs)
      | 'r' => .ok (.literal '\r', cs)
      | 'v' => .ok (.literal '\x0b', cs)
      | 'A' => .ok (.look .textStart, cs)
      | 'z' => .ok (.look .textEnd, cs)
      | 'b' => wordTest f cs
      | 'B' => .ok (.look .notWordBoundary, cs)
      | '<' => .ok (.look .wordStart, cs)
      | '>' => .ok (.look .wordEnd, cs)
      | _ => .error .unknownEscape

end Part

/-- The digits of a number, with insignificant blanks between them. -/
def countDigits (f : Flags) (fuel : Nat) (cs : List Char) : List Char × List Char :=
  match fuel, cs with
  | 0, cs => ([], cs)
  | _, [] => ([], [])
  | fuel + 1, c :: cs =>
    if c.isDigit then
      let (digits, rest) := countDigits f fuel (f.skip cs)
      (c :: digits, rest)
    else ([], c :: cs)

/-- A number of a repetition, between blanks. Missing digits are left to the caller. -/
def countNumber (f : Flags) (cs : List Char) : Except Fault (Option Nat × List Char) :=
  let cs := cs.dropWhile Text.isBlank
  let (digits, rest) := countDigits f cs.length cs
  let rest := f.skip (rest.dropWhile Text.isBlank)
  match Digits.value? digits with
  | none => .ok (none, rest)
  | some n => if n < UInt32.size then .ok (some n, rest) else .error .hugeCount

end TableFlow.Pattern
