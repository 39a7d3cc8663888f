import TableFlow.Text.Case
import TableFlow.Text.CharClass

/-!
# Sets of characters

The sets that a pattern can ask of a character, as expressions: ranges, the
Unicode classes of digits, blanks and word characters, the operations on sets,
and closure under letter case. `CharSet.contains` decides membership.
-/

namespace TableFlow.Pattern

/-- An expression for a set of characters. -/
inductive CharSet where
  | none
  | range (first last : Char)
  | digit
  | blank
  | word
  | union (a b : CharSet)
  | inter (a b : CharSet)
  | diff (a b : CharSet)
  | symmDiff (a b : CharSet)
  | compl (a : CharSet)
  /-- The characters that differ from some member in case only. -/
  | foldCase (a : CharSet)
deriving DecidableEq, Inhabited

namespace CharSet

/-- The set of one character. -/
def single (c : Char) : CharSet := .range c c

/-- Membership. -/
def contains : CharSet → Char → Bool
  | .none, _ => false
  | .range first last, c => first ≤ c && c ≤ last
  | .digit, c => Text.isDecimalDigit c
  | .blank, c => Text.isBlank c
  | .word, c => Text.isWord c
  | .union a b, c => a.contains c || b.contains c
  | .inter a b, c => a.contains c && b.contains c
  | .diff a b, c => a.contains c && !b.contains c
  | .symmDiff a b, c => a.contains c != b.contains c
  | .compl a, c => !a.contains c
  | .foldCase a, c => (Text.foldClass c).any a.contains

/-- The union of ranges. -/
def ofRanges : List (Char × Char) → CharSet
  | [] => .none
  | [(first, last)] => .range first last
  | (first, last) :: rest => .union (.range first last) (ofRanges rest)

/-- The named classes of ASCII characters. -/
def ofClassName? (name : String) : Option CharSet :=
  match name with
  | "alnum" => some (ofRanges [('0', '9'), ('A', 'Z'), ('a', 'z')])
  | "alpha" => some (ofRanges [('A', 'Z'), ('a', 'z')])
  | "ascii" => some (.range '\x00' '\x7f')
  | "blank" => some (ofRanges [('\t', '\t'), (' ', ' ')])
  | "cntrl" => some (ofRanges [('\x00', '\x1f'), ('\x7f', '\x7f')])
  | "digit" => some (.range '0' '9')
  | "graph" => some (.range '!' '~')
  | "lower" => some (.range 'a' 'z')
  | "print" => some (.range ' ' '~')
  | "punct" => some (ofRanges [('!', '/'), (':', '@'), ('[', '\x60'), ('\x7b', '~')])
  | "space" => some (ofRanges [('\t', '\r'), (' ', ' ')])
  | "upper" => some (.range 'A' 'Z')
  | "word" => some (ofRanges [('0', '9'), ('A', 'Z'), ('_', '_'), ('a', 'z')])
  | "xdigit" => some (ofRanges [('0', '9'), ('A', 'F'), ('a', 'f')])
  | _ => Option.none

end CharSet

end TableFlow.Pattern
