/-!
# Faults of patterns

Why a text is no pattern.
-/

namespace TableFlow.Pattern

/-- Why a text is no pattern. -/
inductive Fault where
  | unclosedGroup
  | unopenedGroup
  | unclosedClass
  | emptyClassName
  | invalidRange
  | rangeOfClass
  | escapeInClass
  | nothingToRepeat
  | unclosedCount
  | emptyCount
  | invalidCount
  | hugeCount
  | unknownEscape
  | invalidCode
  | backreference
  | lookAround
  | unknownFlag
  | repeatedFlag
  | danglingNegation
  | invalidGroupName
  | repeatedGroupName
  | unsupportedClass
  | tooBig
  /-- What an engine says of a text for reasons of its own. -/
  | other (text : String)
deriving DecidableEq, Inhabited

namespace Fault

/-- The text of a fault. -/
def message : Fault → String
  | .unclosedGroup => "unclosed group"
  | .unopenedGroup => "unopened group"
  | .unclosedClass => "unclosed character class"
  | .emptyClassName => "empty class name"
  | .invalidRange => "invalid character class range, the start must be <= the end"
  | .rangeOfClass => "invalid range boundary, must be a literal"
  | .escapeInClass => "invalid escape sequence found in character class"
  | .nothingToRepeat => "repetition operator missing expression"
  | .unclosedCount => "unclosed counted repetition"
  | .emptyCount => "repetition quantifier expects a valid decimal"
  | .invalidCount => "invalid repetition count range, the start must be <= the end"
  | .hugeCount => "decimal literal invalid"
  | .unknownEscape => "unrecognized escape sequence"
  | .invalidCode => "hexadecimal literal is not a Unicode scalar value"
  | .backreference => "backreferences are not supported"
  | .lookAround => "look-around, including look-ahead and look-behind, is not supported"
  | .unknownFlag => "unrecognized flag"
  | .repeatedFlag => "duplicate flag"
  | .danglingNegation => "dangling flag negation operator"
  | .invalidGroupName => "invalid capture group character"
  | .repeatedGroupName => "duplicate capture group name"
  | .unsupportedClass => "Unicode property not found"
  | .tooBig => "compiled pattern exceeds the size limit"
  | .other text => text

end Fault

end TableFlow.Pattern
