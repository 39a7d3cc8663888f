import TableFlow.Pattern.Fault

/-!
# Pattern engines

Which texts are patterns and what they match is up to an engine. Specifications are
validated, built and run with whatever engine there is, so it is inferred and not passed
from function to function. `Pattern.Grammar` has the one of the program.

* `Pattern` is what an engine makes of a text.
* `Pattern.anchored` compiles a text that has to match from the start, or as a whole.
-/

namespace TableFlow

/-- A text together with what it matches. -/
structure Pattern where
  source : String
  /-- The pattern matches some part of a text. -/
  matchesText : String → Bool
deriving Inhabited

end TableFlow

namespace TableFlow.Pattern

/-- Compiles texts, or says why they are no patterns. -/
class Engine where
  compile : String → Except Fault Pattern

/-- The text with which a pattern is tied to the start of what it matches, or to
both ends. -/
def anchoredSource (source : String) (whole : Bool) : String :=
  "\\A(?:" ++ source ++ if whole then ")\\z" else ")"

/-- Compiles a text that is tied to the start of what it matches, or to both ends. -/
def anchored [Engine] (source : String) (whole : Bool) : Except Fault Pattern :=
  Engine.compile (anchoredSource source whole)

end TableFlow.Pattern
