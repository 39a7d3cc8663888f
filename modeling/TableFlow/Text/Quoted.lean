import TableFlow.Text.CharClass
import TableFlow.Text.PrintableTable

/-!
# Quoted text

A text between double quotes in which quotes, backslashes and characters without
a visible form are escaped.
-/

namespace TableFlow.Text

/-- A number in lower case hexadecimal digits. -/
def hexDigits (n : Nat) : List Char := Nat.toDigits 16 n

/-- The escaped form of one character: a short escape, a code point in braces, or
the character itself. -/
def escapeChar (c : Char) : List Char :=
  if c = '"' then ['\\', '"']
  else if c = '\\' then ['\\', '\\']
  else if c = '\n' then ['\\', 'n']
  else if c = '\r' then ['\\', 'r']
  else if c = '\t' then ['\\', 't']
  else if c.toNat = 0 then ['\\', '0']
  else if inRanges unprintableRanges c then
    '\\' :: 'u' :: '\x7b' :: hexDigits c.toNat ++ ['\x7d']
  else [c]

/-- The text between quotes with every character escaped. -/
def quote (cs : List Char) : List Char := '"' :: cs.flatMap escapeChar ++ ['"']

end TableFlow.Text
