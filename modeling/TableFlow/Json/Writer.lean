import TableFlow.Json.Basic
import TableFlow.Text.Quoted

/-!
# Writing JSON

A document is written in any layout. The two that are used are the compact one,
without any space, and the one that is indented by two spaces a level.
-/

namespace TableFlow.Json

/-- A number below 16 as a hexadecimal digit. -/
def hexChar (n : Nat) : Char := if n < 10 then Char.ofNat (48 + n) else Char.ofNat (87 + n)

/-- The written form of one character of a string: quotes, backslashes and control
characters are escaped. -/
def escape (c : Char) : List Char :=
  if c = '"' then ['\\', '"']
  else if c = '\\' then ['\\', '\\']
  else if c = '\x08' then ['\\', 'b']
  else if c = '\x0c' then ['\\', 'f']
  else if c = '\n' then ['\\', 'n']
  else if c = '\r' then ['\\', 'r']
  else if c = '\t' then ['\\', 't']
  else if c.toNat < 0x20 then
    ['\\', 'u', '0', '0', hexChar (c.toNat / 16), hexChar (c.toNat % 16)]
  else [c]

/-- A string between quotes. -/
def stringText (s : String) : List Char := '"' :: s.toList.flatMap escape ++ ['"']

namespace Layout

mutual

/-- The document in a layout, from a level of indentation on. -/
def write (l : Layout) (level : Nat) : Json → List Char
  | .null => ['n', 'u', 'l', 'l']
  | .bool true => ['t', 'r', 'u', 'e']
  | .bool false => ['f', 'a', 'l', 's', 'e']
  | .num text => text
  | .str s => stringText s
  | .arr [] => ['[', ']']
  | .arr (j :: js) => '[' :: writeItems l (level + 1) (j :: js) ++ l.newline level ++ [']']
  | .obj [] => ['\x7b', '\x7d']
  | .obj (m :: ms) =>
    '\x7b' :: writeMembers l (level + 1) (m :: ms) ++ l.newline level ++ ['\x7d']

def writeItems (l : Layout) (level : Nat) : List Json → List Char
  | [] => []
  | [j] => l.newline level ++ write l level j
  | j :: js => l.newline level ++ write l level j ++ ',' :: writeItems l level js

def writeMembers (l : Layout) (level : Nat) : List (String × Json) → List Char
  | [] => []
  | [(name, j)] => l.newline level ++ stringText name ++ ':' :: (l.space ++ write l level j)
  | (name, j) :: ms =>
    l.newline level ++ stringText name ++ ':' :: (l.space ++ write l level j) ++
      ',' :: writeMembers l level ms

end

end Layout

/-- The document without spaces. -/
def compact (j : Json) : List Char := Layout.compact.write 0 j

/-- The document with one item or member a line. -/
def pretty (j : Json) : List Char := Layout.pretty.write 0 j

end TableFlow.Json
