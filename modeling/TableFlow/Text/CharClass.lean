import TableFlow.Text.WordTable

/-!
# Classes of characters

White space, word characters and decimal digits, each of them a list of inclusive
ranges of code points; and what is cut out of a text by its white space or by a
separator.
-/

namespace TableFlow.Text

/-- The code point of `c` lies in one of the ranges. -/
def inRanges (ranges : List (Nat × Nat)) (c : Char) : Bool :=
  ranges.any fun r => r.1 ≤ c.toNat && c.toNat ≤ r.2

/-- Code point ranges of white space. -/
def blankRanges : List (Nat × Nat) :=
  [(0x9, 0xD), (0x20, 0x20), (0x85, 0x85), (0xA0, 0xA0), (0x1680, 0x1680), (0x2000, 0x200A),
   (0x2028, 0x2029), (0x202F, 0x202F), (0x205F, 0x205F), (0x3000, 0x3000)]

/-- The character is white space. -/
def isBlank (c : Char) : Bool := inRanges blankRanges c

/-- A letter, mark, decimal digit, connector or join control. -/
def isWord (c : Char) : Bool := inRanges wordRanges c

/-- A decimal digit of any script. -/
def isDecimalDigit (c : Char) : Bool := inRanges digitRanges c

/-- A text without the white space at its ends. -/
def trim (cs : List Char) : List Char :=
  ((cs.dropWhile isBlank).reverse.dropWhile isBlank).reverse

/-- The pieces of a text between the occurrences of a character. -/
def pieces (separator : Char) (s : String) : List String :=
  (s.toList.splitOn separator).map String.ofList

end TableFlow.Text
