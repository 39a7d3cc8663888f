import TableFlow.Text.CaseTable
import TableFlow.Text.CharClass

/-!
# Letter case

Case mapping of characters and texts by the Unicode tables. A character may map
to several. A capital sigma is the only letter whose lower case depends on its
place: at the end of a word it is the final form.

* `Text.lower`, `Text.upper` map a whole text.
* `Text.capitalize` raises the first character and lowers the others one by one.
* `Text.foldClass` lists the characters that differ from a given one in case only.
-/

namespace TableFlow.Text

namespace CaseRun

/-- The run holds the code point. -/
def holds (r : CaseRun) (n : Nat) : Bool :=
  r.first ≤ n && n ≤ r.last && (n - r.first) % r.step == 0

/-- The image of a code point of the run. -/
def image (r : CaseRun) (n : Nat) : Nat := ((n : Int) + r.shift).toNat

/-- The code point of the run whose image is `n`. -/
def source? (r : CaseRun) (n : Nat) : Option Nat :=
  let m := (n : Int) - r.shift
  if 0 ≤ m ∧ r.holds m.toNat then some m.toNat else none

end CaseRun

/-- The image of a character under single-character mappings; others stay. -/
def mapRun (runs : List CaseRun) (c : Char) : Char :=
  match runs.find? fun r => r.holds c.toNat with
  | some r => Char.ofNat (r.image c.toNat)
  | none => c

/-- The image of a character under a table of single and several-character mappings. -/
def mapCase (runs : List CaseRun) (special : List (Nat × List Nat)) (c : Char) : List Char :=
  match special.lookup c.toNat with
  | some images => images.map Char.ofNat
  | none => [mapRun runs c]

/-- The lower case of a character, whatever its place. -/
def lowerChar (c : Char) : List Char := mapCase lowerRuns lowerSpecial c

/-- The upper case of a character. -/
def upperChar (c : Char) : List Char := mapCase upperRuns upperSpecial c

def isCased (c : Char) : Bool := inRanges casedRanges c

def isCaseIgnorable (c : Char) : Bool := inRanges caseIgnorableRanges c

/-- The first character that casing does not look through is cased. -/
def startsCased (cs : List Char) : Bool :=
  match cs.dropWhile isCaseIgnorable with
  | c :: _ => isCased c
  | [] => false

/-- The lower case of a capital sigma between the reversed text before it and the
text after it: the final form at the end of a word. -/
def lowerSigma (before after : List Char) : Char :=
  if startsCased before && !startsCased after then 'ς' else 'σ'

/-- The lower case of a text that follows the reversed text `before`. -/
def lowerAfter (before : List Char) : List Char → List Char
  | [] => []
  | c :: cs =>
    (if c = 'Σ' then [lowerSigma before cs] else lowerChar c) ++ lowerAfter (c :: before) cs

/-- The lower case of a text. -/
def lower (cs : List Char) : List Char := lowerAfter [] cs

/-- The upper case of a text. -/
def upper (cs : List Char) : List Char := cs.flatMap upperChar

/-- The first character in upper case and every other one in lower case. -/
def capitalize : List Char → List Char
  | [] => []
  | c :: cs => upperChar c ++ cs.flatMap lowerChar

/-! ## Folding -/

/-- The simple case folding of a character. -/
def foldChar (c : Char) : Char := mapRun foldRuns c

/-- The characters with the same simple case folding as `c`, itself included. -/
def foldClass (c : Char) : List Char :=
  let target := foldChar c
  target :: foldRuns.filterMap fun r => (r.source? target.toNat).map Char.ofNat

end TableFlow.Text
