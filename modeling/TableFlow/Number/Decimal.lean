import TableFlow.Number.Digits
import TableFlow.Number.Double

/-!
# Decimals

A `Decimal` is a whole number times a power of ten. This module reads decimal
text, rounds a decimal to the nearest double, and picks for a double the
shortest decimal that rounds back to it.

* `Decimal.read?` accepts an optional sign, digits with at most one point and an
  optional exponent.
* `Decimal.shortest` tries one digit, two digits and so on; on each grid it
  tests the two neighbours of the exact value, and takes the closer one.
-/

namespace TableFlow

/-- The value `coefficient * 10 ^ exponent`. -/
structure Decimal where
  coefficient : Nat
  exponent : Int
deriving DecidableEq, Inhabited

namespace Decimal

/-! ## To a double -/

/-- The double nearest to `± d`. The two bounds keep huge exponents from being
computed: beyond them every value is infinite or zero. -/
def toDouble (negative : Bool) (d : Decimal) : Double :=
  let top := d.exponent + Digits.count d.coefficient
  if d.coefficient = 0 || top < -330 then Double.ofParts negative 0
  else if 310 < top then Double.infinity negative
  else match d.exponent with
    | .ofNat e => Double.ofRatio negative (d.coefficient * Nat.pow 10 e) 1
    | .negSucc e => Double.ofRatio negative d.coefficient (Nat.pow 10 (e + 1))

/-! ## Reading -/

/-- The value of a possibly empty run of digits. -/
def digitsValue (cs : List Char) : Nat := (Digits.value? cs).getD 0

/-- A sign in front, and what follows it. -/
def splitSign : List Char → Bool × List Char
  | '-' :: cs => (true, cs)
  | '+' :: cs => (false, cs)
  | cs => (false, cs)

/-- An exponent, if the text holds nothing else: a mark, an optional sign and at
least one digit. No text is exponent zero. -/
def readExponent? : List Char → Option Int
  | [] => some 0
  | c :: cs =>
    if c = 'e' || c = 'E' then
      let (negative, digits) := splitSign cs
      (Digits.value? digits).map fun n => if negative then -(n : Int) else n
    else none

/-- Digits with at most one point and at least one digit, and an optional exponent. -/
def read? (cs : List Char) : Option Decimal :=
  let (whole, rest) := Digits.span cs
  let (fraction, rest) := match rest with
    | '.' :: rest => Digits.span rest
    | rest => ([], rest)
  if whole.isEmpty && fraction.isEmpty then none
  else (readExponent? rest).map fun e =>
    ⟨digitsValue (whole ++ fraction), e - (fraction.length : Int)⟩

/-! ## Shortest -/

/-- The power of ten that scales every positive double above one. -/
def scaleExponent : Nat := 400

/-- The best decimal of `digits` significant digits for a double of the given
magnitude pattern, if one rounds back to it. On a tie between two such decimals
the upper one is taken when `tieUp`, else the one with the even coefficient. -/
def ofDigitCount? (tieUp : Bool) (pattern digits : Nat) : Option Decimal :=
  let units := Double.unitsOf pattern
  let scale := Nat.pow 10 scaleExponent
  let value := units * scale
  -- Ends of the interval of reals that round to this pattern, doubled.
  let low := (Double.unitsOf (pattern - 1) + units) * scale
  let high := (units + Double.unitsOf (pattern + 1)) * scale
  let even := pattern % 2 == 0
  let top := Digits.count (value / Double.unitsPerOne)
  let grid := Double.unitsPerOne * Nat.pow 10 (top - digits)
  let lower := value / grid
  let inside (c : Nat) : Bool :=
    let v := 2 * c * grid
    if even then low ≤ v && v ≤ high else low < v && v < high
  let decimal (c : Nat) : Decimal := ⟨c, (top : Int) - digits - scaleExponent⟩
  if inside lower then
    if inside (lower + 1) then
      let twice := 2 * (value % grid)
      let up := grid < twice || (twice == grid && (tieUp || lower % 2 == 1))
      some (decimal (if up then lower + 1 else lower))
    else some (decimal lower)
  else if inside (lower + 1) then some (decimal (lower + 1))
  else none

/-- Moves trailing zeros of the coefficient into the exponent. -/
def strip (fuel : Nat) (d : Decimal) : Decimal :=
  match fuel with
  | 0 => d
  | fuel + 1 =>
    if d.coefficient % 10 = 0 && d.coefficient ≠ 0 then
      strip fuel ⟨d.coefficient / 10, d.exponent + 1⟩
    else d

/-- The exact value of a magnitude pattern. -/
def exact (pattern : Nat) : Decimal :=
  ⟨Double.unitsOf pattern * Nat.pow 5 1074, -1074⟩

/-- The decimal with the fewest digits that rounds to the double of this
magnitude pattern, and of those the one closest to it. -/
def shortest (tieUp : Bool) (pattern : Nat) : Decimal :=
  let d := ((List.range 17).findSome? fun n => ofDigitCount? tieUp pattern (n + 1)).getD
    (exact pattern)
  d.strip 20

/-! ## Layout -/

/-- Positional notation, without an exponent and without trailing zeros after the
point. -/
def positional (d : Decimal) : List Char :=
  let digits := Digits.ofNat d.coefficient
  match d.exponent with
  | .ofNat e => digits ++ List.replicate e '0'
  | .negSucc e =>
    let places := e + 1
    -- with fewer digits than places, zeros stand between the point and the first digit
    if places < digits.length then
      digits.take (digits.length - places) ++ '.' :: digits.drop (digits.length - places)
    else '0' :: '.' :: List.replicate (places - digits.length) '0' ++ digits

/-- Notation with an exponent: one digit before the point, no point when there is
only one digit, and always a sign of the exponent. -/
def scientific (d : Decimal) : List Char :=
  let digits := Digits.ofNat d.coefficient
  let exponent := d.exponent + digits.length - 1
  let mantissa := match digits with
    | first :: second :: rest => first :: '.' :: second :: rest
    | digits => digits
  let sign := if exponent < 0 then '-' else '+'
  mantissa ++ 'e' :: sign :: Digits.ofNat exponent.natAbs

end Decimal

namespace Double

/-- A minus sign for a set sign bit. -/
def signText (x : Double) : List Char := if x.isNegative then ['-'] else []

/-- The text of a number: the shortest decimal in positional notation, without
`.0`; a NaN shows no sign. -/
def text (x : Double) : List Char :=
  if x.isNaN then ['N', 'a', 'N']
  else if x.isInfinite then x.signText ++ ['i', 'n', 'f']
  else if x.magnitude = 0 then x.signText ++ ['0']
  else x.signText ++ (Decimal.shortest true x.magnitude).positional

/-- The text of a finite number in a JSON document: positional between `1e-5` and
`1e16`, with `.0` on whole numbers, and with an exponent elsewhere. -/
def jsonText (x : Double) : List Char :=
  if x.magnitude = 0 then x.signText ++ ['0', '.', '0']
  else
    let d := Decimal.shortest false x.magnitude
    let top := d.exponent + (Digits.ofNat d.coefficient).length
    x.signText ++
      (if 0 ≤ d.exponent && top ≤ 16 then d.positional ++ ['.', '0']
       else if d.exponent < 0 && -5 < top && top ≤ 16 then d.positional
       else d.scientific)

/-- The number rounded to one decimal place, a half of the exact value going to
the even digit. -/
def oneDecimalText (x : Double) : List Char :=
  let tenths := roundHalfEven (x.units * 10) unitsPerOne
  x.signText ++ Digits.ofNat (tenths / 10) ++ ['.', Digits.char (tenths % 10)]

/-- The words for values that are no decimals. -/
def special? (cs : List Char) : Option (Bool → Double) :=
  let word := cs.map Char.toLower
  if word = ['i', 'n', 'f'] || word = ['i', 'n', 'f', 'i', 'n', 'i', 't', 'y'] then some infinity
  else if word = ['n', 'a', 'n'] then some quietNaN
  else none

/-- Reads a number: a sign, then a decimal, `inf`, `infinity` or `nan` in any case. -/
def read? (cs : List Char) : Option Double :=
  let (negative, rest) := Decimal.splitSign cs
  match Decimal.read? rest with
  | some d => some (d.toDouble negative)
  | none => (special? rest).map fun f => f negative

end Double

end TableFlow
