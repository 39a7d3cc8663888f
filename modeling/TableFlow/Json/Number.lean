import TableFlow.Number.Decimal
import TableFlow.Number.Width

/-!
# Numbers in JSON documents

What the text of a JSON number stands for: a whole number when it is written as
one and fits in 64 bits, else a double. `JsonNumber.scale` brings the first
digits, as many as fit in 64 bits, to their power of ten with one multiplication
or division, so a double with many digits may differ in its last bit from the
closest one.
-/

namespace TableFlow

/-- The value of a JSON number. -/
inductive JsonNumber where
  | integer (i : Int)
  | real (x : Double)
deriving DecidableEq, Inhabited

namespace JsonNumber

/-- The parts of the text of a number: sign, digits before and after the point,
and the exponent's sign and digits. -/
structure Parts where
  negative : Bool
  whole : List Char
  fraction : Option (List Char)
  exponent : Option (Bool × List Char)

/-- A minus sign in front, and what follows it. -/
def splitMinus : List Char → Bool × List Char
  | '-' :: rest => (true, rest)
  | cs => (false, cs)

/-- The digits in front, and what follows them. There is at least one, and no leading
zero. -/
def splitWhole? (cs : List Char) : Option (List Char × List Char) :=
  let (digits, rest) := Digits.span cs
  if digits.isEmpty || (digits.head? == some '0' && digits.length ≠ 1) then none
  else some (digits, rest)

/-- The digits behind a point, if there is one, and what follows them. -/
def splitFraction? : List Char → Option (Option (List Char) × List Char)
  | '.' :: rest =>
    let (digits, rest) := Digits.span rest
    if digits.isEmpty then none else some (some digits, rest)
  | cs => some (none, cs)

/-- The sign and digits of an exponent, if there is one, and what follows them. -/
def splitExponent? : List Char → Option (Option (Bool × List Char) × List Char)
  | [] => some (none, [])
  | mark :: rest =>
    if mark = 'e' || mark = 'E' then
      let (sign, rest) := Decimal.splitSign rest
      let (digits, rest) := Digits.span rest
      if digits.isEmpty then none else some (some (sign, digits), rest)
    else some (none, mark :: rest)

/-- The leading number of a text, and what follows it. -/
def split? (cs : List Char) : Option (Parts × List Char) := do
  let (negative, cs) := splitMinus cs
  let (whole, cs) ← splitWhole? cs
  let (fraction, cs) ← splitFraction? cs
  let (exponent, cs) ← splitExponent? cs
  pure (⟨negative, whole, fraction, exponent⟩, cs)

/-- The largest number of 64 bits. -/
def maxWord : Nat := UInt64.size - 1

/-- The double nearest to a power of ten. -/
def powerOfTen (e : Nat) : Double := Double.ofNat (Nat.pow 10 e)

/-- A significand times a power of ten. An infinite result is refused. Exponents
below the range of doubles are reached in steps of `308`. -/
def scale (fuel : Nat) (x : Double) (exponent : Int) : Option Double :=
  match exponent with
  | .ofNat e =>
    if x.magnitude = 0 then some x
    else if 308 < e then none
    else
      let y := Double.mul x (powerOfTen e)
      if y.isInfinite then none else some y
  | .negSucc e =>
    if e + 1 ≤ 308 then some (Double.div x (powerOfTen (e + 1)))
    else match fuel with
      | 0 => some Double.zero
      | fuel + 1 =>
        if x.magnitude = 0 then some x
        else scale fuel (Double.div x (powerOfTen 308)) (exponent + 308)

/-- Reads digits after `value` as long as the number fits in 64 bits: the value,
how many digits were read, and how many were left. -/
def accumulate (value : Nat) (read : Nat) : List Char → Nat × Nat × Nat
  | [] => (value, read, 0)
  | c :: cs =>
    let next := 10 * value + (Digits.digit? c).getD 0
    if next ≤ maxWord then accumulate next (read + 1) cs else (value, read, cs.length + 1)

/-- The double for a number that is not a whole number of 64 bits. An exponent of
more than 31 bits makes it zero or out of range. -/
def toDouble? (p : Parts) : Option Double :=
  let (value, _, left) := accumulate 0 0 p.whole
  let (value, places, _) := accumulate value 0 (p.fraction.getD [])
  let shift := (left : Int) - places
  let sign (x : Double) : Double := if p.negative then x.neg else x
  -- Each step divides by `10 ^ 308`, so four reach zero from any significand.
  let scaled (exponent : Int) := (scale 4 (Double.ofNat value) exponent).map sign
  match p.exponent with
  | none => scaled shift
  | some (negative, digits) =>
    let e := Decimal.digitsValue digits
    if e < 0x80000000 then scaled (shift + if negative then -(e : Int) else e)
    else if negative || value = 0 then some (sign Double.zero)
    else none

/-- The value of a number. A negative zero is a double. -/
def ofParts? (p : Parts) : Option JsonNumber :=
  let n := Decimal.digitsValue p.whole
  if p.fraction.isNone && p.exponent.isNone && n ≤ maxWord then
    if !p.negative then some (.integer n)
    else if n = 0 || int64Bound < n then some (.real (Double.ofNat n).neg)
    else some (.integer (-(n : Int)))
  else (toDouble? p).map .real

/-- The value that the text of a number stands for, if it is in range. -/
def ofText? (text : List Char) : Option JsonNumber :=
  match split? text with
  | some (p, []) => ofParts? p
  | _ => none

end JsonNumber

end TableFlow
