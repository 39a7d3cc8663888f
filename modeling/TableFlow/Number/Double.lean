/-!
# Double precision numbers

A `Double` is a 64-bit IEEE 754 pattern. Every finite magnitude is a whole
number of *units*, a unit being the least positive double, `2 ^ (-1074)`; so
addition, multiplication, division and conversion are exact integer arithmetic
followed by one rounding, `nearest`, which goes to the closest double and on a
tie to the one with the even pattern.

* `Double.key` orders all patterns, NaNs and signed zeros included.
* `Double.ofInt` converts an integer with one rounding.
-/

namespace TableFlow

/-- A double precision number, given by its bit pattern. -/
structure Double where
  bits : UInt64
deriving DecidableEq, Inhabited

namespace Double

/-- The pattern of the sign bit. -/
def signBit : Nat := 0x8000000000000000

/-- The pattern of positive infinity; larger magnitudes are NaNs. -/
def infinityBits : Nat := 0x7FF0000000000000

/-- One step of the exponent; in a significand, the leading bit that patterns leave out. -/
def exponentStep : Nat := 0x10000000000000

/-- The bit that makes a NaN quiet. -/
def quietBit : Nat := 0x8000000000000

/-- The pattern without its sign bit. -/
def magnitude (x : Double) : Nat := x.bits.toNat % signBit

/-- The sign bit is set. -/
def isNegative (x : Double) : Bool := signBit ≤ x.bits.toNat

def isNaN (x : Double) : Bool := infinityBits < x.magnitude

def isInfinite (x : Double) : Bool := x.magnitude == infinityBits

def isFinite (x : Double) : Bool := x.magnitude < infinityBits

/-- The number with this sign and this magnitude pattern. -/
def ofParts (negative : Bool) (magnitude : Nat) : Double :=
  ⟨UInt64.ofNat (if negative then signBit + magnitude else magnitude)⟩

def zero : Double := ofParts false 0

/-- Positive infinity, or negative infinity. -/
def infinity (negative : Bool) : Double := ofParts negative infinityBits

/-- The quiet NaN with the given sign bit and no payload. -/
def quietNaN (negative : Bool) : Double := ofParts negative (infinityBits + quietBit)

/-! ## Order -/

/-- The place of a pattern in the total order of patterns: negative patterns run
downwards below the positive ones, `-0` stands just below `0`, and NaNs stand at
both ends. -/
def key (x : Double) : Int :=
  if x.isNegative then -1 - (x.magnitude : Int) else x.magnitude

/-- Comparison of patterns in the total order. -/
def cmp (x y : Double) : Ordering := compare x.key y.key

/-- Numeric order: a NaN is below nothing and the two zeros are equal. -/
def lt (x y : Double) : Bool :=
  !x.isNaN && !y.isNaN && !(x.magnitude == 0 && y.magnitude == 0) && x.key < y.key

/-- Numeric equality: a NaN equals nothing and the two zeros are equal. -/
def numEq (x y : Double) : Bool :=
  !x.isNaN && !y.isNaN && (x.key == y.key || (x.magnitude == 0 && y.magnitude == 0))

def le (x y : Double) : Bool := lt x y || numEq x y

/-! ## Exact values and rounding -/

/-- The units of a finite magnitude pattern. -/
def unitsOf (magnitude : Nat) : Nat :=
  if magnitude < exponentStep then magnitude
  else (exponentStep + magnitude % exponentStep) * Nat.pow 2 (magnitude / exponentStep - 1)

/-- The exact magnitude of a finite number, in units. -/
def units (x : Double) : Nat := unitsOf x.magnitude

/-- The exact value of a finite number, in units. -/
def signedUnits (x : Double) : Int :=
  if x.isNegative then -(x.units : Int) else x.units

/-- The number of units in one. -/
def unitsPerOne : Nat := Nat.pow 2 1074

/-- The quotient rounded to the nearest whole number, a half to the even one. -/
def roundHalfEven (num den : Nat) : Nat :=
  let q := num / den
  let r := num % den
  if 2 * r < den then q
  else if den < 2 * r then q + 1
  else q + q % 2

/-- The magnitude pattern nearest to `num / den` units; past the largest finite
number it is infinity. -/
def nearest (num den : Nat) : Nat :=
  let shift := (num / den).log2 - 52
  min (roundHalfEven num (den * Nat.pow 2 shift) + shift * exponentStep) infinityBits

/-- The double nearest to the exact value `± num / den`. -/
def ofRatio (negative : Bool) (num den : Nat) : Double :=
  ofParts negative (nearest (num * unitsPerOne) den)

/-- The double nearest to a natural number. -/
def ofNat (n : Nat) : Double := ofRatio false n 1

/-- The double nearest to an integer; zero is positive. -/
def ofInt (i : Int) : Double := ofRatio (i < 0) i.natAbs 1

/-! ## Arithmetic

An operation on a NaN gives that NaN, made quiet; an operation without a numeric
result gives the negative quiet NaN. -/

/-- The NaN that an operation on `x` hands on. -/
def quiet (x : Double) : Double :=
  ofParts x.isNegative
    (if x.magnitude % exponentStep < quietBit then x.magnitude + quietBit else x.magnitude)

/-- The result of an operation on `x` and `y`, one of which is a NaN. -/
def propagate (x y : Double) : Double := if x.isNaN then x.quiet else y.quiet

def neg (x : Double) : Double := ofParts (!x.isNegative) x.magnitude

/-- The sum, rounded once; an exact zero is positive unless both terms are `-0`. -/
def add (x y : Double) : Double :=
  if x.isNaN || y.isNaN then propagate x y
  else if x.isInfinite then
    if y.isInfinite && x.isNegative != y.isNegative then quietNaN true else x
  else if y.isInfinite then y
  else
    let s := x.signedUnits + y.signedUnits
    if s = 0 then ofParts (x.isNegative && y.isNegative) 0
    else ofParts (s < 0) (nearest s.natAbs 1)

/-- The product, rounded once. -/
def mul (x y : Double) : Double :=
  let negative := x.isNegative != y.isNegative
  if x.isNaN || y.isNaN then propagate x y
  else if x.isInfinite || y.isInfinite then
    if x.magnitude == 0 || y.magnitude == 0 then quietNaN true else infinity negative
  else ofParts negative (nearest (x.units * y.units) unitsPerOne)

/-- The quotient, rounded once. -/
def div (x y : Double) : Double :=
  let negative := x.isNegative != y.isNegative
  if x.isNaN || y.isNaN then propagate x y
  else if x.isInfinite then
    if y.isInfinite then quietNaN true else infinity negative
  else if y.isInfinite then ofParts negative 0
  else if y.magnitude == 0 then
    if x.magnitude == 0 then quietNaN true else infinity negative
  else ofParts negative (nearest (x.units * unitsPerOne) y.units)

/-! ## Single precision

A 32-bit pattern has the same parts, each narrower; `29` fewer bits of fraction. -/

/-- The sign bit of a 32-bit pattern. -/
def singleSignBit : Nat := 0x80000000

/-- The 32-bit pattern of positive infinity. -/
def singleInfinityBits : Nat := 0x7F800000

/-- One step of the exponent of a 32-bit pattern. -/
def singleExponentStep : Nat := 0x800000

/-- What one fraction bit of a 32-bit pattern counts in the fraction of a double. -/
def singleFractionStep : Nat := 0x20000000

/-- The bit that makes a 32-bit NaN quiet. -/
def singleQuietBit : Nat := 0x400000

/-- The least positive single, in units. -/
def unitsPerSingle : Nat := Nat.pow 2 925

/-- The double with the value of a 32-bit pattern. -/
def ofSingleBits (bits : Nat) : Double :=
  let negative := singleSignBit ≤ bits
  let m := bits % singleSignBit
  let exponent := m / singleExponentStep
  let fraction := m % singleExponentStep
  if exponent = 255 then ofParts negative (infinityBits + fraction * singleFractionStep)
  else
    let singles :=
      if exponent = 0 then fraction
      else (singleExponentStep + fraction) * Nat.pow 2 (exponent - 1)
    ofParts negative (nearest (singles * unitsPerSingle) 1)

/-- The 32-bit pattern nearest to a double. -/
def toSingleBits (x : Double) : Nat :=
  let sign := if x.isNegative then singleSignBit else 0
  if x.isNaN then
    sign + singleInfinityBits + singleQuietBit + x.magnitude % quietBit / singleFractionStep
  else if x.isInfinite then sign + singleInfinityBits
  else
    let shift := (x.units / unitsPerSingle).log2 - 23
    let rounded := roundHalfEven x.units (unitsPerSingle * Nat.pow 2 shift)
    sign + min (rounded + shift * singleExponentStep) singleInfinityBits

/-- The number rounded to single precision. -/
def toSingle (x : Double) : Double := ofSingleBits x.toSingleBits

end Double

end TableFlow
