import TableFlow.Number.Decimal
import TableFlow.Number.Width
import TableFlow.Text.CharClass
import TableFlow.Value.Basic

/-!
# Conversion of texts

A `Converter` turns texts into integers, doubles or truth values. It tries its
types in order on the text without the blanks around it; a text that no type
accepts stays as it is, and so does every value that is no text.
-/

namespace TableFlow

/-- A type that a text can be converted to. -/
inductive RawType where
  | int
  | float
  | bool
deriving DecidableEq, Inhabited, Repr

namespace RawType

/-- The 64-bit integer that a text writes, with an optional sign. -/
def int? (cs : List Char) : Option Int64 :=
  let (negative, digits) := Decimal.splitSign cs
  match Digits.value? digits with
  | none => none
  | some n => int64? (if negative then -(n : Int) else n)

/-- The truth value that a text writes, in any case. -/
def bool? (cs : List Char) : Option Bool :=
  let word := cs.map Char.toLower
  if word = ['t', 'r', 'u', 'e'] then some true
  else if word = ['f', 'a', 'l', 's', 'e'] then some false
  else none

/-- The value of this type that a text writes; a double has to be finite. -/
def read? (t : RawType) (cs : List Char) : Option Value :=
  match t with
  | .int => (int? cs).map .int
  | .float => ((Double.read? cs).filter Double.isFinite).map .float
  | .bool => (bool? cs).map .bool

/-- The name of a type in specifications. -/
def name : RawType → String
  | .int => "int"
  | .float => "float"
  | .bool => "bool"

/-- The type with a name. -/
def ofName? : String → Option RawType
  | "int" => some .int
  | "float" => some .float
  | "bool" => some .bool
  | _ => none

end RawType

/-- The types that a converter tries, in order. -/
structure Converter where
  types : List RawType := [.int, .float]
deriving DecidableEq, Inhabited

namespace Converter

/-- The first type that accepts the text decides. -/
def read? (c : Converter) (cs : List Char) : Option Value :=
  c.types.findSome? fun t => t.read? cs

/-- The converted value. -/
def convert (c : Converter) (v : Value) : Value :=
  match v with
  | .str s =>
    let text := Text.trim s.toList
    if text.isEmpty then v else (c.read? text).getD v
  | v => v

/-- The converted value with the name of its kind. -/
def cast (c : Converter) (v : Value) : String × Value :=
  let converted := c.convert v
  (converted.label, converted)

end Converter

end TableFlow
