import TableFlow.Json.Reader
import TableFlow.Json.Writer
import TableFlow.Number.Width
import TableFlow.Value.Basic

/-!
# Values as JSON

A value is written as the JSON of its shape, and read back by its shape. A double
without a JSON number is written as `null`, and whole numbers beyond 64 signed
bits are read as doubles.
-/

namespace TableFlow

namespace Json

/-- A finite double as a number, and any other one as `null`. -/
def ofDouble (x : Double) : Json := if x.isFinite then .num x.jsonText else .null

end Json

namespace Value

mutual

/-- The JSON of a value. -/
def toJson : Value → Json
  | .null => .null
  | .bool b => .bool b
  | .int i => Json.ofInt i.toInt
  | .float x => Json.ofDouble x
  | .str s => .str s
  | .list vs => .arr (toJsonList vs)

def toJsonList : List Value → List Json
  | [] => []
  | v :: vs => toJson v :: toJsonList vs

end

/-- The value that a JSON number stands for. -/
def ofNumber? (text : List Char) : Option Value :=
  match JsonNumber.ofText? text with
  | some (.integer i) => some ((int64? i).elim (.float (Double.ofInt i)) .int)
  | some (.real x) => some (.float x)
  | none => none

mutual

/-- The value of a JSON document; objects are no values. -/
def ofJson? : Json → Option Value
  | .null => some .null
  | .bool b => some (.bool b)
  | .num text => ofNumber? text
  | .str s => some (.str s)
  | .arr items => (ofJsonList? items).map .list
  | .obj _ => none

def ofJsonList? : List Json → Option (List Value)
  | [] => some []
  | j :: js =>
    match ofJson? j with
    | none => none
    | some v => (ofJsonList? js).map (v :: ·)

end

/-- The compact JSON text of a value. -/
def jsonText (v : Value) : String := String.ofList v.toJson.compact

/-- Reads a value from JSON text. -/
def parse? (s : String) : Option Value :=
  match Json.parse? s.toList with
  | some j => ofJson? j
  | none => none

end Value

end TableFlow
