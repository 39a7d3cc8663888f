import TableFlow.Number.Decimal

/-!
# Cell values

A `Value` is what a table cell holds: nothing, a truth value, a 64-bit integer,
a double, a text, or a list of values. Equality is equality of contents, doubles
by their bit patterns; main statement: `Value.decEq`.
-/

namespace TableFlow

/-- A cell value. -/
inductive Value where
  | null
  | bool (b : Bool)
  | int (i : Int64)
  | float (x : Double)
  | str (s : String)
  | list (vs : List Value)
deriving Inhabited

/-- The cells of one row. -/
abbrev Row := List Value

namespace Value

mutual

/-- Equality of values is decidable. -/
def decEq : (a b : Value) → Decidable (a = b)
  | .null, .null => isTrue rfl
  | .bool a, .bool b => if h : a = b then isTrue (by rw [h]) else isFalse (by simpa using h)
  | .int a, .int b => if h : a = b then isTrue (by rw [h]) else isFalse (by simpa using h)
  | .float a, .float b => if h : a = b then isTrue (by rw [h]) else isFalse (by simpa using h)
  | .str a, .str b => if h : a = b then isTrue (by rw [h]) else isFalse (by simpa using h)
  | .list a, .list b =>
    match decEqList a b with
    | isTrue h => isTrue (by rw [h])
    | isFalse h => isFalse (by simpa using h)
  | .null, .bool _ | .null, .int _ | .null, .float _ | .null, .str _ | .null, .list _
  | .bool _, .null | .bool _, .int _ | .bool _, .float _ | .bool _, .str _ | .bool _, .list _
  | .int _, .null | .int _, .bool _ | .int _, .float _ | .int _, .str _ | .int _, .list _
  | .float _, .null | .float _, .bool _ | .float _, .int _ | .float _, .str _ | .float _, .list _
  | .str _, .null | .str _, .bool _ | .str _, .int _ | .str _, .float _ | .str _, .list _
  | .list _, .null | .list _, .bool _ | .list _, .int _ | .list _, .float _ | .list _, .str _ =>
    isFalse (by simp)

/-- Equality of lists of values is decidable. -/
def decEqList : (as bs : List Value) → Decidable (as = bs)
  | [], [] => isTrue rfl
  | [], _ :: _ => isFalse (by simp)
  | _ :: _, [] => isFalse (by simp)
  | a :: as, b :: bs =>
    match decEq a b with
    | isFalse h => isFalse (by simp [h])
    | isTrue h =>
      match decEqList as bs with
      | isFalse h' => isFalse (by simp [h'])
      | isTrue h' => isTrue (by rw [h, h'])

end

instance : DecidableEq Value := decEq

/-! ## Kinds -/

/-- The place of a value's kind when values of different kinds are ordered. -/
def rank : Value → Nat
  | .null => 0
  | .bool _ => 1
  | .int _ => 2
  | .float _ => 3
  | .str _ => 4
  | .list _ => 5

/-- The name of a value's kind. -/
def label : Value → String
  | .null => "null"
  | .bool _ => "bool"
  | .int _ => "int"
  | .float _ => "float"
  | .str _ => "str"
  | .list _ => "list"

def isNull : Value → Bool
  | .null => true
  | _ => false

/-- The value counts as missing: nothing, or the empty text. -/
def isEmpty : Value → Bool
  | .null => true
  | .str s => s == ""
  | _ => false

def str? : Value → Option String
  | .str s => some s
  | _ => none

def bool? : Value → Option Bool
  | .bool b => some b
  | _ => none

/-- The number that an integer or a double stands for. -/
def number? : Value → Option Double
  | .int i => some (Double.ofInt i.toInt)
  | .float x => some x
  | _ => none

def list? : Value → Option (List Value)
  | .list vs => some vs
  | _ => none

/-! ## Text -/

mutual

/-- The characters of a value's text. Nothing has the empty text, and a list shows
its items between parentheses. -/
def chars : Value → List Char
  | .null => []
  | .bool true => ['t', 'r', 'u', 'e']
  | .bool false => ['f', 'a', 'l', 's', 'e']
  | .int i => Digits.ofInt i.toInt
  | .float x => x.text
  | .str s => s.toList
  | .list vs => '(' :: charsList vs ++ [')']

/-- The texts of values with a comma and a space between them. -/
def charsList : List Value → List Char
  | [] => []
  | [v] => chars v
  | v :: vs => chars v ++ ',' :: ' ' :: charsList vs

end

/-- The text form of a value. -/
def text (v : Value) : String := String.ofList v.chars

/-- A value by kind and text. -/
def described (v : Value) : String := v.label ++ " value '" ++ v.text ++ "'"

end Value

end TableFlow
