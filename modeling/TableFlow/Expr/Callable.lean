import TableFlow.Error
import TableFlow.Text.Quoted

/-!
# Callables

A `Callable` wraps a function on argument lists that the library's user supplies,
with a name and a check on the number of arguments. It may ask for a single list
argument to be unpacked into arguments.
-/

namespace TableFlow

/-- How many arguments a callable takes. -/
inductive Arity where
  | exactly (n : Nat)
  | atLeast (n : Nat)
  | any
deriving DecidableEq, Inhabited

namespace Arity

/-- Refuses a wrong number of arguments. -/
def check (a : Arity) (actual : Nat) : Result Unit :=
  match a with
  | .exactly n => if actual = n then .ok () else .error (.arity n actual)
  | .atLeast n => if n ≤ actual then .ok () else .error (.arity n actual)
  | .any => .ok ()

/-- The text of an arity in descriptions of callables. -/
def text : Arity → String
  | .exactly n => "Exactly(" ++ Digits.text n ++ ")"
  | .atLeast n => "AtLeast(" ++ Digits.text n ++ ")"
  | .any => "Any"

end Arity

/-- A user function on argument lists. -/
structure Callable where
  name : String
  arity : Arity
  unpackList : Bool
  func : List Value → Result Value

namespace Callable

instance : Inhabited Callable := ⟨⟨"", .any, false, fun _ => .ok .null⟩⟩

/-- A function of any number of arguments. -/
def ofFunc (name : String) (arity : Arity) (func : List Value → Result Value) : Callable :=
  ⟨name, arity, false, func⟩

/-- A function of one argument. -/
def unary (name : String) (func : Value → Result Value) : Callable :=
  ofFunc name (.exactly 1) fun
    | [v] => func v
    | vs => .error (.arity 1 vs.length)

/-- The callable that unpacks a single list argument. -/
def unpacking (c : Callable) : Callable := { c with unpackList := true }

/-- Checks the number of arguments and calls the function on them. -/
def callWith (c : Callable) (args : List Value) : Result Value :=
  match c.arity.check args.length with
  | .error e => .error e
  | .ok () => c.func args

/-- Calls a callable; a single list is unpacked if it asks for that. -/
def call (c : Callable) (args : List Value) : Result Value :=
  match c.unpackList, args with
  | true, [.list vs] => c.callWith vs
  | _, args => c.callWith args

/-- The description of a callable. -/
def text (c : Callable) : String :=
  "Callable \x7b name: " ++ String.ofList (Text.quote c.name.toList) ++ ", arity: " ++
    c.arity.text ++ ", unpack_list: " ++ (if c.unpackList then "true" else "false") ++
    ", .. \x7d"

end Callable

end TableFlow
