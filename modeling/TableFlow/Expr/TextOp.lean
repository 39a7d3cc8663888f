import TableFlow.Error
import TableFlow.Text.Case
import TableFlow.Text.CharClass

/-!
# Operations on texts

Operations that clean or measure texts. On a list they work on every item, except
that joining takes the items together. A value that is no text is refused, or
taken by its text form when the caller asks for that.
-/

namespace TableFlow

/-- An operation on texts. -/
inductive TextOp where
  | lower
  | upper
  | capitalize
  | trim
  | length
  /-- Joins the texts of a list with a delimiter. -/
  | concat (delimiter : String)
deriving DecidableEq, Inhabited

/-- The text of a value: a text itself, or any value's text form if allowed. -/
def Value.asText (asText : Bool) : Value → Result String
  | .str s => .ok s
  | v => if asText then .ok v.text else .error (.type (.notText v))

/-- The texts of several values. -/
def Value.asTexts (asText : Bool) : List Value → Result (List String)
  | [] => .ok []
  | v :: vs =>
    match v.asText asText with
    | .error e => .error e
    | .ok s =>
      match Value.asTexts asText vs with
      | .error e => .error e
      | .ok ss => .ok (s :: ss)

namespace TextOp

/-- The operation on one text. -/
def onText (op : TextOp) (s : String) : Value :=
  match op with
  | .lower => .str (String.ofList (Text.lower s.toList))
  | .upper => .str (String.ofList (Text.upper s.toList))
  | .capitalize => .str (String.ofList (Text.capitalize s.toList))
  | .trim => .str (String.ofList (Text.trim s.toList))
  | .length => .int (Int64.ofNat s.toList.length)
  | .concat _ => .str s

/-- The operation on a value that is no list. -/
def onScalar (op : TextOp) (asText : Bool) (v : Value) : Result Value :=
  match v.asText asText with
  | .error e => .error e
  | .ok s => .ok (op.onText s)

mutual

/-- The operation on a value. -/
def apply (op : TextOp) (asText : Bool) : Value → Result Value
  | .list vs =>
    match op with
    | .concat delimiter =>
      match Value.asTexts asText vs with
      | .error e => .error e
      | .ok texts => .ok (.str (delimiter.intercalate texts))
    | op =>
      match applyAll op asText vs with
      | .error e => .error e
      | .ok results => .ok (.list results)
  | v => op.onScalar asText v

/-- The operation on every value of a list. -/
def applyAll (op : TextOp) (asText : Bool) : List Value → Result (List Value)
  | [] => .ok []
  | v :: vs =>
    match apply op asText v with
    | .error e => .error e
    | .ok r =>
      match applyAll op asText vs with
      | .error e => .error e
      | .ok rs => .ok (r :: rs)

end

end TextOp

end TableFlow
