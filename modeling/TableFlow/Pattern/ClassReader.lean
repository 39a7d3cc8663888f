import TableFlow.Pattern.Lexer

/-!
# Reading character classes

A class stands between brackets: single characters, ranges, escapes, named ASCII
classes and nested classes, joined by the operators `&&`, `--` and `~~`, which
associate to the left. A leading `^` complements the class.
-/

namespace TableFlow.Pattern

/-- An operator between two parts of a class. -/
inductive SetOp where
  | inter
  | diff
  | symmDiff
deriving DecidableEq

namespace SetOp

def apply : SetOp → CharSet → CharSet → CharSet
  | .inter, a, b => .inter a b
  | .diff, a, b => .diff a b
  | .symmDiff, a, b => .symmDiff a b

end SetOp

/-- What has been read of a class: the operand under way, and the operator and the
operand before it. -/
structure ClassState where
  negated : Bool
  operand : CharSet
  left : Option (SetOp × CharSet)

namespace ClassState

/-- Adds to the operand under way. -/
def push (s : ClassState) (set : CharSet) : ClassState :=
  { s with operand := match s.operand with
      | .none => set
      | old => .union old set }

/-- Closes a set under case if case is ignored. -/
def fold (f : Flags) (set : CharSet) : CharSet := if f.ignoreCase then .foldCase set else set

/-- The operands so far, joined. -/
def joined (f : Flags) (s : ClassState) : CharSet :=
  match s.left with
  | none => s.operand
  | some (op, left) => op.apply (fold f left) (fold f s.operand)

/-- Starts a new operand after an operator. -/
def operator (f : Flags) (op : SetOp) (s : ClassState) : ClassState :=
  ⟨s.negated, .none, some (op, s.joined f)⟩

/-- The set of a finished class. -/
def close (f : Flags) (s : ClassState) : CharSet :=
  let set := fold f (s.joined f)
  if s.negated then .compl set else set

end ClassState

/-- A named ASCII class after its opening bracket, and what follows it. -/
def namedClass? (cs : List Char) : Option (CharSet × List Char) :=
  match cs with
  | ':' :: rest =>
    let (negated, rest) := match rest with
      | '^' :: rest => (true, rest)
      | rest => (false, rest)
    let name := rest.takeWhile (· ≠ ':')
    match rest.dropWhile (· ≠ ':') with
    | ':' :: ']' :: rest =>
      (CharSet.ofClassName? (String.ofList name)).map fun set =>
        (if negated then .compl set else set, rest)
    | _ => none
  | _ => none

/-- Hyphens at the start of a class stand for themselves. -/
def leadingHyphens (f : Flags) (fuel : Nat) (s : ClassState) (cs : List Char) :
    ClassState × List Char :=
  match fuel, cs with
  | fuel + 1, '-' :: rest => leadingHyphens f fuel (s.push (.single '-')) (f.skip rest)
  | _, cs => (s, cs)

/-- The start of a class after its opening bracket: the complement mark, then
hyphens or a closing bracket that stand for themselves. -/
def classStart (f : Flags) (cs : List Char) : Except Fault (ClassState × List Char) :=
  let (negated, cs) := match f.skip cs with
    | '^' :: rest => (true, f.skip rest)
    | cs => (false, cs)
  let (s, cs) := leadingHyphens f cs.length ⟨negated, .none, none⟩ cs
  match cs with
  | [] => .error .unclosedClass
  | ']' :: rest =>
    if s.operand = .none then
      let rest := f.skip rest
      if rest.isEmpty then .error .unclosedClass else .ok (s.push (.single ']'), rest)
    else .ok (s, cs)
  | cs => .ok (s, cs)

/-- One character or escape of a class. -/
def classPart (f : Flags) : List Char → Except Fault (Part × List Char)
  | [] => .error .unclosedClass
  | '\\' :: rest => Part.escape f rest
  | c :: rest => .ok (.literal c, rest)

/-- The set of a part that stands alone. -/
def partSet : Part → Except Fault CharSet
  | .literal c => .ok (.single c)
  | .set s => .ok s
  | .look _ => .error .escapeInClass

/-- The character of a part that bounds a range. -/
def partChar : Part → Except Fault Char
  | .literal c => .ok c
  | _ => .error .rangeOfClass

/-- The hyphen in front of this text makes a range. -/
def startsRange (f : Flags) (afterHyphen : List Char) : Bool :=
  match f.skip afterHyphen with
  | ']' :: _ => false
  | '-' :: _ => false
  | _ => true

/-- One item of a class: a range, or a part that stands alone. -/
def classItem (f : Flags) (cs : List Char) : Except Fault (CharSet × List Char) := do
  let (first, rest) ← classPart f cs
  match f.skip rest with
  | [] => .error .unclosedClass
  | '-' :: rest =>
    if startsRange f rest then
      let rest := f.skip rest
      if rest.isEmpty then .error .unclosedClass
      else
        let (last, rest) ← classPart f rest
        let first ← partChar first
        let last ← partChar last
        if first ≤ last then pure (.range first last, rest) else .error .invalidRange
    else
      let set ← partSet first
      pure (set, '-' :: rest)
  | rest =>
    let set ← partSet first
    pure (set, rest)

/-- The rest of a class up to its closing bracket. -/
def classBody (f : Flags) (fuel : Nat) (s : ClassState) (cs : List Char) :
    Except Fault (CharSet × List Char) :=
  match fuel with
  | 0 => .error .unclosedClass
  | fuel + 1 =>
    match f.skip cs with
    | [] => .error .unclosedClass
    | ']' :: rest => .ok (s.close f, rest)
    | '&' :: '&' :: rest => classBody f fuel (s.operator f .inter) rest
    | '-' :: '-' :: rest => classBody f fuel (s.operator f .diff) rest
    | '~' :: '~' :: rest => classBody f fuel (s.operator f .symmDiff) rest
    | '[' :: rest =>
      match namedClass? rest with
      | some (set, rest) => classBody f fuel (s.push set) rest
      | none => do
        let (nested, rest) ← classStart f rest
        let (set, rest) ← classBody f fuel nested rest
        classBody f fuel (s.push set) rest
    | cs => do
      let (set, rest) ← classItem f cs
      classBody f fuel (s.push set) rest

/-- A class after its opening bracket, and what follows it. -/
def readClass (f : Flags) (cs : List Char) : Except Fault (CharSet × List Char) := do
  let (s, rest) ← classStart f cs
  classBody f (cs.length + 1) s rest

end TableFlow.Pattern
