import TableFlow.Pattern.CharSet

/-!
# Patterns and matching

A `Node` is a regular expression over characters with tests on the place between
two characters. Matching follows the text once and keeps the set of what may
still have to be matched. A *residual* is a list of nodes to match one after the
other; `residuals` lists those that remain of a node after one character.

* `Node.nullable` decides whether a node matches the empty text at a place.
* `Node.occursIn` decides whether a node matches somewhere in a text.
-/

namespace TableFlow.Pattern

/-- A place in a text: the characters on both sides, if any. -/
structure Place where
  before : Option Char
  after : Option Char
deriving DecidableEq

/-- A test on a place. -/
inductive Look where
  | textStart
  | textEnd
  | lineStart
  | lineEnd
  /-- Line tests that also take a carriage return as the end of a line. -/
  | anyLineStart
  | anyLineEnd
  | wordBoundary
  | notWordBoundary
  | wordStart
  | wordEnd
  | wordStartHalf
  | wordEndHalf
deriving DecidableEq, Inhabited

namespace Look

/-- The test holds at a place. -/
def holds (l : Look) (p : Place) : Bool :=
  let wordBefore := p.before.any Text.isWord
  let wordAfter := p.after.any Text.isWord
  match l with
  | .textStart => p.before.isNone
  | .textEnd => p.after.isNone
  | .lineStart => p.before.isNone || p.before == some '\n'
  | .lineEnd => p.after.isNone || p.after == some '\n'
  | .anyLineStart =>
    p.before.isNone || p.before == some '\n' ||
      (p.before == some '\r' && p.after != some '\n')
  | .anyLineEnd =>
    p.after.isNone || p.after == some '\r' ||
      (p.after == some '\n' && p.before != some '\r')
  | .wordBoundary => wordBefore != wordAfter
  | .notWordBoundary => wordBefore == wordAfter
  | .wordStart => !wordBefore && wordAfter
  | .wordEnd => wordBefore && !wordAfter
  | .wordStartHalf => !wordBefore
  | .wordEndHalf => !wordAfter

end Look

/-- A regular expression. -/
inductive Node where
  | empty
  | char (set : CharSet)
  | look (l : Look)
  | seq (a b : Node)
  | alt (a b : Node)
  /-- At least `min` times the node, and at most `max` times if there is a bound. -/
  | many (a : Node) (min : Nat) (max : Option Nat)
deriving DecidableEq, Inhabited

namespace Node

/-- The node matches the empty text at a place. -/
def nullable (p : Place) : Node → Bool
  | .empty => true
  | .char _ => false
  | .look l => l.holds p
  | .seq a b => a.nullable p && b.nullable p
  | .alt a b => a.nullable p || b.nullable p
  | .many a min _ => min == 0 || a.nullable p

/-- What remains of a repetition after one of its copies, for each number of copies
before it that may be empty. -/
def repeats (a : Node) (empty : Bool) : Nat → Option Nat → List Node
  | _, some 0 => []
  | 0, max => [.many a 0 (max.map (· - 1))]
  | min + 1, max =>
    .many a min (max.map (· - 1)) ::
      (if empty then repeats a empty min (max.map (· - 1)) else [])

/-- What remains of a node after a character that follows a place. -/
def residuals (p : Place) (c : Char) : Node → List (List Node)
  | .empty => []
  | .char set => if set.contains c then [[]] else []
  | .look _ => []
  | .seq a b =>
    (a.residuals p c).map (· ++ [b]) ++ (if a.nullable p then b.residuals p c else [])
  | .alt a b => a.residuals p c ++ b.residuals p c
  | .many a min max =>
    (repeats a (a.nullable p) min max).flatMap fun rest =>
      (a.residuals p c).map (· ++ [rest])

/-- Every node of a residual matches the empty text. -/
def finished (p : Place) (nodes : List Node) : Bool := nodes.all (nullable p)

/-- What remains of a residual after a character. -/
def advance (p : Place) (c : Char) : List Node → List (List Node)
  | [] => []
  | n :: ns =>
    (n.residuals p c).map (· ++ ns) ++ (if n.nullable p then advance p c ns else [])

/-- A match that is under way, or starts later, ends somewhere in the rest of a text. -/
def occursFrom (n : Node) (active : List (List Node)) (before : Option Char) :
    List Char → Bool
  | [] => ([n] :: active).any (finished ⟨before, none⟩)
  | c :: cs =>
    let place : Place := ⟨before, some c⟩
    let states := [n] :: active
    states.any (finished place) ||
      occursFrom n (states.flatMap (advance place c)).eraseDups (some c) cs

/-- The node matches some part of a text. -/
def occursIn (n : Node) (cs : List Char) : Bool := n.occursFrom [] none cs

end Node

end TableFlow.Pattern
