import TableFlow.Pattern.Engine
import TableFlow.Pattern.Reader

/-!
# Patterns by a grammar

The engine that compiles a text if it follows the grammar, and if its size, with every
counted repetition written out, stays under a limit.
-/

namespace TableFlow.Pattern

/-! ## Size -/

/-- The size of a set: the bytes of the automaton that reads its characters. -/
def CharSet.size : CharSet → Nat
  | .none => 32
  | .range first last => if last.toNat < 0x80 then 32 else if first = last then 96 else 256
  | .digit => 5000
  | .blank => 500
  | .word => 60000
  | .union a b | .inter a b | .diff a b | .symmDiff a b => a.size + b.size
  | .compl a => a.size + 400
  | .foldCase a => a.size + 16

/-- The size of a node with its repetitions written out. -/
def Node.size : Node → Nat
  | .empty => 32
  | .char set => set.size
  | .look _ => 32
  | .seq a b => a.size + b.size
  | .alt a b => a.size + b.size + 48
  | .many a min max =>
    match max with
    | some max => max * a.size + (max - min) * 40 + 32
    | none => (min + 1) * a.size + 80

/-- The largest size of a pattern. -/
def maxSize : Nat := 10 * 1024 * 1024

/-- Compiles a text that follows the grammar. -/
def ofGrammar (source : String) : Except Fault Pattern :=
  match Node.read source.toList with
  | .error e => .error e
  | .ok node =>
    if maxSize < node.size then .error .tooBig
    else .ok ⟨source, fun s => node.occursIn s.toList⟩

/-- The engine of the program. Classes by Unicode property, the mode for bytes and a
limit on nesting are no part of its grammar, and its sizes are estimates. -/
instance grammar : Engine := ⟨ofGrammar⟩

end TableFlow.Pattern
