import TableFlow.Pattern.ClassReader

/-!
# Reading patterns

The grammar of patterns: alternatives of sequences of repeated parts, groups with
names or flags, and flags for the rest of a group. `Node.read` reads a whole text
and says why it is no pattern.
-/

namespace TableFlow.Pattern

/-! ## Groups -/

/-- The flags named in a group's head: the flags seen so far with their signs, for
the check that none is repeated, and the flags as they become. -/
structure FlagReading where
  flags : Flags
  seen : List Char
  negated : Bool
  dangling : Bool

namespace FlagReading

/-- Sets one flag. `U` changes which match is found first, and `u` is always on. -/
def set (r : FlagReading) (c : Char) : Except Fault FlagReading :=
  let on := !r.negated
  let next (flags : Flags) : FlagReading := ⟨flags, c :: r.seen, r.negated, false⟩
  if c ∈ r.seen then .error .repeatedFlag
  else match c with
    | 'i' => .ok (next { r.flags with ignoreCase := on })
    | 'm' => .ok (next { r.flags with multiLine := on })
    | 's' => .ok (next { r.flags with dotNewline := on })
    | 'R' => .ok (next { r.flags with anyLineEnd := on })
    | 'x' => .ok (next { r.flags with verbose := on })
    | 'U' => .ok (next r.flags)
    | 'u' => if on then .ok (next r.flags) else .error .unsupportedClass
    | _ => .error .unknownFlag

/-- A minus sign: the flags after it are switched off. -/
def negate (r : FlagReading) : Except Fault FlagReading :=
  if r.negated then .error .repeatedFlag else .ok ⟨r.flags, r.seen, true, true⟩

end FlagReading

/-- The flags of a group's head, whether any stood there, whether the head is a
whole group by itself, and what follows it. -/
def readFlags (r : FlagReading) : List Char → Except Fault (Flags × Bool × Bool × List Char)
  | [] => .error .unclosedGroup
  | c :: rest =>
    if c = ')' || c = ':' then
      if r.dangling then .error .danglingNegation
      else .ok (r.flags, !r.seen.isEmpty || r.negated, c = ')', rest)
    else if c = '-' then
      match r.negate with
      | .error e => .error e
      | .ok r => readFlags r rest
    else
      match r.set c with
      | .error e => .error e
      | .ok r => readFlags r rest

/-- A character of a group name. -/
def isNameChar (first : Bool) (c : Char) : Bool :=
  if first then c = '_' || (Text.isWord c && !Text.isDecimalDigit c)
  else c = '.' || c = '[' || c = ']' || Text.isWord c

/-- A group name up to its closing angle bracket. -/
def readName (first : Bool) : List Char → Except Fault (List Char × List Char)
  | [] => .error .invalidGroupName
  | c :: rest =>
    if c = '>' then if first then .error .invalidGroupName else .ok ([], rest)
    else if isNameChar first c then
      match readName false rest with
      | .error e => .error e
      | .ok (name, rest) => .ok (c :: name, rest)
    else .error .invalidGroupName

/-- The head of a group after its parenthesis: flags for the rest of the group
around it, or a new group with its flags and name. -/
inductive GroupHead where
  | flags (f : Flags)
  | group (f : Flags) (name : Option (List Char))

def readNamedHead (f : Flags) (cs : List Char) : Except Fault (GroupHead × List Char) :=
  match readName true cs with
  | .error e => .error e
  | .ok (name, rest) => .ok (.group f (some name), rest)

def readHead (f : Flags) (cs : List Char) : Except Fault (GroupHead × List Char) :=
  match f.skip cs with
  | '?' :: '=' :: _ => .error .lookAround
  | '?' :: '!' :: _ => .error .lookAround
  | '?' :: '<' :: '=' :: _ => .error .lookAround
  | '?' :: '<' :: '!' :: _ => .error .lookAround
  | '?' :: 'P' :: '<' :: rest => readNamedHead f rest
  | '?' :: '<' :: rest => readNamedHead f rest
  | '?' :: rest =>
    match readFlags ⟨f, [], false, false⟩ rest with
    | .error e => .error e
    | .ok (f', some_, whole, rest) =>
      if whole then
        if some_ then .ok (.flags f', rest) else .error .nothingToRepeat
      else .ok (.group f' none, rest)
  | cs => .ok (.group f none, cs)

/-! ## Repetitions -/

/-- The text after the mark of a lazy repetition. -/
def skipLazy : List Char → List Char
  | '?' :: rest => rest
  | rest => rest

/-- The counts of a repetition in braces, after its opening brace. -/
def readCounts (f : Flags) (cs : List Char) :
    Except Fault (Nat × Option Nat × List Char) := do
  let cs := f.skip cs
  if cs.isEmpty then .error .unclosedCount
  else
    let (first, rest) ← countNumber f cs
    match rest with
    | ',' :: rest =>
      match f.skip rest with
      | [] => .error .unclosedCount
      | '\x7d' :: rest =>
        match first with
        | some n => pure (n, none, skipLazy (f.skip rest))
        | none => .error .emptyCount
      | rest =>
        match first with
        | none => .error .emptyCount
        | some n =>
          let (last, rest) ← countNumber f rest
          match last, rest with
          | none, _ => .error .emptyCount
          | some m, '\x7d' :: rest =>
            if n ≤ m then pure (n, some m, skipLazy (f.skip rest)) else .error .invalidCount
          | some _, _ => .error .unclosedCount
    | '\x7d' :: rest =>
      match first with
      | some n => pure (n, some n, skipLazy (f.skip rest))
      | none => .error .emptyCount
    | [] => .error .unclosedCount
    | _ => if first.isNone then .error .emptyCount else .error .unclosedCount

/-! ## Parts -/

/-- A literal, closed under case if case is ignored. -/
def literalNode (f : Flags) (c : Char) : Node := .char (ClassState.fold f (.single c))

/-- The characters that a dot matches. -/
def dotSet (f : Flags) : CharSet :=
  if f.dotNewline then .compl .none
  else if f.anyLineEnd then .compl (.union (.single '\n') (.single '\r'))
  else .compl (.single '\n')

/-- The test of `^`. -/
def startLook (f : Flags) : Look :=
  if f.multiLine then (if f.anyLineEnd then .anyLineStart else .lineStart) else .textStart

/-- The test of `$`. -/
def endLook (f : Flags) : Look :=
  if f.multiLine then (if f.anyLineEnd then .anyLineEnd else .lineEnd) else .textEnd

def partNode (f : Flags) : Part → Node
  | .literal c => literalNode f c
  | .set s => .char s
  | .look l => .look l

/-- A part that is neither a group nor an operator. -/
def readAtom (f : Flags) : List Char → Except Fault (Node × List Char)
  | [] => .ok (.empty, [])
  | '\\' :: rest => do
    let (part, rest) ← Part.escape f rest
    pure (partNode f part, rest)
  | '[' :: rest => do
    let (set, rest) ← readClass f rest
    pure (.char set, rest)
  | '.' :: rest => .ok (.char (dotSet f), rest)
  | '^' :: rest => .ok (.look (startLook f), rest)
  | '$' :: rest => .ok (.look (endLook f), rest)
  | c :: rest => .ok (literalNode f c, rest)

/-! ## The grammar -/

/-- What has been read of a group: finished alternatives, the sequence under way
without its last part, its last part if an operator may repeat it, the flags for
what follows, and the group names of the whole pattern. -/
structure GroupState where
  done : Option Node
  sequence : Node
  last : Option Node
  flags : Flags
  names : List (List Char)

namespace GroupState

def start (f : Flags) (names : List (List Char)) : GroupState := ⟨none, .empty, none, f, names⟩

def append : Node → Node → Node
  | .empty, b => b
  | a, b => .seq a b

/-- The sequence under way with its last part. -/
def whole (s : GroupState) : Node :=
  match s.last with
  | some n => append s.sequence n
  | none => s.sequence

/-- Adds a part, which an operator may repeat. -/
def push (s : GroupState) (n : Node) : GroupState :=
  { s with sequence := s.whole, last := some n }

/-- Changes the flags for what follows. -/
def setFlags (s : GroupState) (f : Flags) : GroupState :=
  { s with sequence := s.whole, last := none, flags := f }

/-- The alternatives read so far. -/
def alternatives (s : GroupState) : Node :=
  match s.done with
  | some n => .alt n s.whole
  | none => s.whole

/-- Starts a new alternative. -/
def alternative (s : GroupState) : GroupState :=
  { s with done := some s.alternatives, sequence := .empty, last := none }

/-- Repeats the last part. -/
def repeated (s : GroupState) (min : Nat) (max : Option Nat) : Except Fault GroupState :=
  match s.last with
  | some n => .ok { s with last := some (.many n min max) }
  | none => .error .nothingToRepeat

end GroupState

/-- Reads a group up to its closing parenthesis, or the whole pattern up to its end. -/
def readGroup (fuel : Nat) (inner : Bool) (s : GroupState) (cs : List Char) :
    Except Fault (Node × List (List Char) × List Char) :=
  match fuel with
  | 0 => .error .unclosedGroup
  | fuel + 1 =>
    match s.flags.skip cs with
    | [] => if inner then .error .unclosedGroup else .ok (s.alternatives, s.names, [])
    | ')' :: rest =>
      if inner then .ok (s.alternatives, s.names, rest) else .error .unopenedGroup
    | '|' :: rest => readGroup fuel inner s.alternative rest
    | '?' :: rest => do
      let s ← s.repeated 0 (some 1)
      readGroup fuel inner s (skipLazy rest)
    | '*' :: rest => do
      let s ← s.repeated 0 none
      readGroup fuel inner s (skipLazy rest)
    | '+' :: rest => do
      let s ← s.repeated 1 none
      readGroup fuel inner s (skipLazy rest)
    | '\x7b' :: rest =>
      if s.last.isNone then .error .nothingToRepeat
      else do
        let (min, max, rest) ← readCounts s.flags rest
        let s ← s.repeated min max
        readGroup fuel inner s rest
    | '(' :: rest => do
      let (head, rest) ← readHead s.flags rest
      match head with
      | .flags f => readGroup fuel inner (s.setFlags f) rest
      | .group f name =>
        match name with
        | some name =>
          if name ∈ s.names then .error .repeatedGroupName
          else
            let (node, names, rest) ←
              readGroup fuel true (GroupState.start f (name :: s.names)) rest
            readGroup fuel inner ({ s with names := names }.push node) rest
        | none =>
          let (node, names, rest) ← readGroup fuel true (GroupState.start f s.names) rest
          readGroup fuel inner ({ s with names := names }.push node) rest
    | cs => do
      let (node, rest) ← readAtom s.flags cs
      readGroup fuel inner (s.push node) rest

/-- Reads a whole text as a pattern. -/
def Node.read (cs : List Char) : Except Fault Node := do
  let (node, _, _) ← readGroup (cs.length + 1) false (GroupState.start {} []) cs
  pure node

end TableFlow.Pattern
