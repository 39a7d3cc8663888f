import TableFlow.Json.Basic
import TableFlow.Json.Number

/-!
# Reading JSON

`Json.parse?` reads one document and refuses anything else: trailing text,
trailing commas, unescaped control characters, unpaired surrogates, and nesting
deeper than `Json.maxDepth`.
-/

namespace TableFlow.Json

/-- The deepest nesting of arrays and objects that is read. -/
def maxDepth : Nat := 127

/-- The text after leading spaces. -/
def skip (cs : List Char) : List Char := cs.dropWhile isSpace

/-- The value of a hexadecimal digit. -/
def hexDigit? (c : Char) : Option Nat :=
  if '0' ≤ c ∧ c ≤ '9' then some (c.toNat - 48)
  else if 'a' ≤ c ∧ c ≤ 'f' then some (c.toNat - 87)
  else if 'A' ≤ c ∧ c ≤ 'F' then some (c.toNat - 55)
  else none

/-- The value of four hexadecimal digits. -/
def hex4? (a b c d : Char) : Option Nat := do
  let a ← hexDigit? a
  let b ← hexDigit? b
  let c ← hexDigit? c
  let d ← hexDigit? d
  pure (((a * 16 + b) * 16 + c) * 16 + d)

/-- The character of a short escape. -/
def shortEscape? (c : Char) : Option Char :=
  if c = '"' then some '"'
  else if c = '\\' then some '\\'
  else if c = '/' then some '/'
  else if c = 'b' then some '\x08'
  else if c = 'f' then some '\x0c'
  else if c = 'n' then some '\n'
  else if c = 'r' then some '\r'
  else if c = 't' then some '\t'
  else none

/-- The characters of a string up to its closing quote, and what follows it. A
surrogate is read only as part of a pair. -/
def stringBody? : List Char → Option (List Char × List Char)
  | [] => none
  | '"' :: rest => some ([], rest)
  | '\\' :: 'u' :: a :: b :: c :: d :: rest =>
    match hex4? a b c d with
    | none => none
    | some n =>
      if 0xD800 ≤ n ∧ n < 0xDC00 then
        match rest with
        | '\\' :: 'u' :: e :: f :: g :: h :: rest =>
          match hex4? e f g h with
          | none => none
          | some m =>
            if 0xDC00 ≤ m ∧ m < 0xE000 then
              let code := 0x10000 + (n - 0xD800) * 0x400 + (m - 0xDC00)
              (stringBody? rest).map fun (s, r) => (Char.ofNat code :: s, r)
            else none
        | _ => none
      else if 0xDC00 ≤ n ∧ n < 0xE000 then none
      else (stringBody? rest).map fun (s, r) => (Char.ofNat n :: s, r)
  | '\\' :: e :: rest =>
    match shortEscape? e with
    | none => none
    | some c => (stringBody? rest).map fun (s, r) => (c :: s, r)
  | c :: rest =>
    if c.toNat < 0x20 || c = '\\' then none
    else (stringBody? rest).map fun (s, r) => (c :: s, r)

mutual

/-- The document that the text starts with, and what follows it. -/
def value? (fuel depth : Nat) (cs : List Char) : Option (Json × List Char) :=
  match fuel with
  | 0 => none
  | fuel + 1 =>
    match skip cs with
    | 'n' :: 'u' :: 'l' :: 'l' :: rest => some (.null, rest)
    | 't' :: 'r' :: 'u' :: 'e' :: rest => some (.bool true, rest)
    | 'f' :: 'a' :: 'l' :: 's' :: 'e' :: rest => some (.bool false, rest)
    | '"' :: rest => (stringBody? rest).map fun (s, r) => (.str (String.ofList s), r)
    | '[' :: rest =>
      match depth with
      | 0 => none
      | depth + 1 =>
        match skip rest with
        | ']' :: rest => some (.arr [], rest)
        | rest => (items? fuel depth rest).map fun (js, r) => (.arr js, r)
    | '\x7b' :: rest =>
      match depth with
      | 0 => none
      | depth + 1 =>
        match skip rest with
        | '\x7d' :: rest => some (.obj [], rest)
        | rest => (members? fuel depth rest).map fun (ms, r) => (.obj ms, r)
    | cs =>
      match JsonNumber.split? cs with
      | some (_, rest) => some (.num (cs.take (cs.length - rest.length)), rest)
      | none => none

/-- The items of a nonempty array up to its closing bracket. -/
def items? (fuel depth : Nat) (cs : List Char) : Option (List Json × List Char) :=
  match fuel with
  | 0 => none
  | fuel + 1 =>
    match value? fuel depth cs with
    | none => none
    | some (j, rest) =>
      match skip rest with
      | ',' :: rest => (items? fuel depth rest).map fun (js, r) => (j :: js, r)
      | ']' :: rest => some ([j], rest)
      | _ => none

/-- The members of a nonempty object up to its closing brace. -/
def members? (fuel depth : Nat) (cs : List Char) :
    Option (List (String × Json) × List Char) :=
  match fuel with
  | 0 => none
  | fuel + 1 =>
    match skip cs with
    | '"' :: rest =>
      match stringBody? rest with
      | none => none
      | some (name, rest) =>
        match skip rest with
        | ':' :: rest =>
          match value? fuel depth rest with
          | none => none
          | some (j, rest) =>
            match skip rest with
            | ',' :: rest =>
              (members? fuel depth rest).map fun (ms, r) => ((String.ofList name, j) :: ms, r)
            | '\x7d' :: rest => some ([(String.ofList name, j)], rest)
            | _ => none
        | _ => none
    | _ => none

end

/-- Reads a text that holds one document and nothing else. -/
def parse? (cs : List Char) : Option Json :=
  match value? (2 * cs.length + 2) maxDepth cs with
  | some (j, rest) => if (skip rest).isEmpty then some j else none
  | none => none

end TableFlow.Json
