/-!
# UTF-8

Texts as bytes and back. `Utf8.decode` reads bytes as a text, or says at which
byte the first invalid sequence starts.
-/

namespace TableFlow.Utf8

/-- A byte with a value below 256. -/
def byte (n : Nat) : UInt8 := UInt8.ofNat n

/-- The bytes of a character. -/
def encodeChar (c : Char) : List UInt8 :=
  let n := c.toNat
  if n < 0x80 then [byte n]
  else if n < 0x800 then [byte (0xC0 + n / 0x40), byte (0x80 + n % 0x40)]
  else if n < 0x10000 then
    [byte (0xE0 + n / 0x1000), byte (0x80 + n / 0x40 % 0x40), byte (0x80 + n % 0x40)]
  else
    [byte (0xF0 + n / 0x40000), byte (0x80 + n / 0x1000 % 0x40), byte (0x80 + n / 0x40 % 0x40),
      byte (0x80 + n % 0x40)]

/-- The bytes of a text. -/
def encode (cs : List Char) : List UInt8 := cs.flatMap encodeChar

/-- The payload of a continuation byte. -/
def tail? (b : UInt8) : Option Nat :=
  if 0x80 ≤ b.toNat ∧ b.toNat < 0xC0 then some (b.toNat - 0x80) else none

/-- The character of a code point of at least `least`. -/
def char? (least n : Nat) : Option Char :=
  if least ≤ n ∧ n.isValidChar then some (Char.ofNat n) else none

/-- The first character of a nonempty run of bytes, the number of its bytes, and the
bytes after it. -/
def next? : List UInt8 → Option (Char × Nat × List UInt8)
  | [] => none
  | a :: rest =>
    if a.toNat < 0x80 then some (Char.ofNat a.toNat, 1, rest)
    else if a.toNat < 0xE0 then
      match rest with
      | b :: rest => do
        let x ← tail? b
        let c ← char? 0x80 ((a.toNat - 0xC0) * 0x40 + x)
        some (c, 2, rest)
      | _ => none
    else if a.toNat < 0xF0 then
      match rest with
      | b :: c :: rest => do
        let x ← tail? b
        let y ← tail? c
        let c ← char? 0x800 (((a.toNat - 0xE0) * 0x40 + x) * 0x40 + y)
        some (c, 3, rest)
      | _ => none
    else
      match rest with
      | b :: c :: d :: rest => do
        let x ← tail? b
        let y ← tail? c
        let z ← tail? d
        let c ← char? 0x10000 ((((a.toNat - 0xF0) * 0x40 + x) * 0x40 + y) * 0x40 + z)
        some (c, 4, rest)
      | _ => none

/-- Reads characters as long as the bytes last; `start` counts the bytes before them. -/
def decodeFrom (fuel start : Nat) (bytes : List UInt8) : Except Nat (List Char) :=
  match fuel, bytes with
  | _, [] => .ok []
  | 0, _ => .error start
  | fuel + 1, bytes =>
    match next? bytes with
    | none => .error start
    | some (c, width, rest) =>
      match decodeFrom fuel (start + width) rest with
      | .error e => .error e
      | .ok cs => .ok (c :: cs)

/-- The text of some bytes, or the byte at which the first invalid sequence starts. -/
def decode (bytes : List UInt8) : Except Nat (List Char) := decodeFrom bytes.length 0 bytes

/-- The bytes of a string. -/
def ofString (s : String) : List UInt8 := encode s.toList

/-- The string of some bytes. -/
def toString? (bytes : List UInt8) : Option String :=
  match decode bytes with
  | .ok cs => some (String.ofList cs)
  | .error _ => none

end TableFlow.Utf8
