/-!
# Decimal digits of natural numbers

`Digits.ofNat` writes a natural number in base ten without leading zeros, and
`Digits.value?` reads a nonempty run of digits back. Main statement:
`value?_ofNat`, reading what was written gives the number.
-/

namespace TableFlow.Digits

/-- The character of a digit below ten. -/
def char (d : Nat) : Char := Char.ofNat (48 + d)

/-- The digits of `n`, most significant first; zero is a single digit. -/
def ofNat (n : Nat) : List Char :=
  if n < 10 then [char n] else ofNat (n / 10) ++ [char (n % 10)]
termination_by n
decreasing_by omega

/-- The digits of an integer, after a minus sign if it is negative. -/
def ofInt (i : Int) : List Char :=
  if i < 0 then '-' :: ofNat i.natAbs else ofNat i.natAbs

/-- The digits of `n` as a text. -/
def text (n : Nat) : String := String.ofList (ofNat n)

/-- The value of an ASCII digit. -/
def digit? (c : Char) : Option Nat :=
  if '0' ≤ c ∧ c ≤ '9' then some (c.toNat - 48) else none

/-- One digit read after the value so far; a character that is no digit spoils the reading. -/
def push (acc : Option Nat) (c : Char) : Option Nat :=
  match acc, digit? c with
  | some v, some d => some (10 * v + d)
  | _, _ => none

/-- The value of a nonempty run of ASCII digits. -/
def value? : List Char → Option Nat
  | [] => none
  | cs => cs.foldl push (some 0)

/-- The number of digits of `n`. -/
def count (n : Nat) : Nat := (ofNat n).length

/-- The leading run of ASCII digits and what follows it. -/
def span (cs : List Char) : List Char × List Char :=
  cs.span fun c => (digit? c).isSome

/-! ## Reading what was written -/

theorem digit?_char {d : Nat} (h : d < 10) : digit? (char d) = some d := by
  have : d = 0 ∨ d = 1 ∨ d = 2 ∨ d = 3 ∨ d = 4 ∨ d = 5 ∨ d = 6 ∨ d = 7 ∨ d = 8 ∨ d = 9 := by
    omega
  rcases this with h | h | h | h | h | h | h | h | h | h <;> subst h <;> decide

theorem foldl_push_ofNat (n : Nat) : (ofNat n).foldl push (some 0) = some n := by
  induction n using Nat.strongRecOn with
  | ind n ih =>
    rw [ofNat]
    split
    · rename_i h
      simp [push, digit?_char h]
    · rename_i h
      rw [List.foldl_append, ih (n / 10) (by omega)]
      simp only [List.foldl_cons, List.foldl_nil, push]
      rw [digit?_char (Nat.mod_lt _ (by omega))]
      simp only [Option.some.injEq]
      omega

theorem ofNat_ne_nil (n : Nat) : ofNat n ≠ [] := by
  rw [ofNat]
  split <;> simp

/-- A written number reads back as itself. -/
theorem value?_ofNat (n : Nat) : value? (ofNat n) = some n := by
  have h := foldl_push_ofNat n
  cases hd : ofNat n with
  | nil => exact absurd hd (ofNat_ne_nil n)
  | cons c cs =>
    rw [hd] at h
    exact h

end TableFlow.Digits
