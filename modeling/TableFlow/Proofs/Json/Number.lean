import Mathlib.Data.List.TakeDrop
import TableFlow.Json.Number

/-!
# Whole numbers in JSON texts

The digits of a whole number are a JSON number, and what they stand for is the number,
as long as it fits in 64 bits with or without a sign.

* `Digits.span_ofNat` reads written digits in front of another text;
* `JsonNumber.split?_ofInt` is the same for the text of a JSON number;
* `JsonNumber.ofText?_ofInt` is the value of that text.

Written digits have no zero in front. Without that, a JSON number would not be read.
-/

namespace TableFlow

/-! ## Digits -/

namespace Digits

theorem isDigit_of_mem_ofNat {n : Nat} {c : Char} (hmem : c ∈ ofNat n) :
    (digit? c).isSome = true := by
  -- the digits are those of the quotient by ten, and the last one behind them
  induction n using Nat.strongRecOn with
  | ind n ih =>
    rw [ofNat] at hmem
    split at hmem
    · rename_i hlt
      cases List.mem_singleton.mp hmem
      rw [digit?_char hlt]
      rfl
    · rcases List.mem_append.mp hmem with hmem | hmem
      · exact ih (n / 10) (by omega) hmem
      · cases List.mem_singleton.mp hmem
        rw [digit?_char (Nat.mod_lt _ (by omega))]
        rfl

/-- A positive number is written without a zero in front. -/
theorem head?_ofNat_ne_zero {n : Nat} (hpos : 0 < n) : (ofNat n).head? ≠ some '0' := by
  induction n using Nat.strongRecOn with
  | ind n ih =>
    rw [ofNat]
    split
    · rename_i hlt
      intro hzero
      have hchar : char n = '0' := Option.some.inj hzero
      have hdigit := digit?_char hlt
      rw [hchar] at hdigit
      have hn : 0 = n := Option.some.inj hdigit
      omega
    · intro hzero
      -- the quotient is positive too, since there is more than one digit
      have hfirst := ih (n / 10) (by omega) (by omega)
      rw [List.head?_append] at hzero
      cases hhead : (ofNat (n / 10)).head? with
      | none => exact ofNat_ne_nil _ (List.head?_eq_none_iff.mp hhead)
      | some c =>
        rw [hhead] at hzero hfirst
        exact hfirst hzero

/-- The text does not go on with a digit. -/
def NoDigit (rest : List Char) : Prop := ∀ c, rest.head? = some c → digit? c = none

theorem span_ofNat (n : Nat) {rest : List Char} (hrest : NoDigit rest) :
    span (ofNat n ++ rest) = (ofNat n, rest) := by
  have hall : ∀ c ∈ ofNat n, (digit? c).isSome = true := fun c => isDigit_of_mem_ofNat
  have hstop : rest.takeWhile (fun c => (digit? c).isSome) = [] ∧
      rest.dropWhile (fun c => (digit? c).isSome) = rest := by
    cases rest with
    | nil => exact ⟨rfl, rfl⟩
    | cons c rest =>
      have hnone : digit? c = none := hrest c rfl
      simp [hnone]
  rw [span, List.span_eq_takeWhile_dropWhile, List.takeWhile_append_of_pos hall,
    List.dropWhile_append_of_pos hall, hstop.1, hstop.2, List.append_nil]

theorem digitsValue_ofNat (n : Nat) : Decimal.digitsValue (ofNat n) = n := by
  rw [Decimal.digitsValue, value?_ofNat]
  rfl

end Digits

/-! ## Numbers -/

namespace JsonNumber

/-- The text does not go on with what would still belong to a number. -/
def Ends (rest : List Char) : Prop :=
  ∀ c, rest.head? = some c → Digits.digit? c = none ∧ c ≠ '.' ∧ c ≠ 'e' ∧ c ≠ 'E'

theorem ends_nil : Ends [] := by
  intro c hc
  cases hc

theorem Ends.noDigit {rest : List Char} (h : Ends rest) : Digits.NoDigit rest :=
  fun c hc => (h c hc).1

theorem splitMinus_ofNat (n : Nat) (rest : List Char) :
    splitMinus (Digits.ofNat n ++ rest) = (false, Digits.ofNat n ++ rest) := by
  cases hdigits : Digits.ofNat n with
  | nil => exact absurd hdigits (Digits.ofNat_ne_nil n)
  | cons c cs =>
    have hdigit : (Digits.digit? c).isSome = true :=
      Digits.isDigit_of_mem_ofNat (n := n) (by simp [hdigits])
    have hminus : c ≠ '-' := by
      rintro rfl
      cases hdigit
    rw [List.cons_append, splitMinus]
    intro other hother
    exact hminus (List.cons.inj hother).1

theorem splitWhole?_ofNat (n : Nat) {rest : List Char} (hrest : Ends rest) :
    splitWhole? (Digits.ofNat n ++ rest) = some (Digits.ofNat n, rest) := by
  have hsome : (Digits.ofNat n).isEmpty = false :=
    List.isEmpty_eq_false_iff.mpr (Digits.ofNat_ne_nil n)
  -- the only number that is written with a zero in front is zero itself
  have hzero : ((Digits.ofNat n).head? == some '0' &&
      decide ((Digits.ofNat n).length ≠ 1)) = false := by
    by_cases hn : n = 0
    · subst hn
      simp [Digits.ofNat]
    · have hhead := Digits.head?_ofNat_ne_zero (Nat.pos_of_ne_zero hn)
      rw [beq_false_of_ne hhead]
      rfl
  simp only [splitWhole?, Digits.span_ofNat n hrest.noDigit, hsome, hzero, Bool.or_self,
    Bool.false_eq_true, if_false]

theorem splitFraction?_of_ends {rest : List Char} (hrest : Ends rest) :
    splitFraction? rest = some (none, rest) := by
  unfold splitFraction?
  split
  · exact absurd rfl (hrest '.' rfl).2.1
  · rfl

theorem splitExponent?_of_ends {rest : List Char} (hrest : Ends rest) :
    splitExponent? rest = some (none, rest) := by
  cases rest with
  | nil => rfl
  | cons c rest =>
    obtain ⟨-, -, he, hE⟩ := hrest c rfl
    simp [splitExponent?, he, hE]

/-- The text of a whole number is read as its sign and its digits. -/
theorem split?_ofInt (i : Int) {rest : List Char} (hrest : Ends rest) :
    split? (Digits.ofInt i ++ rest) =
      some (⟨decide (i < 0), Digits.ofNat i.natAbs, none, none⟩, rest) := by
  have hminus : splitMinus (Digits.ofInt i ++ rest) =
      (decide (i < 0), Digits.ofNat i.natAbs ++ rest) := by
    unfold Digits.ofInt
    by_cases hneg : i < 0
    · simp [hneg, splitMinus]
    · simp [hneg, splitMinus_ofNat]
  simp only [split?, hminus, splitWhole?_ofNat _ hrest, splitFraction?_of_ends hrest,
    splitExponent?_of_ends hrest, Option.bind_eq_bind, Option.bind_some, Option.pure_def]

/-- The number fits in 64 bits, with or without a sign. -/
def InWord (i : Int) : Prop := -(int64Bound : Int) ≤ i ∧ i ≤ (maxWord : Int)

theorem inWord_toInt (w : Int64) : InWord w.toInt := by
  have hleast := w.le_toInt
  have hmost := w.toInt_lt
  have hbound : (int64Bound : Int) = 2 ^ 63 := by decide
  have hword : (maxWord : Int) = 2 ^ 64 - 1 := by decide
  constructor <;> omega

theorem inWord_toNat (w : UInt64) : InWord w.toNat := by
  have hmost := w.toNat_lt
  have hword : (maxWord : Int) = 2 ^ 64 - 1 := by decide
  have hbound : (int64Bound : Int) = 2 ^ 63 := by decide
  constructor <;> omega

theorem ofText?_ofInt {i : Int} (hword : InWord i) :
    ofText? (Digits.ofInt i) = some (.integer i) := by
  obtain ⟨hleast, hmost⟩ := hword
  have hbound : int64Bound ≤ maxWord := by decide
  have hfits : i.natAbs ≤ maxWord := by omega
  have hsplit := split?_ofInt i ends_nil
  rw [List.append_nil] at hsplit
  simp only [ofText?, hsplit, ofParts?, Digits.digitsValue_ofNat, Option.isNone_none,
    Bool.true_and, hfits, decide_true, if_true]
  by_cases hneg : i < 0
  · -- a negative number has to fit with its sign, which is the smaller bound
    have hsome : ¬i.natAbs = 0 := by omega
    have hrange : ¬int64Bound < i.natAbs := by omega
    have hvalue : -(i.natAbs : Int) = i := by omega
    simp only [hneg, hsome, hrange, hvalue, decide_true, decide_false, Bool.not_true, Bool.or_self,
      Bool.false_eq_true, if_false]
  · have hvalue : (i.natAbs : Int) = i := by omega
    simp [hneg, hvalue]

end JsonNumber

end TableFlow
