import Mathlib.Data.Nat.Digits.Defs
import TableFlow.Number.Decimal
import TableFlow.Number.Width
import TableFlow.Proofs.Text.Trim

/-!
# Numerals

A numeral is an optional sign and at least one ASCII digit. `Numeral` says which integer it writes,
by the places of its digits and without reading them one after the other;
`Digits.value?_eq_some_iff` says that reading does the same. `Numeral.ofInt` is the text of an
integer.
-/

namespace TableFlow

namespace Digits

/-- The value of digits by their places, the last one counting ones. -/
def placeValue (ds : List Char) : Nat :=
  Nat.ofDigits 10 (ds.reverse.map fun d => d.toNat - '0'.toNat)

theorem placeValue_cons (d : Char) (ds : List Char) :
    placeValue (d :: ds) = (d.toNat - '0'.toNat) * 10 ^ ds.length + placeValue ds := by
  unfold placeValue
  rw [List.map_reverse, List.map_cons, Nat.ofDigits_reverse_cons, List.length_map, List.map_reverse,
    Nat.mul_comm, Nat.add_comm]

theorem digit?_eq (c : Char) :
    digit? c = if c.isDigit then some (c.toNat - '0'.toNat) else none := by
  have hsame : ('0' ≤ c ∧ c ≤ '9') ↔ c.isDigit = true := by
    rw [Char.isDigit, Bool.and_eq_true, decide_eq_true_eq, decide_eq_true_eq]
    rfl
  unfold digit?
  simp only [hsame]
  rfl

theorem foldl_push_none (cs : List Char) : cs.foldl push none = none := by
  induction cs with
  | nil => rfl
  | cons c cs ih => exact ih

/-- Digits that are read after a value put it as many places higher. -/
theorem foldl_push (cs : List Char) (v : Nat) : cs.foldl push (some v) =
    if cs.all Char.isDigit = true then some (v * 10 ^ cs.length + placeValue cs) else none := by
  induction cs generalizing v with
  | nil => simp [placeValue]
  | cons c cs ih =>
    rw [List.foldl_cons]
    by_cases hc : c.isDigit = true
    · have hpush : push (some v) c = some (10 * v + (c.toNat - '0'.toNat)) := by
        simp only [push, digit?_eq, if_pos hc]
      have hvalue : (10 * v + (c.toNat - '0'.toNat)) * 10 ^ cs.length + placeValue cs =
          v * 10 ^ (c :: cs).length + placeValue (c :: cs) := by
        rw [placeValue_cons, List.length_cons]
        ring
      rw [hpush, ih, hvalue]
      simp only [List.all_cons, hc, Bool.true_and]
    · have hpush : push (some v) c = none := by
        simp only [push, digit?_eq, if_neg hc]
      rw [hpush, foldl_push_none, if_neg]
      exact fun hall => hc (List.all_eq_true.mp hall c List.mem_cons_self)

/-- At least one digit is read as its value, and nothing else is. -/
theorem value?_eq_some_iff {cs : List Char} {n : Nat} :
    value? cs = some n ↔ cs ≠ [] ∧ (∀ c ∈ cs, c.isDigit = true) ∧ placeValue cs = n := by
  cases cs with
  | nil => simp [value?]
  | cons c cs =>
    have hfold : value? (c :: cs) = (c :: cs).foldl push (some 0) := rfl
    rw [hfold, foldl_push]
    split <;> simp_all

end Digits

open Digits

/-- The text is an optional sign and at least one ASCII digit, and stands for the integer. -/
inductive Numeral : List Char → Int → Prop
  | unsigned {ds : List Char} (hsome : ds ≠ []) (hdigits : ∀ d ∈ ds, d.isDigit = true) :
      Numeral ds (placeValue ds)
  | plus {ds : List Char} (hsome : ds ≠ []) (hdigits : ∀ d ∈ ds, d.isDigit = true) :
      Numeral ('+' :: ds) (placeValue ds)
  | minus {ds : List Char} (hsome : ds ≠ []) (hdigits : ∀ d ∈ ds, d.isDigit = true) :
      Numeral ('-' :: ds) (-(placeValue ds : Int))

namespace Numeral

theorem ofNat_digits (n : Nat) :
    ofNat n ≠ [] ∧ (∀ d ∈ ofNat n, d.isDigit = true) ∧ placeValue (ofNat n) = n :=
  value?_eq_some_iff.mp (value?_ofNat n)

/-- The text of an integer is a numeral for it. -/
theorem ofInt (i : Int) : Numeral (Digits.ofInt i) i := by
  obtain ⟨hsome, hdigits, hvalue⟩ := ofNat_digits i.natAbs
  unfold Digits.ofInt
  split
  · next hneg =>
    have hi : -(placeValue (ofNat i.natAbs) : Int) = i := by
      rw [hvalue]
      omega
    have h := minus hsome hdigits
    rwa [hi] at h
  · next hpos =>
    have hi : (placeValue (ofNat i.natAbs) : Int) = i := by
      rw [hvalue]
      omega
    have h := unsigned hsome hdigits
    rwa [hi] at h

theorem isBlank_of_isDigit {c : Char} (h : c.isDigit = true) : Text.isBlank c = false := by
  have hrange : 48 ≤ c.toNat ∧ c.toNat ≤ 57 := by
    rw [Char.isDigit, Bool.and_eq_true, decide_eq_true_eq, decide_eq_true_eq] at h
    exact h
  simp [Text.isBlank, Text.inRanges, Text.blankRanges]
  omega

/-- There is no white space in a numeral. -/
theorem trimmed {cs : List Char} {i : Int} (h : Numeral cs i) : Text.Trimmed cs := by
  apply Text.trimmed_of_no_blank
  cases h with
  | unsigned _ hdigits => exact fun d hd => isBlank_of_isDigit (hdigits d hd)
  | plus _ hdigits | minus _ hdigits =>
    exact List.forall_mem_cons.mpr ⟨by decide, fun d hd => isBlank_of_isDigit (hdigits d hd)⟩

end Numeral

end TableFlow
