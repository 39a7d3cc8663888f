import Mathlib.Algebra.Group.Nat.Defs
import Mathlib.Data.Nat.Log
import TableFlow.Number.Double

/-!
# Integers as doubles

Rounding an integer to a double keeps the order, and up to `2 ^ 53` it keeps integers apart.

* `Double.key_injective` says that the total order tells patterns apart;
* `Double.unbounded` is rounding to the nearest pattern without an end at infinity;
  `Double.unbounded_mono` and `Double.unbounded_lt` compare what it makes of two magnitudes:
  either both are rounded in the same steps, or the step of the exponent decides;
* `Double.key_ofInt_mono` and `Double.key_ofInt_lt` are the same of integers.
-/

namespace TableFlow.Double

/-! ## Patterns and their order -/

theorem bits_eq_magnitude (x : Double) :
    x.bits.toNat = if x.isNegative then signBit + x.magnitude else x.magnitude := by
  have hlt : x.bits.toNat < 2 * signBit := x.bits.toNat_lt
  unfold isNegative magnitude
  by_cases hneg : signBit ≤ x.bits.toNat
  · simp only [hneg, decide_true, if_true]
    rw [Nat.mod_eq_sub_mod hneg, Nat.mod_eq_of_lt (by omega)]
    omega
  · simp only [hneg, decide_false, Bool.false_eq_true, if_false]
    rw [Nat.mod_eq_of_lt (by omega)]

/-- Different patterns stand at different places of the order. -/
theorem key_injective : Function.Injective key := by
  intro x y h
  have hx := bits_eq_magnitude x
  have hy := bits_eq_magnitude y
  unfold key at h
  have hbits : x.bits.toNat = y.bits.toNat := by
    cases hnx : x.isNegative <;> cases hny : y.isNegative <;>
      simp only [hnx, hny, if_true, if_false, Bool.false_eq_true] at h hx hy <;> omega
  cases x
  cases y
  exact congrArg Double.mk (UInt64.toNat_inj.mp hbits)

theorem key_ofParts {negative : Bool} {m : Nat} (h : m < signBit) :
    (ofParts negative m).key = if negative then -1 - (m : Int) else m := by
  have hsign : signBit + signBit = 2 ^ 64 := rfl
  cases negative with
  | false =>
    have hbits : (ofParts false m).bits.toNat = m :=
      UInt64.toNat_ofNat_of_lt' (show m < 2 ^ 64 by omega)
    simp [key, isNegative, magnitude, hbits, Nat.not_le.mpr h, Nat.mod_eq_of_lt h]
  | true =>
    have hbits : (ofParts true m).bits.toNat = signBit + m :=
      UInt64.toNat_ofNat_of_lt' (show signBit + m < 2 ^ 64 by omega)
    simp [key, isNegative, magnitude, hbits, Nat.mod_eq_of_lt h]

/-! ## Rounding to whole numbers -/

section Rounding

variable {num den k : Nat}

theorem div_le_roundHalfEven (num den : Nat) : num / den ≤ roundHalfEven num den := by
  simp only [roundHalfEven]
  split
  · exact Nat.le_refl _
  · split
    · exact Nat.le_succ _
    · exact Nat.le_add_right _ _

theorem roundHalfEven_le_div_succ (num den : Nat) : roundHalfEven num den ≤ num / den + 1 := by
  simp only [roundHalfEven]
  split
  · exact Nat.le_succ _
  · split
    · exact Nat.le_refl _
    · omega

theorem roundHalfEven_mul (hden : 0 < den) : roundHalfEven (k * den) den = k := by
  simp only [roundHalfEven, Nat.mul_mod_left, Nat.mul_div_cancel k hden]
  rw [if_pos (by omega)]

theorem le_roundHalfEven (hden : 0 < den) (h : k * den ≤ num) : k ≤ roundHalfEven num den :=
  Nat.le_trans ((Nat.le_div_iff_mul_le hden).mpr h) (div_le_roundHalfEven num den)

theorem roundHalfEven_le (hden : 0 < den) (h : num ≤ k * den) : roundHalfEven num den ≤ k := by
  rcases Nat.lt_or_eq_of_le h with hlt | rfl
  · have hdiv : num / den < k := (Nat.div_lt_iff_lt_mul hden).mpr hlt
    exact Nat.le_trans (roundHalfEven_le_div_succ num den) hdiv
  · exact Nat.le_of_eq (roundHalfEven_mul hden)

theorem roundHalfEven_mono {n m : Nat} (h : n ≤ m) (den : Nat) :
    roundHalfEven n den ≤ roundHalfEven m den := by
  rcases Nat.lt_or_eq_of_le (Nat.div_le_div_right h : n / den ≤ m / den) with hlt | heq
  · exact Nat.le_trans (roundHalfEven_le_div_succ n den)
      (Nat.le_trans hlt (div_le_roundHalfEven m den))
  · -- both lie between the same two whole numbers, so the larger rest decides
    have hn := Nat.div_add_mod n den
    have hm := Nat.div_add_mod m den
    have hrest : n % den ≤ m % den := by
      rw [heq] at hn
      omega
    simp only [roundHalfEven, heq]
    split <;> split <;> (try split) <;> (try split) <;> omega

end Rounding

/-! ## Rounding to patterns -/

/-- How many powers of two the steps are apart in which a magnitude is rounded. -/
def shiftOf (num : Nat) : Nat := num.log2 - 52

/-- The pattern nearest to a number of units, if there were no largest one. -/
def unbounded (num : Nat) : Nat :=
  roundHalfEven num (2 ^ shiftOf num) + shiftOf num * exponentStep

theorem nearest_one (num : Nat) : nearest num 1 = min (unbounded num) infinityBits := by
  simp only [nearest, unbounded, shiftOf, Nat.div_one, Nat.one_mul]
  rfl

theorem shiftOf_mono {n m : Nat} (h : n ≤ m) : shiftOf n ≤ shiftOf m := by
  have hlog : n.log2 ≤ m.log2 := by
    by_cases hn : n = 0
    · subst hn
      simp
    · exact (Nat.le_log2 (by omega)).mpr (Nat.le_trans (Nat.log2_self_le hn) h)
  unfold shiftOf
  omega

/-- A magnitude has at most 53 digits in front of its steps. -/
theorem lt_mul_two_pow_shiftOf (num : Nat) : num < 2 ^ 53 * 2 ^ shiftOf num := by
  have hle : num.log2 + 1 ≤ 53 + shiftOf num := by
    unfold shiftOf
    omega
  rw [← Nat.pow_add]
  exact Nat.lt_of_lt_of_le Nat.lt_log2_self (Nat.pow_le_pow_right (by omega) hle)

/-- A magnitude that is rounded has 53 of them. -/
theorem mul_two_pow_shiftOf_le {num : Nat} (h : 0 < shiftOf num) :
    2 ^ 52 * 2 ^ shiftOf num ≤ num := by
  have heq : 52 + shiftOf num = num.log2 := by
    unfold shiftOf at h ⊢
    omega
  have hnum : num ≠ 0 := by
    rintro rfl
    simp [shiftOf] at h
  rw [← Nat.pow_add, heq]
  exact Nat.log2_self_le hnum

theorem unbounded_le (num : Nat) : unbounded num ≤ (shiftOf num + 2) * exponentStep := by
  have hround : roundHalfEven num (2 ^ shiftOf num) ≤ 2 ^ 53 :=
    roundHalfEven_le (Nat.two_pow_pos _) (Nat.le_of_lt (lt_mul_two_pow_shiftOf num))
  unfold unbounded exponentStep
  omega

theorem le_unbounded {num : Nat} (h : 0 < shiftOf num) :
    (shiftOf num + 1) * exponentStep ≤ unbounded num := by
  have hround : 2 ^ 52 ≤ roundHalfEven num (2 ^ shiftOf num) :=
    le_roundHalfEven (Nat.two_pow_pos _) (mul_two_pow_shiftOf_le h)
  unfold unbounded exponentStep
  omega

theorem unbounded_mono {n m : Nat} (h : n ≤ m) : unbounded n ≤ unbounded m := by
  rcases Nat.lt_or_eq_of_le (shiftOf_mono h) with hlt | heq
  · have hupper := unbounded_le n
    have hlower := le_unbounded (Nat.lt_of_le_of_lt (Nat.zero_le _) hlt)
    have hstep : (shiftOf n + 2) * exponentStep ≤ (shiftOf m + 1) * exponentStep :=
      Nat.mul_le_mul_right _ (by omega)
    omega
  · unfold unbounded
    rw [heq]
    exact Nat.add_le_add_right (roundHalfEven_mono h _) _

theorem unbounded_of_dvd {num : Nat} (h : 2 ^ shiftOf num ∣ num) :
    unbounded num = num / 2 ^ shiftOf num + shiftOf num * exponentStep := by
  have hround : roundHalfEven (num / 2 ^ shiftOf num * 2 ^ shiftOf num) (2 ^ shiftOf num) =
      num / 2 ^ shiftOf num := roundHalfEven_mul (Nat.two_pow_pos _)
  rw [Nat.div_mul_cancel h] at hround
  rw [unbounded, hround]

/-- Magnitudes that lie on the steps in which they are rounded stay apart. -/
theorem unbounded_lt {n m : Nat} (h : n < m) (hn : 2 ^ shiftOf n ∣ n) (hm : 2 ^ shiftOf m ∣ m) :
    unbounded n < unbounded m := by
  rcases Nat.lt_or_eq_of_le (shiftOf_mono (Nat.le_of_lt h)) with hlt | heq
  · have hupper : unbounded n < (shiftOf n + 2) * exponentStep := by
      have hdigits : n / 2 ^ shiftOf n < 2 ^ 53 :=
        (Nat.div_lt_iff_lt_mul (Nat.two_pow_pos _)).mpr (lt_mul_two_pow_shiftOf n)
      rw [unbounded_of_dvd hn]
      unfold exponentStep
      omega
    have hlower := le_unbounded (Nat.lt_of_le_of_lt (Nat.zero_le _) hlt)
    have hstep : (shiftOf n + 2) * exponentStep ≤ (shiftOf m + 1) * exponentStep :=
      Nat.mul_le_mul_right _ (by omega)
    omega
  · rw [unbounded_of_dvd hn, unbounded_of_dvd hm, heq]
    have hdiv : n / 2 ^ shiftOf m < m / 2 ^ shiftOf m :=
      Nat.div_lt_div_of_lt_of_dvd hm h
    omega

/-! ## Integers -/

/-- The number of units in one is a power of two, the exponent of which is best left alone. -/
theorem unitsPerOne_eq : ∃ digits, digits = 1074 ∧ unitsPerOne = 2 ^ digits := by
  obtain ⟨digits, hdigits, hpow⟩ : ∃ digits, digits = 1074 ∧ Nat.pow 2 digits = unitsPerOne := by
    refine ⟨1074, rfl, ?_⟩
    unfold unitsPerOne
    rfl
  exact ⟨digits, hdigits, hpow.symm⟩

theorem unitsPerOne_pos : 0 < unitsPerOne := by
  obtain ⟨digits, -, hunits⟩ := unitsPerOne_eq
  rw [hunits]
  exact Nat.two_pow_pos digits

theorem shiftOf_two_pow (k : Nat) : shiftOf (2 ^ k) = k - 52 := by
  rw [shiftOf, Nat.log2_two_pow]

/-- A whole number up to `2 ^ 53` lies on the steps in which it is rounded. -/
theorem dvd_of_le {n : Nat} (h : n ≤ 2 ^ 53) :
    2 ^ shiftOf (n * unitsPerOne) ∣ n * unitsPerOne := by
  obtain ⟨digits, -, hunits⟩ := unitsPerOne_eq
  rw [hunits]
  rcases Nat.lt_or_eq_of_le h with hlt | rfl
  · have hless : n * 2 ^ digits < 2 ^ (53 + digits) := by
      rw [Nat.pow_add]
      exact Nat.mul_lt_mul_of_pos_right hlt (Nat.two_pow_pos digits)
    have hshift : shiftOf (n * 2 ^ digits) ≤ digits := by
      unfold shiftOf
      by_cases hn : n * 2 ^ digits = 0
      · simp [hn]
      · have hlog := (Nat.log2_lt hn).mpr hless
        omega
    exact Nat.dvd_trans (Nat.pow_dvd_pow 2 hshift) (Nat.dvd_mul_left _ n)
  · rw [← Nat.pow_add, shiftOf_two_pow]
    exact Nat.pow_dvd_pow 2 (Nat.sub_le _ _)

/-- Whole numbers up to `2 ^ 53` do not come near infinity. -/
theorem unbounded_le_of_le {n : Nat} (h : n ≤ 2 ^ 53) :
    unbounded (n * unitsPerOne) ≤ infinityBits := by
  obtain ⟨digits, hdigits, hunits⟩ := unitsPerOne_eq
  have hmono := unbounded_mono (Nat.mul_le_mul_right unitsPerOne h)
  have hupper := unbounded_le (2 ^ 53 * unitsPerOne)
  have hshift : shiftOf (2 ^ 53 * unitsPerOne) = 1 + digits := by
    rw [hunits, ← Nat.pow_add, shiftOf_two_pow]
    omega
  rw [hshift, hdigits] at hupper
  unfold infinityBits
  unfold exponentStep at hupper
  omega

/-- Rounding keeps whole numbers up to `2 ^ 53` apart. -/
theorem nearest_lt {n m : Nat} (h : n < m) (hm : m ≤ 2 ^ 53) :
    nearest (n * unitsPerOne) 1 < nearest (m * unitsPerOne) 1 := by
  have hunits : n * unitsPerOne < m * unitsPerOne :=
    Nat.mul_lt_mul_of_pos_right h unitsPerOne_pos
  have hless := unbounded_lt hunits (dvd_of_le (by omega)) (dvd_of_le hm)
  have hfinite := unbounded_le_of_le hm
  rw [nearest_one, nearest_one]
  omega

theorem nearest_mono {n m : Nat} (h : n ≤ m) :
    nearest (n * unitsPerOne) 1 ≤ nearest (m * unitsPerOne) 1 := by
  have hmono := unbounded_mono (Nat.mul_le_mul_right unitsPerOne h)
  rw [nearest_one, nearest_one]
  omega

theorem key_ofInt (i : Int) :
    (ofInt i).key = if i < 0 then -1 - (nearest (i.natAbs * unitsPerOne) 1 : Int)
      else nearest (i.natAbs * unitsPerOne) 1 := by
  have hfinite : nearest (i.natAbs * unitsPerOne) 1 < signBit := by
    rw [nearest_one]
    exact Nat.lt_of_le_of_lt (Nat.min_le_right _ _) (by decide)
  rw [ofInt, ofRatio, key_ofParts hfinite]
  simp

/-- Rounding keeps the order of integers. -/
theorem key_ofInt_mono {i j : Int} (h : i ≤ j) : (ofInt i).key ≤ (ofInt j).key := by
  rw [key_ofInt, key_ofInt]
  by_cases hi : i < 0
  · by_cases hj : j < 0
    · have hmono : nearest (j.natAbs * unitsPerOne) 1 ≤ nearest (i.natAbs * unitsPerOne) 1 :=
        nearest_mono (by omega)
      rw [if_pos hi, if_pos hj]
      omega
    · rw [if_pos hi, if_neg hj]
      omega
  · have hmono : nearest (i.natAbs * unitsPerOne) 1 ≤ nearest (j.natAbs * unitsPerOne) 1 :=
      nearest_mono (by omega)
    rw [if_neg hi, if_neg (by omega)]
    omega

/-- Up to `2 ^ 53`, different integers stay different doubles. -/
theorem key_ofInt_lt {i j : Int} (h : i < j) (hi : i.natAbs ≤ 2 ^ 53) (hj : j.natAbs ≤ 2 ^ 53) :
    (ofInt i).key < (ofInt j).key := by
  rw [key_ofInt, key_ofInt]
  by_cases hneg : i < 0
  · by_cases hneg' : j < 0
    · have hless : nearest (j.natAbs * unitsPerOne) 1 < nearest (i.natAbs * unitsPerOne) 1 :=
        nearest_lt (by omega) hi
      rw [if_pos hneg, if_pos hneg']
      omega
    · rw [if_pos hneg, if_neg hneg']
      omega
  · have hless : nearest (i.natAbs * unitsPerOne) 1 < nearest (j.natAbs * unitsPerOne) 1 :=
      nearest_lt (by omega) hj
    rw [if_neg hneg, if_neg (by omega)]
    omega

end TableFlow.Double
