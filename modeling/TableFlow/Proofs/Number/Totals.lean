import Mathlib.Data.List.Basic
import TableFlow.Number.Width

/-!
# Running totals

The totals that come up when 64-bit integers are added one after the other. Each of them has to
fit in 64 bits, which depends on the order of the integers and not on their sum alone.

* `Totals.Fit` says that all totals on the way fit;
* `Totals.exists_perm_fit` finds an order for every sum that fits: there is always an integer
  left that can be added next;
* `Totals.forall_perm_fit_iff` says when every order will do: the positive integers must have a
  sum that fits, and the negative ones.
-/

namespace TableFlow

/-- The integer fits in a signed 64-bit word. -/
def Fits (i : Int) : Prop := -int64Bound ≤ i ∧ i < int64Bound

instance (i : Int) : Decidable (Fits i) := inferInstanceAs (Decidable (_ ∧ _))

theorem fits_toInt (w : Int64) : Fits w.toInt := ⟨w.le_toInt, w.toInt_lt⟩

theorem exists_int64?_of_fits {i : Int} (h : Fits i) : ∃ w, int64? i = some w ∧ w.toInt = i := by
  have hsome : int64? i = some (Int64.ofInt i) := if_pos h
  exact ⟨_, hsome, toInt_of_int64? hsome⟩

theorem int64?_of_not_fits {i : Int} (h : ¬Fits i) : int64? i = none := if_neg h

namespace Totals

/-- The sum of integers, however large. -/
def sum (is : List Int64) : Int := is.foldr (fun i total => i.toInt + total) 0

/-- The sum of the positive ones among integers. -/
def gain (is : List Int64) : Int := sum (is.filter fun i => 0 < i.toInt)

/-- The sum of the negative ones among integers. -/
def loss (is : List Int64) : Int := sum (is.filter fun i => i.toInt < 0)

/-- All totals fit in 64 bits when the integers are added to `n` one after the other. -/
def Fit (n : Int) (is : List Int64) : Prop := ∀ front, front <+: is → Fits (n + sum front)

variable {n : Int} {i : Int64} {is js : List Int64}

@[simp]
theorem sum_nil : sum [] = 0 := rfl

@[simp]
theorem sum_cons : sum (i :: is) = i.toInt + sum is := rfl

theorem gain_cons : gain (i :: is) = max i.toInt 0 + gain is := by
  by_cases hi : 0 < i.toInt
  · rw [gain, List.filter_cons_of_pos (by simpa using hi), sum_cons, gain]
    omega
  · rw [gain, List.filter_cons_of_neg (by simpa using hi), gain]
    omega

theorem loss_cons : loss (i :: is) = min i.toInt 0 + loss is := by
  by_cases hi : i.toInt < 0
  · rw [loss, List.filter_cons_of_pos (by simpa using hi), sum_cons, loss]
    omega
  · rw [loss, List.filter_cons_of_neg (by simpa using hi), loss]
    omega

theorem sum_perm (h : js.Perm is) : sum js = sum is := by
  induction h with
  | nil => rfl
  | cons i h ih => rw [sum_cons, sum_cons, ih]
  | swap i j is => exact Int.add_left_comm ..
  | trans h h' ih ih' => exact ih.trans ih'

theorem gain_perm (h : js.Perm is) : gain js = gain is := sum_perm (h.filter _)

theorem loss_perm (h : js.Perm is) : loss js = loss is := sum_perm (h.filter _)

theorem sum_nonneg (h : ∀ i ∈ is, 0 ≤ i.toInt) : 0 ≤ sum is := by
  induction is with
  | nil => exact Int.le_refl 0
  | cons i is ih =>
    obtain ⟨hi, his⟩ := List.forall_mem_cons.mp h
    exact Int.add_nonneg hi (ih his)

theorem sum_nonpos (h : ∀ i ∈ is, i.toInt ≤ 0) : sum is ≤ 0 := by
  induction is with
  | nil => exact Int.le_refl 0
  | cons i is ih =>
    obtain ⟨hi, his⟩ := List.forall_mem_cons.mp h
    exact Int.add_nonpos hi (ih his)

theorem fit_nil_iff : Fit n [] ↔ Fits n := by
  simp [Fit]

theorem fit_cons_iff : Fit n (i :: is) ↔ Fits n ∧ Fit (n + i.toInt) is := by
  constructor
  · intro h
    refine ⟨by simpa using h [] List.nil_prefix, fun front hfront => ?_⟩
    have hnext := h (i :: front) (List.cons_prefix_cons.mpr ⟨rfl, hfront⟩)
    rwa [sum_cons, ← Int.add_assoc] at hnext
  · rintro ⟨hn, h⟩ front hfront
    rcases List.prefix_cons_iff.mp hfront with rfl | ⟨rest, rfl, hrest⟩
    · simpa using hn
    · rw [sum_cons, ← Int.add_assoc]
      exact h rest hrest

instance decidableFit : (n : Int) → (is : List Int64) → Decidable (Fit n is)
  | _, [] => decidable_of_iff _ fit_nil_iff.symm
  | n, i :: is =>
    have := decidableFit (n + i.toInt) is
    decidable_of_iff _ fit_cons_iff.symm

theorem Fit.mono (h : Fit n is) (hfront : js <+: is) : Fit n js :=
  fun front hpre => h front (hpre.trans hfront)

theorem Fit.fits (h : Fit n is) : Fits n := fit_nil_iff.mp (h.mono List.nil_prefix)

theorem Fit.fits_sum (h : Fit n is) : Fits (n + sum is) := h is List.prefix_rfl

/-! ## An order for every sum that fits -/

/-- If the sum of a total and of integers fits, one of the integers can be added next: on the
way out of 64 bits, the others could only lead further out. -/
theorem exists_fits_add (hn : Fits n) (h : Fits (n + sum (i :: is))) :
    ∃ j ∈ i :: is, Fits (n + j.toInt) := by
  by_contra hnone
  push Not at hnone
  rw [sum_cons] at h
  have hfirst := hnone i List.mem_cons_self
  have hi := fits_toInt i
  rcases Int.le_total 0 n with hpos | hneg
  · have hrest : 0 ≤ sum is := by
      refine sum_nonneg fun j hj => ?_
      have hout := hnone j (List.mem_cons_of_mem _ hj)
      have hword := fits_toInt j
      unfold Fits at hn hout hword
      omega
    unfold Fits at hn h hfirst hi
    omega
  · have hrest : sum is ≤ 0 := by
      refine sum_nonpos fun j hj => ?_
      have hout := hnone j (List.mem_cons_of_mem _ hj)
      have hword := fits_toInt j
      unfold Fits at hn hout hword
      omega
    unfold Fits at hn h hfirst hi
    omega

/-- A sum that fits can be reached by totals that fit. -/
theorem exists_perm_fit (hn : Fits n) (h : Fits (n + sum is)) : ∃ js, js.Perm is ∧ Fit n js := by
  induction hlength : is.length generalizing n is with
  | zero =>
    cases List.length_eq_zero_iff.mp hlength
    exact ⟨[], .nil, fit_nil_iff.mpr hn⟩
  | succ length ih =>
    cases is with
    | nil => cases hlength
    | cons i is =>
      obtain ⟨j, hj, hnext⟩ := exists_fits_add hn h
      have hperm := List.perm_cons_erase hj
      have hsum : sum (i :: is) = j.toInt + sum ((i :: is).erase j) := by
        rw [sum_perm hperm, sum_cons]
      rw [hsum, ← Int.add_assoc] at h
      have hshorter : ((i :: is).erase j).length = length := by
        rw [List.length_erase_of_mem hj, hlength]
        rfl
      obtain ⟨js, hjs, hfit⟩ := ih hnext h hshorter
      exact ⟨j :: js, (hjs.cons j).trans hperm.symm, fit_cons_iff.mpr ⟨hn, hfit⟩⟩

/-! ## Sums that fit in every order -/

/-- Some of the integers have a sum between that of all negative and that of all positive ones. -/
theorem sum_between (h : js.Sublist is) : loss is ≤ sum js ∧ sum js ≤ gain is := by
  induction h with
  | slnil => exact ⟨Int.le_refl 0, Int.le_refl 0⟩
  | cons i h ih =>
    rw [loss_cons, gain_cons]
    omega
  | cons_cons i h ih =>
    rw [loss_cons, gain_cons, sum_cons]
    omega

/-- Every order will do exactly if the positive integers have a sum that fits, and the negative
ones: these are the furthest totals, when the positive or the negative ones come first. -/
theorem forall_perm_fit_iff :
    (∀ js, js.Perm is → Fit 0 js) ↔ Fits (gain is) ∧ Fits (loss is) := by
  constructor
  · intro h
    have hgain := h _ (List.filter_append_perm (fun i : Int64 => 0 < i.toInt) is) _
      (List.prefix_append _ _)
    have hloss := h _ (List.filter_append_perm (fun i : Int64 => i.toInt < 0) is) _
      (List.prefix_append _ _)
    rw [Int.zero_add] at hgain hloss
    exact ⟨hgain, hloss⟩
  · rintro ⟨hgain, hloss⟩ js hjs front hfront
    obtain ⟨hlow, hhigh⟩ := sum_between hfront.sublist
    rw [loss_perm hjs] at hlow
    rw [gain_perm hjs] at hhigh
    unfold Fits at hgain hloss ⊢
    omega

end Totals

end TableFlow
