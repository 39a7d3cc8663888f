import TableFlow.Expr.Aggregate
import TableFlow.Proofs.Number.Totals

/-!
# Sums of integers and doubles

A sum is one pass over the values. It checks every total of integers until the first double,
and from there on it adds doubles, which never fails. So a sum of integers is exact, but
whether it goes through depends on their order, and so does the sum of numbers with a double
among them: an integer total can be too large before the double comes.

* `Aggregator.addAll_ints` is the pass over integers with anything behind them;
* `Aggregator.sum_ints` is the sum of integers, and says when their order does not matter;
* `Aggregator.leadingInts` are the integers that are added before the first double, and
  `Aggregator.promotes_iff` says by them when numbers with a double among them have a double
  as their sum and mean.
-/

namespace TableFlow

/-- The integer that a value is. -/
def Value.int? : Value → Option Int64
  | .int i => some i
  | .null | .bool _ | .float _ | .str _ | .list _ => none

namespace Aggregator

open Totals (Fit gain loss)

/-! ## Integers -/

section Integers

variable {n : Int64} {is : List Int64}

/-- A pass that starts with an integer total, over integers with anything behind them. -/
theorem addAll_ints (rest : List Value) (h : Fit n.toInt is) :
    ∃ m : Int64, m.toInt = n.toInt + Totals.sum is ∧
      Total.addAll (.int n) (is.map .int ++ rest) = Total.addAll (.int m) rest := by
  induction is generalizing n with
  | nil => exact ⟨n, by simp, rfl⟩
  | cons i is ih =>
    obtain ⟨-, hrest⟩ := Totals.fit_cons_iff.mp h
    obtain ⟨w, hadd, hw⟩ := exists_int64?_of_fits hrest.fits
    rw [← hw] at hrest
    obtain ⟨m, hm, hpass⟩ := ih hrest
    refine ⟨m, by rw [hm, hw, Totals.sum_cons, Int.add_assoc], ?_⟩
    rw [← hpass]
    simp [Total.addAll, Total.add, Total.addInt?, hadd]

/-- A pass ends at the first total of integers that does not fit. -/
theorem addAll_of_not_fit (rest : List Value) (h : ¬Fit n.toInt is) :
    Total.addAll (.int n) (is.map .int ++ rest) = .error (.type .sumOverflow) := by
  induction is generalizing n with
  | nil => exact absurd (Totals.fit_nil_iff.mpr (fits_toInt n)) h
  | cons i is ih =>
    have hrest : ¬Fit (n.toInt + i.toInt) is := fun hrest =>
      h (Totals.fit_cons_iff.mpr ⟨fits_toInt n, hrest⟩)
    by_cases hfits : Fits (n.toInt + i.toInt)
    · obtain ⟨w, hadd, hw⟩ := exists_int64?_of_fits hfits
      rw [← hw] at hrest
      rw [← ih hrest]
      simp [Total.addAll, Total.add, Total.addInt?, hadd]
    · simp [Total.addAll, Total.add, Total.addInt?, int64?_of_not_fits hfits]

theorem sum_of_fit (h : Fit 0 is) : ∃ s : Int64,
    Aggregator.sum.apply (is.map .int) = .ok (.int s) ∧ s.toInt = Totals.sum is := by
  obtain ⟨s, hs, hpass⟩ := addAll_ints (n := 0) [] h
  rw [List.append_nil] at hpass
  refine ⟨s, ?_, by simpa using hs⟩
  rw [apply, total, hpass]
  rfl

theorem sum_of_not_fit (h : ¬Fit 0 is) :
    Aggregator.sum.apply (is.map .int) = .error (.type .sumOverflow) := by
  have hpass := addAll_of_not_fit (n := 0) [] h
  rw [List.append_nil] at hpass
  rw [apply, total, hpass]

theorem sum_eq_ok_iff {v : Value} : Aggregator.sum.apply (is.map .int) = .ok v ↔
    Fit 0 is ∧ ∃ s : Int64, v = .int s ∧ s.toInt = Totals.sum is := by
  by_cases hfit : Fit 0 is
  · obtain ⟨s, hs, hsum⟩ := sum_of_fit hfit
    rw [hs, Except.ok.injEq]
    constructor
    · rintro rfl
      exact ⟨hfit, s, rfl, hsum⟩
    · rintro ⟨-, t, rfl, ht⟩
      rw [Int64.toInt_inj.mp (hsum.trans ht.symm)]
  · simp [sum_of_not_fit hfit, hfit]

/-- Two orders in which integers can be added give the same sum. -/
theorem sum_perm_eq {js : List Int64} {v w : Value} (hjs : js.Perm is)
    (hv : Aggregator.sum.apply (js.map .int) = .ok v)
    (hw : Aggregator.sum.apply (is.map .int) = .ok w) : v = w := by
  obtain ⟨-, s, rfl, hs⟩ := sum_eq_ok_iff.mp hv
  obtain ⟨-, t, rfl, ht⟩ := sum_eq_ok_iff.mp hw
  rw [Int64.toInt_inj.mp (hs.trans ((Totals.sum_perm hjs).trans ht.symm))]

theorem not_fit_of_sum (h : ¬Fits (Totals.sum is)) : ¬Fit 0 is := by
  intro hfit
  have hsum := hfit.fits_sum
  rw [Int.zero_add] at hsum
  exact h hsum

/-- The order of integers does not matter for a sum that does not fit, and for one that can be
reached in every order. -/
theorem sum_perm_iff : (∀ js : List Int64, js.Perm is →
      Aggregator.sum.apply (js.map .int) = Aggregator.sum.apply (is.map .int)) ↔
    (Fits (Totals.sum is) → Fits (gain is) ∧ Fits (loss is)) := by
  rw [← Totals.forall_perm_fit_iff]
  constructor
  · intro hagree hfits
    -- one order goes through, so they all do
    obtain ⟨good, hgood, hfit⟩ := Totals.exists_perm_fit (n := 0) (fits_toInt 0)
      (by rwa [Int.zero_add])
    obtain ⟨s, hs, -⟩ := sum_of_fit hfit
    intro js hjs
    rw [hagree good hgood, ← hagree js hjs] at hs
    exact (sum_eq_ok_iff.mp hs).1
  · intro hevery js hjs
    by_cases hfits : Fits (Totals.sum is)
    · obtain ⟨s, hs, -⟩ := sum_of_fit (hevery hfits js hjs)
      obtain ⟨t, ht, -⟩ := sum_of_fit (hevery hfits is (List.Perm.refl is))
      rw [hs, ht, sum_perm_eq hjs hs ht]
    · have hother : ¬Fits (Totals.sum js) := by rwa [Totals.sum_perm hjs]
      rw [sum_of_not_fit (not_fit_of_sum hother), sum_of_not_fit (not_fit_of_sum hfits)]

end Integers

/-- A sum of integers is the mathematical sum if all totals on the way fit in 64 bits, and
refused otherwise, as a sum that does not fit always is. Two orders that go through give the
same, and all orders give the same exactly if the sum does not fit, or the positive integers
have a sum that fits, and the negative ones. -/
theorem sum_ints (is : List Int64) :
    (Fit 0 is → ∃ s : Int64, Aggregator.sum.apply (is.map .int) = .ok (.int s) ∧
        s.toInt = Totals.sum is) ∧
      (¬Fit 0 is → Aggregator.sum.apply (is.map .int) = .error (.type .sumOverflow)) ∧
      (¬Fits (Totals.sum is) → ¬Fit 0 is) ∧
      (∀ (js : List Int64) v w, js.Perm is → Aggregator.sum.apply (js.map .int) = .ok v →
        Aggregator.sum.apply (is.map .int) = .ok w → v = w) ∧
      ((∀ js : List Int64, js.Perm is →
          Aggregator.sum.apply (js.map .int) = Aggregator.sum.apply (is.map .int)) ↔
        (Fits (Totals.sum is) → Fits (gain is) ∧ Fits (loss is))) :=
  ⟨sum_of_fit, sum_of_not_fit, not_fit_of_sum, fun _ _ _ => sum_perm_eq, sum_perm_iff⟩

/-- The largest integer and two that cancel out: their sum fits, and is refused if the total
goes up first. -/
theorem sum_depends_on_order :
    Fits (Totals.sum [9223372036854775807, 1, -1]) ∧
      Aggregator.sum.apply [.int 9223372036854775807, .int 1, .int (-1)] =
        .error (.type .sumOverflow) ∧
      Aggregator.sum.apply [.int 9223372036854775807, .int (-1), .int 1] =
        .ok (.int 9223372036854775807) :=
  ⟨by decide, rfl, rfl⟩

/-! ## Numbers with a double among them -/

/-- The integers of a list in front of its first other value. -/
def leadingInts : List Value → List Int64
  | .int i :: vs => i :: leadingInts vs
  | _ => []

/-- All values are integers or doubles. -/
def Numeric (vs : List Value) : Prop := ∀ v ∈ vs, v.number?.isSome = true

/-- The sum of the leading integers as a double, with the other numbers added one by one. -/
def promoted (vs : List Value) : Double :=
  ((vs.drop (leadingInts vs).length).filterMap Value.number?).foldl Double.add
    (Double.ofInt (Totals.sum (leadingInts vs)))

/-- The sum and the mean of the values are doubles. -/
def Promotes (vs : List Value) : Prop :=
  (∃ x, Aggregator.sum.apply vs = .ok (.float x)) ∧ ∃ x, Aggregator.mean.apply vs = .ok (.float x)

section Numbers

variable {x : Double} {vs ws front back : List Value}

/-- Numbers with a double among them are the leading integers, a double, and numbers. -/
theorem exists_split_of_float (hnum : Numeric vs) (hfloat : ∃ x, .float x ∈ vs) :
    ∃ x rest, vs = (leadingInts vs).map .int ++ .float x :: rest ∧ Numeric rest := by
  obtain ⟨y, hy⟩ := hfloat
  induction vs with
  | nil => cases hy
  | cons v vs ih =>
    obtain ⟨hv, hvs⟩ := List.forall_mem_cons.mp hnum
    cases v with
    | float x => exact ⟨x, vs, rfl, hvs⟩
    | int i =>
      obtain ⟨x, rest, hsplit, hrest⟩ := ih hvs (by simpa using hy)
      exact ⟨x, rest, congrArg (Value.int i :: ·) hsplit, hrest⟩
    | null | bool _ | str _ | list _ => cases hv

theorem promoted_of_split {is : List Int64} {rest : List Value}
    (h : leadingInts (is.map .int ++ .float x :: rest) = is) :
    promoted (is.map .int ++ .float x :: rest) =
      (rest.filterMap Value.number?).foldl Double.add
        (Double.add (Double.ofInt (Totals.sum is)) x) := by
  have hdrop : (is.map Value.int ++ .float x :: rest).drop is.length = .float x :: rest := by
    rw [List.drop_append_of_le_length (by simp), List.drop_of_length_le (by simp), List.nil_append]
  rw [promoted, h, hdrop]
  rfl

/-- A pass that has come to a double goes through. -/
theorem addAll_float (h : Numeric vs) : Total.addAll (.float x) vs =
    .ok (.float ((vs.filterMap Value.number?).foldl Double.add x)) := by
  induction vs generalizing x with
  | nil => rfl
  | cons v vs ih =>
    obtain ⟨hv, hvs⟩ := List.forall_mem_cons.mp h
    cases v with
    | int i => exact ih hvs
    | float y => exact ih hvs
    | null | bool _ | str _ | list _ => cases hv

theorem total_of_fit (hnum : Numeric vs) (hfloat : ∃ x, .float x ∈ vs)
    (h : Fit 0 (leadingInts vs)) : total vs = .ok (.float (promoted vs)) := by
  obtain ⟨x, rest, hsplit, hrest⟩ := exists_split_of_float hnum hfloat
  generalize hlead : leadingInts vs = is at h hsplit
  subst hsplit
  obtain ⟨m, hm, hpass⟩ := addAll_ints (n := 0) (.float x :: rest) h
  have hsum : m.toInt = Totals.sum is := by simpa using hm
  rw [total, hpass, promoted_of_split hlead, ← hsum]
  exact addAll_float hrest

theorem total_of_not_fit (hnum : Numeric vs) (hfloat : ∃ x, .float x ∈ vs)
    (h : ¬Fit 0 (leadingInts vs)) : total vs = .error (.type .sumOverflow) := by
  obtain ⟨x, rest, hsplit, -⟩ := exists_split_of_float hnum hfloat
  rw [hsplit]
  exact addAll_of_not_fit (n := 0) (.float x :: rest) h

theorem sum_mean_of_fit (hnum : Numeric vs) (hfloat : ∃ x, .float x ∈ vs)
    (h : Fit 0 (leadingInts vs)) :
    Aggregator.sum.apply vs = .ok (.float (promoted vs)) ∧
      Aggregator.mean.apply vs = .ok (.float ((promoted vs).div (Double.ofNat vs.length))) := by
  rw [apply, apply, total_of_fit hnum hfloat h]
  exact ⟨rfl, rfl⟩

theorem sum_mean_of_not_fit (hnum : Numeric vs) (hfloat : ∃ x, .float x ∈ vs)
    (h : ¬Fit 0 (leadingInts vs)) :
    Aggregator.sum.apply vs = .error (.type .sumOverflow) ∧
      Aggregator.mean.apply vs = .error (.type .sumOverflow) := by
  rw [apply, apply, total_of_not_fit hnum hfloat h]
  exact ⟨rfl, rfl⟩

theorem promotes_iff_fit (hnum : Numeric vs) (hfloat : ∃ x, .float x ∈ vs) :
    Promotes vs ↔ Fit 0 (leadingInts vs) := by
  constructor
  · rintro ⟨⟨x, hx⟩, -⟩
    by_contra h
    rw [(sum_mean_of_not_fit hnum hfloat h).1] at hx
    cases hx
  · intro h
    obtain ⟨hsum, hmean⟩ := sum_mean_of_fit hnum hfloat h
    exact ⟨⟨_, hsum⟩, _, hmean⟩

/-! ## Numbers in any order -/

theorem leadingInts_prefix_ints (vs : List Value) : leadingInts vs <+: vs.filterMap Value.int? := by
  induction vs with
  | nil => exact List.nil_prefix
  | cons v vs ih =>
    cases v with
    | int i => exact List.cons_prefix_cons.mpr ⟨rfl, ih⟩
    | null | bool _ | float _ | str _ | list _ => exact List.nil_prefix

theorem leadingInts_ints_append (is : List Int64) (rest : List Value) :
    leadingInts (is.map .int ++ rest) = is ++ leadingInts rest := by
  induction is with
  | nil => rfl
  | cons i is ih => exact congrArg (i :: ·) ih

theorem leadingInts_of_none (h : ∀ v ∈ vs, v.int? = none) : leadingInts vs = [] := by
  cases vs with
  | nil => rfl
  | cons v vs =>
    cases v with
    | int i => cases h (.int i) List.mem_cons_self
    | null | bool _ | float _ | str _ | list _ => rfl

/-- The values with all integers in front. -/
theorem perm_ints_append (vs : List Value) :
    ((vs.filterMap Value.int?).map Value.int ++ vs.filter fun v => v.int?.isNone).Perm vs := by
  induction vs with
  | nil => exact .nil
  | cons v vs ih =>
    cases v with
    | int i => exact ih.cons (.int i)
    | null | bool _ | float _ | str _ | list _ => exact List.perm_middle.trans (ih.cons _)

/-- Numbers with a double among them have a double as their sum in every order exactly if the
positive integers among them have a sum that fits, and the negative ones. -/
theorem forall_perm_promotes_iff (hnum : Numeric vs) (hfloat : ∃ x, .float x ∈ vs) :
    (∀ ws : List Value, ws.Perm vs → Promotes ws) ↔
      Fits (gain (vs.filterMap Value.int?)) ∧ Fits (loss (vs.filterMap Value.int?)) := by
  have hfit : ∀ {ws : List Value}, ws.Perm vs → (Promotes ws ↔ Fit 0 (leadingInts ws)) := by
    intro ws hws
    obtain ⟨x, hx⟩ := hfloat
    exact promotes_iff_fit (fun v hv => hnum v (hws.mem_iff.mp hv)) ⟨x, hws.mem_iff.mpr hx⟩
  rw [← Totals.forall_perm_fit_iff]
  constructor
  · intro hall js hjs
    have hperm : (js.map Value.int ++ vs.filter fun v => v.int?.isNone).Perm vs :=
      ((hjs.map Value.int).append_right _).trans (perm_ints_append vs)
    have hrest : leadingInts (vs.filter fun v => v.int?.isNone) = [] :=
      leadingInts_of_none fun v hv => by simpa using (List.mem_filter.mp hv).2
    have hjs := (hfit hperm).mp (hall _ hperm)
    rwa [leadingInts_ints_append, hrest, List.append_nil] at hjs
  · intro hall ws hws
    exact (hfit hws).mpr ((hall _ (hws.filterMap Value.int?)).mono (leadingInts_prefix_ints ws))

/-! ## The place of a double -/

theorem leadingInts_append_float : leadingInts (front ++ .float x :: back) = leadingInts front := by
  induction front with
  | nil => rfl
  | cons v front ih =>
    cases v with
    | int i => exact congrArg (i :: ·) ih
    | null | bool _ | float _ | str _ | list _ => rfl

theorem leadingInts_prefix_append : leadingInts front <+: leadingInts (front ++ back) := by
  induction front with
  | nil => exact List.nil_prefix
  | cons v front ih =>
    cases v with
    | int i => exact List.cons_prefix_cons.mpr ⟨rfl, ih⟩
    | null | bool _ | float _ | str _ | list _ => exact List.nil_prefix

/-- With a double put in, numbers have a double as their sum exactly if the integers in front
of it have totals that fit. -/
theorem promotes_insert_iff (front back : List Value) (hnum : Numeric (front ++ back)) :
    Promotes (front ++ .float x :: back) ↔ Fit 0 (leadingInts front) := by
  have hall : Numeric (front ++ .float x :: back) := by
    intro v hv
    rcases List.mem_append.mp hv with hv | hv
    · exact hnum v (by simp [hv])
    · rcases List.mem_cons.mp hv with rfl | hv
      · rfl
      · exact hnum v (by simp [hv])
  rw [promotes_iff_fit hall ⟨x, by simp⟩, leadingInts_append_float]

theorem forall_place_iff (hnum : Numeric vs) (x : Double) :
    (∀ front back front' back' : List Value, front ++ back = vs → front' ++ back' = vs →
      (Promotes (front ++ .float x :: back) ↔ Promotes (front' ++ .float x :: back'))) ↔
    Fit 0 (leadingInts vs) := by
  constructor
  · intro hsame
    -- in the first place the double always helps
    have hfirst : Promotes ([] ++ .float x :: vs) :=
      (promotes_insert_iff [] vs hnum).mpr (Totals.fit_nil_iff.mpr (fits_toInt 0))
    have hlast := (hsame [] vs vs [] rfl (List.append_nil vs)).mp hfirst
    exact (promotes_insert_iff vs [] (by rwa [List.append_nil])).mp hlast
  · intro hfit front back front' back' hsplit hsplit'
    have hpromotes : ∀ {front back : List Value}, front ++ back = vs →
        Promotes (front ++ .float x :: back) := by
      rintro front back rfl
      exact (promotes_insert_iff front back hnum).mpr (hfit.mono leadingInts_prefix_append)
    exact iff_of_true (hpromotes hsplit) (hpromotes hsplit')

end Numbers

/-- Numbers with a double among them have a double as their sum and mean exactly if the totals
of the integers in front of the first double fit in 64 bits; else both are refused. So they do
in every order exactly if the positive integers have a sum that fits, and the negative ones;
and the place of one more double does not matter exactly if the leading integers have totals
that fit. -/
theorem promotes_iff {vs : List Value} (hnum : Numeric vs) :
    ((∃ x, .float x ∈ vs) →
        (Fit 0 (leadingInts vs) → Aggregator.sum.apply vs = .ok (.float (promoted vs)) ∧
          Aggregator.mean.apply vs =
            .ok (.float ((promoted vs).div (Double.ofNat vs.length)))) ∧
        (¬Fit 0 (leadingInts vs) → Aggregator.sum.apply vs = .error (.type .sumOverflow) ∧
          Aggregator.mean.apply vs = .error (.type .sumOverflow)) ∧
        ((∀ ws : List Value, ws.Perm vs → Promotes ws) ↔
          Fits (gain (vs.filterMap Value.int?)) ∧ Fits (loss (vs.filterMap Value.int?)))) ∧
      ∀ x, (∀ front back front' back' : List Value, front ++ back = vs → front' ++ back' = vs →
          (Promotes (front ++ .float x :: back) ↔ Promotes (front' ++ .float x :: back'))) ↔
        Fit 0 (leadingInts vs) :=
  ⟨fun hfloat => ⟨sum_mean_of_fit hnum hfloat, sum_mean_of_not_fit hnum hfloat,
    forall_perm_promotes_iff hnum hfloat⟩, forall_place_iff hnum⟩

/-- The largest integer, a double and an integer have a double as their sum in this order. -/
theorem promotes_of_early_float :
    Numeric [.int 9223372036854775807, .float (Double.ofNat 1), .int 5] ∧
      Promotes [.int 9223372036854775807, .float (Double.ofNat 1), .int 5] := by
  have hnum : Numeric [.int 9223372036854775807, .float (Double.ofNat 1), .int 5] := by
    simp [Numeric, Value.number?]
  have hlead : leadingInts [.int 9223372036854775807, .float (Double.ofNat 1), .int 5] =
      [9223372036854775807] := rfl
  have hsum := (promotes_iff hnum).1 ⟨Double.ofNat 1, by simp⟩
  obtain ⟨hsum, hmean⟩ := hsum.1 (by rw [hlead]; decide)
  exact ⟨hnum, ⟨_, hsum⟩, _, hmean⟩

/-- With the double at the end the total of the integers is refused before the double comes. -/
theorem late_float_not_promoted :
    ¬Fit 0 (leadingInts [.int 9223372036854775807, .int 1, .float (Double.ofNat 1)]) ∧
      Aggregator.sum.apply [.int 9223372036854775807, .int 1, .float (Double.ofNat 1)] =
        .error (.type .sumOverflow) ∧
      Aggregator.mean.apply [.int 9223372036854775807, .int 1, .float (Double.ofNat 1)] =
        .error (.type .sumOverflow) ∧
      Promotes [.float (Double.ofNat 1), .int 9223372036854775807, .int 1] :=
  ⟨by decide, rfl, rfl, ⟨_, rfl⟩, _, rfl⟩

end Aggregator

end TableFlow
