import Mathlib.Data.Set.Function
import TableFlow.Proofs.Number.Rounding
import TableFlow.Value.Order

/-!
# The two orders of values

The exact order is a linear one. The loose order compares an integer and a double as doubles
and two integers as integers, so it is an order only as long as rounding keeps the integers
apart.

* `Value.cmp_swap`, `Value.cmp_eq_iff` and `Value.cmp_lt_trans` are the exact order;
* `Value.widen` turns all integers of a value into doubles, and `Value.compare_eq_cmp_widen`
  makes the loose order of values the exact order of what they are widened to, if no two of
  their integers become the same double;
* `Value.compare_preorder` says that this is also necessary, and `Value.rounded_injOn` that
  integers up to `2 ^ 53` are kept apart.
-/

namespace TableFlow

namespace Double

theorem cmp_swap (x y : Double) : y.cmp x = (x.cmp y).swap := Std.OrientedOrd.eq_swap

theorem cmp_eq_iff {x y : Double} : x.cmp y = .eq ↔ x = y :=
  Std.compare_eq_iff_eq.trans key_injective.eq_iff

theorem cmp_lt_trans {x y z : Double} (hxy : x.cmp y = .lt) (hyz : y.cmp z = .lt) :
    x.cmp z = .lt := by
  rw [cmp, Int.compare_eq_lt] at hxy hyz ⊢
  omega

end Double

namespace Value

/-! ## The exact order -/

theorem cmp_of_rank_ne {a b : Value} (h : a.rank ≠ b.rank) :
    cmp a b = Ord.compare a.rank b.rank := by
  cases a <;> cases b <;> first | rfl | exact absurd rfl h

mutual

theorem cmp_swap (a b : Value) : cmp b a = (cmp a b).swap := by
  by_cases hrank : a.rank = b.rank
  · match a, b, hrank with
    | .null, .null, _ => rfl
    | .bool a, .bool b, _ => exact Std.OrientedOrd.eq_swap
    | .int a, .int b, _ => exact Std.OrientedOrd.eq_swap
    | .float a, .float b, _ => exact Double.cmp_swap a b
    | .str a, .str b, _ => exact Std.OrientedOrd.eq_swap
    | .list as, .list bs, _ => exact cmpList_swap as bs
  · rw [cmp_of_rank_ne hrank, cmp_of_rank_ne (Ne.symm hrank)]
    exact Std.OrientedOrd.eq_swap

theorem cmpList_swap (as bs : List Value) : cmpList bs as = (cmpList as bs).swap := by
  match as, bs with
  | [], [] => rfl
  | [], _ :: _ => rfl
  | _ :: _, [] => rfl
  | a :: as, b :: bs =>
    rw [cmpList, cmpList, cmp_swap a b, cmpList_swap as bs, Ordering.swap_then]

end

mutual

/-- Values compare as equal only if they are the same. -/
theorem cmp_eq_iff {a b : Value} : cmp a b = .eq ↔ a = b := by
  by_cases hrank : a.rank = b.rank
  · match a, b, hrank with
    | .null, .null, _ => simp [cmp]
    | .bool a, .bool b, _ => simp [cmp]
    | .int a, .int b, _ =>
      rw [cmp, Std.compare_eq_iff_eq, Int64.toInt_inj]
      simp
    | .float a, .float b, _ => simpa [cmp] using Double.cmp_eq_iff
    | .str a, .str b, _ => simp [cmp]
    | .list as, .list bs, _ => simpa [cmp] using cmpList_eq_iff
  · rw [cmp_of_rank_ne hrank, Std.compare_eq_iff_eq]
    constructor
    · intro h
      exact absurd h hrank
    · rintro rfl
      exact absurd rfl hrank

theorem cmpList_eq_iff {as bs : List Value} : cmpList as bs = .eq ↔ as = bs := by
  match as, bs with
  | [], [] => simp [cmpList]
  | [], _ :: _ => simp [cmpList]
  | _ :: _, [] => simp [cmpList]
  | a :: as, b :: bs => rw [cmpList, Ordering.then_eq_eq, cmp_eq_iff, cmpList_eq_iff, List.cons.injEq]

end

theorem rank_le_of_cmp_lt {a b : Value} (h : cmp a b = .lt) : a.rank ≤ b.rank := by
  by_cases hrank : a.rank = b.rank
  · exact Nat.le_of_eq hrank
  · rw [cmp_of_rank_ne hrank, Nat.compare_eq_lt] at h
    exact Nat.le_of_lt h

mutual

theorem cmp_lt_trans {a b c : Value} (hab : cmp a b = .lt) (hbc : cmp b c = .lt) :
    cmp a c = .lt := by
  have hranks := rank_le_of_cmp_lt hab
  have hranks' := rank_le_of_cmp_lt hbc
  by_cases hrank : a.rank = c.rank
  · have hmid : a.rank = b.rank := by omega
    match a, b, c, hmid, hrank with
    | .null, .null, .null, _, _ => exact hab
    | .bool a, .bool b, .bool c, _, _ =>
      rw [cmp] at hab hbc ⊢
      exact Std.TransCmp.lt_trans hab hbc
    | .int a, .int b, .int c, _, _ =>
      rw [cmp, Int.compare_eq_lt] at hab hbc ⊢
      omega
    | .float a, .float b, .float c, _, _ => exact Double.cmp_lt_trans hab hbc
    | .str a, .str b, .str c, _, _ =>
      rw [cmp] at hab hbc ⊢
      exact Std.TransCmp.lt_trans hab hbc
    | .list as, .list bs, .list cs, _, _ => exact cmpList_lt_trans hab hbc
  · rw [cmp_of_rank_ne hrank, Nat.compare_eq_lt]
    omega

theorem cmpList_lt_trans {as bs cs : List Value} (hab : cmpList as bs = .lt)
    (hbc : cmpList bs cs = .lt) : cmpList as cs = .lt := by
  match as, bs, cs with
  | [], _ :: _, _ :: _ => rfl
  | a :: as, b :: bs, c :: cs =>
    rw [cmpList, Ordering.then_eq_lt, cmp_eq_iff] at hab hbc ⊢
    rcases hab with hab | ⟨rfl, hab⟩
    · rcases hbc with hbc | ⟨rfl, hbc⟩
      · exact .inl (cmp_lt_trans hab hbc)
      · exact .inl hab
    · rcases hbc with hbc | ⟨rfl, hbc⟩
      · exact .inl hbc
      · exact .inr ⟨rfl, cmpList_lt_trans hab hbc⟩

end

/-- The exact order is transitive. -/
theorem cmp_ne_gt_trans {a b c : Value} (hab : cmp a b ≠ .gt) (hbc : cmp b c ≠ .gt) :
    cmp a c ≠ .gt := by
  have hcases : ∀ {x y : Value}, cmp x y ≠ .gt → x = y ∨ cmp x y = .lt := by
    intro x y h
    cases hxy : cmp x y with
    | lt => exact .inr rfl
    | eq => exact .inl (cmp_eq_iff.mp hxy)
    | gt => exact absurd hxy h
  rcases hcases hab with rfl | hlt
  · exact hbc
  · rcases hcases hbc with rfl | hlt'
    · exact hab
    · rw [cmp_lt_trans hlt hlt']
      decide

/-! ## The loose order -/

mutual

theorem compare_self (a : Value) : compare a a = .eq := by
  match a with
  | .list as => exact compareList_self as
  | .null => rfl
  | .bool b => exact Std.compare_eq_iff_eq.mpr rfl
  | .int i => exact Std.compare_eq_iff_eq.mpr rfl
  | .float x => exact Double.cmp_eq_iff.mpr rfl
  | .str s => exact Std.compare_eq_iff_eq.mpr rfl

theorem compareList_self (as : List Value) : compareList as as = .eq := by
  match as with
  | [] => rfl
  | a :: as => rw [compareList, compare_self a, compareList_self as]; rfl

end

mutual

/-- The loose order of two values is turned round with them. -/
theorem compare_swap (a b : Value) : compare b a = (compare a b).swap := by
  match a, b with
  | .int a, .float b => exact Double.cmp_swap (Double.ofInt a.toInt) b
  | .float a, .int b => exact Double.cmp_swap a (Double.ofInt b.toInt)
  | .list as, .list bs => exact compareList_swap as bs
  | .null, b | .bool _, b | .str _, b =>
    cases b <;> exact cmp_swap _ _
  | .int a, .null | .int a, .bool _ | .int a, .int _ | .int a, .str _ | .int a, .list _ =>
    exact cmp_swap _ _
  | .float a, .null | .float a, .bool _ | .float a, .float _ | .float a, .str _
  | .float a, .list _ => exact cmp_swap _ _
  | .list as, .null | .list as, .bool _ | .list as, .int _ | .list as, .float _
  | .list as, .str _ => exact cmp_swap _ _

theorem compareList_swap (as bs : List Value) :
    compareList bs as = (compareList as bs).swap := by
  match as, bs with
  | [], [] => rfl
  | [], _ :: _ => rfl
  | _ :: _, [] => rfl
  | a :: as, b :: bs =>
    rw [compareList, compareList, compare_swap a b, compareList_swap as bs,
      Ordering.swap_then]

end

/-! ## Integers as doubles -/

/-- The double that an integer is rounded to. -/
def rounded (i : Int64) : Double := Double.ofInt i.toInt

/-- Integers up to `2 ^ 53` are kept apart. -/
theorem rounded_injOn : {i : Int64 | i.toInt.natAbs ≤ 2 ^ 53}.InjOn rounded := by
  intro i hi j hj h
  have hkeys : (Double.ofInt i.toInt).key = (Double.ofInt j.toInt).key := congrArg Double.key h
  rcases lt_trichotomy i.toInt j.toInt with hlt | heq | hgt
  · have hless := Double.key_ofInt_lt hlt hi hj
    omega
  · exact Int64.toInt_inj.mp heq
  · have hless := Double.key_ofInt_lt hgt hj hi
    omega

mutual

/-- The integers in a value, at any depth of lists, are among these. -/
def IntsIn (S : Set Int64) : Value → Prop
  | .int i => i ∈ S
  | .list vs => IntsInAll S vs
  | .null | .bool _ | .float _ | .str _ => True

/-- The same of several values. -/
def IntsInAll (S : Set Int64) : List Value → Prop
  | [] => True
  | v :: vs => IntsIn S v ∧ IntsInAll S vs

end

mutual

/-- The value with all integers as doubles. -/
def widen : Value → Value
  | .int i => .float (rounded i)
  | .list vs => .list (widenAll vs)
  | .null => .null
  | .bool b => .bool b
  | .float x => .float x
  | .str s => .str s

/-- The values with all integers as doubles. -/
def widenAll : List Value → List Value
  | [] => []
  | v :: vs => widen v :: widenAll vs

end

section Widening

variable {S : Set Int64}

/-- Integers that rounding keeps apart compare as the doubles do. -/
theorem compare_toInt_eq_cmp_rounded (hS : S.InjOn rounded) {i j : Int64} (hi : i ∈ S)
    (hj : j ∈ S) : Ord.compare i.toInt j.toInt = (rounded i).cmp (rounded j) := by
  have happart : i.toInt ≠ j.toInt → (rounded i).key ≠ (rounded j).key := by
    intro hne hkeys
    exact hne (congrArg Int64.toInt (hS hi hj (Double.key_injective hkeys)))
  rcases lt_trichotomy i.toInt j.toInt with hlt | heq | hgt
  · have hkeys : (rounded i).key ≤ (rounded j).key := Double.key_ofInt_mono (Int.le_of_lt hlt)
    have hne := happart (by omega)
    rw [Int.compare_eq_lt.mpr hlt, Double.cmp, Int.compare_eq_lt.mpr (by omega)]
  · rw [Int64.toInt_inj.mp heq, Std.compare_eq_iff_eq.mpr rfl, Double.cmp_eq_iff.mpr rfl]
  · have hkeys : (rounded j).key ≤ (rounded i).key := Double.key_ofInt_mono (Int.le_of_lt hgt)
    have hne := happart (by omega)
    rw [Int.compare_eq_gt.mpr hgt, Double.cmp, Int.compare_eq_gt.mpr (by omega)]

mutual

/-- The loose order of values is the exact order of what they are widened to, if rounding
keeps their integers apart. -/
theorem compare_eq_cmp_widen (hS : S.InjOn rounded) {a b : Value} (ha : a.IntsIn S)
    (hb : b.IntsIn S) : compare a b = cmp a.widen b.widen := by
  match a, b with
  | .int i, .int j => exact compare_toInt_eq_cmp_rounded hS ha hb
  | .list as, .list bs => exact compareList_eq_cmpList_widenAll hS ha hb
  | .null, b | .bool _, b | .str _, b | .float _, b => cases b <;> rfl
  | .int _, .null | .int _, .bool _ | .int _, .float _ | .int _, .str _ | .int _, .list _ => rfl
  | .list _, .null | .list _, .bool _ | .list _, .int _ | .list _, .float _ | .list _, .str _ =>
    rfl

theorem compareList_eq_cmpList_widenAll (hS : S.InjOn rounded) {as bs : List Value}
    (ha : IntsInAll S as) (hb : IntsInAll S bs) :
    compareList as bs = cmpList (widenAll as) (widenAll bs) := by
  match as, bs with
  | [], [] => rfl
  | [], _ :: _ => rfl
  | _ :: _, [] => rfl
  | a :: as, b :: bs =>
    rw [compareList, widenAll, widenAll, cmpList, compare_eq_cmp_widen hS ha.1 hb.1,
      compareList_eq_cmpList_widenAll hS ha.2 hb.2]

end

theorem looseEq_iff {a b : Value} : looseEq a b = true ↔ compare a b = .eq := by
  simp [looseEq]

theorem looseEq_iff_widen (hS : S.InjOn rounded) {a b : Value} (ha : a.IntsIn S)
    (hb : b.IntsIn S) : looseEq a b = true ↔ a.widen = b.widen := by
  rw [looseEq_iff, compare_eq_cmp_widen hS ha hb, cmp_eq_iff]

/-- Two integers that become the same double are equal to it, and still in order. -/
theorem compare_of_rounded_eq {i j : Int64} (h : rounded i = rounded j)
    (hlt : i.toInt < j.toInt) :
    compare (.int j) (.float (rounded i)) = .eq ∧ compare (.float (rounded i)) (.int i) = .eq ∧
      compare (.int j) (.int i) = .gt := by
  refine ⟨?_, ?_, Int.compare_eq_gt.mpr hlt⟩
  · exact Double.cmp_eq_iff.mpr h.symm
  · exact Double.cmp_eq_iff.mpr rfl

/-- Integers among which the loose order is transitive are kept apart by rounding. -/
theorem injOn_of_trans
    (htrans : ∀ a b c : Value, a.IntsIn S → b.IntsIn S → c.IntsIn S → compare a b = .eq →
      compare b c = .eq → compare a c ≠ .gt) : S.InjOn rounded := by
  have hless : ∀ i ∈ S, ∀ j ∈ S, rounded i = rounded j → ¬i.toInt < j.toInt := by
    intro i hi j hj h hlt
    obtain ⟨hup, hdown, hgt⟩ := compare_of_rounded_eq h hlt
    exact htrans (.int j) (.float (rounded i)) (.int i) hj trivial hi hup hdown hgt
  intro i hi j hj h
  have hij := hless i hi j hj h
  have hji := hless j hj i hi h.symm
  exact Int64.toInt_inj.mp (by omega)

end Widening

/-- The loose order is reflexive, and turned round with the values. It is transitive, and
equality in it an equivalence, on the values whose integers are taken from some set exactly
if rounding keeps the integers of this set apart, as it does up to `2 ^ 53`. -/
theorem compare_preorder (S : Set Int64) :
    (∀ a, compare a a = .eq) ∧ (∀ a b, compare b a = (compare a b).swap) ∧
      ((∀ a b c : Value, a.IntsIn S → b.IntsIn S → c.IntsIn S → compare a b ≠ .gt →
          compare b c ≠ .gt → compare a c ≠ .gt) ↔ S.InjOn rounded) ∧
      ((Equivalence fun a b : {v : Value // v.IntsIn S} => looseEq a.1 b.1 = true) ↔
        S.InjOn rounded) ∧
      {i : Int64 | i.toInt.natAbs ≤ 2 ^ 53}.InjOn rounded := by
  refine ⟨compare_self, compare_swap, ⟨?_, ?_⟩, ⟨?_, ?_⟩, rounded_injOn⟩
  · intro htrans
    refine injOn_of_trans fun a b c ha hb hc hab hbc => htrans a b c ha hb hc ?_ ?_
    · simp [hab]
    · simp [hbc]
  · intro hS a b c ha hb hc hab hbc
    rw [compare_eq_cmp_widen hS ha hb] at hab
    rw [compare_eq_cmp_widen hS hb hc] at hbc
    rw [compare_eq_cmp_widen hS ha hc]
    exact cmp_ne_gt_trans hab hbc
  · intro hequiv
    refine injOn_of_trans fun a b c ha hb hc hab hbc => ?_
    have hac : looseEq a c = true := hequiv.trans (x := ⟨a, ha⟩) (y := ⟨b, hb⟩) (z := ⟨c, hc⟩)
      (looseEq_iff.mpr hab) (looseEq_iff.mpr hbc)
    rw [looseEq_iff.mp hac]
    decide
  · intro hS
    refine ⟨fun a => looseEq_iff.mpr (compare_self a.1), ?_, ?_⟩
    · intro a b hab
      rw [looseEq_iff_widen hS b.2 a.2]
      exact ((looseEq_iff_widen hS a.2 b.2).mp hab).symm
    · intro a b c hab hbc
      rw [looseEq_iff_widen hS a.2 c.2]
      exact ((looseEq_iff_widen hS a.2 b.2).mp hab).trans ((looseEq_iff_widen hS b.2 c.2).mp hbc)

/-- Lists of an integer, a double and an integer, all of them small. -/
theorem compare_preorder_of_small :
    compare (.list [.int 3, .str "x"]) (.list [.float (Double.ofNat 4)]) ≠ .gt ∧
      compare (.list [.float (Double.ofNat 4)]) (.list [.int 5]) ≠ .gt ∧
      compare (.list [.int 3, .str "x"]) (.list [.int 5]) ≠ .gt := by
  obtain ⟨-, -, hiff, -, hsmall⟩ := compare_preorder {i : Int64 | i.toInt.natAbs ≤ 2 ^ 53}
  have hfirst : compare (.list [.int 3, .str "x"]) (.list [.float (Double.ofNat 4)]) ≠ .gt := by
    decide +kernel
  have hsecond : compare (.list [.float (Double.ofNat 4)]) (.list [.int 5]) ≠ .gt := by
    decide +kernel
  refine ⟨hfirst, hsecond, hiff.mpr hsmall _ _ _ ?_ ?_ ?_ hfirst hsecond⟩
  · exact ⟨show (3 : Int64).toInt.natAbs ≤ 2 ^ 53 by decide, trivial, trivial⟩
  · exact ⟨trivial, trivial⟩
  · exact ⟨show (5 : Int64).toInt.natAbs ≤ 2 ^ 53 by decide, trivial⟩

/-- `2 ^ 53 + 1` becomes `2 ^ 53` as a double: it is not greater than this double, which is
not greater than the integer `2 ^ 53`, and still it is greater than that. -/
theorem compare_not_transitive :
    compare (.int 9007199254740993) (.float (Double.ofNat 9007199254740992)) = .eq ∧
      compare (.float (Double.ofNat 9007199254740992)) (.int 9007199254740992) = .eq ∧
      compare (.int 9007199254740993) (.int 9007199254740992) = .gt := by
  decide +kernel

end Value

end TableFlow
