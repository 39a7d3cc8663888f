import TableFlow.Expr.Aggregate
import TableFlow.Proofs.Value.Order

/-!
# The largest and the smallest value

One pass over the values keeps a champion, and a value that beats it takes its place. This
finds the first value that no other one beats as long as the loose order is an order on the
values, that is, as long as rounding keeps their integers apart.

* `Aggregator.firstUnbeaten?` is the value that should be found, by comparing all values with
  all others;
* `Aggregator.Prevails` is what holds of the champion at any time, and `Aggregator.best_prevails`
  that it holds in the end, if a value that beats another one beats what that one beats. This
  is so for values whose integers rounding keeps apart (`Value.compare_trans_of_injOn`), and for
  all values without lists (`Value.compare_trans_of_plain`);
* `Aggregator.extremes_firstUnbeaten_iff` says when the value found is the first unbeaten one.
-/

namespace TableFlow

namespace Value

section Order

variable {S : Set Int64} {wins : Ordering} {a b c : Value}

theorem compare_eq_iff_swap : compare a b = wins ↔ compare b a = wins.swap := by
  rw [compare_swap a b, Ordering.swap_inj]

/-- A value that beats another one is not beaten by it. -/
theorem compare_ne_of_swap (hwins : wins ≠ .eq) (h : compare a b = wins) :
    compare b a ≠ wins := by
  rw [compare_swap a b, h]
  cases wins with
  | eq => exact absurd rfl hwins
  | lt | gt => decide

/-- Values of which none beats the other are equal. -/
theorem compare_eq_of_unbeaten (hwins : wins ≠ .eq) (hab : compare a b ≠ wins)
    (hba : compare b a ≠ wins) : compare a b = .eq := by
  rw [compare_swap a b] at hba
  cases hcmp : compare a b <;> cases wins <;> simp_all

/-- In either direction, what does not beat a value that does not beat a third one does not
beat that one either. -/
theorem compare_ne_trans (hS : S.InjOn rounded) (hwins : wins ≠ .eq) (ha : a.IntsIn S)
    (hb : b.IntsIn S) (hc : c.IntsIn S) (hab : compare a b ≠ wins) (hbc : compare b c ≠ wins) :
    compare a c ≠ wins := by
  have hup : ∀ {x y z : Value}, x.IntsIn S → y.IntsIn S → z.IntsIn S → compare x y ≠ .gt →
      compare y z ≠ .gt → compare x z ≠ .gt := by
    intro x y z hx hy hz hxy hyz
    rw [compare_eq_cmp_widen hS hx hy] at hxy
    rw [compare_eq_cmp_widen hS hy hz] at hyz
    rw [compare_eq_cmp_widen hS hx hz]
    exact cmp_ne_gt_trans hxy hyz
  cases wins with
  | eq => exact absurd rfl hwins
  | gt => exact hup ha hb hc hab hbc
  | lt =>
    -- the same order read from the other side
    rw [ne_eq, compare_eq_iff_swap] at hab hbc ⊢
    exact hup hc hb ha hbc hab

theorem compare_trans_of_injOn (hS : S.InjOn rounded) (hwins : wins ≠ .eq) (ha : a.IntsIn S)
    (hb : b.IntsIn S) (hc : c.IntsIn S) (hab : compare a b = wins) (hbc : compare b c = wins) :
    compare a c = wins := by
  by_contra hac
  exact compare_ne_trans hS hwins ha hc hb hac (compare_ne_of_swap hwins hbc) hab

end Order

/-! ## Values without lists -/

/-- What decides between values that are widened to the same value. -/
def tie : Value → Value → Ordering
  | .int i, .int j => Ord.compare i.toInt j.toInt
  | _, _ => .eq

/-- Values that are no lists compare as what they are widened to, and two integers of one
double as integers. -/
theorem compare_eq_then_tie {a b : Value} (ha : a.list? = none) (hb : b.list? = none) :
    compare a b = (cmp a.widen b.widen).then (tie a b) := by
  cases a with
  | list as => cases ha
  | int i =>
    cases b with
    | list bs => cases hb
    | int j =>
      show Ord.compare i.toInt j.toInt =
        ((rounded i).cmp (rounded j)).then (Ord.compare i.toInt j.toInt)
      -- rounding keeps the order, so the doubles do not decide the other way
      rcases lt_trichotomy i.toInt j.toInt with hlt | heq | hgt
      · have hkeys : (rounded i).key ≤ (rounded j).key := Double.key_ofInt_mono (Int.le_of_lt hlt)
        rw [Int.compare_eq_lt.mpr hlt]
        cases hcmp : (rounded i).cmp (rounded j) with
        | lt | eq => rfl
        | gt =>
          rw [Double.cmp, Int.compare_eq_gt] at hcmp
          omega
      · rw [Int64.toInt_inj.mp heq, Double.cmp_eq_iff.mpr rfl]
        rfl
      · have hkeys : (rounded j).key ≤ (rounded i).key := Double.key_ofInt_mono (Int.le_of_lt hgt)
        rw [Int.compare_eq_gt.mpr hgt]
        cases hcmp : (rounded i).cmp (rounded j) with
        | gt | eq => rfl
        | lt =>
          rw [Double.cmp, Int.compare_eq_lt] at hcmp
          omega
    | null | bool _ | float _ | str _ => exact Ordering.then_eq.symm
  | null | bool _ | float _ | str _ =>
    cases b with
    | list bs => cases hb
    | null | bool _ | int _ | float _ | str _ => exact Ordering.then_eq.symm

/-- Values that are widened to different ones compare as these do. -/
theorem compare_of_cmp_widen {wins : Ordering} (hwins : wins ≠ .eq) {a b : Value}
    (ha : a.list? = none) (hb : b.list? = none) (h : cmp a.widen b.widen = wins) :
    compare a b = wins := by
  rw [compare_eq_then_tie ha hb, h]
  cases wins with
  | eq => exact absurd rfl hwins
  | lt | gt => rfl

theorem cmp_widen_of_compare {wins : Ordering} {a b : Value} (ha : a.list? = none)
    (hb : b.list? = none) (h : compare a b = wins) (htie : tie a b = .eq) :
    cmp a.widen b.widen = wins := by
  rwa [compare_eq_then_tie ha hb, htie, Ordering.then_eq] at h

/-- Values that compare as equal are the same, or an integer and its double. -/
theorem of_compare_eq {a b : Value} (ha : a.list? = none) (hb : b.list? = none)
    (h : compare a b = .eq) : a = b ∨ (∃ i, a = .int i ∧ b = .float (rounded i)) ∨
      ∃ i, a = .float (rounded i) ∧ b = .int i := by
  rw [compare_eq_then_tie ha hb, Ordering.then_eq_eq, cmp_eq_iff] at h
  obtain ⟨hwiden, htie⟩ := h
  cases a with
  | list as => cases ha
  | int i =>
    cases b with
    | int j => exact .inl (congrArg Value.int (Int64.toInt_inj.mp (Std.compare_eq_iff_eq.mp htie)))
    | float x => exact .inr (.inl ⟨i, rfl, hwiden.symm⟩)
    | null | bool _ | str _ | list _ => cases hwiden
  | float x =>
    cases b with
    | int j => exact .inr (.inr ⟨j, hwiden, rfl⟩)
    | list bs => cases hb
    | null | bool _ | float _ | str _ => exact .inl hwiden
  | null | bool _ | str _ =>
    cases b with
    | int j => cases hwiden
    | list bs => cases hb
    | null | bool _ | float _ | str _ => exact .inl hwiden

theorem compare_lt_trans_of_plain {a b c : Value} (ha : a.list? = none) (hb : b.list? = none)
    (hc : c.list? = none) (hab : compare a b = .lt) (hbc : compare b c = .lt) :
    compare a c = .lt := by
  rw [compare_eq_then_tie ha hb, Ordering.then_eq_lt, cmp_eq_iff] at hab
  rw [compare_eq_then_tie hb hc, Ordering.then_eq_lt, cmp_eq_iff] at hbc
  rw [compare_eq_then_tie ha hc, Ordering.then_eq_lt, cmp_eq_iff]
  rcases hab with hab | ⟨hab, htab⟩
  · rcases hbc with hbc | ⟨hbc, -⟩
    · exact .inl (cmp_lt_trans hab hbc)
    · exact .inl (hbc ▸ hab)
  · rcases hbc with hbc | ⟨hbc, htbc⟩
    · exact .inl (hab ▸ hbc)
    · refine .inr ⟨hab.trans hbc, ?_⟩
      cases a with
      | int i =>
        cases b with
        | int j =>
          cases c with
          | int k =>
            rw [tie, Int.compare_eq_lt] at htab htbc ⊢
            omega
          | _ => cases htbc
        | _ => cases htab
      | _ => cases htab

theorem compare_trans_of_plain {wins : Ordering} (hwins : wins ≠ .eq) {a b c : Value}
    (ha : a.list? = none) (hb : b.list? = none) (hc : c.list? = none) (hab : compare a b = wins)
    (hbc : compare b c = wins) : compare a c = wins := by
  cases wins with
  | eq => exact absurd rfl hwins
  | lt => exact compare_lt_trans_of_plain ha hb hc hab hbc
  | gt =>
    rw [compare_eq_iff_swap] at hab hbc ⊢
    exact compare_lt_trans_of_plain hc hb ha hbc hab

end Value

namespace Aggregator

/-! ## The value to be found -/

/-- No value of the list beats this one, where `wins` is the outcome of a value that beats
another. -/
def unbeaten (wins : Ordering) (vs : List Value) (w : Value) : Bool :=
  vs.all fun v => Value.compare v w != wins

/-- The first value of a list that no value of it beats. -/
def firstUnbeaten? (wins : Ordering) (vs : List Value) : Option Value :=
  vs.find? (unbeaten wins vs)

/-- The champion after one more value. -/
def challenge (wins : Ordering) (champion w : Value) : Value :=
  if Value.compare w champion = wins then w else champion

section Pass

variable {wins : Ordering} {seen vs : List Value} {champion w : Value}

theorem unbeaten_iff : unbeaten wins vs w = true ↔ ∀ v ∈ vs, Value.compare v w ≠ wins := by
  simp [unbeaten]

theorem not_unbeaten_of_mem {v : Value} (hv : v ∈ vs) (h : Value.compare v w = wins) :
    ¬unbeaten wins vs w = true := by
  rw [unbeaten_iff]
  exact fun hall => hall v hv h

theorem firstUnbeaten?_of_split {before after : List Value} (hsplit : vs = before ++ w :: after)
    (hw : unbeaten wins vs w = true) (hbefore : ∀ v ∈ before, ¬unbeaten wins vs v = true) :
    firstUnbeaten? wins vs = some w :=
  List.find?_eq_some_iff_append.mpr
    ⟨hw, before, after, hsplit, fun v hv => by simpa using hbefore v hv⟩

theorem best_cons (v : Value) : best wins (v :: vs) = vs.foldl (challenge wins) v := rfl

/-! ## One pass over the values -/

/-- The value stands in the list, no value of the list beats it, and if others stand before it,
then it beats a value that none of them beats. -/
def Prevails (wins : Ordering) (vs : List Value) (w : Value) : Prop :=
  ∃ before after, vs = before ++ w :: after ∧ unbeaten wins vs w = true ∧
    (before = [] ∨ ∃ beaten ∈ vs, Value.compare w beaten = wins ∧
      ∀ v ∈ before, Value.compare v beaten ≠ wins)

/-- What beats another value of the list beats all that this one beats. -/
def Transitive (wins : Ordering) (vs : List Value) : Prop :=
  ∀ a ∈ vs, ∀ b ∈ vs, ∀ c ∈ vs, Value.compare a b = wins → Value.compare b c = wins →
    Value.compare a c = wins

theorem prevails_singleton (hwins : wins ≠ .eq) (v : Value) : Prevails wins [v] v := by
  refine ⟨[], [], rfl, unbeaten_iff.mpr (List.forall_mem_singleton.mpr ?_), .inl rfl⟩
  rw [Value.compare_self]
  exact hwins.symm

/-- One more value: a new champion beats the old one, which none of the others beats. -/
theorem Prevails.challenge (h : Prevails wins seen champion) (hwins : wins ≠ .eq)
    (htrans : Transitive wins (seen ++ [w])) :
    Prevails wins (seen ++ [w]) (challenge wins champion w) := by
  obtain ⟨before, after, hseen, hunbeaten, hbefore⟩ := h
  have hchampion : champion ∈ seen := by simp [hseen]
  rw [unbeaten_iff] at hunbeaten
  by_cases hbeats : Value.compare w champion = wins
  · rw [Aggregator.challenge, if_pos hbeats]
    refine ⟨seen, [], rfl, unbeaten_iff.mpr ?_, .inr ⟨champion, ?_, hbeats, hunbeaten⟩⟩
    · intro v hv
      rcases List.mem_append.mp hv with hold | hnew
      · intro hvw
        exact hunbeaten v hold (htrans v hv w (by simp) champion (by simp [hchampion]) hvw hbeats)
      · rw [List.mem_singleton.mp hnew, Value.compare_self]
        exact hwins.symm
    · exact List.mem_append_left _ hchampion
  · rw [Aggregator.challenge, if_neg hbeats]
    refine ⟨before, after ++ [w], by simp [hseen], unbeaten_iff.mpr ?_, ?_⟩
    · intro v hv
      rcases List.mem_append.mp hv with hold | hnew
      · exact hunbeaten v hold
      · rw [List.mem_singleton.mp hnew]
        exact hbeats
    · rcases hbefore with hnil | ⟨beaten, hmem, hbeaten, hall⟩
      · exact .inl hnil
      · exact .inr ⟨beaten, List.mem_append_left _ hmem, hbeaten, hall⟩

theorem Prevails.foldl (h : Prevails wins seen champion) (hwins : wins ≠ .eq)
    (htrans : Transitive wins (seen ++ vs)) :
    Prevails wins (seen ++ vs) (vs.foldl (Aggregator.challenge wins) champion) := by
  induction vs generalizing seen champion with
  | nil => simpa using h
  | cons w vs ih =>
    rw [List.append_cons] at htrans ⊢
    refine ih (h.challenge hwins ?_) htrans
    intro a ha b hb c hc
    exact htrans a (List.mem_append_left _ ha) b (List.mem_append_left _ hb) c
      (List.mem_append_left _ hc)

theorem best_prevails (hwins : wins ≠ .eq) (hvs : vs ≠ []) (htrans : Transitive wins vs) :
    Prevails wins vs (best wins vs) := by
  cases vs with
  | nil => exact absurd rfl hvs
  | cons v vs =>
    rw [best_cons]
    exact (prevails_singleton hwins v).foldl hwins htrans

/-! ## Values whose integers are kept apart -/

theorem firstUnbeaten?_of_injOn {S : Set Int64} (hS : S.InjOn Value.rounded)
    (hwins : wins ≠ .eq) (hvs : vs ≠ []) (hints : ∀ v ∈ vs, v.IntsIn S) :
    firstUnbeaten? wins vs = some (best wins vs) := by
  have htrans : Transitive wins vs := fun a ha b hb c hc =>
    Value.compare_trans_of_injOn hS hwins (hints a ha) (hints b hb) (hints c hc)
  obtain ⟨before, after, hsplit, hunbeaten, hbefore⟩ := best_prevails hwins hvs htrans
  have hmem : best wins vs ∈ before ++ best wins vs :: after := by simp
  rw [← hsplit] at hmem
  refine firstUnbeaten?_of_split hsplit hunbeaten fun v hv => ?_
  have hold : v ∈ before ++ best wins vs :: after := by simp [hv]
  rw [← hsplit] at hold
  rcases hbefore with rfl | ⟨beaten, hbeaten, hbeats, hall⟩
  · cases hv
  · -- what the champion does not beat would stand between it and the value it beats
    refine not_unbeaten_of_mem hmem ?_
    by_contra hnot
    exact Value.compare_ne_trans hS hwins (hints _ hmem) (hints v hold) (hints beaten hbeaten)
      hnot (hall v hv) hbeats

/-! ## Values without lists -/

theorem transitive_of_plain (hwins : wins ≠ .eq) (hplain : ∀ v ∈ vs, v.list? = none) :
    Transitive wins vs := fun a ha b hb c hc =>
  Value.compare_trans_of_plain hwins (hplain a ha) (hplain b hb) (hplain c hc)

/-- The value is an integer, and its double stands before it in the list. -/
def BehindDouble (vs : List Value) (w : Value) : Prop :=
  ∃ i before after, w = .int i ∧ vs = before ++ .float (Value.rounded i) :: after ∧
    .int i ∉ before

/-- Among values without lists, the first unbeaten one is found unless the value found stands
behind its double. -/
theorem firstUnbeaten?_eq_best_iff (hwins : wins ≠ .eq) (hvs : vs ≠ [])
    (hplain : ∀ v ∈ vs, v.list? = none) :
    firstUnbeaten? wins vs = some (best wins vs) ↔ ¬BehindDouble vs (best wins vs) := by
  obtain ⟨before, after, hsplit, hunbeaten, hbefore⟩ :=
    best_prevails hwins hvs (transitive_of_plain hwins hplain)
  generalize best wins vs = w at hsplit hunbeaten hbefore ⊢
  have hw : w ∈ vs := by simp [hsplit]
  constructor
  · rintro hfirst ⟨i, front, back, rfl, hdouble, hfront⟩
    obtain ⟨-, pre, post, hpre, hbeaten⟩ := List.find?_eq_some_iff_append.mp hfirst
    -- what beats the double beats the integer, so the double is unbeaten
    have hnot : .float (Value.rounded i) ∉ pre := by
      intro hmem
      have hfree : unbeaten wins vs (.float (Value.rounded i)) = true := by
        rw [unbeaten_iff]
        intro u hu hbeats
        have hcmp := Value.cmp_widen_of_compare (hplain u hu) rfl hbeats (by cases u <;> rfl)
        exact unbeaten_iff.mp hunbeaten u hu
          (Value.compare_of_cmp_widen hwins (hplain u hu) rfl hcmp)
      simpa [hfree] using hbeaten _ hmem
    rcases List.append_eq_append_iff.mp (hpre.symm.trans hdouble) with
      ⟨rest, hrest, hcons⟩ | ⟨rest, hrest, hcons⟩
    · cases rest with
      | nil => cases hcons
      | cons first rest =>
        cases hcons
        exact hfront (by simp [hrest])
    · cases rest with
      | nil => cases hcons
      | cons first rest =>
        cases hcons
        exact hnot (by simp [hrest])
  · intro hnot
    refine firstUnbeaten?_of_split hsplit hunbeaten fun v hv => ?_
    have hmem : v ∈ vs := by simp [hsplit, hv]
    rcases hbefore with rfl | ⟨beaten, hbeaten, hbeats, hall⟩
    · cases hv
    · -- an unbeaten value here would be equal to the one found
      intro hfree
      have heq : Value.compare v w = .eq := Value.compare_eq_of_unbeaten hwins
        (unbeaten_iff.mp hunbeaten v hmem) (unbeaten_iff.mp hfree w hw)
      rcases Value.of_compare_eq (hplain v hmem) (hplain w hw) heq with
        rfl | ⟨i, rfl, rfl⟩ | ⟨i, rfl, rfl⟩
      · exact hall v hv hbeats
      · have hcmp := Value.cmp_widen_of_compare (hplain _ hw) (hplain _ hbeaten) hbeats rfl
        exact hall _ hv (Value.compare_of_cmp_widen hwins rfl (hplain _ hbeaten) hcmp)
      · obtain ⟨front, back, hfront⟩ := List.append_of_mem hv
        refine hnot ⟨i, front, back ++ .int i :: after, rfl, by simp [hsplit, hfront], ?_⟩
        intro hfound
        exact hall (.int i) (by simp [hfront, hfound]) hbeats

end Pass

/-! ## Where the first unbeaten value is found -/

/-- Two integers of one double with this double between them: the second one takes the place
of the first, though the double is beaten by none of them. -/
theorem best_of_rounded_eq {wins : Ordering} (hwins : wins ≠ .eq) {i j : Int64}
    (h : Value.rounded i = Value.rounded j) (hbeats : Value.compare (.int j) (.int i) = wins) :
    best wins [.int i, .float (Value.rounded i), .int j] = .int j ∧
      firstUnbeaten? wins [.int i, .float (Value.rounded i), .int j] =
        some (.float (Value.rounded i)) := by
  have hleft : Value.compare (.int i) (.float (Value.rounded i)) = .eq := Double.cmp_eq_iff.mpr rfl
  have hright : Value.compare (.float (Value.rounded i)) (.int i) = .eq := Double.cmp_eq_iff.mpr rfl
  have hother : Value.compare (.int j) (.float (Value.rounded i)) = .eq :=
    Double.cmp_eq_iff.mpr h.symm
  have hself := Value.compare_self (.float (Value.rounded i))
  constructor
  · simp [best_cons, challenge, hright, hbeats, hwins.symm]
  · simp [firstUnbeaten?, unbeaten, hleft, hother, hself, hbeats, hwins.symm]

/-- Integers among which the first unbeaten value is always found are kept apart by rounding. -/
theorem injOn_of_best {S : Set Int64} {wins : Ordering} (hwins : wins ≠ .eq)
    (h : ∀ vs, vs ≠ [] → (∀ v ∈ vs, v.IntsIn S) → firstUnbeaten? wins vs = some (best wins vs)) :
    S.InjOn Value.rounded := by
  have hnever : ∀ i ∈ S, ∀ j ∈ S, Value.rounded i = Value.rounded j →
      Value.compare (.int j) (.int i) ≠ wins := by
    intro i hi j hj hrounded hbeats
    obtain ⟨hbest, hfirst⟩ := best_of_rounded_eq hwins hrounded hbeats
    have hfound := h [.int i, .float (Value.rounded i), .int j] (by simp)
      (by simpa [Value.IntsIn] using ⟨hi, hj⟩)
    rw [hbest, hfirst] at hfound
    cases hfound
  intro i hi j hj hrounded
  have hij := hnever i hi j hj hrounded
  have hji := hnever j hj i hi hrounded.symm
  have heq : Value.compare (.int i) (.int j) = .eq := Value.compare_eq_of_unbeaten hwins hji hij
  exact Int64.toInt_inj.mp (Std.compare_eq_iff_eq.mp heq)

/-- The aggregate takes a value for which this is the outcome of a value that beats another. -/
inductive Picks : Aggregator → Ordering → Prop
  | max : Picks .max .gt
  | min : Picks .min .lt

theorem Picks.apply_eq {a : Aggregator} {wins : Ordering} (h : a.Picks wins) (vs : List Value) :
    a.apply vs = .ok (best wins vs) := by
  cases h <;> rfl

theorem Picks.ne_eq {a : Aggregator} {wins : Ordering} (h : a.Picks wins) : wins ≠ .eq := by
  cases h <;> decide

/-- The largest and the smallest of several values are the first ones that no other value
beats, for all values whose integers are taken from some set exactly if rounding keeps the
integers of this set apart, as it does up to `2 ^ 53`. Among values without lists they are
unbeaten in any case, and the first ones unless they stand behind their doubles. -/
theorem extremes_firstUnbeaten_iff {a : Aggregator} {wins : Ordering} (h : a.Picks wins) :
    (∀ S : Set Int64,
      (∀ vs, vs ≠ [] → (∀ v ∈ vs, v.IntsIn S) →
        ∃ w, a.apply vs = .ok w ∧ firstUnbeaten? wins vs = some w) ↔ S.InjOn Value.rounded) ∧
      {i : Int64 | i.toInt.natAbs ≤ 2 ^ 53}.InjOn Value.rounded ∧
      ∀ vs, vs ≠ [] → (∀ v ∈ vs, v.list? = none) →
        ∃ w, a.apply vs = .ok w ∧ w ∈ vs ∧ unbeaten wins vs w = true ∧
          (firstUnbeaten? wins vs = some w ↔ ¬BehindDouble vs w) := by
  refine ⟨fun S => ⟨?_, ?_⟩, Value.rounded_injOn, ?_⟩
  · intro hfound
    refine injOn_of_best h.ne_eq fun vs hvs hints => ?_
    obtain ⟨w, hw, hfirst⟩ := hfound vs hvs hints
    cases (h.apply_eq vs).symm.trans hw
    exact hfirst
  · intro hS vs hvs hints
    exact ⟨best wins vs, h.apply_eq vs, firstUnbeaten?_of_injOn hS h.ne_eq hvs hints⟩
  · intro vs hvs hplain
    obtain ⟨before, after, hsplit, hunbeaten, -⟩ :=
      best_prevails h.ne_eq hvs (transitive_of_plain h.ne_eq hplain)
    have hmem : best wins vs ∈ before ++ best wins vs :: after := by simp
    rw [← hsplit] at hmem
    exact ⟨best wins vs, h.apply_eq vs, hmem, hunbeaten,
      firstUnbeaten?_eq_best_iff h.ne_eq hvs hplain⟩

/-- The largest of lists with small integers and doubles, the first two of which are equal. -/
theorem extremes_of_small :
    ∃ w, Aggregator.max.apply
        [.list [.int 3, .str "x"], .list [.float (Double.ofNat 4)], .list [.int 4]] = .ok w ∧
      firstUnbeaten? .gt
        [.list [.int 3, .str "x"], .list [.float (Double.ofNat 4)], .list [.int 4]] = some w := by
  obtain ⟨hiff, hsmall, -⟩ := extremes_firstUnbeaten_iff Picks.max
  refine (hiff {i : Int64 | i.toInt.natAbs ≤ 2 ^ 53}).mpr hsmall _ (by simp) ?_
  simp [Value.IntsIn, Value.IntsInAll]

/-- Two integers with their common double between them. -/
def neighbours : List Value :=
  [.int 9007199254740992, .float (Double.ofNat 9007199254740992), .int 9007199254740993]

/-- Lists of which each one is greater than the one before it, and the first one greater than
the last. -/
def circle : List Value :=
  [.list [.int 9007199254740993, .int 0],
    .list [.float (Double.ofNat 9007199254740992), .int 1], .list [.int 9007199254740992, .int 2]]

/-- The largest of two neighbours and their double is the second neighbour, and the first
unbeaten value the double. In a circle of lists the last one is taken, and none is unbeaten. -/
theorem largest_not_first :
    Aggregator.max.apply neighbours = .ok (.int 9007199254740993) ∧
      firstUnbeaten? .gt neighbours = some (.float (Double.ofNat 9007199254740992)) ∧
      Aggregator.max.apply circle = .ok (.list [.int 9007199254740992, .int 2]) ∧
      firstUnbeaten? .gt circle = none := by
  have hneighbours : best .gt neighbours = .int 9007199254740993 := by decide +kernel
  have hcircle : best .gt circle = .list [.int 9007199254740992, .int 2] := by decide +kernel
  refine ⟨?_, by decide +kernel, ?_, by decide +kernel⟩
  · rw [Picks.max.apply_eq, hneighbours]
  · rw [Picks.max.apply_eq, hcircle]

end Aggregator

end TableFlow
