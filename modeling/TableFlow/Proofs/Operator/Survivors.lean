import TableFlow.Proofs.Operator.Passage
import TableFlow.Proofs.Operator.Staging

/-!
# Survivors in front of a limit

A row that goes through stages without a limit does so or not whatever rows went before it.
Behind such stages a limit takes the rows that come out, and ends the run with the one that
fills it.

* `survivors` are the rows that come out of stages for items, each item by itself;
* `NthSurvivor` says at which of the items the last of the first few rows comes out;
* `Chain.passage_before_limit` is the run while the limit is not reached, and
  `Chain.passage_to_limit` the run up to the row that fills it: nothing behind the item of
  this row is taken.
-/

namespace TableFlow

/-! ## Rows that survive -/

/-- The rows that come out of stages for items, if all of the items are rows and no stage
fails on one of them. -/
def survivors (stages : List Stage) : List Item → Result (List Entry)
  | [] => .ok []
  | .error e :: _ => .error e
  | .ok entry :: items =>
    match (pushStages entry.2 stages).row with
    | .error e => .error e
    | .ok none => survivors stages items
    | .ok (some row) => (survivors stages items).map ((entry.1, row) :: ·)

/-- Among the items, `n` rows have come out as soon as `k` of them have been taken, and these
are the rows. -/
structure NthSurvivor (stages : List Stage) (items : List Item) (n k : Nat)
    (rows : List Entry) : Prop where
  le_length : k ≤ items.length
  rows_eq : survivors stages (items.take k) = .ok rows
  count : rows.length = n
  first : ∀ j < k, ∀ fewer, survivors stages (items.take j) = .ok fewer → fewer.length < n

theorem survivors_append_eq_ok_iff {stages : List Stage} {xs ys : List Item}
    {rows : List Entry} :
    survivors stages (xs ++ ys) = .ok rows ↔ ∃ before after, survivors stages xs = .ok before ∧
      survivors stages ys = .ok after ∧ rows = before ++ after := by
  fun_induction survivors stages xs generalizing rows with
  | case1 => simp [eq_comm]
  | case2 e items => simp [survivors]
  | case3 entry items e hrow => simp [survivors, hrow]
  | case4 entry items hrow ih => simp only [List.cons_append, survivors, hrow, ih]
  | case5 entry items row hrow ih =>
    simp only [List.cons_append, survivors, hrow, Result.map_eq_ok_iff, ih]
    constructor
    · rintro ⟨_, ⟨before, after, hbefore, hafter, rfl⟩, rfl⟩
      exact ⟨_, after, ⟨before, hbefore, rfl⟩, hafter, rfl⟩
    · rintro ⟨_, after, ⟨before, hbefore, rfl⟩, hafter, rfl⟩
      exact ⟨_, ⟨before, after, hbefore, hafter, rfl⟩, rfl⟩

/-- The rows that survive have the width of the last stage. -/
theorem survivors_width {stages : List Stage} {items : List Item} {rows : List Entry}
    {width out : Nat} (hcarry : StagesCarry width stages out)
    (hitems : ∀ item ∈ items, item.Fits width) (hrows : survivors stages items = .ok rows) :
    ∀ entry ∈ rows, entry.2.length = out := by
  fun_induction survivors stages items generalizing rows with
  | case1 =>
    cases hrows
    simp
  | case2 e items => cases hrows
  | case3 entry items e hrow => cases hrows
  | case4 entry items hrow ih => exact ih (List.forall_mem_cons.mp hitems).2 hrows
  | case5 entry items row hrow ih =>
    obtain ⟨hfirst, hrest⟩ := List.forall_mem_cons.mp hitems
    obtain ⟨more, hmore, rfl⟩ := Result.map_eq_ok_iff.mp hrows
    exact List.forall_mem_cons.mpr
      ⟨(pushStages_width hcarry (hfirst entry rfl)).2 row hrow, ih hrest hmore⟩

/-- The last of the items that are taken is the row that comes out last. -/
theorem NthSurvivor.exists_last {stages : List Stage} {items : List Item} {n k : Nat}
    {rows : List Entry} (h : NthSurvivor stages items n (k + 1) rows) :
    ∃ before entry row, items.take (k + 1) = items.take k ++ [.ok entry] ∧
      survivors stages (items.take k) = .ok before ∧ before.length + 1 = n ∧
      (pushStages entry.2 stages).row = .ok (some row) ∧
      rows = before ++ [(entry.1, row)] := by
  obtain ⟨hle, hrows, hcount, hfirst⟩ := h
  have hsplit : items.take (k + 1) = items.take k ++ [items[k]] := List.take_succ_eq_append_getElem hle
  rw [hsplit] at hrows ⊢
  obtain ⟨before, last, hbefore, hlast, rfl⟩ := survivors_append_eq_ok_iff.mp hrows
  have hfewer : before.length < n := hfirst k (Nat.lt_succ_self k) before hbefore
  cases hitem : items[k] with
  | error e =>
    rw [hitem] at hlast
    cases hlast
  | ok entry =>
    rw [hitem] at hlast
    simp only [survivors] at hlast
    cases hrow : (pushStages entry.2 stages).row with
    | error e =>
      rw [hrow] at hlast
      cases hlast
    | ok out =>
      rw [hrow] at hlast
      cases out with
      | none =>
        -- an item that gives no row would not be needed
        cases hlast
        simp only [List.append_nil] at hcount
        omega
      | some row =>
        cases hlast
        simp only [List.length_append, List.length_singleton] at hcount
        exact ⟨before, entry, row, rfl, hbefore, hcount, hrow, rfl⟩

namespace Chain

/-! ## A limit behind other stages -/

/-- The chain counts rows up to a limit, and has counted some. -/
structure Counts (c : Chain) (limit count : Nat) : Prop where
  stages_eq : c.stages = [.limit limit count]
  reached_of_stopped : c.stopped = true → limit ≤ count

theorem Counts.isExhausted_iff {c : Chain} {limit count : Nat} (h : c.Counts limit count) :
    c.isExhausted = true ↔ limit ≤ count := by
  have hreached := h.reached_of_stopped
  simp only [isExhausted, h.stages_eq, List.any_cons, List.any_nil, Stage.isExhausted,
    Bool.or_false, Bool.or_eq_true, decide_eq_true_eq]
  tauto

/-- A row that is counted comes out, and the limit is reached with the last one. -/
theorem Counts.push {c : Chain} {limit count : Nat} (h : c.Counts limit count)
    (hmore : count < limit) (row : Row) :
    (c.push row).1 = .ok (some row) ∧ (c.push row).2.Counts limit (count + 1) ∧
      (c.push row).2.stats.emitted = c.stats.emitted + 1 := by
  have hopen : c.stopped = false := by
    by_contra hstopped
    have hreached := h.reached_of_stopped (by simpa using hstopped)
    omega
  have hnext : Stage.next (.limit limit count) = .limit limit (count + 1) := by
    simp [Stage.next, Nat.not_le.mpr hmore]
  by_cases hlast : count + 1 = limit
  · have hflow : Stage.flow row (.limit limit count) = .ok (.emitLast row) := by
      simp [Stage.flow, Nat.not_le.mpr hmore, hlast]
    simp only [Chain.push, h.stages_eq, pushStages, hflow, hnext]
    exact ⟨trivial, ⟨rfl, fun _ => Nat.le_of_eq hlast.symm⟩, trivial⟩
  · have hflow : Stage.flow row (.limit limit count) = .ok (.emit row) := by
      simp [Stage.flow, Nat.not_le.mpr hmore, hlast]
    simp only [Chain.push, h.stages_eq, pushStages, hflow, hnext]
    exact ⟨trivial, ⟨rfl, fun hstopped => by simp [hopen] at hstopped⟩, trivial⟩

/-! ## Runs -/

/-- Items that were all taken may be followed by others. -/
theorem passage_append {c : Chain} {xs : List Item} (hdone : (c.passage xs).error = none)
    (hall : (c.passage xs).rest = []) (ys : List Item) :
    c.passage (xs ++ ys) =
      let later := (c.passage xs).chain.passage ys
      ⟨(c.passage xs).rows ++ later.rows, later.error, later.chain, later.rest⟩ := by
  fun_induction c.passage xs with
  | case1 c => rfl
  | case2 c item items hend => cases hall
  | case3 c items hopen e => cases hdone
  | case4 c items hopen entry e after hpush => cases hdone
  | case5 c items hopen entry after hpush ih =>
    simpa [passage, hopen, hpush] using ih hdone hall
  | case6 c items hopen entry row after hpush ih =>
    simp only [List.cons_append, passage, hopen, hpush, Bool.false_eq_true, ↓reduceIte]
    rw [ih hdone hall]
    rfl

/-- While the limit is not reached, all items are taken and all rows that survive come
out. -/
theorem passage_before_limit {a b : Chain} {limit count : Nat} {items : List Item}
    {rows : List Entry} (ha : a.Unlimited) (hb : b.Counts limit count)
    (hrows : survivors a.stages items = .ok rows) (hmore : count + rows.length < limit) :
    ∃ a' b' : Chain, (a.followedBy b).passage items = ⟨rows, none, a'.followedBy b', []⟩ ∧
      a'.Unlimited ∧ a'.stages = a.stages ∧ a'.stats.read = a.stats.read + items.length ∧
      b'.Counts limit (count + rows.length) ∧
      b'.stats.emitted = b.stats.emitted + rows.length := by
  -- the stages in front never change, and the limit counts what comes out of them
  induction items generalizing a b count rows with
  | nil =>
    cases hrows
    exact ⟨a, b, rfl, ha, rfl, rfl, hb, rfl⟩
  | cons item items ih =>
    have hopen : ¬(a.followedBy b).isExhausted = true := by
      rw [isExhausted_followedBy, ha.isExhausted, Bool.false_or, hb.isExhausted_iff]
      omega
    cases item with
    | error e => cases hrows
    | ok entry =>
      have hstages := ha.stages_push entry.2
      have hread := a.push_read entry.2
      simp only [survivors] at hrows
      rcases hpush : a.push entry.2 with ⟨outcome, after⟩
      have houtcome : outcome = (pushStages entry.2 a.stages).row := (congrArg Prod.fst hpush).symm
      have hlater : after.Unlimited := by simpa [hpush] using ha.push entry.2
      rw [hpush] at hstages hread
      rw [← houtcome] at hrows
      cases outcome with
      | error e => cases hrows
      | ok out =>
        cases out with
        | none =>
          obtain ⟨a', b', hpassage, ha', hstages', hread', hb', hemitted⟩ :=
            ih hlater hb (by rw [hstages]; exact hrows) hmore
          refine ⟨a', b', ?_, ha', hstages'.trans hstages, ?_, hb', hemitted⟩
          · simp only [passage, hopen, push_followedBy, hpush, Bool.false_eq_true, ↓reduceIte]
            exact hpassage
          · simp only [List.length_cons] at hread ⊢
            omega
        | some row =>
          obtain ⟨more, hmoreRows, rfl⟩ := Result.map_eq_ok_iff.mp hrows
          simp only [List.length_cons] at hmore ⊢
          obtain ⟨hout, hcounts, hcounted⟩ := hb.push (by omega) row
          obtain ⟨a', b', hpassage, ha', hstages', hread', hb', hemitted⟩ :=
            ih hlater hcounts (by rw [hstages]; exact hmoreRows) (by omega)
          refine ⟨a', b', ?_, ha', hstages'.trans hstages, ?_, ?_, ?_⟩
          · simp only [passage, hopen, push_followedBy, hpush, hout, Bool.false_eq_true,
              ↓reduceIte, hpassage]
            rfl
          · simp only at hread
            omega
          · rwa [Nat.add_right_comm, Nat.add_assoc] at hb'
          · omega

/-- The run ends with the row that fills the limit, and takes none of the items behind
that row. -/
theorem passage_to_limit {a b : Chain} {n k : Nat} {items : List Item}
    {rows : List Entry} (ha : a.Unlimited) (hb : b.Counts n 0)
    (hnth : NthSurvivor a.stages items n k rows) (tail : List Item) :
    ∃ last, (a.followedBy b).passage (items.take k ++ tail) = ⟨rows, none, last, tail⟩ ∧
      last.stats = ⟨a.stats.read + k, b.stats.emitted + n⟩ := by
  cases k with
  | zero =>
    -- a limit of no rows is reached before there is any
    have hrows : rows = [] := by
      have hnone := hnth.rows_eq
      cases hnone
      rfl
    have hlimit : n = 0 := by rw [← hnth.count, hrows, List.length_nil]
    have hend : (a.followedBy b).isExhausted = true := by
      rw [isExhausted_followedBy, hb.isExhausted_iff.mpr (by omega), Bool.or_true]
    refine ⟨a.followedBy b, ?_, by rw [hlimit]; rfl⟩
    rw [List.take_zero, List.nil_append, passage_of_isExhausted hend, hrows]
  | succ k =>
    obtain ⟨before, entry, row, htake, hbefore, hcount, hrow, rfl⟩ := hnth.exists_last
    have hk : (items.take k).length = k := List.length_take_of_le (by have := hnth.le_length; omega)
    obtain ⟨a', b', hpassage, ha', hstages, hread, hb', hemitted⟩ :=
      passage_before_limit ha hb hbefore (by omega)
    have hopen : ¬(a'.followedBy b').isExhausted = true := by
      rw [isExhausted_followedBy, ha'.isExhausted, Bool.false_or, hb'.isExhausted_iff]
      omega
    obtain ⟨hout, hcounts, hcounted⟩ := hb'.push (by omega) row
    have hfront : a'.push entry.2 = (.ok (some row), (a'.push entry.2).2) :=
      Prod.ext (by rw [← hrow, ← hstages]; rfl) rfl
    -- the row that fills the limit leaves a chain that takes nothing more
    have hend : ((a'.push entry.2).2.followedBy (b'.push row).2).isExhausted = true := by
      rw [isExhausted_followedBy, hcounts.isExhausted_iff.mpr (by omega), Bool.or_true]
    have hlast : (a'.followedBy b').passage (.ok entry :: tail) =
        ⟨[(entry.1, row)], none, (a'.push entry.2).2.followedBy (b'.push row).2, tail⟩ := by
      simp only [passage, hopen, push_followedBy, Bool.false_eq_true, ↓reduceIte]
      rw [hfront]
      simp only [hout, passage_of_isExhausted hend]
      rfl
    refine ⟨(a'.push entry.2).2.followedBy (b'.push row).2, ?_, ?_⟩
    · rw [htake, List.append_assoc, List.singleton_append,
        passage_append (by rw [hpassage]) (by rw [hpassage]), hpassage]
      simp only [hlast]
    · have hreadLast := a'.push_read entry.2
      have hstats : ((a'.push entry.2).2.followedBy (b'.push row).2).stats =
          ⟨(a'.push entry.2).2.stats.read, (b'.push row).2.stats.emitted⟩ := rfl
      rw [hstats, hreadLast, hcounted, hread, hemitted, hk]
      congr 1
      omega

end Chain

end TableFlow
