import TableFlow.Counter

/-!
# Rankings

Entries are ranked by falling count, and equal counts keep their order. `Ranks` says so without
sorting, `Ranks.unique` that there is only one such ranking, and `Counter.ranks_ranked` that it is
the one of a counter.
-/

namespace TableFlow

variable {α : Type}

/-- The second list holds the entries of the first one by falling count, and those with the same
count in their old order. -/
structure Ranks (entries ranking : List (α × Nat)) : Prop where
  perm : ranking.Perm entries
  falling : ranking.Pairwise fun a b => b.2 ≤ a.2
  ties : ∀ n, ranking.filter (·.2 == n) = entries.filter (·.2 == n)

namespace Ranks

theorem mem_iff_of_counts {as bs : List (α × Nat)}
    (h : ∀ n, as.filter (·.2 == n) = bs.filter (·.2 == n)) (entry : α × Nat) :
    entry ∈ as ↔ entry ∈ bs := by
  have hiff : ∀ cs : List (α × Nat), entry ∈ cs.filter (·.2 == entry.2) ↔ entry ∈ cs := by simp
  rw [← hiff as, h entry.2, hiff bs]

/-- The first entry of a list of falling counts has the greatest count. -/
theorem le_of_falling {a entry : α × Nat} {as : List (α × Nat)}
    (h : (a :: as).Pairwise fun a b => b.2 ≤ a.2) (hentry : entry ∈ a :: as) :
    entry.2 ≤ a.2 := by
  rcases List.mem_cons.mp hentry with rfl | hentry
  · exact Nat.le_refl _
  · exact (List.pairwise_cons.mp h).1 entry hentry

/-- Lists of falling counts are the same if they have the same entries with each count. -/
theorem eq_of_falling {as bs : List (α × Nat)} (ha : as.Pairwise fun a b => b.2 ≤ a.2)
    (hb : bs.Pairwise fun a b => b.2 ≤ a.2)
    (h : ∀ n, as.filter (·.2 == n) = bs.filter (·.2 == n)) : as = bs := by
  have hmem := mem_iff_of_counts h
  induction as generalizing bs with
  | nil =>
    symm
    rw [List.eq_nil_iff_forall_not_mem]
    intro entry hentry
    exact List.not_mem_nil ((hmem entry).mpr hentry)
  | cons a as ih =>
    cases bs with
    | nil => exact absurd ((hmem a).mp List.mem_cons_self) List.not_mem_nil
    | cons b bs =>
      -- both lists begin with the greatest count, and so with the same entry
      have hle : b.2 ≤ a.2 := le_of_falling ha ((hmem b).mpr List.mem_cons_self)
      have hge : a.2 ≤ b.2 := le_of_falling hb ((hmem a).mp List.mem_cons_self)
      have hfirst := h a.2
      rw [List.filter_cons_of_pos (by simp), List.filter_cons_of_pos (by simp; omega)] at hfirst
      obtain ⟨rfl, -⟩ := List.cons.inj hfirst
      have hrest : ∀ n, as.filter (·.2 == n) = bs.filter (·.2 == n) := by
        intro n
        have hn := h n
        rw [List.filter_cons, List.filter_cons] at hn
        split at hn
        · exact (List.cons.inj hn).2
        · exact hn
      rw [ih ha.of_cons hb.of_cons hrest (mem_iff_of_counts hrest)]

theorem unique {entries as bs : List (α × Nat)} (ha : Ranks entries as)
    (hb : Ranks entries bs) : as = bs :=
  eq_of_falling ha.falling hb.falling fun n => (ha.ties n).trans (hb.ties n).symm

/-- Of two entries of the ranking, the first one has the greater count, or it stood before the other
one with the same count. -/
theorem pairwise {entries ranking : List (α × Nat)} (h : Ranks entries ranking) :
    ranking.Pairwise fun a b => b.2 < a.2 ∨ a.2 = b.2 ∧ [a, b].Sublist entries := by
  refine List.pairwise_iff_forall_sublist.mpr fun {a b} hab => ?_
  have hle : b.2 ≤ a.2 := List.pairwise_iff_forall_sublist.mp h.falling hab
  rcases Nat.lt_or_eq_of_le hle with hlt | heq
  · exact .inl hlt
  · refine .inr ⟨heq.symm, ?_⟩
    have hboth : [a, b].filter (·.2 == a.2) = [a, b] := by simp [heq]
    have hsame := hab.filter (·.2 == a.2)
    rw [hboth, h.ties a.2] at hsame
    exact hsame.trans List.filter_sublist

end Ranks

theorem Counter.ranks_ranked (c : Counter α) : Ranks c.entries c.ranked := by
  have htrans : ∀ a b d : α × Nat, decide (b.2 ≤ a.2) = true → decide (d.2 ≤ b.2) = true →
      decide (d.2 ≤ a.2) = true := by
    simp only [decide_eq_true_eq]
    omega
  have htotal : ∀ a b : α × Nat, (decide (b.2 ≤ a.2) || decide (a.2 ≤ b.2)) = true := by
    simp only [Bool.or_eq_true, decide_eq_true_eq]
    omega
  have hperm : c.ranked.Perm c.entries := List.mergeSort_perm _ _
  refine ⟨hperm, ?_, fun n => ?_⟩
  · have hsorted := List.pairwise_mergeSort htrans htotal c.entries
    exact hsorted.imp of_decide_eq_true
  · -- entries with one count are in order, so that sorting leaves them as they are
    have hcounts : (c.entries.filter (·.2 == n)).Pairwise fun a b => decide (b.2 ≤ a.2) = true := by
      refine List.pairwise_filter.mpr (List.pairwise_of_forall fun a b ha hb => ?_)
      rw [beq_iff_eq] at ha hb
      rw [decide_eq_true_eq, ha]
      exact Nat.le_of_eq hb
    have hsub : (c.entries.filter (·.2 == n)).Sublist c.ranked :=
      List.sublist_mergeSort htrans htotal hcounts List.filter_sublist
    have hfiltered := hsub.filter (·.2 == n)
    rw [List.filter_filter] at hfiltered
    simp only [Bool.and_self] at hfiltered
    exact (hfiltered.eq_of_length (hperm.filter _).length_eq.symm).symm

end TableFlow
