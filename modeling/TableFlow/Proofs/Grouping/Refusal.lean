import TableFlow.Grouping.Violation
import TableFlow.Proofs.Counter.Entries

/-!
# Adding one group

A group is refused if its key is taken or one of its rows does not lie in the table. Otherwise it
stands behind the others.

* `Grouping.refusal?` is the reason, and `Grouping.refusal?_eq_none_iff` and
  `Grouping.refusal?_eq_some` say when there is one;
* `Grouping.add_eq` and `Grouping.insert_eq` are all that the calls on a grouping can do, and
  `Violation.add_eq` and `Violation.insert_eq` those on a violation.
-/

namespace TableFlow

namespace Grouping

variable {g : Grouping} {key : Value} {rows : List Nat}

theorem put_of_fresh {α : Type} {new : α} {entries : List (Value × α)}
    (h : key ∉ entries.map Prod.fst) : put key new entries = entries ++ [(key, new)] := by
  induction entries with
  | nil => rfl
  | cons entry rest ih =>
    obtain ⟨k, old⟩ := entry
    have hne : k ≠ key := fun hk => h (hk ▸ List.mem_cons_self)
    rw [put, if_neg hne, ih fun hmem => h (List.mem_cons_of_mem k hmem), List.cons_append]

theorem contains_iff : g.contains key = true ↔ key ∈ g.keys := by
  rw [contains, rows?, Option.isSome_iff_exists, keys, Entries.exists_lookup_iff]

/-- Why a group is refused, if it is: its key is taken, or one of its rows does not lie in the
table. -/
def refusal? (g : Grouping) (key : Value) (rows : List Nat) : Option Error :=
  if key ∈ g.keys then some (.duplicateKey key)
  else
    (rows.find? fun pos => g.table.size ≤ pos).map fun pos =>
      .construction (.rowPosition pos g.table.size)

theorem refusal?_eq_none_iff :
    g.refusal? key rows = none ↔ key ∉ g.keys ∧ ∀ pos ∈ rows, pos < g.table.size := by
  rw [refusal?]
  split
  · next htaken => exact iff_of_false (Option.some_ne_none _) fun h => h.1 htaken
  · next hfresh =>
    rw [Option.map_eq_none_iff, List.find?_eq_none, and_iff_right hfresh]
    simp only [decide_eq_true_iff, Nat.not_le]

theorem refusal?_eq_some {e : Error} (h : g.refusal? key rows = some e) :
    key ∈ g.keys ∧ e = .duplicateKey key ∨
      key ∉ g.keys ∧ ∃ pos ∈ rows, g.table.size ≤ pos ∧
        e = .construction (.rowPosition pos g.table.size) := by
  rw [refusal?] at h
  split at h
  · next htaken => exact .inl ⟨htaken, (Option.some.inj h).symm⟩
  · next hfresh =>
    obtain ⟨pos, hfind, rfl⟩ := Option.map_eq_some_iff.mp h
    have hout := List.find?_some hfind
    rw [decide_eq_true_iff] at hout
    exact .inr ⟨hfresh, pos, List.mem_of_find?_eq_some hfind, hout, rfl⟩

/-- The grouping with one more group. -/
def extended (g : Grouping) (key : Value) (rows : List Nat) : Grouping :=
  ⟨g.table, g.groups ++ [(key, rows)]⟩

theorem add_eq :
    g.add key rows = (g.refusal? key rows).elim (.ok (g.extended key rows)) .error := by
  rw [add, refusal?]
  simp only [contains_iff]
  split
  · rfl
  · cases rows.find? fun pos => decide (g.table.size ≤ pos) <;> rfl

theorem add_of_fresh (hfresh : key ∉ g.keys) (hrange : ∀ pos ∈ rows, pos < g.table.size) :
    g.add key rows = .ok (g.extended key rows) := by
  rw [add_eq, refusal?_eq_none_iff.mpr ⟨hfresh, hrange⟩, Option.elim_none]

/-- In place, a group that is refused changes nothing. -/
theorem insert_eq : g.insert key rows =
    (g.refusal? key rows).elim (.ok (), g.extended key rows) fun e => (.error e, g) := by
  rw [insert, refusal?]
  simp only [contains_iff]
  split
  · rfl
  · next hfresh =>
    cases rows.find? fun pos => decide (g.table.size ≤ pos) with
    | some pos => rfl
    | none =>
      simp only [put_of_fresh hfresh]
      rfl

end Grouping

namespace Violation

variable {v : Violation} {key : Value} {rows : List Nat} {counts : Option (Counter Value)}

/-- The violation with one more group and its counts. -/
def extended (v : Violation) (key : Value) (rows : List Nat) (counts : Option (Counter Value)) :
    Violation :=
  { v with
    grouping := v.grouping.extended key rows
    counts := v.counts ++ (counts.map fun c => (key, c)).toList }

theorem add_eq : v.add key rows counts =
    (v.grouping.refusal? key rows).elim (.ok (v.extended key rows counts)) .error := by
  unfold add
  rw [Grouping.add_eq]
  cases v.grouping.refusal? key rows with
  | some e => rfl
  | none =>
    rw [extended]
    cases counts with
    | none =>
      rw [Option.map_none, Option.toList_none, List.append_nil]
      rfl
    | some c => rfl

theorem add_of_fresh (hfresh : key ∉ v.grouping.keys)
    (hrange : ∀ pos ∈ rows, pos < v.grouping.table.size) :
    v.add key rows counts = .ok (v.extended key rows counts) := by
  rw [add_eq, Grouping.refusal?_eq_none_iff.mpr ⟨hfresh, hrange⟩, Option.elim_none]

/-- In place, a group that is refused changes neither the groups nor the counts. A new group has
no counts that would be replaced, as long as counts stand under keys of groups only. -/
theorem insert_eq (hkeys : v.counts.map Prod.fst ⊆ v.grouping.keys) : v.insert key rows counts =
    (v.grouping.refusal? key rows).elim (.ok (), v.extended key rows counts) fun e =>
      (.error e, v) := by
  unfold insert
  rw [Grouping.insert_eq]
  cases hrefusal : v.grouping.refusal? key rows with
  | some e =>
    rcases Grouping.refusal?_eq_some hrefusal with ⟨htaken, rfl⟩ | ⟨hfresh, -⟩
    · rw [if_pos (Grouping.contains_iff.mpr htaken)]
      rfl
    · rw [if_neg (Grouping.contains_iff.not.mpr hfresh)]
      rfl
  | none =>
    have hfresh := (Grouping.refusal?_eq_none_iff.mp hrefusal).1
    rw [if_neg (Grouping.contains_iff.not.mpr hfresh), extended]
    cases counts with
    | none =>
      rw [Option.map_none, Option.toList_none, List.append_nil]
      rfl
    | some c =>
      simp only [Option.elim_none, Grouping.put_of_fresh fun hmem => hfresh (hkeys hmem)]
      rfl

end Violation

end TableFlow
