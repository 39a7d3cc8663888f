import Mathlib.Data.List.Nodup
import TableFlow.Counter

/-!
# Entries that are updated by key

Counters, groups of rows and other maps are lists of keys and values in which an update changes
the value of a key or puts a new key at the end. `Entries.upsert` is such an update, and
`Entries.keys_upsert` and `Entries.lookup_upsert` say what it does to keys and to values.
`Counter.lookup_ofList` is what a counter holds in the end, and `Counter.total_ofList` how much that
is together.
-/

namespace TableFlow

namespace Entries

variable {κ α β : Type} [DecidableEq κ] {entries : List (κ × α)} {key : κ} {new : α}
  {change : α → α}

/-- Changes the value of a key, or adds the key at the end. -/
def upsert (key : κ) (new : α) (change : α → α) : List (κ × α) → List (κ × α)
  | [] => [(key, new)]
  | (k, v) :: rest => if k = key then (k, change v) :: rest else (k, v) :: upsert key new change rest

/-- An update leaves the keys as they are, but for a new one behind them. -/
theorem keys_upsert : (upsert key new change entries).map Prod.fst =
    entries.map Prod.fst ++ if key ∈ entries.map Prod.fst then [] else [key] := by
  induction entries with
  | nil => rfl
  | cons entry rest ih =>
    obtain ⟨k, v⟩ := entry
    rw [upsert]
    split
    · next hkey => simp [hkey]
    · next hkey =>
      have hmem : key ∈ k :: rest.map Prod.fst ↔ key ∈ rest.map Prod.fst := by
        simp [Ne.symm hkey]
      simp only [List.map_cons, ih, List.cons_append, hmem]

/-- An update of a new key puts it at the end. -/
theorem upsert_of_not_mem (h : key ∉ entries.map Prod.fst) :
    upsert key new change entries = entries ++ [(key, new)] := by
  induction entries with
  | nil => rfl
  | cons entry rest ih =>
    obtain ⟨k, v⟩ := entry
    rw [List.map_cons, List.mem_cons, not_or] at h
    rw [upsert, if_neg (Ne.symm h.1), ih h.2, List.cons_append]

theorem nodup_keys_upsert (h : (entries.map Prod.fst).Nodup) :
    ((upsert key new change entries).map Prod.fst).Nodup := by
  rw [keys_upsert]
  split
  · rwa [List.append_nil]
  · next hkey => exact h.append (List.nodup_singleton key) (List.disjoint_singleton.mpr hkey)

theorem lookup_cons {k other : κ} {v : α} :
    ((other, v) :: entries).lookup k = if k = other then some v else entries.lookup k := by
  rw [List.lookup_cons]
  by_cases hk : k = other
  · rw [if_pos hk, beq_iff_eq.mpr hk]
  · rw [if_neg hk, beq_eq_false_iff_ne.mpr hk]

/-- After an update the key has its new value, and the other keys have theirs. -/
theorem lookup_upsert (k : κ) : (upsert key new change entries).lookup k =
    if k = key then some ((entries.lookup key).elim new change) else entries.lookup k := by
  induction entries with
  | nil => rw [upsert, lookup_cons, List.lookup_nil, List.lookup_nil, Option.elim_none]
  | cons entry rest ih =>
    obtain ⟨other, v⟩ := entry
    rw [upsert]
    split
    · next hother =>
      subst hother
      rw [lookup_cons, lookup_cons, lookup_cons, if_pos rfl, Option.elim_some]
      split <;> rfl
    · next hother =>
      rw [lookup_cons, lookup_cons, lookup_cons, ih, if_neg (Ne.symm hother)]
      by_cases hk : k = other
      · have hne : k ≠ key := by rwa [hk]
        rw [if_pos hk, if_pos hk, if_neg hne]
      · rw [if_neg hk, if_neg hk]

/-- An update of what values are mapped to. -/
theorem map_upsert {f : α → β} {change' : β → β} (h : ∀ v, f (change v) = change' (f v)) :
    (upsert key new change entries).map (fun e => (e.1, f e.2)) =
      upsert key (f new) change' (entries.map fun e => (e.1, f e.2)) := by
  induction entries with
  | nil => rfl
  | cons entry rest ih =>
    obtain ⟨k, v⟩ := entry
    rw [upsert, List.map_cons, upsert]
    split
    · rw [List.map_cons, h]
    · rw [List.map_cons, ih]

theorem mem_upsert {e : κ × α} (h : e ∈ upsert key new change entries) :
    e ∈ entries ∨ e = (key, new) ∨ ∃ v, (key, v) ∈ entries ∧ e = (key, change v) := by
  induction entries with
  | nil => exact .inr (.inl (List.mem_singleton.mp h))
  | cons entry rest ih =>
    obtain ⟨k, v⟩ := entry
    rw [upsert] at h
    split at h
    · next hkey =>
      subst hkey
      rcases List.mem_cons.mp h with rfl | h
      · exact .inr (.inr ⟨v, List.mem_cons_self, rfl⟩)
      · exact .inl (List.mem_cons_of_mem _ h)
    · rcases List.mem_cons.mp h with rfl | h
      · exact .inl List.mem_cons_self
      · rcases ih h with h | h | ⟨w, hw, h⟩
        · exact .inl (List.mem_cons_of_mem _ h)
        · exact .inr (.inl h)
        · exact .inr (.inr ⟨w, List.mem_cons_of_mem _ hw, h⟩)

/-- A relation between earlier and later entries stays if the changed entry keeps its relations
to the others and a new one is related to all before it. -/
theorem pairwise_upsert {R : κ × α → κ × α → Prop} (h : entries.Pairwise R)
    (hnew : ∀ e ∈ entries, R e (key, new))
    (hlater : ∀ v, ∀ e ∈ entries, R (key, v) e → R (key, change v) e)
    (hearlier : ∀ v, ∀ e ∈ entries, R e (key, v) → R e (key, change v)) :
    (upsert key new change entries).Pairwise R := by
  induction entries with
  | nil => exact List.pairwise_singleton R _
  | cons entry rest ih =>
    obtain ⟨k, v⟩ := entry
    obtain ⟨hfirst, hrest⟩ := List.pairwise_cons.mp h
    rw [upsert]
    split
    · next hkey =>
      subst hkey
      refine List.pairwise_cons.mpr ⟨fun e he => ?_, hrest⟩
      exact hlater v e (List.mem_cons_of_mem _ he) (hfirst e he)
    · refine List.pairwise_cons.mpr ⟨fun e he => ?_, ih hrest ?_ ?_ ?_⟩
      · rcases mem_upsert he with he | rfl | ⟨w, hw, rfl⟩
        · exact hfirst e he
        · exact hnew _ List.mem_cons_self
        · exact hearlier w _ List.mem_cons_self (hfirst _ hw)
      · exact fun e he => hnew e (List.mem_cons_of_mem _ he)
      · exact fun w e he => hlater w e (List.mem_cons_of_mem _ he)
      · exact fun w e he => hearlier w e (List.mem_cons_of_mem _ he)

theorem lookup_eq_some_iff (h : (entries.map Prod.fst).Nodup) {k : κ} {v : α} :
    entries.lookup k = some v ↔ (k, v) ∈ entries := by
  induction entries with
  | nil => simp
  | cons entry rest ih =>
    obtain ⟨other, w⟩ := entry
    rw [List.map_cons, List.nodup_cons] at h
    rw [lookup_cons, List.mem_cons, ← ih h.2]
    by_cases hk : k = other
    · subst hk
      have hrest : rest.lookup k ≠ some v := by
        intro hlookup
        exact h.1 (List.mem_map.mpr ⟨(k, v), (ih h.2).mp hlookup, rfl⟩)
      simp [hrest, eq_comm]
    · simp [hk]

/-- Exactly the keys have values. -/
theorem exists_lookup_iff {k : κ} :
    (∃ v, entries.lookup k = some v) ↔ k ∈ entries.map Prod.fst := by
  induction entries with
  | nil => simp
  | cons entry rest ih =>
    obtain ⟨other, w⟩ := entry
    rw [lookup_cons, List.map_cons, List.mem_cons, ← ih]
    split
    · next hk => simp [hk]
    · next hk => simp [hk]

/-- Values that are listed under their keys are found there. -/
theorem lookup_filterMap (f : κ → Option α) (keys : List κ) (k : κ) :
    (keys.filterMap fun k => (f k).map (k, ·)).lookup k = if k ∈ keys then f k else none := by
  induction keys with
  | nil => rfl
  | cons first keys ih =>
    cases hfirst : f first with
    | none =>
      rw [List.filterMap_cons_none (by rw [hfirst]; rfl), ih]
      by_cases hk : k = first
      · subst hk
        rw [hfirst, ite_self, ite_self]
      · simp only [List.mem_cons, hk, false_or]
    | some v =>
      rw [List.filterMap_cons_some (by rw [hfirst]; rfl), lookup_cons, ih]
      by_cases hk : k = first
      · subst hk
        rw [if_pos rfl, if_pos List.mem_cons_self, hfirst]
      · simp only [List.mem_cons, hk, false_or, if_false]

end Entries

namespace Counter

variable {α : Type} [DecidableEq α]

theorem addEntry_eq_upsert (a : α) (n : Nat) (entries : List (α × Nat)) :
    addEntry a n entries = Entries.upsert a n (· + n) entries := by
  induction entries with
  | nil => rfl
  | cons entry rest ih =>
    obtain ⟨b, m⟩ := entry
    rw [addEntry, Entries.upsert, ih]

/-- Values that are added one by one count on from what was there. -/
theorem lookup_extend (as : List α) (c : Counter α) (a : α) : (c.extend as).entries.lookup a =
    if a ∈ as then some ((c.entries.lookup a).getD 0 + as.count a) else c.entries.lookup a := by
  induction as generalizing c with
  | nil => simp [extend]
  | cons b as ih =>
    have hstep : (c.add b).entries.lookup a =
        if a = b then some ((c.entries.lookup a).getD 0 + 1) else c.entries.lookup a := by
      rw [add, addN, addEntry_eq_upsert, Entries.lookup_upsert]
      by_cases hab : a = b
      · subst hab
        cases c.entries.lookup a <;> simp
      · rw [if_neg hab, if_neg hab]
    have hfold : c.extend (b :: as) = (c.add b).extend as := rfl
    rw [hfold, ih, hstep]
    by_cases hab : a = b
    · subst hab
      by_cases hmem : a ∈ as
      · simp [hmem]
        omega
      · simp [hmem, List.count_eq_zero_of_not_mem hmem]
    · simp [hab, Ne.symm hab]

/-- A counter has the values of the list, each with the number of times that it is there. -/
theorem lookup_ofList (as : List α) (a : α) :
    (ofList as).entries.lookup a = if a ∈ as then some (as.count a) else none := by
  rw [ofList, lookup_extend]
  simp [empty]

/-- Adding to one count adds as much to the total. -/
theorem total_addN (c : Counter α) (a : α) (n : Nat) : (c.addN a n).total = c.total + n := by
  unfold Counter.addN Counter.total
  simp only
  induction c.entries with
  | nil => simp [addEntry]
  | cons entry rest ih =>
    obtain ⟨b, m⟩ := entry
    rw [addEntry]
    split
    · simp only [List.foldr_cons]
      omega
    · simp only [List.foldr_cons, ih]
      omega

theorem total_extend (c : Counter α) (as : List α) :
    (c.extend as).total = c.total + as.length := by
  induction as generalizing c with
  | nil => rfl
  | cons a as ih =>
    show ((c.addN a 1).extend as).total = _
    rw [ih, total_addN, List.length_cons]
    omega

theorem total_ofList (as : List α) : (ofList as).total = as.length := by
  rw [ofList, total_extend]
  exact Nat.zero_add _

end Counter

end TableFlow
