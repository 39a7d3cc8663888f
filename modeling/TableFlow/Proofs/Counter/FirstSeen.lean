import Mathlib.Data.Finset.Card
import TableFlow.Proofs.Counter.Entries

/-!
# Values in the order in which they were first seen

A map that is updated for one key after the other lists its keys without their later
occurrences: `Entries.keys_updates` says so for any updates, and `Counter.keys_ofList` for those of
a counter. `Entries.lookup_updates` is what updates of different keys leave, and
`Entries.setAll_nil` what values leave that are set one after the other. `Counter.get_extend` and
`Counter.contains_extend` are what a counter holds after more values; `Counter.entries_ofList` is a
whole counter.
-/

namespace TableFlow

/-! ## Lists without later occurrences -/

namespace FirstSeen

variable {α : Type} [DecidableEq α]

theorem filter_eraseDups (p : α → Bool) (as : List α) :
    as.eraseDups.filter p = (as.filter p).eraseDups := by
  match as with
  | [] => rfl
  | a :: as =>
    have hrest := filter_eraseDups p (as.filter fun b => !b == a)
    have hcomm : (as.filter fun b => !b == a).filter p = (as.filter p).filter fun b => !b == a := by
      simp only [List.filter_filter, Bool.and_comm]
    rw [List.eraseDups_cons, List.filter_cons, List.filter_cons, hrest, hcomm]
    split
    · rw [List.eraseDups_cons]
    · next hfails =>
      -- the dropped value does not stand among those that are kept
      refine congrArg List.eraseDups (List.filter_eq_self.mpr fun b hb => ?_)
      rw [Bool.not_eq_true', beq_eq_false_iff_ne]
      rintro rfl
      exact hfails (List.mem_filter.mp hb).2
termination_by as.length
decreasing_by exact Nat.lt_succ_of_le (List.length_filter_le _ _)

theorem nodup_eraseDups (as : List α) : as.eraseDups.Nodup := by
  match as with
  | [] => exact List.nodup_nil
  | a :: as =>
    rw [List.eraseDups_cons, List.nodup_cons, List.mem_eraseDups]
    refine ⟨fun hmem => ?_, nodup_eraseDups _⟩
    simp at hmem
termination_by as.length
decreasing_by exact Nat.lt_succ_of_le (List.length_filter_le _ _)

theorem eraseDups_sublist (as : List α) : as.eraseDups.Sublist as := by
  match as with
  | [] => exact List.Sublist.slnil
  | a :: as =>
    rw [List.eraseDups_cons]
    exact ((eraseDups_sublist _).trans List.filter_sublist).cons_cons a
termination_by as.length
decreasing_by exact Nat.lt_succ_of_le (List.length_filter_le _ _)

theorem eraseDups_of_nodup {as : List α} (h : as.Nodup) : as.eraseDups = as := by
  induction as with
  | nil => rfl
  | cons a as ih =>
    obtain ⟨hnew, hrest⟩ := List.nodup_cons.mp h
    have hall : (as.filter fun b => !b == a) = as := by
      refine List.filter_eq_self.mpr fun b hb => ?_
      rw [Bool.not_eq_true', beq_eq_false_iff_ne]
      rintro rfl
      exact hnew hb
    rw [List.eraseDups_cons, hall, ih hrest]

/-- What is left stands in the order of the first occurrences. -/
theorem pairwise_idxOf_eraseDups (as : List α) :
    as.eraseDups.Pairwise fun a b => as.idxOf a < as.idxOf b := by
  induction as using List.reverseRecOn with
  | nil => exact List.Pairwise.nil
  | append_singleton as a ih =>
    have hold : ∀ b ∈ as, (as ++ [a]).idxOf b = as.idxOf b := fun b hb =>
      List.idxOf_append_of_mem hb
    have hkept : as.eraseDups.Pairwise fun b c => (as ++ [a]).idxOf b < (as ++ [a]).idxOf c := by
      refine ih.imp_of_mem fun hb hc hlt => ?_
      rw [hold _ (List.mem_eraseDups.mp hb), hold _ (List.mem_eraseDups.mp hc)]
      exact hlt
    by_cases ha : a ∈ as
    · have hsame : (as ++ [a]).eraseDups = as.eraseDups := by
        simp [List.eraseDups_append, List.removeAll, ha]
      rwa [hsame]
    · have hnew : (as ++ [a]).eraseDups = as.eraseDups ++ [a] := by
        simp [List.eraseDups_append, List.removeAll, ha, List.eraseDups_cons]
      rw [hnew]
      refine List.pairwise_append.mpr ⟨hkept, List.pairwise_singleton _ a, fun b hb c hc => ?_⟩
      have hbmem : b ∈ as := List.mem_eraseDups.mp hb
      rw [List.mem_singleton.mp hc, hold b hbmem, List.idxOf_append_of_notMem ha]
      exact Nat.lt_add_right _ (List.idxOf_lt_length_iff.mpr hbmem)

/-- Later occurrences may be dropped from the end of a list first. -/
theorem eraseDups_append_eraseDups (as bs : List α) :
    (as ++ bs.eraseDups).eraseDups = (as ++ bs).eraseDups := by
  rw [List.eraseDups_append, List.eraseDups_append, List.removeAll, filter_eraseDups,
    eraseDups_of_nodup (nodup_eraseDups _), List.removeAll]

/-- Later occurrences may be dropped before the items are mapped. -/
theorem eraseDups_map_eraseDups {β : Type} [DecidableEq β] (f : α → β) (as : List α) :
    (as.eraseDups.map f).eraseDups = (as.map f).eraseDups := by
  match as with
  | [] => rfl
  | a :: as =>
    -- what is mapped to the first item disappears on both sides
    have hrest := eraseDups_map_eraseDups f (as.filter fun b => !f b == f a)
    have hdrop : ∀ bs : List α, (bs.map f).filter (fun y => !y == f a) =
        (bs.filter fun b => !f b == f a).map f := fun _ => List.filter_map
    have hsame : ((as.filter fun b => !b == a).filter fun b => !f b == f a) =
        as.filter fun b => !f b == f a := by
      rw [List.filter_filter]
      refine List.filter_congr fun b _ => ?_
      by_cases hb : b = a <;> simp [hb]
    rw [List.eraseDups_cons, List.map_cons, List.map_cons, List.eraseDups_cons, hdrop,
      filter_eraseDups, hsame, hrest, List.eraseDups_cons, hdrop]
termination_by as.length
decreasing_by exact Nat.lt_succ_of_le (List.length_filter_le _ _)

theorem length_eraseDups (as : List α) : as.eraseDups.length = as.toFinset.card := by
  have hsame : as.eraseDups.toFinset = as.toFinset := by
    ext a
    rw [List.mem_toFinset, List.mem_toFinset, List.mem_eraseDups]
  rw [← hsame, List.toFinset_card_of_nodup (nodup_eraseDups as)]

end FirstSeen

/-! ## Updates of one key after the other -/

namespace Entries

variable {κ α ι : Type} [DecidableEq κ]

/-- Updates put new keys behind those that were there, in the order of their first updates. -/
theorem keys_updates {key : ι → κ} {new : ι → α} {change : ι → α → α} (items : List ι)
    (entries : List (κ × α)) :
    (items.foldl (fun entries i => upsert (key i) (new i) (change i) entries)
        entries).map Prod.fst =
      entries.map Prod.fst ++ ((items.map key).removeAll (entries.map Prod.fst)).eraseDups := by
  induction items generalizing entries with
  | nil =>
    rw [List.foldl_nil, List.map_nil, List.removeAll, List.filter_nil, List.eraseDups_nil,
      List.append_nil]
  | cons i items ih =>
    rw [List.foldl_cons, ih, keys_upsert, List.map_cons]
    generalize entries.map Prod.fst = old
    generalize items.map key = keys
    by_cases hold : key i ∈ old
    · have hskip : (key i :: keys).removeAll old = keys.removeAll old := by
        simp [List.removeAll, hold]
      rw [if_pos hold, List.append_nil, hskip]
    · have htake : (key i :: keys).removeAll old = key i :: keys.removeAll old := by
        simp [List.removeAll, hold]
      have hrest : (keys.removeAll old).filter (fun b => !b == key i) =
          keys.removeAll (old ++ [key i]) := by
        rw [List.removeAll, List.removeAll, List.filter_filter]
        refine List.filter_congr fun b _ => ?_
        by_cases hb : b = key i <;> simp [hb]
      rw [if_neg hold, htake, List.eraseDups_cons, hrest, List.append_assoc, List.singleton_append]

/-- Updates of different keys do not see each other. -/
theorem lookup_updates {keys : List κ} {new : κ → α} {change : κ → α → α} (h : keys.Nodup)
    (entries : List (κ × α)) (k : κ) :
    (keys.foldl (fun entries k => upsert k (new k) (change k) entries) entries).lookup k =
      if k ∈ keys then some ((entries.lookup k).elim (new k) (change k))
      else entries.lookup k := by
  induction keys generalizing entries with
  | nil => rw [List.foldl_nil, if_neg List.not_mem_nil]
  | cons key keys ih =>
    obtain ⟨hfresh, hrest⟩ := List.nodup_cons.mp h
    rw [List.foldl_cons, ih hrest, lookup_upsert]
    by_cases hk : k = key
    · subst hk
      rw [if_neg hfresh, if_pos rfl, if_pos List.mem_cons_self]
    · have hmem : k ∈ key :: keys ↔ k ∈ keys := by simp [hk]
      simp only [if_neg hk, hmem]

/-! ## Values that are set -/

/-- The entries after values have been set for keys, one after the other. -/
def setAll (pairs entries : List (κ × α)) : List (κ × α) :=
  pairs.foldl (fun entries pair => upsert pair.1 pair.2 (fun _ => pair.2) entries) entries

variable {pairs entries : List (κ × α)}

theorem keys_setAll : (setAll pairs []).map Prod.fst = (pairs.map Prod.fst).eraseDups := by
  rw [setAll, keys_updates, List.map_nil, List.removeAll_nil, List.nil_append]

theorem lookup_setAll (k : κ) :
    (setAll pairs entries).lookup k = (pairs.reverse.lookup k).or (entries.lookup k) := by
  induction pairs generalizing entries with
  | nil => rfl
  | cons pair pairs ih =>
    show (setAll pairs (upsert pair.1 pair.2 (fun _ => pair.2) entries)).lookup k = _
    rw [ih, lookup_upsert, List.reverse_cons, List.lookup_append, Option.or_assoc]
    refine congrArg _ ?_
    rw [lookup_cons, List.lookup_nil]
    by_cases hk : k = pair.1
    · rw [if_pos hk, if_pos hk]
      cases entries.lookup pair.1 <;> rfl
    · rw [if_neg hk, if_neg hk, Option.none_or]

theorem mem_of_mem_setAll {entry : κ × α} (h : entry ∈ setAll pairs entries) :
    entry ∈ entries ∨ entry ∈ pairs := by
  induction pairs generalizing entries with
  | nil => exact .inl h
  | cons pair pairs ih =>
    rcases ih h with h | h
    · rcases mem_upsert h with h | rfl | ⟨v, -, rfl⟩
      · exact .inl h
      · exact .inr List.mem_cons_self
      · exact .inr List.mem_cons_self
    · exact .inr (List.mem_cons_of_mem _ h)

/-- Where pairs with the same key have the same value, the lookup of a key finds it. -/
theorem lookup_of_consistent (h : ∀ a ∈ pairs, ∀ b ∈ pairs, a.1 = b.1 → a.2 = b.2) {pair : κ × α}
    (hpair : pair ∈ pairs) : pairs.lookup pair.1 = some pair.2 := by
  obtain ⟨v, hv⟩ := exists_lookup_iff.mpr (List.mem_map_of_mem hpair)
  obtain ⟨front, back, hsplit, -⟩ := List.lookup_eq_some_iff.mp hv
  have hfound : (pair.1, v) ∈ pairs := by
    rw [hsplit]
    exact List.mem_append_cons_self
  have hsame : v = pair.2 := h _ hfound _ hpair rfl
  rw [hv, hsame]

/-- Every key that was set stands where it was set first, with the value that was set last. -/
theorem setAll_nil : (setAll pairs []).map some =
    (pairs.map Prod.fst).eraseDups.map fun k => (pairs.reverse.lookup k).map (k, ·) := by
  have hkeys : ((setAll pairs []).map Prod.fst).Nodup := by
    rw [keys_setAll]
    exact FirstSeen.nodup_eraseDups _
  rw [← keys_setAll, List.map_map]
  refine List.map_congr_left fun entry hentry => ?_
  have hvalue : (setAll pairs []).lookup entry.1 = some entry.2 :=
    (lookup_eq_some_iff hkeys).mpr hentry
  rw [lookup_setAll, List.lookup_nil, Option.or_none] at hvalue
  rw [Function.comp_apply, hvalue, Option.map_some]

/-- Where pairs with the same key have the same value, what is left is a function of the keys. -/
theorem setAll_of_consistent [Inhabited α]
    (h : ∀ a ∈ pairs, ∀ b ∈ pairs, a.1 = b.1 → a.2 = b.2) :
    ∃ f : κ → α, (∀ pair ∈ pairs, f pair.1 = pair.2) ∧
      setAll pairs [] = (pairs.map Prod.fst).eraseDups.map fun k => (k, f k) := by
  have hlookup : ∀ pair ∈ pairs, pairs.reverse.lookup pair.1 = some pair.2 := by
    intro pair hpair
    apply lookup_of_consistent
    · simpa using h
    · simpa using hpair
  refine ⟨fun k => (pairs.reverse.lookup k).getD default, ?_, ?_⟩
  · intro pair hpair
    simp only [hlookup pair hpair, Option.getD_some]
  · apply List.map_injective_iff.mpr (Option.some_injective (κ × α))
    rw [setAll_nil, List.map_map]
    refine List.map_congr_left fun k hk => ?_
    obtain ⟨pair, hpair, rfl⟩ := List.mem_map.mp (List.mem_eraseDups.mp hk)
    simp only [Function.comp_apply, hlookup pair hpair, Option.map_some, Option.getD_some]

end Entries

/-! ## Counters -/

namespace Counter

variable {α : Type} [DecidableEq α]

theorem keys_extend (c : Counter α) (as : List α) :
    (c.extend as).keys = c.keys ++ (as.removeAll c.keys).eraseDups := by
  have hupdates : ∀ c : Counter α, (c.extend as).entries =
      as.foldl (fun entries a => Entries.upsert a 1 (· + 1) entries) c.entries := by
    induction as with
    | nil => exact fun _ => rfl
    | cons a as ih =>
      intro c
      rw [List.foldl_cons, ← addEntry_eq_upsert]
      exact ih (c.add a)
  rw [keys, hupdates, Entries.keys_updates, List.map_id']
  rfl

/-- A counter lists the values of a list in the order in which they were first seen. -/
theorem keys_ofList (as : List α) : (ofList as).keys = as.eraseDups := by
  rw [ofList, keys_extend]
  show [] ++ (as.removeAll []).eraseDups = as.eraseDups
  rw [List.removeAll_nil, List.nil_append]

omit [DecidableEq α] in
theorem size_eq_length_keys (c : Counter α) : c.size = c.keys.length := by
  rw [size, keys, List.length_map]

theorem get_extend (c : Counter α) (as : List α) (a : α) :
    (c.extend as).get a = c.get a + as.count a := by
  rw [get, get, lookup_extend]
  split
  · rw [Option.getD_some]
  · next hmem => rw [List.count_eq_zero_of_not_mem hmem, Nat.add_zero]

theorem get_ofList (as : List α) (a : α) : (ofList as).get a = as.count a := by
  rw [ofList, get_extend]
  exact Nat.zero_add _

/-- A counter without repeated keys is its keys with their counts. -/
theorem entries_eq_map_get {c : Counter α} (h : c.keys.Nodup) :
    c.entries = c.keys.map fun a => (a, c.get a) := by
  rw [keys, List.map_map]
  refine (List.map_id _).symm.trans (List.map_congr_left fun entry hentry => ?_)
  show entry = (entry.1, c.get entry.1)
  rw [get, (Entries.lookup_eq_some_iff h).mpr hentry, Option.getD_some]

/-- A counter in full. -/
theorem entries_ofList (as : List α) :
    (ofList as).entries = as.eraseDups.map fun a => (a, as.count a) := by
  have hnodup : (ofList as).keys.Nodup := by
    rw [keys_ofList]
    exact FirstSeen.nodup_eraseDups as
  rw [entries_eq_map_get hnodup, keys_ofList]
  simp only [get_ofList]

/-- Counts of different values that are added one after the other. -/
theorem foldl_addN {ι : Type} {key : ι → α} {n : ι → Nat} {items : List ι}
    (h : (items.map key).Nodup) :
    items.foldl (fun c i => c.addN (key i) (n i)) empty = ⟨items.map fun i => (key i, n i)⟩ := by
  have hfold : ∀ c : Counter α, (∀ i ∈ items, key i ∉ c.keys) →
      items.foldl (fun c i => c.addN (key i) (n i)) c =
        ⟨c.entries ++ items.map fun i => (key i, n i)⟩ := by
    induction items with
    | nil =>
      intro c _
      rw [List.foldl_nil, List.map_nil, List.append_nil]
    | cons i items ih =>
      intro c hfresh
      obtain ⟨hi, hitems⟩ := List.nodup_cons.mp h
      obtain ⟨hnew, hrest⟩ := List.forall_mem_cons.mp hfresh
      have hadd : c.addN (key i) (n i) = ⟨c.entries ++ [(key i, n i)]⟩ := by
        rw [addN, addEntry_eq_upsert, Entries.upsert_of_not_mem hnew]
      rw [List.foldl_cons, hadd, ih hitems, List.map_cons, List.append_assoc,
        List.singleton_append]
      intro j hj
      show key j ∉ (c.entries ++ [(key i, n i)]).map Prod.fst
      rw [List.map_append, List.mem_append, not_or]
      refine ⟨hrest j hj, fun hsame => ?_⟩
      rw [List.map_singleton, List.mem_singleton] at hsame
      exact hi (List.mem_map.mpr ⟨j, hj, hsame⟩)
  exact hfold empty fun i _ => List.not_mem_nil

theorem contains_extend (c : Counter α) (as : List α) (a : α) :
    (c.extend as).contains a = true ↔ c.contains a = true ∨ a ∈ as := by
  rw [contains, contains, lookup_extend]
  split <;> simp_all

end Counter

end TableFlow
