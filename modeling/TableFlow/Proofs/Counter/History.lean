import Mathlib.Algebra.GroupWithZero.Nat
import TableFlow.Proofs.Counter.FirstSeen
import TableFlow.Proofs.Counter.Ranking

/-!
# Histories of a counter

A counter is filled by calls that add a value once, several times or not at all, or many values at
once. All of them add amounts, one after the other (`Counter.foldl_perform`), and what the counter
says in the end depends on these amounts alone. `Counter.Records` is what it says: the sum for each
value, the values in the order in which they were first added, and the ranking with each of its
beginnings. `Counter.records_history` is about any calls.
-/

namespace TableFlow.Counter

variable {α : Type}

/-- A call that adds to a counter. -/
inductive Call (α : Type) where
  | add (a : α)
  | addN (a : α) (n : Nat)
  | extend (as : List α)

/-- What a call adds: values and how many times, in order. A value that is added no times counts as
added too. -/
def Call.amounts : Call α → List (α × Nat)
  | .add a => [(a, 1)]
  | .addN a n => [(a, n)]
  | .extend as => as.map (·, 1)

variable [DecidableEq α]

def perform (c : Counter α) : Call α → Counter α
  | .add a => c.add a
  | .addN a n => c.addN a n
  | .extend as => c.extend as

/-- The amounts for a value together. -/
def sumFor (a : α) (amounts : List (α × Nat)) : Nat :=
  ((amounts.filter (·.1 = a)).map Prod.snd).sum

/-! ## Amounts one after the other -/

/-- The counter with amounts added to it, one after the other. -/
def addAll (c : Counter α) (amounts : List (α × Nat)) : Counter α :=
  amounts.foldl (fun c amount => c.addN amount.1 amount.2) c

theorem extend_eq_addAll (c : Counter α) (as : List α) :
    c.extend as = c.addAll (as.map (·, 1)) := by
  rw [addAll, List.foldl_map]
  rfl

theorem perform_eq_addAll (c : Counter α) (call : Call α) :
    c.perform call = c.addAll call.amounts := by
  cases call with
  | add a => rfl
  | addN a n => rfl
  | extend as => exact c.extend_eq_addAll as

theorem foldl_perform (c : Counter α) (calls : List (Call α)) :
    calls.foldl perform c = c.addAll (calls.flatMap Call.amounts) := by
  rw [addAll, List.foldl_flatMap]
  exact List.foldl_ext _ _ c fun c call _ => c.perform_eq_addAll call

variable (c : Counter α) (amounts : List (α × Nat))

theorem get_addN (a b : α) (n : Nat) : (c.addN a n).get b = c.get b + if a = b then n else 0 := by
  rw [get, get, addN, addEntry_eq_upsert, Entries.lookup_upsert]
  by_cases hab : a = b
  · subst hab
    rw [if_pos rfl, if_pos rfl]
    cases c.entries.lookup a with
    | none => exact (Nat.zero_add n).symm
    | some m => rfl
  · rw [if_neg (Ne.symm hab), if_neg hab, Nat.add_zero]

theorem get_addAll (a : α) : (c.addAll amounts).get a = c.get a + sumFor a amounts := by
  induction amounts generalizing c with
  | nil => rfl
  | cons amount amounts ih =>
    show ((c.addN amount.1 amount.2).addAll amounts).get a = _
    rw [ih, get_addN, sumFor, sumFor, List.filter_cons]
    split <;> simp_all [Nat.add_assoc]

theorem total_addAll : (c.addAll amounts).total = c.total + (amounts.map Prod.snd).sum := by
  induction amounts generalizing c with
  | nil => rfl
  | cons amount amounts ih =>
    show ((c.addN amount.1 amount.2).addAll amounts).total = _
    rw [ih, total_addN, List.map_cons, List.sum_cons, Nat.add_assoc]

theorem keys_addAll_empty : (empty.addAll amounts).keys = (amounts.map Prod.fst).eraseDups := by
  have hentries : ∀ c : Counter α, (c.addAll amounts).entries =
      amounts.foldl (fun entries amount =>
        Entries.upsert amount.1 amount.2 (· + amount.2) entries) c.entries := by
    induction amounts with
    | nil => exact fun _ => rfl
    | cons amount amounts ih =>
      intro c
      rw [List.foldl_cons, ← addEntry_eq_upsert]
      exact ih (c.addN amount.1 amount.2)
  rw [keys, hentries, Entries.keys_updates]
  exact congrArg List.eraseDups List.removeAll_nil

/-! ## What a counter says -/

/-- The counter says what was added to it. -/
structure Records (c : Counter α) (amounts : List (α × Nat)) : Prop where
  get : ∀ a, c.get a = sumFor a amounts
  total : c.total = (amounts.map Prod.snd).sum
  size : c.size = c.keys.length
  keys_nodup : c.keys.Nodup
  mem_keys : ∀ a, a ∈ c.keys ↔ a ∈ amounts.map Prod.fst
  keys_order : c.keys.Pairwise fun a b =>
    (amounts.map Prod.fst).idxOf a < (amounts.map Prod.fst).idxOf b
  /-- The first entries of one ranking are listed, however many are asked for. -/
  ranking : ∃ ranking, Ranks (c.keys.map fun a => (a, c.get a)) ranking ∧
    ∀ n, c.mostCommon n = ranking.take n
  /-- What is left out has a smaller count, or the same one and was first added later. -/
  left_out : ∀ n, ∀ listed ∈ c.mostCommon n, ∀ a ∈ c.keys, (a, c.get a) ∉ c.mostCommon n →
    c.get a < listed.2 ∨ c.get a = listed.2 ∧
      (amounts.map Prod.fst).idxOf listed.1 < (amounts.map Prod.fst).idxOf a

theorem records_addAll_empty : (empty.addAll amounts).Records amounts := by
  have hkeys := keys_addAll_empty amounts
  have hget := fun a => (get_addAll empty amounts a).trans (Nat.zero_add _)
  have htotal := (total_addAll empty amounts).trans (Nat.zero_add _)
  generalize empty.addAll amounts = c at hkeys hget htotal
  have hnodup : c.keys.Nodup := by
    rw [hkeys]
    exact FirstSeen.nodup_eraseDups _
  have horder : c.keys.Pairwise fun a b =>
      (amounts.map Prod.fst).idxOf a < (amounts.map Prod.fst).idxOf b := by
    rw [hkeys]
    exact FirstSeen.pairwise_idxOf_eraseDups _
  have hranks : Ranks (c.keys.map fun a => (a, c.get a)) c.ranked := by
    rw [← entries_eq_map_get hnodup]
    exact c.ranks_ranked
  refine ⟨hget, htotal, c.size_eq_length_keys, hnodup, fun a => ?_, horder,
    ⟨c.ranked, hranks, fun n => rfl⟩, fun n listed hlisted a ha hout => ?_⟩
  · rw [hkeys, List.mem_eraseDups]
  · -- the entry that is left out stands behind the listed one in the ranking
    have hranked : (a, c.get a) ∈ c.ranked.take n ++ c.ranked.drop n := by
      rw [List.take_append_drop]
      exact hranks.perm.mem_iff.mpr (List.mem_map_of_mem ha)
    have hbehind : (a, c.get a) ∈ c.ranked.drop n :=
      (List.mem_append.mp hranked).resolve_left hout
    have hpairs := hranks.pairwise
    rw [← List.take_append_drop n c.ranked] at hpairs
    rcases (List.pairwise_append.mp hpairs).2.2 listed hlisted _ hbehind with hlt | ⟨hsame, hsub⟩
    · exact .inl hlt
    · have hfirst : (c.keys.map fun a => (a, c.get a)).map Prod.fst = c.keys := by
        rw [List.map_map]
        exact List.map_id c.keys
      have hkeysub : [listed.1, a].Sublist c.keys := by
        rw [← hfirst]
        exact hsub.map Prod.fst
      exact .inr ⟨hsame.symm, List.pairwise_iff_forall_sublist.mp horder hkeysub⟩

/-- After any calls, on an empty counter or on one with values collected before, the counter says
what was added, from the first value on. -/
theorem records_history (collected : List α) (calls : List (Call α)) :
    (calls.foldl perform (ofList collected)).Records
      (collected.map (·, 1) ++ calls.flatMap Call.amounts) := by
  have hrun : calls.foldl perform (ofList collected) =
      empty.addAll (collected.map (·, 1) ++ calls.flatMap Call.amounts) := by
    rw [foldl_perform, ofList, extend_eq_addAll, addAll, addAll, addAll, List.foldl_append]
  rw [hrun]
  exact records_addAll_empty _

/-- A value that is added no times has its place among equals from then on. -/
example : ([.addN "x" 0, .extend ["y", "z", "y"], .addN "x" 2, .add "w"].foldl perform
    (ofList ["v"])).mostCommon 3 = [("x", 2), ("y", 2), ("v", 1)] := by
  cbv

end TableFlow.Counter
