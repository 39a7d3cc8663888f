import TableFlow.Proofs.Grouping.Projection
import TableFlow.Proofs.Grouping.Refusal

/-!
# Histories of additions

Groups are added one by one, some additions are refused, and the calls go on. What is there in
the end depends on the calls alone.

* `Addition` is a call, and `performAll` performs calls one after the other;
* `Violation.Holds` says that groups and counts come from the same additions, and
  `Violation.Holds.extended` that one more addition keeps it;
* `Violation.Holds.exists_performAll` follows a whole history, and `Grouping.Holds.get_eq`,
  `Grouping.Holds.items_eq` and `Grouping.Holds.values_eq` say what is read after it;
* `additions_consistent` puts it together.
-/

namespace TableFlow

/-! ## Calls -/

/-- A call that adds a group: its key, its rows, and counts of its values if they are known. -/
structure Addition where
  key : Value
  rows : List Nat
  counts : Option (Counter Value)

namespace Addition

def group (a : Addition) : Value × List Nat := (a.key, a.rows)

def counted (a : Addition) : Option (Value × Counter Value) := a.counts.map fun c => (a.key, c)

/-- All rows lie in the table. -/
def fits (t : Table) (a : Addition) : Bool := a.rows.all fun pos => decide (pos < t.size)

def sameKey (a b : Addition) : Bool := decide (a.key = b.key)

/-- The key is not among those that are taken, and all rows lie in the table. -/
def admitted (t : Table) (taken : List Value) (a : Addition) : Bool :=
  !decide (a.key ∈ taken) && a.fits t

/-- The calls that succeed while some keys are taken: of those that could succeed by themselves,
the first one under each key. -/
def accepted (t : Table) (taken : List Value) (calls : List Addition) : List Addition :=
  (calls.filter (admitted t taken)).eraseDupsBy sameKey

variable {t : Table} {taken : List Value} {a : Addition} {calls : List Addition}

theorem fits_iff : a.fits t = true ↔ ∀ pos ∈ a.rows, pos < t.size := by
  simp only [fits, List.all_eq_true, decide_eq_true_iff]

theorem admitted_iff : a.admitted t taken = true ↔ a.key ∉ taken ∧ a.fits t = true := by
  rw [admitted, Bool.and_eq_true, Bool.not_eq_true', decide_eq_false_iff_not]

theorem accepted_nil : accepted t [] calls = (calls.filter (fits t)).eraseDupsBy sameKey := by
  have hall : admitted t [] = fits t := by
    funext a
    rw [admitted, decide_eq_false List.not_mem_nil, Bool.not_false, Bool.true_and]
  rw [accepted, hall]

theorem accepted_cons_of_refused (h : ¬a.admitted t taken = true) :
    accepted t taken (a :: calls) = accepted t taken calls := by
  rw [accepted, List.filter_cons_of_neg h, accepted]

/-- A call that succeeds takes its key away from those behind it. -/
theorem accepted_cons (h : a.admitted t taken = true) :
    accepted t taken (a :: calls) = a :: accepted t (taken ++ [a.key]) calls := by
  have hrest : (fun b => decide (sameKey b a = false) && admitted t taken b) =
      admitted t (taken ++ [a.key]) := by
    funext b
    rw [Bool.eq_iff_iff, Bool.and_eq_true, admitted_iff, admitted_iff, List.mem_append,
      List.mem_singleton, not_or, and_right_comm, and_comm, decide_eq_true_iff, sameKey,
      decide_eq_false_iff_not]
  rw [accepted, List.filter_cons_of_pos h, List.eraseDupsBy_cons, List.filter_filter, hrest,
    accepted]

end Addition

def Grouping.perform (g : Grouping) (a : Addition) : Result Unit × Grouping :=
  g.insert a.key a.rows

def Violation.perform (v : Violation) (a : Addition) : Result Unit × Violation :=
  v.insert a.key a.rows a.counts

section Histories

variable {σ : Type} (perform : σ → Addition → Result Unit × σ)

/-- Performs calls one after the other, whether or not the ones before were refused: the calls
that succeed, and the state that is left behind. -/
def performAll (s : σ) : List Addition → List Addition × σ
  | [] => ([], s)
  | a :: calls =>
    let (outcome, s) := perform s a
    let (done, s) := performAll s calls
    match outcome with
    | .ok () => (a :: done, s)
    | .error _ => (done, s)

variable {perform} {s next : σ} {a : Addition} {calls : List Addition}

theorem performAll_cons_of_ok (h : perform s a = (.ok (), next)) :
    performAll perform s (a :: calls) =
      (a :: (performAll perform next calls).1, (performAll perform next calls).2) := by
  rw [performAll, h]

theorem performAll_cons_of_error {e : Error} (h : perform s a = (.error e, next)) :
    performAll perform s (a :: calls) = performAll perform next calls := by
  rw [performAll, h]

/-- A change in place that leaves the state as it was if it fails. -/
def inPlace (s : σ) : Result σ → Result Unit × σ
  | .ok next => (.ok (), next)
  | .error e => (.error e, s)

end Histories

/-! ## What is kept -/

/-- The groups are those of some additions, under different keys and inside the table. -/
structure Grouping.Holds (g : Grouping) (done : List Addition) : Prop where
  groups : g.groups = done.map Addition.group
  keys_nodup : (done.map Addition.key).Nodup
  fits : ∀ a ∈ done, a.fits g.table = true

/-- Groups and counts are those of the same additions. -/
structure Violation.Holds (v : Violation) (done : List Addition) : Prop
    extends v.grouping.Holds done where
  counts : v.counts = done.filterMap Addition.counted

namespace Grouping.Holds

variable {g : Grouping} {done : List Addition} {a : Addition}

theorem keys (h : g.Holds done) : g.keys = done.map Addition.key := by
  rw [Grouping.keys, h.groups, List.map_map]
  rfl

theorem nodup (h : g.Holds done) : g.keys.Nodup := h.keys ▸ h.keys_nodup

theorem lt_size (h : g.Holds done) {group : Value × List Nat} (hgroup : group ∈ g.groups) :
    ∀ pos ∈ group.2, pos < g.table.size := by
  rw [h.groups] at hgroup
  obtain ⟨a, ha, rfl⟩ := List.mem_map.mp hgroup
  exact Addition.fits_iff.mp (h.fits a ha)

theorem extended (h : g.Holds done) (hnew : g.refusal? a.key a.rows = none) :
    (g.extended a.key a.rows).Holds (done ++ [a]) := by
  obtain ⟨hfresh, hrange⟩ := refusal?_eq_none_iff.mp hnew
  rw [h.keys] at hfresh
  constructor
  · rw [Grouping.extended, h.groups, List.map_append, List.map_singleton, Addition.group]
  · rw [List.map_append, List.map_singleton]
    exact h.keys_nodup.append (List.nodup_singleton _) (List.disjoint_singleton.mpr hfresh)
  · intro b hb
    rcases List.mem_append.mp hb with hb | hb
    · exact h.fits b hb
    · rw [List.mem_singleton.mp hb]
      exact Addition.fits_iff.mpr hrange

end Grouping.Holds

namespace Violation

variable {v : Violation} {done : List Addition} {a : Addition}

namespace Holds

theorem key_of_mem_counts (h : v.Holds done) {key : Value} {c : Counter Value}
    (hmem : (key, c) ∈ v.counts) : ∃ a ∈ done, a.key = key ∧ a.counts = some c := by
  rw [h.counts] at hmem
  obtain ⟨a, ha, hcounted⟩ := List.mem_filterMap.mp hmem
  obtain ⟨c', hc', heq⟩ := Option.map_eq_some_iff.mp hcounted
  obtain ⟨rfl, rfl⟩ := Prod.mk.inj heq
  exact ⟨a, ha, rfl, hc'⟩

/-- The keys of the counts are among those of the groups, in their order. -/
theorem counts_sublist (h : v.Holds done) :
    (v.counts.map Prod.fst).Sublist v.grouping.keys := by
  rw [h.counts, h.keys]
  clear h
  induction done with
  | nil => exact List.Sublist.refl []
  | cons a done ih =>
    rw [List.map_cons]
    cases hcounted : a.counted with
    | none =>
      rw [List.filterMap_cons_none hcounted]
      exact ih.cons _
    | some entry =>
      obtain ⟨c, -, rfl⟩ := Option.map_eq_some_iff.mp hcounted
      rw [List.filterMap_cons_some hcounted, List.map_cons]
      exact ih.cons_cons _

/-- The counts of a group are those that were passed with it. -/
theorem counts?_eq_some_iff (h : v.Holds done) {key : Value} {c : Counter Value} :
    v.counts? key = some c ↔ ∃ a ∈ done, a.key = key ∧ a.counts = some c := by
  rw [counts?, Entries.lookup_eq_some_iff (h.nodup.sublist h.counts_sublist)]
  refine ⟨h.key_of_mem_counts, ?_⟩
  rintro ⟨a, ha, rfl, hc⟩
  rw [h.counts]
  exact List.mem_filterMap.mpr ⟨a, ha, by rw [Addition.counted, hc, Option.map_some]⟩

theorem extended (h : v.Holds done) (hnew : v.grouping.refusal? a.key a.rows = none) :
    (v.extended a.key a.rows a.counts).Holds (done ++ [a]) := by
  refine ⟨h.toHolds.extended hnew, ?_⟩
  rw [Violation.extended, h.counts, List.filterMap_append, List.filterMap_cons, List.filterMap_nil,
    Addition.counted]
  cases a.counts <;> rfl

/-- A call is refused and changes nothing, or puts a group and its counts behind the others. -/
theorem perform_eq (h : v.Holds done) : v.perform a =
    (v.grouping.refusal? a.key a.rows).elim (.ok (), v.extended a.key a.rows a.counts) fun e =>
      (.error e, v) :=
  insert_eq h.counts_sublist.subset

end Holds

end Violation

/-! ## Histories -/

/-- Of the calls of a history, those under a new key with all rows in the table succeed. A
violation and its grouping take the same ones. -/
theorem Violation.Holds.exists_performAll {v : Violation} {done : List Addition} (h : v.Holds done)
    (calls : List Addition) :
    let new := Addition.accepted v.grouping.table v.grouping.keys calls
    ∃ next, performAll Violation.perform v calls = (new, next) ∧
      performAll Grouping.perform v.grouping calls = (new, next.grouping) ∧
      next.grouping.table = v.grouping.table ∧ next.Holds (done ++ new) := by
  induction calls generalizing v done with
  | nil =>
    refine ⟨v, rfl, rfl, rfl, ?_⟩
    rw [Addition.accepted, List.filter_nil, List.eraseDupsBy_nil, List.append_nil]
    exact h
  | cons a calls ih =>
    have hcall := h.perform_eq (a := a)
    have hgroup : v.grouping.perform a = _ := Grouping.insert_eq
    have hadmitted : a.admitted v.grouping.table v.grouping.keys = true ↔
        v.grouping.refusal? a.key a.rows = none := by
      rw [Addition.admitted_iff, Addition.fits_iff, Grouping.refusal?_eq_none_iff]
    cases hrefusal : v.grouping.refusal? a.key a.rows with
    | some e =>
      rw [hrefusal, Option.elim_some] at hcall hgroup
      have hrefused : ¬a.admitted v.grouping.table v.grouping.keys = true := by
        rw [hadmitted, hrefusal]
        exact Option.some_ne_none e
      rw [performAll_cons_of_error hcall, performAll_cons_of_error hgroup,
        Addition.accepted_cons_of_refused hrefused]
      exact ih h
    | none =>
      rw [hrefusal, Option.elim_none] at hcall hgroup
      obtain ⟨next, hviolation, hgrouping, htable, hnext⟩ := ih (h.extended hrefusal)
      have hkeys : (v.extended a.key a.rows a.counts).grouping.keys = v.grouping.keys ++ [a.key] :=
        List.map_append
      rw [hkeys] at hviolation hgrouping hnext
      rw [performAll_cons_of_ok hcall, performAll_cons_of_ok hgroup,
        Addition.accepted_cons (hadmitted.mpr hrefusal)]
      refine ⟨next, ?_, ?_, htable, ?_⟩
      · exact congrArg (fun r => (a :: r.1, r.2)) hviolation
      · exact congrArg (fun r => (a :: r.1, r.2)) hgrouping
      · rw [List.append_cons]
        exact hnext

/-! ## Reading -/

namespace Grouping.Holds

variable {g : Grouping} {done : List Addition}

theorem lt_size_of_rows? (h : g.Holds done) {key : Value} {rows : List Nat}
    (hrows : g.rows? key = some rows) : ∀ pos ∈ rows, pos < g.table.size :=
  h.lt_size ((Entries.lookup_eq_some_iff h.nodup).mp hrows)

theorem get_eq (h : g.Holds done) (key : Value) :
    g.get key = .ok ((g.rows? key).map g.table.part) := by
  rw [get]
  cases hrows : g.rows? key with
  | none => rfl
  | some rows =>
    simp only [Table.take_eq (h.lt_size_of_rows? hrows)]
    rfl

theorem items_eq (h : g.Holds done) :
    g.items = .ok (g.groups.map fun group => (group.1, g.table.part group.2)) := by
  refine Result.mapM_eq_ok fun group hgroup => ?_
  simp only [Table.take_eq (h.lt_size hgroup)]
  rfl

theorem values_eq (h : g.Holds done) (key : Value) (columns : List ColumnRef) :
    g.values key columns = (g.table.schema.resolveAll columns).map fun positions =>
      (g.rows? key).map fun rows => Counter.ofList (rows.map (g.table.keyAt positions)) := by
  cases hresolve : g.table.schema.resolveAll columns with
  | error e =>
    rw [values, hresolve]
    rfl
  | ok positions =>
    cases hrows : g.rows? key with
    | none =>
      rw [values, hresolve]
      simp only [hrows]
      rfl
    | some rows => exact Grouping.values_eq hresolve hrows (h.lt_size_of_rows? hrows)

end Grouping.Holds

/-- After any calls, groups and counts are those of the calls that succeeded, which are the first
ones under each key among those whose rows lie in the table. So the keys differ and stand in the
order of these calls, all positions lie in the table, and the counts of a group are those that
came with it. The next call adds the same as `add` does, or it is refused for its key or one of
its rows and changes nothing. Groups can always be read, and their values unless a column is not
there. All this holds of a violation and of a grouping with the same calls. -/
theorem additions_consistent (t : Table) (lhs rhs : List ColumnRef) (calls : List Addition) :
    ∃ done v, performAll Violation.perform (Violation.empty t lhs rhs) calls = (done, v) ∧
      performAll Grouping.perform (Grouping.empty t) calls = (done, v.grouping) ∧
      done = (calls.filter (Addition.fits t)).eraseDupsBy Addition.sameKey ∧
      v.grouping.table = t ∧ v.grouping.groups = done.map Addition.group ∧
      v.grouping.keys = done.map Addition.key ∧ v.grouping.keys.Nodup ∧
      (∀ group ∈ v.grouping.groups, ∀ pos ∈ group.2, pos < t.size) ∧
      (v.counts.map Prod.fst).Sublist v.grouping.keys ∧
      (∀ key c, v.counts? key = some c ↔ ∃ a ∈ done, a.key = key ∧ a.counts = some c) ∧
      (∀ a : Addition, v.perform a = inPlace v (v.add a.key a.rows a.counts) ∧
        v.grouping.perform a = inPlace v.grouping (v.grouping.add a.key a.rows)) ∧
      (∀ (a : Addition) (e : Error), (v.perform a).1 = .error e →
        v.perform a = (.error e, v) ∧ v.grouping.perform a = (.error e, v.grouping) ∧
        (a.key ∈ v.grouping.keys ∧ e = .duplicateKey a.key ∨
          a.key ∉ v.grouping.keys ∧ ∃ pos ∈ a.rows, t.size ≤ pos ∧
            e = .construction (.rowPosition pos t.size))) ∧
      (∀ key, v.grouping.get key = .ok ((v.grouping.rows? key).map t.part)) ∧
      v.grouping.items = .ok (v.grouping.groups.map fun group => (group.1, t.part group.2)) ∧
      ∀ key columns, v.grouping.values key columns =
        (t.schema.resolveAll columns).map fun positions => (v.grouping.rows? key).map fun rows =>
          Counter.ofList (rows.map (t.keyAt positions)) := by
  have hempty : (Violation.empty t lhs rhs).Holds [] := ⟨⟨rfl, List.nodup_nil, nofun⟩, rfl⟩
  obtain ⟨v, hviolation, hgrouping, htable, hv⟩ := hempty.exists_performAll calls
  rw [List.nil_append] at hv
  change v.grouping.table = t at htable
  subst htable
  refine ⟨_, v, hviolation, hgrouping, Addition.accepted_nil, rfl, hv.groups, hv.keys, hv.nodup,
    fun _ hgroup => hv.lt_size hgroup, hv.counts_sublist, fun _ _ => hv.counts?_eq_some_iff,
    fun a => ⟨?_, ?_⟩, fun a e herror => ?_, hv.get_eq, hv.items_eq, hv.values_eq⟩
  · rw [hv.perform_eq, Violation.add_eq]
    cases v.grouping.refusal? a.key a.rows <;> rfl
  · rw [Grouping.perform, Grouping.insert_eq, Grouping.add_eq]
    cases v.grouping.refusal? a.key a.rows <;> rfl
  · rw [hv.perform_eq] at herror ⊢
    rw [Grouping.perform, Grouping.insert_eq]
    cases hrefusal : v.grouping.refusal? a.key a.rows with
    | none =>
      rw [hrefusal] at herror
      cases herror
    | some reason =>
      rw [hrefusal] at herror
      obtain rfl := Except.error.inj herror
      exact ⟨rfl, rfl, Grouping.refusal?_eq_some hrefusal⟩

/-- Of four calls the second one has a key that is taken, and the third one a row that is not
there. -/
example :
    (performAll Grouping.perform (Grouping.empty Table.fruits)
      [⟨.str "left", [0, 1], none⟩, ⟨.str "left", [2], none⟩, ⟨.null, [2, 1, 3], none⟩,
        ⟨.null, [2, 2], none⟩]).2.groups = [(.str "left", [0, 1]), (.null, [2, 2])] := rfl

end TableFlow
