import TableFlow.Grouping.GroupBy
import TableFlow.Proofs.Counter.Entries
import TableFlow.Proofs.Grouping.Refusal
import TableFlow.Proofs.Result

/-!
# Groups partition the rows

Grouping by a key puts every row of a table into exactly one group.

* `Partition` says what groups of positions are to a list of keys. `Partition.add` is one more
  row, and `Partition.bucketsFrom` the loop over the rows;
* `addBuckets_of_keeps` and `addBuckets_of_error` are the loop that takes over the groups, with
  a `Having` that decides about all of them or fails on one;
* `groupBy_partitions` is the whole call, with all that it says about the table of the groups.
-/

namespace TableFlow

/-- Groups of positions by the keys at these positions: the keys differ and stand in the order
of their first rows, and the positions of each group increase. -/
structure Partition (keys : List Value) (groups : List (Value × List Nat)) : Prop where
  keys_nodup : (groups.map Prod.fst).Nodup
  ordered : groups.Pairwise fun a b => ∃ p ∈ a.2, ∀ q ∈ b.2, p < q
  nonempty : ∀ group ∈ groups, group.2 ≠ []
  increasing : ∀ group ∈ groups, group.2.Pairwise (· < ·)
  mem_iff : ∀ k pos, (∃ rows, groups.lookup k = some rows ∧ pos ∈ rows) ↔ keys[pos]? = some k

theorem addToBucket_eq_upsert (key : Value) (pos : Nat) (groups : List (Value × List Nat)) :
    addToBucket key pos groups = Entries.upsert key [pos] (· ++ [pos]) groups := by
  induction groups with
  | nil => rfl
  | cons group rest ih =>
    obtain ⟨k, rows⟩ := group
    rw [addToBucket, Entries.upsert, ih]

namespace Partition

variable {keys : List Value} {groups : List (Value × List Nat)}

theorem nil : Partition [] [] where
  keys_nodup := List.nodup_nil
  ordered := List.Pairwise.nil
  nonempty _ h := absurd h List.not_mem_nil
  increasing _ h := absurd h List.not_mem_nil
  mem_iff k pos := by simp

theorem getElem?_concat_eq_some_iff {key k : Value} {pos : Nat} :
    (keys ++ [key])[pos]? = some k ↔ keys[pos]? = some k ∨ pos = keys.length ∧ key = k := by
  rcases Nat.lt_trichotomy pos keys.length with hlt | rfl | hgt
  · rw [List.getElem?_append_left hlt]
    simp [Nat.ne_of_lt hlt]
  · simp
  · rw [List.getElem?_eq_none (by simp; omega), List.getElem?_eq_none (by omega)]
    simp [Nat.ne_of_gt hgt]

section

variable (h : Partition keys groups)
include h

theorem key_of_mem {group : Value × List Nat} (hgroup : group ∈ groups) {pos : Nat}
    (hpos : pos ∈ group.2) : keys[pos]? = some group.1 :=
  (h.mem_iff group.1 pos).mp ⟨group.2, (Entries.lookup_eq_some_iff h.keys_nodup).mpr hgroup, hpos⟩

theorem lt_length {group : Value × List Nat} (hgroup : group ∈ groups) {pos : Nat}
    (hpos : pos ∈ group.2) : pos < keys.length :=
  (List.getElem?_eq_some_iff.mp (h.key_of_mem hgroup hpos)).1

/-- Every position is in exactly one group. -/
theorem existsUnique_group {pos : Nat} (hpos : pos < keys.length) :
    ∃! group, group ∈ groups ∧ pos ∈ group.2 := by
  obtain ⟨rows, hlookup, hmem⟩ := (h.mem_iff keys[pos] pos).mpr (List.getElem?_eq_getElem hpos)
  refine ⟨(keys[pos], rows), ⟨(Entries.lookup_eq_some_iff h.keys_nodup).mp hlookup, hmem⟩, ?_⟩
  rintro ⟨k, others⟩ ⟨hgroup, hother⟩
  have hkey := h.key_of_mem hgroup hother
  rw [List.getElem?_eq_getElem hpos] at hkey
  obtain rfl : keys[pos] = k := Option.some.inj hkey
  rw [(Entries.lookup_eq_some_iff h.keys_nodup).mpr hgroup] at hlookup
  rw [Option.some.inj hlookup]

/-- One more row goes to the end of the group of its key, or makes a new group at the end. -/
theorem add (key : Value) :
    Partition (keys ++ [key]) (addToBucket key keys.length groups) := by
  rw [addToBucket_eq_upsert]
  constructor
  case keys_nodup => exact Entries.nodup_keys_upsert h.keys_nodup
  case ordered =>
    refine Entries.pairwise_upsert h.ordered ?_ ?_ ?_
    · intro group hgroup
      obtain ⟨p, hp⟩ := List.exists_mem_of_ne_nil _ (h.nonempty group hgroup)
      refine ⟨p, hp, fun q hq => ?_⟩
      rw [List.mem_singleton.mp hq]
      exact h.lt_length hgroup hp
    · rintro rows group - ⟨p, hp, hlt⟩
      exact ⟨p, List.mem_append_left _ hp, hlt⟩
    · rintro rows group hgroup ⟨p, hp, hlt⟩
      refine ⟨p, hp, fun q hq => ?_⟩
      rcases List.mem_append.mp hq with hq | hq
      · exact hlt q hq
      · rw [List.mem_singleton.mp hq]
        exact h.lt_length hgroup hp
  case nonempty =>
    intro group hgroup
    rcases Entries.mem_upsert hgroup with hgroup | rfl | ⟨rows, -, rfl⟩
    · exact h.nonempty group hgroup
    · simp
    · simp
  case increasing =>
    intro group hgroup
    rcases Entries.mem_upsert hgroup with hgroup | rfl | ⟨rows, hrows, rfl⟩
    · exact h.increasing group hgroup
    · exact List.pairwise_singleton _ _
    · -- all rows of the group have come before this one
      refine List.pairwise_append.mpr
        ⟨h.increasing (key, rows) hrows, List.pairwise_singleton _ _, fun p hp q hq => ?_⟩
      rw [List.mem_singleton.mp hq]
      exact h.lt_length hrows hp
  case mem_iff =>
    intro k pos
    rw [Entries.lookup_upsert, getElem?_concat_eq_some_iff, ← h.mem_iff k pos]
    by_cases hk : k = key
    · subst hk
      rw [if_pos rfl]
      cases groups.lookup k <;> simp
    · rw [if_neg hk]
      simp [Ne.symm hk]

/-- The loop over the rows, whose keys are `values`. -/
theorem bucketsFrom {key : Expr} {rows : List Row} {values : List Value}
    (heval : List.Forall₂ (fun row v => key.eval row = .ok v) rows values) :
    ∃ final, TableFlow.bucketsFrom key keys.length groups rows = .ok final ∧
      Partition (keys ++ values) final := by
  induction heval generalizing keys groups with
  | nil => exact ⟨groups, rfl, by rwa [List.append_nil]⟩
  | @cons row v rows values heval _ ih =>
    obtain ⟨final, hfinal, hpartition⟩ := ih (h.add v)
    rw [List.length_append, List.length_singleton] at hfinal
    rw [List.append_assoc, List.singleton_append] at hpartition
    refine ⟨final, ?_, hpartition⟩
    rw [TableFlow.bucketsFrom, heval]
    exact hfinal

end

end Partition

/-! ## Groups that are kept -/

section Keeping

variable {t : Table} {having : Option Having} {done buckets : List (Value × List Nat)}

/-- Whether a bucket becomes a group. -/
def keptBy (having : Option Having) (t : Table) (rows : List Nat) : Result Bool :=
  (having.map fun h => h.keeps t rows).getD (.ok true)

theorem key_fresh {bucket : Value × List Nat}
    (hkeys : ((done ++ bucket :: buckets).map Prod.fst).Nodup) : bucket.1 ∉ done.map Prod.fst := by
  rw [List.map_append, List.map_cons] at hkeys
  exact fun hmem => List.disjoint_of_nodup_append hkeys hmem List.mem_cons_self

/-- One step of the loop: a bucket is decided about, and if it is kept its key is new. -/
theorem addBuckets_cons {bucket : Value × List Nat}
    (hkeys : ((done ++ bucket :: buckets).map Prod.fst).Nodup)
    (hrange : ∀ pos ∈ bucket.2, pos < t.size) :
    addBuckets having ⟨t, done⟩ (bucket :: buckets) = (keptBy having t bucket.2).bind fun kept =>
      addBuckets having ⟨t, done ++ if kept then [bucket] else []⟩ buckets := by
  obtain ⟨key, rows⟩ := bucket
  have hadd : (⟨t, done⟩ : Grouping).add key rows = .ok ⟨t, done ++ [(key, rows)]⟩ :=
    Grouping.add_of_fresh (key_fresh hkeys) hrange
  rw [addBuckets, keptBy]
  cases (having.map fun h => h.keeps t rows).getD (.ok true) with
  | error e => rfl
  | ok kept =>
    cases kept with
    | false =>
      show addBuckets having ⟨t, done⟩ buckets = addBuckets having ⟨t, done ++ []⟩ buckets
      rw [List.append_nil]
    | true =>
      simp only [hadd]
      rfl

theorem nodup_keys_of_kept {bucket : Value × List Nat}
    (hkeys : ((done ++ bucket :: buckets).map Prod.fst).Nodup) (kept : Bool) :
    (((done ++ if kept then [bucket] else []) ++ buckets).map Prod.fst).Nodup := by
  refine hkeys.sublist (List.Sublist.map Prod.fst ?_)
  rw [List.append_assoc]
  refine List.Sublist.append_left ?_ done
  cases kept with
  | false => exact List.sublist_cons_self bucket buckets
  | true => exact List.Sublist.refl (bucket :: buckets)

/-- If every bucket is decided about, exactly those that are kept become groups. -/
theorem addBuckets_of_keeps {accepts : Value × List Nat → Bool}
    (hkeys : ((done ++ buckets).map Prod.fst).Nodup)
    (hrange : ∀ bucket ∈ buckets, ∀ pos ∈ bucket.2, pos < t.size)
    (hkeeps : ∀ bucket ∈ buckets, keptBy having t bucket.2 = .ok (accepts bucket)) :
    addBuckets having ⟨t, done⟩ buckets = .ok ⟨t, done ++ buckets.filter accepts⟩ := by
  induction buckets generalizing done with
  | nil => rw [addBuckets, List.filter_nil, List.append_nil]
  | cons bucket rest ih =>
    have hkeys' := nodup_keys_of_kept hkeys (accepts bucket)
    have hrange' := fun b hb => hrange b (List.mem_cons_of_mem _ hb)
    have hkeeps' := fun b hb => hkeeps b (List.mem_cons_of_mem _ hb)
    rw [addBuckets_cons hkeys (hrange bucket List.mem_cons_self),
      hkeeps bucket List.mem_cons_self, List.filter_cons]
    show addBuckets having ⟨t, done ++ if accepts bucket then [bucket] else []⟩ rest = _
    rw [ih hkeys' hrange' hkeeps', List.append_assoc]
    cases accepts bucket <;> rfl

/-- If some bucket cannot be decided about, the call fails with the error of the first one. -/
theorem addBuckets_of_error {bucket : Value × List Nat} {e : Error}
    (hkeys : ((done ++ buckets).map Prod.fst).Nodup)
    (hrange : ∀ bucket ∈ buckets, ∀ pos ∈ bucket.2, pos < t.size)
    (hbucket : bucket ∈ buckets) (herror : keptBy having t bucket.2 = .error e) :
    ∃ first ∈ buckets, ∃ cause, keptBy having t first.2 = .error cause ∧
      addBuckets having ⟨t, done⟩ buckets = .error cause := by
  induction buckets generalizing done with
  | nil => exact absurd hbucket List.not_mem_nil
  | cons other rest ih =>
    rw [addBuckets_cons hkeys (hrange other List.mem_cons_self)]
    cases hother : keptBy having t other.2 with
    | error cause => exact ⟨other, List.mem_cons_self, cause, hother, rfl⟩
    | ok kept =>
      have hrest : bucket ∈ rest := by
        rcases List.mem_cons.mp hbucket with rfl | hrest
        · rw [herror] at hother
          cases hother
        · exact hrest
      have hrange' := fun b hb => hrange b (List.mem_cons_of_mem _ hb)
      obtain ⟨first, hfirst, cause, hcause, hrun⟩ :=
        ih (nodup_keys_of_kept hkeys kept) hrange' hrest
      exact ⟨first, List.mem_cons_of_mem _ hfirst, cause, hcause, hrun⟩

end Keeping

/-! ## The table of the groups -/

namespace Table

theorem rows_resetIndex (t : Table) : t.resetIndex.rows = t.rows := by
  refine List.map_snd_zip ?_
  rw [List.length_range, rows, List.length_map]
  exact Nat.le_refl _

theorem index_resetIndex (t : Table) : t.resetIndex.index = List.range t.size := by
  refine List.map_fst_zip ?_
  rw [List.length_range, rows, List.length_map]
  exact Nat.le_refl _

theorem rows_withUniqueIndex (t : Table) : t.withUniqueIndex.rows = t.rows := by
  unfold withUniqueIndex
  split
  · exact rows_resetIndex t
  · rfl

theorem schema_withUniqueIndex (t : Table) : t.withUniqueIndex.schema = t.schema := by
  unfold withUniqueIndex
  split <;> rfl

theorem size_withUniqueIndex (t : Table) : t.withUniqueIndex.size = t.size := by
  have h := congrArg List.length t.rows_withUniqueIndex
  rwa [rows, rows, List.length_map, List.length_map] at h

/-- The identifiers are kept if they differ, and are the positions otherwise. -/
theorem index_withUniqueIndex (t : Table) :
    t.withUniqueIndex.index = if t.index.Nodup then t.index else List.range t.size := by
  unfold withUniqueIndex hasDuplicateIndex
  by_cases hnodup : t.index.Nodup
  · simp [hnodup]
  · simp [hnodup, index_resetIndex]

theorem nodup_index_withUniqueIndex (t : Table) : t.withUniqueIndex.index.Nodup := by
  rw [index_withUniqueIndex]
  split
  · assumption
  · exact List.nodup_range

/-- The rows of a table that stand at the positions inside it. -/
def part (t : Table) (positions : List Nat) : Table :=
  ⟨t.schema, positions.filterMap fun pos => t.entries[pos]?, fun entry hentry => by
    obtain ⟨pos, -, hpos⟩ := List.mem_filterMap.mp hentry
    exact t.row_width entry (List.mem_of_getElem? hpos)⟩

/-- Rows at positions inside the table can be taken. -/
theorem take_eq {t : Table} {positions : List Nat} (h : ∀ pos ∈ positions, pos < t.size) :
    t.take positions = .ok (t.part positions) := by
  have hentries :
      t.entriesAt positions = .ok (positions.filterMap fun pos => t.entries[pos]?) := by
    induction positions with
    | nil => rfl
    | cons pos positions ih =>
      obtain ⟨hpos, hrest⟩ := List.forall_mem_cons.mp h
      have hentry : t.entries[pos]? = some (t.entries.get ⟨pos, hpos⟩) := List.getElem?_eq_getElem hpos
      rw [entriesAt, hentry, ih hrest, List.filterMap_cons_some hentry]
  unfold take
  split
  · next herror =>
    rw [hentries] at herror
    cases herror
  · next htaken =>
    rw [hentries] at htaken
    obtain rfl := Except.ok.inj htaken
    rfl

end Table

/-! ## The groups of a table -/

section Groups

variable {t : Table} {key bound : Expr} {keys : List Value} {groups : List (Value × List Nat)}

/-- What a having says about a group of rows. A callback is shown the rows as a table. -/
def Having.Answers (having : Having) (t : Table) (rows : List Nat) (v : Value) : Prop :=
  match having with
  | .size n => v = .bool (rows.length == n)
  | .holds f => ∃ part, t.take rows = .ok part ∧ f part = v

theorem Having.exists_answers (having : Having) {rows : List Nat}
    (hrange : ∀ pos ∈ rows, pos < t.size) : ∃ v, having.Answers t rows v := by
  cases having with
  | size n => exact ⟨_, rfl⟩
  | holds f => exact ⟨_, t.part rows, Table.take_eq hrange, rfl⟩

theorem Having.keeps_of_answers_bool {having : Having} {rows : List Nat} {b : Bool}
    (h : having.Answers t rows (.bool b)) : having.keeps t rows = .ok b := by
  cases having with
  | size n => exact congrArg Except.ok (Value.bool.inj h).symm
  | holds f =>
    obtain ⟨part, hpart, hanswer⟩ := h
    simp only [keeps, hpart, hanswer]

theorem Having.keeps_of_answers {having : Having} {rows : List Nat} {v : Value}
    (h : having.Answers t rows v) (hv : v.bool? = none) :
    having.keeps t rows = .error (.contract v) := by
  cases having with
  | size n =>
    rw [h] at hv
    cases hv
  | holds f =>
    obtain ⟨part, hpart, rfl⟩ := h
    simp only [keeps, hpart]
    cases hanswer : f part <;> first | rfl | (rw [hanswer] at hv; cases hv)

theorem exists_keys {rows : List Row} (heval : ∀ row ∈ rows, ∃ k, bound.eval row = .ok k) :
    ∃ keys, List.Forall₂ (fun row k => bound.eval row = .ok k) rows keys := by
  induction rows with
  | nil => exact ⟨[], .nil⟩
  | cons row rows ih =>
    obtain ⟨k, hk⟩ := heval row List.mem_cons_self
    obtain ⟨keys, hkeys⟩ := ih fun r hr => heval r (List.mem_cons_of_mem _ hr)
    exact ⟨k :: keys, .cons hk hkeys⟩

/-- The key at a position is the value on the row there. -/
theorem getElem?_keys {rows : List Row}
    (h : List.Forall₂ (fun row k => bound.eval row = .ok k) rows keys) {pos : Nat} {k : Value} :
    keys[pos]? = some k ↔ ∃ row, rows[pos]? = some row ∧ bound.eval row = .ok k := by
  induction h generalizing pos with
  | nil => simp
  | @cons row first rows keys hfirst _ ih =>
    cases pos with
    | zero =>
      simp only [List.getElem?_cons_zero, Option.some.injEq, exists_eq_left', hfirst,
        Except.ok.injEq]
    | succ pos => simpa only [List.getElem?_cons_succ] using ih

/-- The buckets of the table without repeated identifiers are a partition by the keys. -/
theorem buckets_partition (hbind : key.bind t.schema = .ok bound)
    (heval : List.Forall₂ (fun row k => bound.eval row = .ok k) t.rows keys) :
    ∃ groups, t.withUniqueIndex.buckets key = .ok groups ∧ Partition keys groups := by
  obtain ⟨groups, hgroups, hpartition⟩ := Partition.nil.bucketsFrom heval
  refine ⟨groups, ?_, hpartition⟩
  rw [Table.buckets, t.schema_withUniqueIndex, hbind, t.rows_withUniqueIndex]
  exact hgroups

theorem groupBy_eq (having : Option Having) (h : t.withUniqueIndex.buckets key = .ok groups) :
    groupBy t key having = addBuckets having ⟨t.withUniqueIndex, []⟩ groups := by
  rw [groupBy, h]
  rfl

/-- Without a having all buckets become groups. -/
theorem groupBy_none (h : t.withUniqueIndex.buckets key = .ok groups)
    (hkeys : (groups.map Prod.fst).Nodup)
    (hrange : ∀ group ∈ groups, ∀ pos ∈ group.2, pos < t.withUniqueIndex.size) :
    groupBy t key none = .ok ⟨t.withUniqueIndex, groups⟩ := by
  have hkeeps : ∀ group ∈ groups, keptBy none t.withUniqueIndex group.2 = .ok true :=
    fun _ _ => rfl
  have hadded := addBuckets_of_keeps (by rwa [List.nil_append]) hrange hkeeps
  rwa [List.nil_append, List.filter_true, ← groupBy_eq none h] at hadded

/-- With a having that decides about all groups, those that it accepts are kept. -/
theorem exists_kept {having : Having}
    (hdecides : ∀ group ∈ groups, ∃ b, having.Answers t group.2 (.bool b))
    (hkeys : (groups.map Prod.fst).Nodup)
    (hrange : ∀ group ∈ groups, ∀ pos ∈ group.2, pos < t.size) :
    ∃ kept, addBuckets (some having) ⟨t, []⟩ groups = .ok ⟨t, kept⟩ ∧ kept.Sublist groups ∧
      ∀ group ∈ groups, group ∈ kept ↔ having.Answers t group.2 (.bool true) := by
  let accepts (group : Value × List Nat) : Bool := (having.keeps t group.2).toOption.getD false
  have hkeeps : ∀ group ∈ groups, keptBy (some having) t group.2 = .ok (accepts group) := by
    intro group hgroup
    obtain ⟨b, hb⟩ := hdecides group hgroup
    have hb' := Having.keeps_of_answers_bool hb
    show having.keeps t group.2 = .ok ((having.keeps t group.2).toOption.getD false)
    rw [hb']
    rfl
  refine ⟨groups.filter accepts, addBuckets_of_keeps hkeys hrange hkeeps, List.filter_sublist, ?_⟩
  intro group hgroup
  rw [List.mem_filter, and_iff_right hgroup]
  obtain ⟨b, hb⟩ := hdecides group hgroup
  have hb' : accepts group = b := by
    show (having.keeps t group.2).toOption.getD false = b
    rw [Having.keeps_of_answers_bool hb]
    rfl
  constructor
  · intro htrue
    rw [hb'] at htrue
    rwa [htrue] at hb
  · intro htrue
    show (having.keeps t group.2).toOption.getD false = true
    rw [Having.keeps_of_answers_bool htrue]
    rfl

/-- A having with an answer that is no truth value fails with the first such answer. -/
theorem exists_contract {having : Having} {group : Value × List Nat} {v : Value}
    (hgroup : group ∈ groups) (hanswer : having.Answers t group.2 v) (hv : v.bool? = none)
    (hkeys : (groups.map Prod.fst).Nodup)
    (hrange : ∀ group ∈ groups, ∀ pos ∈ group.2, pos < t.size) :
    ∃ first ∈ groups, ∃ w, having.Answers t first.2 w ∧ w.bool? = none ∧
      addBuckets (some having) ⟨t, []⟩ groups = .error (.contract w) := by
  have herror : keptBy (some having) t group.2 = .error (.contract v) :=
    Having.keeps_of_answers hanswer hv
  obtain ⟨first, hfirst, cause, hcause, hrun⟩ :=
    addBuckets_of_error (by rwa [List.nil_append]) hrange hgroup herror
  obtain ⟨w, hw⟩ := having.exists_answers (hrange first hfirst)
  have hcause' : having.keeps t first.2 = .error cause := hcause
  refine ⟨first, hfirst, w, hw, ?_⟩
  cases hbool : w.bool? with
  | some b =>
    have hw' : w = .bool b := by
      cases w <;> first | exact congrArg Value.bool (Option.some.inj hbool) | cases hbool
    rw [hw'] at hw
    rw [Having.keeps_of_answers_bool hw] at hcause'
    cases hcause'
  | none =>
    rw [Having.keeps_of_answers hw hbool] at hcause'
    rw [← Except.error.inj hcause'] at hrun
    exact ⟨rfl, hrun⟩

/-- A key that has a value on every row groups the rows: the groups have different keys in the
order of their first rows, their positions increase, every position is in exactly one of them,
and in that of a key exactly if the key is its value on the row there. The table of the groups
has the same rows and schema, and the same identifiers unless they repeat. A having keeps the
groups that it accepts in their order, and fails the call if it answers about some group with
anything but a truth value. -/
theorem groupBy_partitions (hbind : key.bind t.schema = .ok bound)
    (heval : ∀ row ∈ t.rows, ∃ k, bound.eval row = .ok k) :
    ∃ g, groupBy t key none = .ok g ∧
      g.keys.Nodup ∧ (g.groups.Pairwise fun a b => ∃ p ∈ a.2, ∀ q ∈ b.2, p < q) ∧
      (∀ group ∈ g.groups, group.2 ≠ [] ∧ group.2.Pairwise (· < ·)) ∧
      (∀ group ∈ g.groups, ∀ pos ∈ group.2, pos < t.size) ∧
      (∀ pos < t.size, ∃! group, group ∈ g.groups ∧ pos ∈ group.2) ∧
      (∀ k pos, (∃ rows, g.rows? k = some rows ∧ pos ∈ rows) ↔
        ∃ row, t.rows[pos]? = some row ∧ bound.eval row = .ok k) ∧
      g.table.rows = t.rows ∧ g.table.schema = t.schema ∧ g.table.index.Nodup ∧
      g.table.index = (if t.index.Nodup then t.index else List.range t.size) ∧
      ∀ having : Having,
        (∀ group ∈ g.groups, ∃ v, having.Answers g.table group.2 v) ∧
        ((∀ group ∈ g.groups, ∃ b, having.Answers g.table group.2 (.bool b)) →
          ∃ kept, groupBy t key (some having) = .ok ⟨g.table, kept⟩ ∧ kept.Sublist g.groups ∧
            ∀ group ∈ g.groups, group ∈ kept ↔ having.Answers g.table group.2 (.bool true)) ∧
        ∀ group ∈ g.groups, ∀ v, having.Answers g.table group.2 v → v.bool? = none →
          ∃ first ∈ g.groups, ∃ w, having.Answers g.table first.2 w ∧ w.bool? = none ∧
            groupBy t key (some having) = .error (.contract w) := by
  obtain ⟨keys, hkeys⟩ := exists_keys heval
  obtain ⟨groups, hbuckets, hpart⟩ := buckets_partition hbind hkeys
  have hsize : keys.length = t.size := by
    rw [← hkeys.length_eq, Table.rows, List.length_map]
    rfl
  have hrange : ∀ group ∈ groups, ∀ pos ∈ group.2, pos < t.size :=
    fun group hgroup pos hpos => hsize ▸ hpart.lt_length hgroup hpos
  have hrange' : ∀ group ∈ groups, ∀ pos ∈ group.2, pos < t.withUniqueIndex.size := by
    rwa [t.size_withUniqueIndex]
  have hall := groupBy_none hbuckets hpart.keys_nodup hrange'
  refine ⟨⟨t.withUniqueIndex, groups⟩, hall, hpart.keys_nodup, hpart.ordered,
    fun group hgroup => ⟨hpart.nonempty group hgroup, hpart.increasing group hgroup⟩, hrange,
    fun pos hpos => hpart.existsUnique_group (hsize.symm ▸ hpos), ?_, t.rows_withUniqueIndex,
    t.schema_withUniqueIndex, t.nodup_index_withUniqueIndex, t.index_withUniqueIndex, ?_⟩
  · intro k pos
    exact (hpart.mem_iff k pos).trans (getElem?_keys hkeys)
  · intro having
    refine ⟨fun group hgroup => having.exists_answers (hrange' group hgroup), ?_, ?_⟩
    · intro hdecides
      rw [groupBy_eq _ hbuckets]
      exact exists_kept hdecides hpart.keys_nodup hrange'
    · intro group hgroup v hanswer hv
      rw [groupBy_eq _ hbuckets]
      exact exists_contract hgroup hanswer hv hpart.keys_nodup hrange'

end Groups

/-- Three rows of two kinds of fruit, with an identifier that repeats. -/
def Table.fruits : Table :=
  ⟨⟨["fruit", "weight"], by decide⟩,
    [(5, [.str "fig", .int 1]), (5, [.null, .int 2]), (6, [.str "fig", .int 3])], by decide⟩

/-- The fruits are numbered anew, and grouped by kind; a having has to give truth values. -/
theorem fruits_groupBy :
    ∃ g, groupBy Table.fruits (.ofColumn (.name "fruit")) none = .ok g ∧
      g.groups = [(.str "fig", [0, 2]), (.null, [1])] ∧ g.table.index = [0, 1, 2] ∧
      (∃! group, group ∈ g.groups ∧ 2 ∈ group.2) ∧
      ∃ v, v.bool? = none ∧
        groupBy Table.fruits (.ofColumn (.name "fruit")) (some (.holds fun _ => .int 1)) =
          .error (.contract v) := by
  have hbind : (Expr.ofColumn (.name "fruit")).bind Table.fruits.schema =
      .ok (.column ⟨.name "fruit", some 0⟩) := rfl
  have heval : ∀ row ∈ Table.fruits.rows,
      ∃ k, (Expr.column ⟨.name "fruit", some 0⟩).eval row = .ok k := by
    intro row hrow
    rcases List.mem_cons.mp hrow with rfl | hrow
    · exact ⟨.str "fig", rfl⟩
    rcases List.mem_cons.mp hrow with rfl | hrow
    · exact ⟨.null, rfl⟩
    rw [List.mem_singleton.mp hrow]
    exact ⟨.str "fig", rfl⟩
  obtain ⟨g, hg, -, -, -, -, hunique, -, -, -, -, hindex, hhaving⟩ :=
    groupBy_partitions hbind heval
  have hgroups : g.groups = [(.str "fig", [0, 2]), (.null, [1])] :=
    congrArg Grouping.groups (Except.ok.inj hg).symm
  have hfig : (.str "fig", [0, 2]) ∈ g.groups := by
    rw [hgroups]
    exact List.mem_cons_self
  obtain ⟨hanswers, -, hcontract⟩ := hhaving (.holds fun _ => .int 1)
  obtain ⟨v, part, hpart, rfl⟩ := hanswers _ hfig
  obtain ⟨-, -, w, -, hw, herror⟩ := hcontract _ hfig _ ⟨part, hpart, rfl⟩ rfl
  exact ⟨g, hg, hgroups, hindex, hunique 2 (by decide), w, hw, herror⟩

end TableFlow
