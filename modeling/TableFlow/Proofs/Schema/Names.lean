import Mathlib.Data.List.Nodup
import TableFlow.Schema

/-!
# Names and positions

How names resolve against a schema, and when a schema derived from it exists.

* `Schema.ofNames_eq_ok_iff` says that a schema is determined by its names;
* `Schema.resolveAll_names` resolves names that are all there, to the positions at
  which they first stand;
* `Schema.project_names`, `Schema.rename_range` and `Schema.insert_name` are the
  derived schemas of columns that were found by name.
-/

namespace TableFlow

/-! ## Repetitions -/

/-- A list of different names, none of them seen before, has no first repetition. -/
theorem firstRepeated?_eq_none_of_nodup {seen names : List String} (hnd : names.Nodup)
    (hfresh : ∀ name ∈ names, name ∉ seen) : firstRepeated? seen names = none := by
  induction names generalizing seen with
  | nil => rfl
  | cons name names ih =>
    rw [List.nodup_cons] at hnd
    rw [firstRepeated?, if_neg (hfresh name List.mem_cons_self)]
    refine ih hnd.2 fun other hother hseen => ?_
    rcases List.mem_cons.mp hseen with rfl | hseen
    · exact hnd.1 hother
    · exact hfresh other (List.mem_cons_of_mem _ hother) hseen

/-- In a list of different names, a name is found at the position where it stands. -/
theorem idxOf?_of_getElem? {names : List String} (hnd : names.Nodup) {pos : Nat}
    {name : String} (hpos : names[pos]? = some name) : names.idxOf? name = some pos := by
  obtain ⟨hlt, hget⟩ := List.getElem?_eq_some_iff.mp hpos
  rw [List.idxOf?_eq_some_iff]
  refine ⟨hlt, by simp [hget], ?_⟩
  intro j hj hsame
  have hjlt : j < names.length := Nat.lt_trans hj hlt
  have hnames : names[j] = names[pos] := by
    rw [hget]
    simpa using hsame
  have := (hnd.getElem_inj_iff).mp hnames
  omega

namespace Schema

variable {s : Schema}

/-- Different names make a schema. -/
theorem ofNames_of_nodup {names : List String} (hnd : names.Nodup) :
    ofNames names = .ok ⟨names, hnd⟩ := by
  unfold ofNames
  split
  · rfl
  · rename_i name hsome
    rw [firstRepeated?_eq_none_of_nodup hnd (by simp)] at hsome
    cases hsome

/-- Repeated names make no schema. -/
theorem ofNames_of_not_nodup {names : List String} (hrep : ¬names.Nodup) :
    ∃ e, ofNames names = .error e := by
  unfold ofNames
  split
  · rename_i hnone
    exact absurd (nodup_of_firstRepeated?_eq_none hnone).1 hrep
  · exact ⟨_, rfl⟩

theorem ofNames_eq_ok_iff {names : List String} : ofNames names = .ok s ↔ names = s.names := by
  constructor
  · intro h
    by_cases hnd : names.Nodup
    · rw [ofNames_of_nodup hnd] at h
      cases h
      rfl
    · obtain ⟨e, he⟩ := ofNames_of_not_nodup hnd
      rw [he] at h
      cases h
  · rintro rfl
    exact ofNames_of_nodup s.nodup

/-! ## Resolving names -/

theorem resolve_name_of_mem {name : String} (hmem : name ∈ s.names) :
    s.resolve (.name name) = .ok (s.names.idxOf name) := by
  have hpos : s.position? name = some (s.names.idxOf name) := by
    rw [position?, List.idxOf?_eq_some_iff]
    have hlt := List.idxOf_lt_length_of_mem hmem
    refine ⟨hlt, by simp, ?_⟩
    intro j hj
    have hbefore : j < s.names.findIdx (· == name) := hj
    simpa using List.not_of_lt_findIdx hbefore
  rw [resolve, hpos]

theorem resolve_name_of_not_mem {name : String} (hmem : name ∉ s.names) :
    s.resolve (.name name) = .error (.unknownColumn (.reference (.name name))) := by
  have hpos : s.position? name = none := by
    rw [position?, List.idxOf?_eq_none_iff]
    exact hmem
  rw [resolve, hpos]

/-- Names that are all there resolve, each to the position where it stands. -/
theorem resolveAll_names {names : List String} (hall : ∀ name ∈ names, name ∈ s.names) :
    s.resolveAll (names.map .name) = .ok (names.map fun name => s.names.idxOf name) := by
  induction names with
  | nil => rfl
  | cons name names ih =>
    rw [List.map_cons, resolveAll, resolve_name_of_mem (hall name List.mem_cons_self),
      ih fun other hother => hall other (List.mem_cons_of_mem _ hother)]
    rfl

/-- One name that is not there spoils them all. -/
theorem resolveAll_of_missing {names : List String} {name : String} (hmem : name ∈ names)
    (hmissing : name ∉ s.names) : ∃ e, s.resolveAll (names.map .name) = .error e := by
  induction names with
  | nil => cases hmem
  | cons first names ih =>
    rw [List.map_cons, resolveAll]
    by_cases hfirst : first ∈ s.names
    · have hrest : name ∈ names := by
        rcases List.mem_cons.mp hmem with rfl | hrest
        · exact absurd hfirst hmissing
        · exact hrest
      obtain ⟨e, he⟩ := ih hrest
      rw [resolve_name_of_mem hfirst, he]
      exact ⟨e, rfl⟩
    · rw [resolve_name_of_not_mem hfirst]
      exact ⟨_, rfl⟩

theorem mem_of_resolveAll_names {names : List String} {positions : List Nat}
    (h : s.resolveAll (names.map .name) = .ok positions) : ∀ name ∈ names, name ∈ s.names := by
  intro name hname
  by_contra hmissing
  obtain ⟨e, he⟩ := resolveAll_of_missing hname hmissing
  rw [he] at h
  cases h

/-- Positions below the width stand for themselves. -/
theorem resolveAll_positions {positions : List Nat} (hall : ∀ pos ∈ positions, pos < s.width) :
    s.resolveAll (positions.map .position) = .ok positions := by
  induction positions with
  | nil => rfl
  | cons pos positions ih =>
    rw [List.map_cons, resolveAll, resolve, if_pos (hall pos List.mem_cons_self),
      ih fun other hother => hall other (List.mem_cons_of_mem _ hother)]

theorem lt_width_of_resolve {column : ColumnRef} {pos : Nat}
    (h : s.resolve column = .ok pos) : pos < s.width := by
  cases column with
  | position p =>
    rw [resolve] at h
    split at h
    · rename_i hlt
      cases h
      exact hlt
    · cases h
  | name name =>
    rw [resolve] at h
    split at h
    · rename_i found hfound
      cases h
      exact (List.idxOf?_eq_some_iff.mp hfound).1
    · cases h

theorem lt_width_of_resolveAll {columns : List ColumnRef} {positions : List Nat}
    (h : s.resolveAll columns = .ok positions) :
    positions.length = columns.length ∧ ∀ pos ∈ positions, pos < s.width := by
  induction columns generalizing positions with
  | nil =>
    cases h
    simp
  | cons column columns ih =>
    rw [resolveAll] at h
    split at h
    · cases h
    · rename_i pos hpos
      split at h
      · cases h
      · rename_i rest hrest
        cases h
        obtain ⟨hlength, hlt⟩ := ih hrest
        exact ⟨by simp [hlength], List.forall_mem_cons.mpr ⟨lt_width_of_resolve hpos, hlt⟩⟩

/-- References that resolve together do so one by one. -/
theorem map_resolve_of_resolveAll {columns : List ColumnRef} {positions : List Nat}
    (h : s.resolveAll columns = .ok positions) : columns.map s.resolve = positions.map .ok := by
  induction columns generalizing positions with
  | nil =>
    cases h
    rfl
  | cons column columns ih =>
    rw [resolveAll] at h
    split at h
    · cases h
    · rename_i pos hpos
      split at h
      · cases h
      · rename_i rest hrest
        cases h
        rw [List.map_cons, List.map_cons, hpos, ih hrest]

/-! ## Derived schemas -/

theorem namesAt_idxOf {names : List String} (hall : ∀ name ∈ names, name ∈ s.names) :
    s.namesAt (names.map fun name => s.names.idxOf name) = .ok names := by
  induction names with
  | nil => rfl
  | cons name names ih =>
    have hname : s.name? (s.names.idxOf name) = some name :=
      List.getElem?_idxOf (hall name List.mem_cons_self)
    rw [List.map_cons, namesAt, hname,
      ih fun other hother => hall other (List.mem_cons_of_mem _ hother)]

/-- The projection on columns found by name has these names. -/
theorem project_names {names : List String} (hall : ∀ name ∈ names, name ∈ s.names) :
    s.project (names.map fun name => s.names.idxOf name) = ofNames names := by
  rw [project, namesAt_idxOf hall]

/-- Replacing the names behind `done`, one after the other, replaces them all. -/
theorem replaceNames_range' (width : Nat) (done old new : List String)
    (hlen : new.length = old.length) :
    replaceNames width (done ++ old) ((List.range' done.length old.length).zip new) =
      .ok (done ++ new) := by
  -- the names that are done grow by the one that has just been replaced
  induction old generalizing done new with
  | nil =>
    have : new = [] := List.length_eq_zero_iff.mp hlen
    subst this
    rfl
  | cons first old ih =>
    cases new with
    | nil => simp at hlen
    | cons name new =>
      have hset : (done ++ first :: old).set done.length name = (done ++ [name]) ++ old := by
        rw [List.set_append_right _ _ (Nat.le_refl _)]
        simp
      have hrest := ih (done ++ [name]) new (by simpa using hlen)
      rw [List.length_cons, List.range'_succ, List.zip_cons_cons, replaceNames,
        if_pos (by simp), hset]
      simpa using hrest

/-- New names for all columns in order are the names of the renamed schema. -/
theorem rename_range {names : List String} (hlen : names.length = s.width) :
    s.rename (List.range s.width) names = ofNames names := by
  have hreplaced := replaceNames_range' s.width [] s.names names hlen
  rw [rename, List.range_eq_range', show s.width = s.names.length from rfl]
  simp only [List.nil_append, List.length_nil] at hreplaced
  rw [show s.width = s.names.length from rfl] at hreplaced
  rw [hreplaced]

/-- With a new name at any position, the names are different exactly if it is new. -/
theorem nodup_insert_iff {name : String} (pos : Nat) :
    (s.names.take pos ++ [name] ++ s.names.drop pos).Nodup ↔ name ∉ s.names := by
  -- in another order, these are the new name and all of the old ones
  have hperm : (s.names.take pos ++ [name] ++ s.names.drop pos).Perm
      (name :: (s.names.take pos ++ s.names.drop pos)) := by
    rw [List.append_assoc]
    exact List.perm_middle
  rw [hperm.nodup_iff, List.nodup_cons, List.take_append_drop]
  exact and_iff_left s.nodup

/-- A new name goes in at every position of the schema and behind its end, where it goes by
default. -/
theorem insert_name {pos : Option Nat} {name : String} (hpos : pos.getD s.width ≤ s.width)
    (hnew : name ∉ s.names) :
    ∃ out, s.insert pos [name] = .ok out ∧
      out.names = s.names.take (pos.getD s.width) ++ name :: s.names.drop (pos.getD s.width) := by
  refine ⟨⟨_, (nodup_insert_iff (pos.getD s.width)).mpr hnew⟩, ?_, by simp⟩
  rw [insert, if_neg (Nat.not_lt.mpr hpos), ofNames_of_nodup]

/-- Columns go in at a position that is there, and the new names stand at it. -/
theorem insert_names {pos : Option Nat} {names : List String} {out : Schema}
    (h : s.insert pos names = .ok out) : pos.getD s.width ≤ s.width ∧
      out.names = s.names.take (pos.getD s.width) ++ names ++ s.names.drop (pos.getD s.width) := by
  rw [insert] at h
  split at h
  · cases h
  · rename_i hpos
    exact ⟨Nat.not_lt.mp hpos, (ofNames_eq_ok_iff.mp h).symm⟩

theorem insert_name_fits {pos : Option Nat} {name : String} {out : Schema}
    (h : s.insert pos [name] = .ok out) : pos.getD s.width ≤ s.width ∧ name ∉ s.names := by
  obtain ⟨hpos, hnames⟩ := insert_names h
  exact ⟨hpos, (nodup_insert_iff _).mp (hnames ▸ out.nodup)⟩

end Schema

end TableFlow
