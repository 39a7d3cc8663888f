import TableFlow.Proofs.Operator.Width

/-!
# Cells under names

A row belongs to a schema as its cells stand under the names. Operators change the two by
different code, so what becomes of a name and what becomes of its cell are told here together.

* `Row.HoldsAt` says which cells stand at some positions of a row;
* `Schema.named` are the cells of a row with their names, and `Schema.cell?` is the cell under
  one of them; `Schema.cell?_eq_some_iff` is their agreement;
* `Schema.named_project` and `Schema.named_insert` say what becomes of the named cells when
  columns are taken or put in, `Schema.cell?_project` and `Schema.cell?_insert` that a name which
  is still there has its cell;
* `putAll` writes at positions one after the other. Names are replaced so
  (`Schema.replaceNames_eq_putAll`), and cells are assigned so (`Row.assign_eq_putAll`);
  `rewrites_putAll` is what stands at each position in the end, and `Rewrites.getElem?_eq` that
  this does not depend on what was there.
-/

namespace TableFlow

/-! ## Cells at positions -/

/-- The cells of a row at some positions. -/
def Row.HoldsAt (row : Row) (positions : List Nat) (cells : List Value) : Prop :=
  positions.map (row[·]?) = cells.map some

theorem Row.holdsAt_of_cells {row : Row} {positions : List Nat} {cells : List Value}
    (h : Row.cells row positions = .ok cells) : row.HoldsAt positions cells := by
  unfold Row.HoldsAt
  induction positions generalizing cells with
  | nil =>
    cases h
    rfl
  | cons pos positions ih =>
    rw [Row.cells] at h
    split at h
    · cases h
    · rename_i v hv
      split at h
      · cases h
      · rename_i rest hrest
        cases h
        have hcell : row[pos]? = some v := by
          unfold Row.cell at hv
          split at hv
          · rename_i found hfound
            cases hv
            exact hfound
          · cases hv
        rw [List.map_cons, List.map_cons, hcell, ih hrest]

theorem Row.lt_length_of_cells {row : Row} {positions : List Nat} {cells : List Value}
    (h : Row.cells row positions = .ok cells) : ∀ pos ∈ positions, pos < row.length := by
  intro pos hpos
  have hcell : row[pos]? ∈ cells.map some :=
    Row.holdsAt_of_cells h ▸ List.mem_map_of_mem hpos
  obtain ⟨v, -, hv⟩ := List.mem_map.mp hcell
  exact (List.getElem?_eq_some_iff.mp hv.symm).1

namespace Schema

variable {s t out : Schema} {row other cells : Row} {positions : List Nat} {name : String}
  {v : Value}

/-! ## Named cells -/

/-- The cells of a row with their names. -/
def named (s : Schema) (row : Row) : List (String × Value) := s.names.zip row

/-- The cell of a row under a name. -/
def cell? (s : Schema) (row : Row) (name : String) : Option Value :=
  (s.position? name).bind fun pos => row[pos]?

theorem position?_eq_some_iff {pos : Nat} :
    s.position? name = some pos ↔ s.names[pos]? = some name := by
  constructor
  · intro h
    obtain ⟨hlt, hname, -⟩ := List.idxOf?_eq_some_iff.mp h
    rw [List.getElem?_eq_getElem hlt]
    simpa using hname
  · intro h
    exact idxOf?_of_getElem? s.nodup h

theorem cell?_eq_some_iff : s.cell? row name = some v ↔ (name, v) ∈ s.named row := by
  rw [cell?, Option.bind_eq_some_iff, named, List.mem_iff_getElem?]
  simp only [position?_eq_some_iff, List.getElem?_zip_eq_some]

/-- Every name has a cell in a row of the schema's width. -/
theorem exists_cell? (hrow : row.length = s.width) (hname : name ∈ s.names) :
    ∃ v, s.cell? row name = some v := by
  obtain ⟨pos, hlt, rfl⟩ := List.mem_iff_getElem.mp hname
  have hinside : pos < row.length := hrow ▸ hlt
  refine ⟨row[pos], cell?_eq_some_iff.mpr (List.mem_iff_getElem?.mpr ⟨pos, ?_⟩)⟩
  rw [named, List.getElem?_zip_eq_some]
  exact ⟨List.getElem?_eq_getElem hlt, List.getElem?_eq_getElem hinside⟩

/-- Where the named cells of one row are among those of another one, a name has the same cell
in both. -/
theorem cell?_of_subset (hrow : row.length = s.width) (hname : name ∈ s.names)
    (h : s.named row ⊆ t.named other) : t.cell? other name = s.cell? row name := by
  obtain ⟨v, hv⟩ := exists_cell? hrow hname
  rw [hv, cell?_eq_some_iff]
  exact h (cell?_eq_some_iff.mp hv)

theorem getElem?_named {pos : Nat} (hrow : row.length = s.width) (hpos : pos < s.width) :
    (s.named row)[pos]? = some (s.names.getD pos "", row.getD pos .null) := by
  have hinside : pos < row.length := hrow ▸ hpos
  have hlt : pos < s.names.length := hpos
  rw [named, List.getElem?_zip_eq_some, List.getD_eq_getElem _ _ hlt,
    List.getD_eq_getElem _ _ hinside]
  exact ⟨List.getElem?_eq_getElem hlt, List.getElem?_eq_getElem hinside⟩

/-! ## Columns that are taken -/

/-- The columns at some positions keep their names and their cells. -/
theorem named_project (hrow : row.length = s.width) (hproject : s.project positions = .ok out)
    (hcells : Row.cells row positions = .ok cells) :
    (out.named cells).map some = positions.map fun pos => (s.named row)[pos]? := by
  have hlt : ∀ pos ∈ positions, pos < s.width := hrow ▸ Row.lt_length_of_cells hcells
  rw [project, namesAt_eq hlt] at hproject
  rw [Row.cells_eq (hrow ▸ hlt)] at hcells
  cases hcells
  have hnamed : ∀ pos ∈ positions,
      (s.named row)[pos]? = some (s.names.getD pos "", row.getD pos .null) :=
    fun pos hpos => getElem?_named hrow (hlt pos hpos)
  rw [List.map_congr_left hnamed, named, ← ofNames_eq_ok_iff.mp hproject, List.zip_map',
    List.map_map]
  rfl

theorem cell?_project (hrow : row.length = s.width) (hproject : s.project positions = .ok out)
    (hcells : Row.cells row positions = .ok cells) (hname : name ∈ out.names) :
    out.cell? cells name = s.cell? row name := by
  have hnamed := named_project hrow hproject hcells
  have hwidth : cells.length = out.width := by
    rw [Row.cells_length hcells, project_width hproject]
  refine (cell?_of_subset hwidth hname ?_).symm
  intro cell hcell
  have hsome : some cell ∈ positions.map fun pos => (s.named row)[pos]? :=
    hnamed ▸ List.mem_map_of_mem hcell
  obtain ⟨pos, -, hpos⟩ := List.mem_map.mp hsome
  exact List.mem_of_getElem? hpos

/-! ## Columns that are put in -/

/-- New columns stand together at the position, and the old ones keep their order, their names
and their cells. -/
theorem named_insert {pos : Option Nat} {names : List String} {vs : List Value}
    (hrow : row.length = s.width) (hvs : vs.length = names.length)
    (hinsert : s.insert pos names = .ok out) :
    out.named (row.take (pos.getD s.width) ++ vs ++ row.drop (pos.getD s.width)) =
      (s.named row).take (pos.getD s.width) ++ names.zip vs ++
        (s.named row).drop (pos.getD s.width) := by
  have hlength : s.names.length = row.length := hrow.symm
  rw [named, (insert_names hinsert).2, List.zip_append, List.zip_append]
  · simp only [named, List.zip_eq_zipWith, List.take_zipWith, List.drop_zipWith]
  · simp [hlength]
  · simp [hlength, hvs]

theorem cell?_insert {pos : Option Nat} {names : List String} {vs : List Value}
    (hrow : row.length = s.width) (hvs : vs.length = names.length)
    (hinsert : s.insert pos names = .ok out) (hname : name ∈ s.names) :
    out.cell? (row.take (pos.getD s.width) ++ vs ++ row.drop (pos.getD s.width)) name =
      s.cell? row name := by
  apply cell?_of_subset hrow hname
  intro cell hcell
  rw [← List.take_append_drop (pos.getD s.width) (s.named row), List.mem_append] at hcell
  rw [named_insert hrow hvs hinsert, List.append_assoc, List.mem_append, List.mem_append]
  rcases hcell with hfront | hback
  · exact .inl hfront
  · exact .inr (.inr hback)

end Schema

/-! ## Writing at positions -/

section Writing

variable {α : Type} {as : List α} {positions : List Nat} {new : List α} {pos : Nat}

/-- The list with items put at positions, one after the other. -/
def putAll (as : List α) : List (Nat × α) → List α
  | [] => as
  | (pos, a) :: rest => putAll (as.set pos a) rest

theorem Schema.replaceNames_eq_putAll {width : Nat} {current final : List String}
    {pairs : List (Nat × String)} (h : replaceNames width current pairs = .ok final) :
    final = putAll current pairs := by
  induction pairs generalizing current with
  | nil =>
    cases h
    rfl
  | cons pair pairs ih =>
    obtain ⟨pos, name⟩ := pair
    rw [replaceNames] at h
    split at h
    · exact ih h
    · cases h

theorem Row.assign_eq_putAll {row after : Row} {pairs : List (Nat × Value)}
    (h : Row.assign row pairs = .ok after) : after = putAll row pairs := by
  induction pairs generalizing row with
  | nil =>
    cases h
    rfl
  | cons pair pairs ih =>
    obtain ⟨pos, v⟩ := pair
    rw [Row.assign] at h
    split at h
    · exact ih h
    · cases h

theorem length_putAll (as : List α) (pairs : List (Nat × α)) :
    (putAll as pairs).length = as.length := by
  induction pairs generalizing as with
  | nil => rfl
  | cons pair pairs ih =>
    show (putAll (as.set pair.1 pair.2) pairs).length = as.length
    rw [ih, List.length_set]

/-- Nothing changes at a position that is not written. -/
theorem getElem?_putAll_of_ne {pairs : List (Nat × α)} (h : ∀ pair ∈ pairs, pair.1 ≠ pos) :
    (putAll as pairs)[pos]? = as[pos]? := by
  induction pairs generalizing as with
  | nil => rfl
  | cons pair pairs ih =>
    obtain ⟨hfirst, hrest⟩ := List.forall_mem_cons.mp h
    show (putAll (as.set pair.1 pair.2) pairs)[pos]? = as[pos]?
    rw [ih hrest, List.getElem?_set_ne hfirst]

/-- At a position that is written, the last item that was meant for it stands. -/
theorem getElem?_putAll_of_last {i : Nat} (hlength : new.length = positions.length)
    (hpos : positions[i]? = some pos) (hlast : ∀ j, i < j → positions[j]? ≠ some pos)
    (hlt : pos < as.length) : (putAll as (positions.zip new))[pos]? = new[i]? := by
  induction positions generalizing as new i with
  | nil => cases hpos
  | cons first positions ih =>
    cases new with
    | nil => simp at hlength
    | cons a new =>
      have hrest : new.length = positions.length := by simpa using hlength
      show (putAll (as.set first a) (positions.zip new))[pos]? = (a :: new)[i]?
      cases i with
      | zero =>
        have hfirst : first = pos := by simpa using hpos
        subst hfirst
        rw [getElem?_putAll_of_ne, List.getElem?_set_self hlt]
        · rfl
        · -- none of the later positions is this one
          intro pair hpair heq
          obtain ⟨j, hj⟩ := List.mem_iff_getElem?.mp (List.of_mem_zip hpair).1
          exact hlast (j + 1) (Nat.succ_pos j) (by rw [List.getElem?_cons_succ, hj, heq])
      | succ i =>
        refine ih hrest (by simpa using hpos) ?_ (by rwa [List.length_set])
        intro j hj
        simpa using hlast (j + 1) (Nat.succ_lt_succ hj)

/-- New items stand at the listed positions of a list, and all others are as before. Where a
position is listed more than once, the last item counts. -/
structure Rewrites (positions : List Nat) (new before after : List α) : Prop where
  count : new.length = positions.length
  length : after.length = before.length
  listed : ∀ i pos : Nat, positions[i]? = some pos →
    (∀ j : Nat, i < j → positions[j]? ≠ some pos) → after[pos]? = new[i]?
  unlisted : ∀ pos : Nat, pos ∉ positions → after[pos]? = before[pos]?

theorem rewrites_putAll (hcount : new.length = positions.length)
    (hlt : ∀ pos ∈ positions, pos < as.length) :
    Rewrites positions new as (putAll as (positions.zip new)) where
  count := hcount
  length := length_putAll as (positions.zip new)
  listed i pos hpos hlast :=
    getElem?_putAll_of_last hcount hpos hlast (hlt pos (List.mem_of_getElem? hpos))
  unlisted pos hpos := by
    apply getElem?_putAll_of_ne
    intro pair hpair heq
    exact hpos (heq ▸ (List.of_mem_zip hpair).1)

/-- A position that is listed has a last place in the list. -/
theorem exists_last_index (h : pos ∈ positions) :
    ∃ i : Nat, positions[i]? = some pos ∧ ∀ j : Nat, i < j → positions[j]? ≠ some pos := by
  induction positions with
  | nil => cases h
  | cons first positions ih =>
    by_cases hlater : pos ∈ positions
    · obtain ⟨i, hi, hlast⟩ := ih hlater
      refine ⟨i + 1, hi, ?_⟩
      intro j hj
      obtain ⟨j, rfl⟩ : ∃ k, j = k + 1 := ⟨j - 1, by omega⟩
      exact hlast j (by omega)
    · have hfirst : pos = first := by simpa [hlater] using h
      refine ⟨0, by simp [hfirst], ?_⟩
      intro j hj hfound
      obtain ⟨j, rfl⟩ : ∃ k, j = k + 1 := ⟨j - 1, by omega⟩
      exact hlater (List.mem_of_getElem? hfound)

/-- What is written does not depend on what was there. -/
theorem Rewrites.getElem?_eq {before after before' after' : List α}
    (h : Rewrites positions new before after) (h' : Rewrites positions new before' after')
    (hpos : pos ∈ positions) : after[pos]? = after'[pos]? := by
  obtain ⟨i, hi, hlast⟩ := exists_last_index hpos
  rw [h.listed i pos hi hlast, h'.listed i pos hi hlast]

end Writing

end TableFlow
