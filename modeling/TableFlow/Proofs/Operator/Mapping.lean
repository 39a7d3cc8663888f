import TableFlow.Proofs.Counter.FirstSeen
import TableFlow.Proofs.Operator.Naming

/-!
# Mappings

A mapping is a table of the different values of some columns, each with what an update makes of
it. It is made by running the update on the whole table and by putting the cells before and after
it together, row by row, each list of cells packed into one value.

* `packed` is the value that stands for several cells, and `Table.pairsOf_packed` says that
  nothing is lost by it: sources and targets are set as lists of cells (`Entries.setAll`);
* `Table.update_eq_ok` is the update, row by row, and `Table.mapping_rows` the mapping that is made
  of it;
* `UpdateFunc.LooksAtListed` are the updates that look at the updated columns only, and
  `UpdateFunc.LooksAtListed.cells_eq` says that these make the same of the same cells;
* `Table.mapping_tabulates_update` is the whole.
-/

namespace TableFlow

/-! ## Cells in one value -/

/-- Lists of cells are compared as lists, or cell by cell. -/
theorem beq_cells : (instBEqOfDecidableEq : BEq (List Value)) = List.instBEq :=
  lawful_beq_subsingleton _ _

/-- Several cells as one value: a single cell is the value itself. -/
def packed : List Value → Value
  | [v] => v
  | vs => .list vs

theorem packed_of_length_ne_one {cells : List Value} (h : cells.length ≠ 1) :
    packed cells = .list cells := by
  unfold packed
  split
  · exact absurd rfl h
  · rfl

theorem Row.project_eq_map_packed (row : Row) (positions : List Nat) :
    Row.project row positions = (Row.cells row positions).map packed := by
  unfold Row.project
  split
  · rename_i pos
    rw [Row.cells, Row.cells]
    cases Row.cell row pos <;> rfl
  · rename_i hmany
    cases hcells : Row.cells row positions with
    | error e => rfl
    | ok cells =>
      have hlength : cells.length ≠ 1 := by
        intro hone
        rw [Row.cells_length hcells] at hone
        obtain ⟨pos, rfl⟩ := List.length_eq_one_iff.mp hone
        exact hmany pos rfl
      rw [Except.map, packed_of_length_ne_one hlength]

/-- The cells of a row at positions that it has. -/
def Row.cellsAt (positions : List Nat) (row : Row) : List Value := positions.map (row.getD · .null)

theorem Row.cells_eq_cellsAt {row : Row} {positions : List Nat}
    (h : ∀ pos ∈ positions, pos < row.length) :
    Row.cells row positions = .ok (row.cellsAt positions) := Row.cells_eq h

@[simp]
theorem Row.length_cellsAt (positions : List Nat) (row : Row) :
    (row.cellsAt positions).length = positions.length := List.length_map _

namespace Table

/-- The cells come back out of the value, also where a single cell is a list. -/
theorem unproject_packed {width : Nat} {cells : List Value} (hlength : cells.length = width)
    (hsome : width ≠ 0) : unproject width (packed cells) = cells := by
  by_cases hone : width = 1
  · obtain ⟨v, rfl⟩ := List.length_eq_one_iff.mp (hlength.trans hone)
    subst hone
    cases v <;> rfl
  · rw [packed_of_length_ne_one (hlength ▸ hone), unproject, if_pos (by omega)]

/-- Values that stand for as many cells are the same only if the cells are. -/
theorem eq_of_packed_eq {width : Nat} {cells others : List Value} (hsome : width ≠ 0)
    (hcells : cells.length = width) (hothers : others.length = width)
    (h : packed cells = packed others) : cells = others := by
  rw [← unproject_packed hcells hsome, h, unproject_packed hothers hsome]

/-! ## Pairs -/

/-- A source and a target, each packed. -/
def packedPair (pair : List Value × List Value) : Value × Value := (packed pair.1, packed pair.2)

theorem putPair_packed {width : Nat} {pairs : List (List Value × List Value)}
    {source target : List Value} (hsome : width ≠ 0)
    (hpairs : ∀ pair ∈ pairs, pair.1.length = width) (hsource : source.length = width) :
    putPair (packed source) (packed target) (pairs.map packedPair) =
      (Entries.upsert source target (fun _ => target) pairs).map packedPair := by
  induction pairs with
  | nil => rfl
  | cons pair pairs ih =>
    obtain ⟨hpair, hrest⟩ := List.forall_mem_cons.mp hpairs
    obtain ⟨other, old⟩ := pair
    rw [List.map_cons, packedPair, putPair, Entries.upsert]
    by_cases hsame : other = source
    · subst hsame
      rw [if_pos rfl, if_pos rfl]
      rfl
    · have hpacked : packed other ≠ packed source := by
        intro h
        exact hsame (eq_of_packed_eq hsome hpair hsource h)
      rw [if_neg hpacked, if_neg hsame, ih hrest]
      rfl

/-- What the pairs of rows leave, in terms of their cells. -/
theorem pairsOf_packed {positions : List Nat} {rows : List (Row × Row)}
    {pairs : List (List Value × List Value)} (hsome : positions ≠ [])
    (hpairs : ∀ pair ∈ pairs, pair.1.length = positions.length)
    (hlt : ∀ row ∈ rows, ∀ pos ∈ positions, pos < row.1.length ∧ pos < row.2.length) :
    pairsOf positions (pairs.map packedPair) rows =
      .ok ((Entries.setAll (rows.map (Prod.map (Row.cellsAt positions) (Row.cellsAt positions)))
        pairs).map packedPair) := by
  have hwidth : positions.length ≠ 0 := by simpa using hsome
  induction rows generalizing pairs with
  | nil => rfl
  | cons row rows ih =>
    obtain ⟨hrow, hrest⟩ := List.forall_mem_cons.mp hlt
    have hbefore := Row.cells_eq_cellsAt fun pos hpos => (hrow pos hpos).1
    have hafter := Row.cells_eq_cellsAt fun pos hpos => (hrow pos hpos).2
    have hsource := Row.length_cellsAt positions row.1
    simp only [pairsOf, Row.project_eq_map_packed, hbefore, hafter, Except.map]
    rw [putPair_packed hwidth hpairs hsource]
    refine ih ?_ hrest
    intro pair hpair
    rcases Entries.mem_upsert hpair with h | rfl | ⟨v, hv, rfl⟩
    · exact hpairs pair h
    · exact hsource
    · exact hsource

end Table

/-! ## The update -/

/-- Rows that come out of a single stage that drops none of them: their identifiers are those of
the rows that went in, and the stage has made each of them of its row. -/
theorem Chain.outputs_of_emitting {c : Chain} {stage : Stage} {entries out : List Entry}
    (hc : c.Unlimited) (hstage : c.stages = [stage])
    (hemits : ∀ row flow, stage.Gives row flow → ∃ after, flow = .emit after)
    (h : c.outputs entries = .ok out) :
    out.map Prod.fst = entries.map Prod.fst ∧
      ∀ rows ∈ (entries.map Prod.snd).zip (out.map Prod.snd),
        stage.Gives rows.1 (.emit rows.2) := by
  induction entries generalizing c out with
  | nil =>
    cases h
    simp
  | cons entry entries ih =>
    rw [outputs, if_neg (by simp [hc.isExhausted])] at h
    have hafter := hc.push entry.2
    have hstages := (hc.stages_push entry.2).trans hstage
    have hrow : (c.push entry.2).1 = (pushStages entry.2 [stage]).row := by
      rw [← hstage]
      rfl
    rcases hpush : c.push entry.2 with ⟨e | row, later⟩
    · rw [hpush] at h
      cases h
    · rw [hpush] at h hafter hstages hrow
      obtain ⟨flow, hgives, hgoes⟩ := Stage.gives_of_pushStages_singleton hrow.symm
      obtain ⟨after, rfl⟩ := hemits _ _ hgives
      cases hgoes
      obtain ⟨rest, hrest, rfl⟩ := Result.map_eq_ok_iff.mp h
      obtain ⟨hids, hrows⟩ := ih hafter hstages hrest
      refine ⟨by simp [hids], ?_⟩
      simp only [List.map_cons, List.zip_cons_cons]
      exact List.forall_mem_cons.mpr ⟨hgives, hrows⟩

/-- An updated table has the same rows, with the same identifiers, in the same order, each of them
updated. -/
theorem Table.update_eq_ok {t u : Table} {columns : List ColumnRef} {func : UpdateFunc}
    (h : t.update columns func = .ok u) :
    columns ≠ [] ∧ u.schema = t.schema ∧ u.index = t.index ∧ ∃ positions bound,
      t.schema.resolveAll columns = .ok positions ∧ func.bind t.schema = .ok bound ∧
        ∀ rows ∈ t.rows.zip u.rows, (Stage.update positions bound).Gives rows.1 (.emit rows.2) := by
  unfold Table.update Table.transformWith Operator.ofUpdate at h
  split at h
  · cases h
  · rename_i op hop
    split at hop
    · cases hop
    · rename_i hsome
      cases hop
      obtain ⟨c, hopen, hschema, hout⟩ := Table.transform_eq_ok_iff.mp h
      have hunlimited : c.Unlimited := by
        refine Chain.unlimited_of_openOn ?_ hopen
        intro op hop
        cases List.mem_singleton.mp hop
        rfl
      obtain ⟨opened, hopened, hstage, hsame⟩ := Chain.openOn_singleton hopen
      cases hopened with
      | @update _ _ bound _ positions hresolve hbind =>
        have hemits : ∀ row flow, (Stage.update positions bound).Gives row flow →
            ∃ after, flow = .emit after := by
          intro row flow hgives
          cases hgives with
          | update => exact ⟨_, rfl⟩
        obtain ⟨hids, hrows⟩ := Chain.outputs_of_emitting hunlimited hstage hemits hout
        exact ⟨hsome, hschema.trans hsame, hids, positions, bound, hresolve, hbind, hrows⟩

/-! ## Updates of the listed columns only -/

/-- The update looks at nothing but the old values of the columns that it updates. -/
def UpdateFunc.LooksAtListed : UpdateFunc → Prop
  | .const _ | .map _ | .callable _ => True
  | .expr _ => False

section Listed

variable {positions : List Nat} {row other after after' : Row} {func : UpdateFunc}

theorem UpdateFunc.LooksAtListed.values_eq (h : func.LooksAtListed)
    (hcells : Row.cells row positions = Row.cells other positions) :
    func.values row positions = func.values other positions := by
  cases func with
  | const v => rfl
  | expr e => cases h
  | map pairs => rw [UpdateFunc.values, UpdateFunc.values, hcells]
  | callable f => simp only [UpdateFunc.values, hcells]

theorem UpdateFunc.LooksAtListed.bind_eq {s : Schema} {bound : UpdateFunc}
    (h : func.LooksAtListed) (hbind : func.bind s = .ok bound) : bound = func := by
  cases func with
  | const v | map pairs | callable f =>
    cases hbind
    rfl
  | expr e => cases h

/-- Of rows with the same cells in the updated columns, such an update makes rows with the same
cells there. -/
theorem UpdateFunc.LooksAtListed.cells_eq {source target target' : List Value}
    (h : func.LooksAtListed) (hsource : Row.cells row positions = .ok source)
    (hsource' : Row.cells other positions = .ok source)
    (hgives : (Stage.update positions func).Gives row (.emit after))
    (hgives' : (Stage.update positions func).Gives other (.emit after'))
    (htarget : Row.cells after positions = .ok target)
    (htarget' : Row.cells after' positions = .ok target') : target = target' := by
  cases hgives with
  | @update _ _ vs _ hvalues hassign =>
    cases hgives' with
    | @update _ _ vs' _ hvalues' hassign' =>
      rw [h.values_eq (hsource.trans hsource'.symm), hvalues'] at hvalues
      cases hvalues
      have hcount : vs.length = positions.length := UpdateFunc.values_length hvalues'
      have hafter : Rewrites positions vs row after := by
        rw [Row.assign_eq_putAll hassign]
        exact rewrites_putAll hcount (Row.lt_length_of_cells hsource)
      have hafter' : Rewrites positions vs other after' := by
        rw [Row.assign_eq_putAll hassign']
        exact rewrites_putAll hcount (Row.lt_length_of_cells hsource')
      have hsame : positions.map (after[·]?) = positions.map (after'[·]?) :=
        List.map_congr_left fun pos hpos => hafter.getElem?_eq hafter' hpos
      rw [Row.holdsAt_of_cells htarget, Row.holdsAt_of_cells htarget'] at hsame
      exact List.map_injective_iff.mpr (Option.some_injective Value) hsame

end Listed

/-! ## The mapping -/

namespace Table

variable {t m : Table} {columns : List ColumnRef} {func : UpdateFunc}
  {names : Option (List String)}

theorem eq_of_ofRows {schema : Schema} {rows : List Row} (h : ofRows schema rows = .ok m) :
    m.schema = schema ∧ m.rows = rows ∧ m.index = List.range m.size := by
  unfold ofRows ofIndex at h
  split at h
  · rename_i hlength
    split at h
    · cases h
      refine ⟨rfl, List.map_snd_zip (Nat.le_of_eq hlength.symm), ?_⟩
      have hsize : ((List.range rows.length).zip rows).length = rows.length := by simp
      show ((List.range rows.length).zip rows).map Prod.fst = _
      rw [List.map_fst_zip (Nat.le_of_eq hlength), size, hsize]
    · cases h
  · cases h

/-- The table `m` lists the different sources in the order in which they were first seen, each
once and each with the last of its targets. The sources are the cells of the columns in `t`, row by
row, and the targets are what the update puts there. -/
structure Tabulates (t : Table) (columns : List ColumnRef) (func : UpdateFunc)
    (names : Option (List String)) (m : Table) (sources targets : List (List Value)) : Prop where
  cells : ∃ positions u, columns.map t.schema.resolve = positions.map .ok ∧
    t.rows.mapM (Row.cells · positions) = .ok sources ∧ t.update columns func = .ok u ∧
      u.index = t.index ∧ u.rows.mapM (Row.cells · positions) = .ok targets
  rows : m.rows.map some = sources.eraseDups.map fun source =>
    ((sources.zip targets).reverse.lookup source).map (source ++ ·)
  width : m.width = 2 * columns.length
  names : m.schema.names = names.getD (mappingNames columns.length)
  index : m.index = List.range m.size

/-- What a mapping is made of. -/
theorem mapping_eq_ok (h : t.mapping columns func names = .ok m) :
    ∃ positions u pairs, t.schema.resolveAll columns = .ok positions ∧
      t.update columns func = .ok u ∧ pairsOf positions [] (t.rows.zip u.rows) = .ok pairs ∧
      m.schema.names = names.getD (mappingNames columns.length) ∧
      m.width = 2 * columns.length ∧ m.index = List.range m.size ∧
      m.rows = pairs.map fun pair =>
        unproject columns.length pair.1 ++ unproject columns.length pair.2 := by
  unfold mapping at h
  split at h
  · cases h
  · rename_i positions hresolve
    obtain ⟨hcount, -⟩ := Schema.lt_width_of_resolveAll hresolve
    simp only [hcount] at h
    split at h
    · cases h
    · rename_i hnames
      split at h
      · cases h
      · rename_i u hupdate
        split at h
        · cases h
        · rename_i pairs hpairs
          split at h
          · cases h
          · rename_i schema hschema
            obtain ⟨rfl, hrows, hindex⟩ := eq_of_ofRows h
            refine ⟨positions, u, pairs, hresolve, hupdate, hpairs,
              (Schema.ofNames_eq_ok_iff.mp hschema).symm, ?_, hindex, hrows⟩
            rw [width, Schema.ofNames_width hschema]
            simpa using hnames

/-- The rows of a mapping, in terms of the cells before and after the update, and what the update
did to each row. -/
theorem mapping_rows (h : t.mapping columns func names = .ok m) :
    ∃ positions bound u, t.schema.resolveAll columns = .ok positions ∧
      func.bind t.schema = .ok bound ∧ t.update columns func = .ok u ∧ u.index = t.index ∧
      (∀ row ∈ t.rows ++ u.rows, ∀ pos ∈ positions, pos < row.length) ∧
      (∀ rows ∈ t.rows.zip u.rows, (Stage.update positions bound).Gives rows.1 (.emit rows.2)) ∧
      m.rows = (Entries.setAll ((t.rows.map (Row.cellsAt positions)).zip
        (u.rows.map (Row.cellsAt positions))) []).map fun pair => pair.1 ++ pair.2 := by
  obtain ⟨positions, u, pairs, hresolve, hupdate, hpairs, -, -, -, hrows⟩ := mapping_eq_ok h
  obtain ⟨hsome, hschema, hids, positions', bound, hresolve', hbind, hgives⟩ := update_eq_ok hupdate
  rw [hresolve] at hresolve'
  cases hresolve'
  obtain ⟨hcount, hlt⟩ := Schema.lt_width_of_resolveAll hresolve
  have hwidth : columns.length ≠ 0 := by simpa using hsome
  have hpositions : positions ≠ [] := by
    rintro rfl
    exact hwidth hcount.symm
  have hinside : ∀ row ∈ t.rows ++ u.rows, ∀ pos ∈ positions, pos < row.length := by
    intro row hrow
    rcases List.mem_append.mp hrow with hrow | hrow
    · rwa [width_of_mem_rows hrow]
    · rwa [width_of_mem_rows hrow, hschema]
  refine ⟨positions, bound, u, hresolve, hbind, hupdate, hids, hinside, hgives, ?_⟩
  have hpacked := @pairsOf_packed positions (t.rows.zip u.rows) [] hpositions
    (fun pair hpair => absurd hpair List.not_mem_nil) fun rows hmem pos hpos =>
      ⟨hinside _ (List.mem_append_left _ (List.of_mem_zip hmem).1) pos hpos,
        hinside _ (List.mem_append_right _ (List.of_mem_zip hmem).2) pos hpos⟩
  rw [List.map_nil, hpairs, ← List.zip_map] at hpacked
  cases hpacked
  rw [hrows, List.map_map]
  -- what has been packed comes back out
  refine List.map_congr_left fun pair hpair => ?_
  have hmem := (Entries.mem_of_mem_setAll hpair).resolve_left List.not_mem_nil
  obtain ⟨hsource, htarget⟩ := List.of_mem_zip hmem
  obtain ⟨before, -, hbefore⟩ := List.mem_map.mp hsource
  obtain ⟨after, -, hafter⟩ := List.mem_map.mp htarget
  show unproject columns.length (packed pair.1) ++ unproject columns.length (packed pair.2) = _
  rw [unproject_packed (by rw [← hbefore, Row.length_cellsAt, hcount]) hwidth,
    unproject_packed (by rw [← hafter, Row.length_cellsAt, hcount]) hwidth]

/-- An update that looks at the listed columns only puts the same cells behind the same ones. -/
theorem consistent_of_looksAtListed {u : Table} {positions : List Nat} (hlooks : func.LooksAtListed)
    (hinside : ∀ row ∈ t.rows ++ u.rows, ∀ pos ∈ positions, pos < row.length)
    (hgives : ∀ rows ∈ t.rows.zip u.rows,
      (Stage.update positions func).Gives rows.1 (.emit rows.2)) :
    let pairs := (t.rows.map (Row.cellsAt positions)).zip (u.rows.map (Row.cellsAt positions))
    ∀ a ∈ pairs, ∀ b ∈ pairs, a.1 = b.1 → a.2 = b.2 := by
  intro pairs a ha b hb hsame
  simp only [pairs, List.zip_map, List.mem_map] at ha hb
  obtain ⟨rows, hrows, rfl⟩ := ha
  obtain ⟨others, hothers, rfl⟩ := hb
  have hcells : ∀ r ∈ t.rows ++ u.rows, Row.cells r positions = .ok (r.cellsAt positions) :=
    fun r hr => Row.cells_eq_cellsAt (hinside r hr)
  obtain ⟨hbefore, hafter⟩ := List.of_mem_zip hrows
  obtain ⟨hbefore', hafter'⟩ := List.of_mem_zip hothers
  have hsource : Row.cells others.1 positions = .ok (rows.1.cellsAt positions) := by
    rw [hcells _ (List.mem_append_left _ hbefore')]
    exact congrArg _ hsame.symm
  exact hlooks.cells_eq (hcells _ (List.mem_append_left _ hbefore)) hsource (hgives _ hrows)
    (hgives _ hothers) (hcells _ (List.mem_append_right _ hafter))
    (hcells _ (List.mem_append_right _ hafter'))

section Cells

variable {sources targets : List (List Value)}

/-- Targets that are set for sources one after the other, each behind its source. -/
theorem map_append_setAll (hcount : sources.length = targets.length) :
    ((Entries.setAll (sources.zip targets) []).map fun pair => pair.1 ++ pair.2).map some =
      sources.eraseDups.map fun source =>
        ((sources.zip targets).reverse.lookup source).map (source ++ ·) := by
  have hset := congrArg (List.map (Option.map fun pair => pair.1 ++ pair.2))
    (@Entries.setAll_nil _ _ _ (sources.zip targets))
  rw [beq_cells, List.map_fst_zip (Nat.le_of_eq hcount)] at hset
  simpa [Function.comp_def] using hset

theorem map_append_setAll_of_consistent (hcount : sources.length = targets.length)
    (h : ∀ a ∈ sources.zip targets, ∀ b ∈ sources.zip targets, a.1 = b.1 → a.2 = b.2) :
    ∃ f : List Value → List Value, (∀ pair ∈ sources.zip targets, f pair.1 = pair.2) ∧
      (Entries.setAll (sources.zip targets) []).map (fun pair => pair.1 ++ pair.2) =
        sources.eraseDups.map fun source => source ++ f source := by
  obtain ⟨f, hf, hset⟩ := Entries.setAll_of_consistent h
  refine ⟨f, hf, ?_⟩
  rw [hset, beq_cells, List.map_fst_zip (Nat.le_of_eq hcount), List.map_map]
  rfl

end Cells

/-- A mapping tabulates the update: its rows are the different values of the columns, each
followed by what the update puts there in the last row that has it. An update that looks at
these columns only is a function of them, and the mapping is the table of this function: every row
finds its updated cells behind its old ones. -/
theorem mapping_tabulates_update (h : t.mapping columns func names = .ok m) :
    ∃ sources targets, Tabulates t columns func names m sources targets ∧
      (func.LooksAtListed →
        (∀ pair ∈ sources.zip targets, pair.1 ++ pair.2 ∈ m.rows) ∧
        ∃ f : List Value → List Value, (∀ pair ∈ sources.zip targets, f pair.1 = pair.2) ∧
          m.rows = sources.eraseDups.map fun source => source ++ f source) := by
  obtain ⟨positions, bound, u, hresolve, hbind, hupdate, hids, hinside, hgives, hrows⟩ :=
    mapping_rows h
  obtain ⟨-, -, -, -, -, -, hnames, hwidth, hindex, -⟩ := mapping_eq_ok h
  have hcells : ∀ row ∈ t.rows ++ u.rows, Row.cells row positions = .ok (row.cellsAt positions) :=
    fun row hrow => Row.cells_eq_cellsAt (hinside row hrow)
  have hcount : u.rows.length = t.rows.length := by
    simpa [Table.index, Table.rows] using congrArg List.length hids
  refine ⟨t.rows.map (Row.cellsAt positions), u.rows.map (Row.cellsAt positions),
    ⟨⟨positions, u, Schema.map_resolve_of_resolveAll hresolve, ?_, hupdate, hids, ?_⟩, ?_, hwidth,
      hnames, hindex⟩, ?_⟩
  · exact Result.mapM_eq_ok fun row hrow => hcells row (List.mem_append_left _ hrow)
  · exact Result.mapM_eq_ok fun row hrow => hcells row (List.mem_append_right _ hrow)
  · rw [hrows]
    exact map_append_setAll (by simp [hcount])
  · intro hlooks
    rw [hlooks.bind_eq hbind] at hgives
    obtain ⟨f, hf, hset⟩ := map_append_setAll_of_consistent (by simp [hcount])
      (consistent_of_looksAtListed hlooks hinside hgives)
    have htable := hrows.trans hset
    refine ⟨?_, f, hf, htable⟩
    intro pair hpair
    rw [htable, ← hf pair hpair]
    exact List.mem_map.mpr ⟨pair.1, List.mem_eraseDups.mpr (List.of_mem_zip hpair).1, rfl⟩

/-- Three rows, of which the first and the last have the same letter. -/
def marks : Table :=
  ⟨⟨["letter", "number"], by decide⟩,
    [(7, [.str "a", .list [.int 1]]), (8, [.str "b", .int 2]), (9, [.str "a", .int 3])], by decide⟩

/-- A letter is followed by the number of its last row. A number is followed by what it is looked
up as, also where it is a list. -/
theorem marks_mappings :
    (∃ m sources targets,
      Tabulates marks [.name "letter"] (.expr (.ofColumn (.name "number"))) none m sources targets ∧
      m.rows = [[.str "a", .int 3], [.str "b", .int 2]]) ∧
    ∃ m sources targets,
      Tabulates marks [.name "number"] (.map [(.int 2, .null)]) none m sources targets ∧
      m.rows = [[.list [.int 1], .list [.int 1]], [.int 2, .null], [.int 3, .int 3]] ∧
      ∀ pair ∈ sources.zip targets, pair.1 ++ pair.2 ∈ m.rows := by
  constructor
  · have hmapping : marks.mapping [.name "letter"] (.expr (.ofColumn (.name "number"))) none =
        .ok _ := rfl
    obtain ⟨sources, targets, htable, -⟩ := mapping_tabulates_update hmapping
    exact ⟨_, sources, targets, htable, rfl⟩
  · have hmapping : marks.mapping [.name "number"] (.map [(.int 2, .null)]) none = .ok _ := rfl
    obtain ⟨sources, targets, htable, hlisted⟩ := mapping_tabulates_update hmapping
    exact ⟨_, sources, targets, htable, rfl, (hlisted trivial).1⟩

end Table

end TableFlow
