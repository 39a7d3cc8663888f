import TableFlow.Proofs.Pipeline.Shape
import TableFlow.Proofs.Spec.Running

/-!
# Specifications never fail on rows

The operators of a step call no callables, and what they compute from a cell they compute from
its text form, which every value has. So none of them fails on a row of its width, and a run
fails only for its files.

* `TextOp.apply_asText` and `Condition.BindsAt.eval` are the computations on cells;
* `Operator.NeverFails` is what holds of all operators of a step, by `Step.Makes.neverFails`;
* `Chain.push_of_neverFails` is a chain of such operators;
* `PipelineSpec.rows_never_fail` is the specification, and the run of it.
-/

namespace TableFlow

/-! ## Text forms -/

theorem Value.asText_true (v : Value) : ∃ s, v.asText true = .ok s := by
  cases v <;> exact ⟨_, rfl⟩

theorem Value.asTexts_true (vs : List Value) : ∃ texts, Value.asTexts true vs = .ok texts := by
  induction vs with
  | nil => exact ⟨[], rfl⟩
  | cons v vs ih =>
    obtain ⟨s, hs⟩ := v.asText_true
    obtain ⟨texts, htexts⟩ := ih
    exact ⟨s :: texts, by rw [Value.asTexts, hs, htexts]⟩

namespace TextOp

theorem onScalar_asText (op : TextOp) (v : Value) : ∃ r, op.onScalar true v = .ok r := by
  obtain ⟨s, hs⟩ := v.asText_true
  exact ⟨op.onText s, by rw [onScalar, hs]⟩

mutual

/-- Operations on text forms work on every value. -/
theorem apply_asText (op : TextOp) : ∀ v, ∃ r, op.apply true v = .ok r
  | .list vs => by
    obtain ⟨texts, htexts⟩ := Value.asTexts_true vs
    obtain ⟨rs, hrs⟩ := applyAll_asText op vs
    cases op with
    | concat delimiter => exact ⟨_, by rw [apply, htexts]⟩
    | lower | upper | capitalize | trim | length => exact ⟨.list rs, by simp only [apply, hrs]⟩
  | .null | .bool _ | .int _ | .float _ | .str _ => by
    rw [apply]
    · exact op.onScalar_asText _
    · simp

theorem applyAll_asText (op : TextOp) : ∀ vs, ∃ rs, op.applyAll true vs = .ok rs
  | [] => ⟨[], rfl⟩
  | v :: vs => by
    obtain ⟨r, hr⟩ := apply_asText op v
    obtain ⟨rs, hrs⟩ := applyAll_asText op vs
    exact ⟨r :: rs, by rw [applyAll, hr, hrs]⟩

end

end TextOp

theorem TextMatch.test_asText {m : TextMatch} (h : m.asText = true) (v : Value) :
    ∃ b, m.test v = .ok b := by
  cases v <;> simp [TextMatch.test, h]

/-! ## Cells -/

/-- A condition can be tested on every value of its column. -/
theorem Condition.BindsAt.eval [Pattern.Engine] {condition : Condition} {pos : Nat}
    {bound : Predicate} (h : condition.BindsAt pos bound) {row : Row} (hpos : pos < row.length) :
    ∃ b, bound.eval row = .ok b := by
  cases h with
  | compare =>
    simp only [Predicate.eval, Expr.eval, ColumnVar.eval_of_lt hpos]
    exact ⟨_, rfl⟩
  | isEmpty =>
    simp only [Predicate.eval, Expr.eval, ColumnVar.eval_of_lt hpos]
    exact ⟨_, rfl⟩
  | matchText hpattern =>
    simp only [Predicate.eval, Expr.eval, ColumnVar.eval_of_lt hpos]
    exact TextMatch.test_asText rfl _

/-! ## One operator -/

namespace Operator

/-- Wherever the operator opens, it does not fail on a row of the width. -/
def NeverFails (op : Operator) : Prop :=
  ∀ {s : Schema} {opened : OpenedStage} {row : Row}, op.OpensAs s opened →
    row.length = s.width → ∃ flow, opened.stage.flow row = .ok flow

theorem neverFails_select (columns : List ColumnRef) : (select columns).NeverFails := by
  intro s opened row hopened hrow
  cases hopened with
  | select hresolve hproject =>
    obtain ⟨-, hlt⟩ := Schema.lt_width_of_resolveAll hresolve
    obtain ⟨cells, hcells⟩ := Row.cells_of_lt (hrow ▸ hlt)
    exact ⟨_, Stage.flow_eq_ok_iff.mpr (.select hcells)⟩

theorem neverFails_rename (columns : List ColumnRef) (names : List String)
    (named : names.length = columns.length) : (rename columns names named).NeverFails := by
  intro s opened row hopened hrow
  cases hopened
  exact ⟨_, rfl⟩

theorem neverFails_limit (rows : Nat) : (limit rows).NeverFails := by
  intro s opened row hopened hrow
  cases hopened
  exact Stage.flow_limit rows 0 row

theorem neverFails_typecast (converter : Converter) : (typecast converter).NeverFails := by
  intro s opened row hopened hrow
  cases hopened
  exact ⟨_, rfl⟩

theorem neverFails_filter [Pattern.Engine] {condition : Condition} {p : Predicate} (negated : Bool)
    (hp : condition.predicate = .ok p) : (filter p negated).NeverFails := by
  intro s opened row hopened hrow
  cases hopened with
  | filter hbind =>
    obtain ⟨hmem, hbinds⟩ := bindsAt_of_bind hp hbind
    have hpos : s.names.idxOf condition.column < row.length :=
      hrow ▸ List.idxOf_lt_length_of_mem hmem
    obtain ⟨b, hb⟩ := hbinds.eval hpos
    exact ⟨_, by rw [Stage.flow, hb]; rfl⟩

theorem neverFails_insert {names : List String} {pos : Option Nat} {value : Value}
    (new : names ≠ []) : (insert names pos (.const value) new rfl).NeverFails := by
  intro s opened row hopened hrow
  cases hopened with
  | insert hinsert hbind =>
    cases hbind
    exact ⟨_, rfl⟩

/-- An update fails only if its function does: the values always have a place. -/
theorem flow_update {s : Schema} {columns : List ColumnRef} {bound : UpdateFunc}
    {positions : List Nat} {row : Row} {vs : List Value}
    (hresolve : s.resolveAll columns = .ok positions) (hrow : row.length = s.width)
    (hvalues : bound.values row positions = .ok vs) :
    ∃ flow, (Stage.update positions bound).flow row = .ok flow := by
  obtain ⟨-, hlt⟩ := Schema.lt_width_of_resolveAll hresolve
  obtain ⟨out, hout⟩ := Row.assign_of_lt (fun cell hcell =>
    hrow ▸ hlt cell.1 (List.of_mem_zip hcell).1)
  exact ⟨_, Stage.flow_eq_ok_iff.mpr (.update hvalues hout)⟩

theorem neverFails_update {columns : List ColumnRef} {value : Option Value}
    {mapping : Option (Mapping Value)} {func : UpdateFunc}
    (hfunc : updateFunc? value mapping = some func) (old : columns ≠ []) :
    (update columns func old).NeverFails := by
  intro s opened row hopened hrow
  cases hopened with
  | update hresolve hbind =>
    obtain rfl := Except.ok.inj ((bind_updateFunc? hfunc).symm.trans hbind)
    obtain ⟨-, hlt⟩ := Schema.lt_width_of_resolveAll hresolve
    obtain ⟨cells, hcells⟩ := Row.cells_of_lt (hrow ▸ hlt)
    unfold updateFunc? at hfunc
    split at hfunc
    · cases hfunc
      exact flow_update hresolve hrow rfl
    · cases hfunc
      exact flow_update hresolve hrow (by rw [UpdateFunc.values, hcells]; rfl)
    · cases hfunc

theorem neverFails_tidy (op : Tidying) (column : String) : (op.operator column).NeverFails := by
  intro s opened row hopened hrow
  cases hopened with
  | @update _ _ _ _ positions hresolve hbind =>
    obtain ⟨hmem, rfl⟩ := op.bind_cleaned_eq_ok_iff.mp hbind
    have hpos : s.names.idxOf column < row.length := hrow ▸ List.idxOf_lt_length_of_mem hmem
    have hone : positions.length = 1 := (Schema.lt_width_of_resolveAll hresolve).1
    obtain ⟨r, hr⟩ := op.textOp.apply_asText row[s.names.idxOf column]
    -- one column takes any value, also a list
    have hspread : r.spread positions.length = .ok [r] := by simp [Value.spread, hone]
    have hvalues : UpdateFunc.values row positions (.expr (.text op.textOp
        (.column ⟨.name column, some (s.names.idxOf column)⟩) true)) = .ok [r] := by
      simp only [UpdateFunc.values, Expr.eval, ColumnVar.eval_of_lt hpos, hr, hspread]
    exact flow_update hresolve hrow hvalues

end Operator

/-- None of the operators that a step makes fails on a row. -/
theorem Step.Makes.neverFails [Pattern.Engine] {step : Step} {ops : List Operator}
    (h : step.Makes ops) :
    ∀ op ∈ ops, op.NeverFails := by
  cases h with
  | select => exact List.forall_mem_singleton.mpr (Operator.neverFails_select _)
  | selectAs named =>
    exact List.forall_mem_cons.mpr ⟨Operator.neverFails_select _,
      List.forall_mem_singleton.mpr (Operator.neverFails_rename _ _ named)⟩
  | rename => exact List.forall_mem_singleton.mpr (Operator.neverFails_rename _ _ _)
  | filter hp => exact List.forall_mem_singleton.mpr (Operator.neverFails_filter false hp)
  | delete hp => exact List.forall_mem_singleton.mpr (Operator.neverFails_filter true hp)
  | limit => exact List.forall_mem_singleton.mpr (Operator.neverFails_limit _)
  | insert => exact List.forall_mem_singleton.mpr (Operator.neverFails_insert _)
  | update hfunc old => exact List.forall_mem_singleton.mpr (Operator.neverFails_update hfunc old)
  | typecastAll | typecast => exact List.forall_mem_singleton.mpr (Operator.neverFails_typecast _)
  | tidy =>
    intro op hop
    obtain ⟨column, -, rfl⟩ := List.mem_map.mp hop
    exact Operator.neverFails_tidy _ column

theorem neverFails_of_extendBySteps [Pattern.Engine] {place : Nat} {steps : List Step}
    {source : Source} {q : Pipeline} (hq : extendBySteps place (Pipeline.ofSource source) steps = .ok q) :
    ∀ op ∈ q.operators, op.NeverFails := by
  obtain ⟨made, hmade, rfl⟩ := extendBySteps_eq_ok_iff.mp hq
  clear hq
  simp only [Pipeline.ofSource, List.nil_append]
  induction hmade with
  | nil => simp
  | cons hmakes _ ih =>
    intro op hop
    rcases List.mem_append.mp hop with hfirst | hrest
    · exact hmakes.neverFails op hfirst
    · exact ih op hrest

/-! ## Chains -/

/-- Through operators that never fail, every row comes out or is dropped, whatever has been
pushed before. -/
theorem Chain.push_of_neverFails {s : Schema} {ops : List Operator} {c : Chain}
    (hnever : ∀ op ∈ ops, op.NeverFails) (hopen : openOn s ops = .ok c) {rows : List Row}
    (hrows : ∀ r ∈ rows, r.length = s.width) {row : Row} (hrow : row.length = s.width) :
    ∃ out, ((c.after rows).push row).1 = .ok out := by
  cases hpush : ((c.after rows).push row).1 with
  | ok out => exact ⟨out, rfl⟩
  | error e =>
    obtain ⟨front, op, back, a, opened, last, rfl, -, -, hwidth, hopened, hflow⟩ :=
      exists_op_of_push hopen hrows hrow hpush
    obtain ⟨flow, hgoes⟩ := hnever op (by simp) hopened hwidth
    rw [hgoes] at hflow
    cases hflow

/-- A passage through such operators ends with an error only at an item that is one. -/
theorem Chain.mem_of_passage_error {s : Schema} {ops : List Operator} {c : Chain}
    (hnever : ∀ op ∈ ops, op.NeverFails) (hopen : openOn s ops = .ok c) {items : List Item}
    (hitems : ∀ item ∈ items, item.Fits s.width) {e : Error}
    (h : (c.passage items).error = some e) : .error e ∈ items := by
  rcases error_of_passage h with hitem | ⟨before, entry, hbefore, hentry, hpush⟩
  · exact hitem
  · have hrows : ∀ row ∈ before, row.length = s.width := by
      intro row hrow
      obtain ⟨id, hid⟩ := hbefore row hrow
      exact hitems _ hid (id, row) rfl
    obtain ⟨out, hout⟩ := push_of_neverFails hnever hopen hrows (hitems _ hentry entry rfl)
    rw [hout] at hpush
    cases hpush

/-! ## Runs -/

/-- A file that cannot be created ends a run into it. -/
theorem Pipeline.streamWithStats_of_create_error {p : Pipeline} {fs after : FileSystem}
    {chain : Chain} {file : CsvFile} {e : Error} (hchain : p.chainIn fs = .ok chain)
    (hcreate : file.create fs = .error e after) :
    p.streamWithStats (Collector.write file) fs = .error e after := by
  have hstart : (Collector.write file).start chain.schema fs = .error e after := by
    show EStateM.bind _ _ fs = _
    simp only [EStateM.bind, hcreate]
  simp only [streamWithStats_eq, hchain, hstart]

/-- A source that cannot be opened ends a run into a file that has been created. -/
theorem Pipeline.error_of_itemsIn_error {p : Pipeline} {fs made after : FileSystem}
    {place : List String} {chain : Chain} {file : CsvFile} {e cause : Error}
    (hnames : file.names = none) (hchain : p.chainIn fs = .ok chain)
    (hroom : fs.RoomFor file.path made place)
    (hitems : p.source.itemsIn (made.put place (.file [])) = .error cause)
    (h : p.streamWithStats (Collector.write file) fs = .error e after) : e = cause := by
  obtain ⟨w, hstart, -⟩ := Collector.write_start hnames hroom chain.schema
  simp only [streamWithStats_eq, hchain, hstart, driveInto, p.source.items_eq, hitems,
    Action.ofExcept] at h
  cases habandon : (Collector.write file).abandon w (made.put place (.file [])) with
  | ok _ last =>
    rw [habandon] at h
    cases h
    rfl
  | error _ last =>
    rw [habandon] at h
    cases h
    rfl

namespace PipelineSpec

/-- What a run reads the rows of its input from: its output has been created, if it has
one. -/
def OutputReady (output : Option CsvFile) (fs opened : FileSystem) : Prop :=
  match output with
  | some file => ∃ w, file.create fs = .ok w opened
  | none => opened = fs

/-- The error is one of creating the output, of opening the input, or of one of its records. -/
def FailsOnFiles (input : CsvFile) (output : Option CsvFile) (fs : FileSystem) (e : Error) : Prop :=
  (∃ file after, output = some file ∧ file.create fs = .error e after) ∨
    ∃ opened, OutputReady output fs opened ∧
      (input.rowsIn opened = .error e ∨
        ∃ items, input.rowsIn opened = .ok items ∧ .error e ∈ items)

section Runs

variable [Pattern.Engine] {spec : PipelineSpec} {inputPath outputPath : Option String}
  {fs after : FileSystem} {input : CsvFile} {s : Schema} {p : Pipeline} {chain : Chain} {e : Error}

/-- Counting the rows fails only on the input. -/
theorem Prepared.failsOnFiles_of_count (h : spec.Prepared inputPath fs input s p chain)
    (hrun : p.streamWithStats Collector.count fs = .error e after) :
    FailsOnFiles input none fs e := by
  have hnever := neverFails_of_extendBySteps h.build_eq
  have hfits : p.source.RowsFit fs := h.source_eq ▸ Source.rowsFit_csv input fs
  refine .inr ⟨fs, rfl, ?_⟩
  rw [Collector.count_gathers.streamWithStats_eq hfits] at hrun
  cases hattempt : p.attempt fs with
  | ok outcome =>
    rw [hattempt] at hrun
    cases hrun
  | error cause =>
    rw [hattempt] at hrun
    cases hrun
    rcases Pipeline.attempt_eq_error_iff.mp hattempt with hbegin | ⟨opened, items, hbegin, herror⟩
    · rw [Pipeline.begin?, h.chain_eq, h.source_eq] at hbegin
      exact .inl (Result.map_eq_error_iff.mp hbegin)
    · obtain ⟨hopened, hitems⟩ := Pipeline.begin?_eq_ok_iff.mp hbegin
      obtain rfl := Except.ok.inj (h.chain_eq.symm.trans hopened)
      rw [h.source_eq] at hitems
      exact .inr ⟨items, hitems, Chain.mem_of_passage_error hnever h.openOn_eq
        (CsvFile.rowsIn_fit h.schema_eq hitems) herror⟩

/-- Writing the rows fails only on the input, or because there is no output. -/
theorem Prepared.failsOnFiles_of_write {file : CsvFile}
    (h : spec.Prepared inputPath fs input s p chain) (hnames : file.names = none)
    (hrun : p.streamWithStats (Collector.write file) fs = .error e after) :
    FailsOnFiles input (some file) fs e := by
  have hnever := neverFails_of_extendBySteps h.build_eq
  cases hcreate : file.create fs with
  | error cause last =>
    rw [Pipeline.streamWithStats_of_create_error h.chain_eq hcreate] at hrun
    cases hrun
    exact .inl ⟨file, _, rfl, hcreate⟩
  | ok w opened =>
    obtain ⟨made, place, hroom, rfl⟩ := CsvFile.roomFor_of_create hcreate
    refine .inr ⟨_, ⟨w, hcreate⟩, ?_⟩
    have hsource : p.source.itemsIn (made.put place (.file [])) =
        input.rowsIn (made.put place (.file [])) := by
      rw [h.source_eq]
      rfl
    cases hitems : input.rowsIn (made.put place (.file [])) with
    | error cause =>
      have hcause := Pipeline.error_of_itemsIn_error hnames h.chain_eq hroom
        (hsource.trans hitems) hrun
      exact .inl (congrArg _ hcause.symm)
    | ok items =>
      rw [Pipeline.streamWithStats_write hnames h.chain_eq hroom (hsource.trans hitems)
        (h.rows_width hroom hitems)] at hrun
      simp only at hrun
      split at hrun
      · rename_i cause herror
        cases hrun
        exact .inr ⟨items, rfl, Chain.mem_of_passage_error hnever h.openOn_eq
          (CsvFile.rowsIn_fit_opened hroom h.schema_eq hitems) herror⟩
      · cases hrun

/-- **Specifications never fail on rows.** When a specification builds and its operators open
on a schema, no row of the schema's width makes a push fail, whatever has been pushed before.
So a run that has opened everything fails only for its output or on reading its input. -/
theorem rows_never_fail (spec : PipelineSpec) (source : Source) {s : Schema} {p : Pipeline}
    {chain : Chain} (hbuild : spec.build (Pipeline.ofSource source) = .ok p)
    (hopen : Chain.openOn s p.operators = .ok chain) :
    (∀ rows row, (∀ r ∈ rows, r.length = s.width) → row.length = s.width →
      ∃ out, ((chain.after rows).push row).1 = .ok out) ∧
    ∀ inputPath outputPath fs input failure after,
      spec.Prepared inputPath fs input s p chain →
      spec.run inputPath outputPath fs = .error failure after →
        spec.outputFile outputPath = .error failure ∨
          ∃ output e, spec.outputFile outputPath = .ok output ∧
            failure = ⟨[.runPipeline spec.name], .error e⟩ ∧ FailsOnFiles input output fs e := by
  have hnever := neverFails_of_extendBySteps hbuild
  constructor
  · intro rows row hrows hrow
    exact Chain.push_of_neverFails hnever hopen hrows hrow
  · intro inputPath outputPath fs input failure after hprepared hrun
    rw [hprepared.run_eq] at hrun
    cases houtput : spec.outputFile outputPath with
    | error cause =>
      rw [houtput] at hrun
      cases hrun
      exact .inl rfl
    | ok output =>
      simp only [houtput] at hrun
      split at hrun
      · rename_i e last hstream
        cases hrun
        refine .inr ⟨output, e, rfl, rfl, ?_⟩
        cases output with
        | none => exact hprepared.failsOnFiles_of_count hstream
        | some file => exact hprepared.failsOnFiles_of_write (names_of_outputFile houtput) hstream
      · cases hrun

end Runs

/-- Steps that read cells as texts, behind one that inserts lists. -/
def tagging : PipelineSpec :=
  { version := "0.1"
    name := "tagging"
    steps := [
      .insert "tags" none (.list [.str " B ", .null, .bool true]),
      .tidy .trim ["name", "tags"],
      .update ["name"] none (some ⟨[("", .list [.int 0])], by decide⟩),
      .tidy .lower ["tags"],
      .filter (.matchText "tags" "b" false),
      .delete (.compare .eq "name" .null),
      .typecast none] }

/-- A list in a cell goes through the steps, behind rows without values. -/
theorem tagging_never_fails :
    let s : Schema := ⟨["name"], by decide⟩
    ∃ p chain, tagging.build (Pipeline.ofSource (.rows s [])) = .ok p ∧
      Chain.openOn s p.operators = .ok chain ∧
      ∃ out, ((chain.after [[.null], [.bool false]]).push [.list [.null, .list []]]).1 =
        .ok out := by
  intro s
  have hbuild : tagging.build (Pipeline.ofSource (.rows s [])) = .ok _ := rfl
  refine ⟨_, _, hbuild, rfl, ?_⟩
  obtain ⟨hrows, -⟩ := rows_never_fail tagging (.rows s []) (s := s) hbuild rfl
  exact hrows _ _ (by decide) rfl

end PipelineSpec

end TableFlow
