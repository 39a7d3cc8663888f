import TableFlow.Pattern.Grammar
import TableFlow.Proofs.Result
import TableFlow.Proofs.Spec.Operators

/-!
# What a clean validation promises

A specification without findings is meant to run: its steps become operators, and
every operator opens on the schema of the step before it. The checks leave three
things open, which `Step.Runnable` names: a selection may take a column twice under
two names, a mapping may rename a column that an entry before it has made, and an
update may list no columns. Which texts are patterns is up to the engine, of which
`Step.PatternAnchors` asks that a text that compiles still does so when it is anchored.

* `Step.opens_of_clean` is one step that has no problems and leaves nothing open;
* `Step.runnable_of_opens` and `Step.names_of_opens` are one step that opens;
* `extendBySteps_opens` and `runnableSteps_of_opens` follow a list of steps;
* `build_opens_iff_runnable` is the whole specification: without findings, it runs
  exactly if it leaves nothing open.
-/

namespace TableFlow

/-! ## What the checks leave open -/

/-- What a step without problems still needs in order to open on columns with these
names. -/
def Step.Runnable (available : List String) : Step → Prop
  | .select columns _ => columns.Nodup
  | .rename mapping => ∀ name ∈ mapping.names, name ∈ available
  | .update columns _ _ => columns ≠ []
  | _ => True

instance (available : List String) (step : Step) : Decidable (step.Runnable available) :=
  match step with
  | .select columns _ => inferInstanceAs (Decidable columns.Nodup)
  | .rename mapping => inferInstanceAs (Decidable (∀ name ∈ mapping.names, name ∈ available))
  | .update columns _ _ => inferInstanceAs (Decidable (columns ≠ []))
  | .filter _ | .delete _ | .limit _ | .insert _ _ _ | .typecast _ | .tidy _ _ =>
    inferInstanceAs (Decidable True)

/-- Every step finds what it needs among the names that the steps before it leave. -/
def RunnableSteps (available : List String) : List Step → Prop
  | [] => True
  | step :: steps =>
    step.Runnable available ∧ RunnableSteps (step.columnsAfter available) steps

instance decidableRunnableSteps :
    (available : List String) → (steps : List Step) → Decidable (RunnableSteps available steps)
  | _, [] => inferInstanceAs (Decidable True)
  | available, step :: steps =>
    have := decidableRunnableSteps (step.columnsAfter available) steps
    inferInstanceAs (Decidable (step.Runnable available ∧ RunnableSteps _ steps))

def PipelineSpec.Runnable (spec : PipelineSpec) (available : List String) : Prop :=
  RunnableSteps available spec.steps

instance (spec : PipelineSpec) (available : List String) : Decidable (spec.Runnable available) :=
  inferInstanceAs (Decidable (RunnableSteps available spec.steps))

section Checks

variable [Pattern.Engine]

/-- A pattern that compiles as it stands compiles tied to the start of a text, or to
both of its ends. -/
def Condition.PatternAnchors : Condition → Prop
  | .matchText _ pattern whole =>
    (∃ compiled, Pattern.Engine.compile pattern = .ok compiled) →
      ∃ compiled, Pattern.anchored pattern whole = .ok compiled
  | _ => True

/-- The pattern of a filtering step, if it has one, can be tied to a text. -/
def Step.PatternAnchors : Step → Prop
  | .filter condition => condition.PatternAnchors
  | .delete condition => condition.PatternAnchors
  | _ => True

/-! ## Checks of conditions -/

/-- A condition without problems tests a column that is there. -/
theorem Condition.column_mem {available : List String} {condition : Condition}
    (hclean : condition.problems available = []) : condition.column ∈ available := by
  cases condition with
  | compare op column value => simpa [problems] using hclean
  | isEmpty column => simpa [problems] using hclean
  | matchText column pattern whole =>
    cases hcompile : Pattern.Engine.compile pattern with
    | error fault => simp [problems, hcompile] at hclean
    | ok compiled => simpa [problems, hcompile] using hclean

/-- A condition without problems has a predicate. -/
theorem Condition.predicate_of_clean {available : List String} {condition : Condition}
    (hclean : condition.problems available = []) (hanchor : condition.PatternAnchors) :
    ∃ p, condition.predicate = .ok p := by
  cases condition with
  | compare op column value => exact ⟨_, rfl⟩
  | isEmpty column => exact ⟨_, rfl⟩
  | matchText column pattern whole =>
    have hcompiled : ∃ compiled, Pattern.Engine.compile pattern = .ok compiled := by
      cases hcompile : Pattern.Engine.compile pattern with
      | error fault => simp [problems, hcompile] at hclean
      | ok compiled => exact ⟨compiled, rfl⟩
    obtain ⟨compiled, hok⟩ := hanchor hcompiled
    rw [predicate, Predicate.ofPattern, hok]
    exact ⟨_, rfl⟩

/-! ## One step -/

/-- An insertion without problems puts a new name somewhere up to the end. -/
theorem Step.insert_problems_eq_nil_iff {s : Schema} {name : String} {position : Option UInt64}
    {value : Value} :
    (Step.insert name position value).problems s.names = [] ↔
      name ∉ s.names ∧ (position.map UInt64.toNat).getD s.width ≤ s.width := by
  by_cases hnew : name ∈ s.names
  · simp [problems, hnew]
  · cases position with
    | none => simp [problems, hnew]
    | some pos => simp [problems, hnew, Schema.width]

/-- A selection without problems takes columns that are there, and leaves different
names, as many as it takes columns. -/
theorem Step.select_problems_eq_nil_iff {available columns : List String}
    {names : Option (List String)} :
    (Step.select columns names).problems available = [] ↔
      columns ≠ [] ∧ (∀ column ∈ columns, column ∈ available) ∧
        (∀ new, names = some new → new.length = columns.length) ∧
          (selectedNames columns names).Nodup := by
  simp only [problems, List.append_eq_nil_iff, missingColumns_eq_nil_iff,
    repeatedNames_eq_nil_iff, and_assoc]
  cases names with
  | none => simp
  | some names => simp

/-- An update without problems works on columns that are there, and has a function. -/
theorem Step.update_problems_eq_nil_iff {available columns : List String} {value : Option Value}
    {mapping : Option (Mapping Value)} :
    (Step.update columns value mapping).problems available = [] ↔
      (∀ column ∈ columns, column ∈ available) ∧ ∃ func, updateFunc? value mapping = some func := by
  rw [problems, List.append_eq_nil_iff, missingColumns_eq_nil_iff]
  cases value <;> cases mapping <;> simp [updateFunc?]

/-- A step without problems that finds what it needs opens, and leaves the names that
the checks say. -/
theorem Step.opens_of_clean {s : Schema} {step : Step} (hclean : step.problems s.names = [])
    (hanchor : step.PatternAnchors) (hrun : step.Runnable s.names) :
    ∃ ops out, step.Makes ops ∧ Opens s ops out ∧ out.names = step.columnsAfter s.names := by
  cases step with
  | select columns names =>
    obtain ⟨-, hall, hcount, hunique⟩ := select_problems_eq_nil_iff.mp hclean
    have hselect : Opens s [.select (columns.map .name)] ⟨columns, hrun⟩ :=
      opens_select_iff.mpr ⟨hall, rfl⟩
    cases names with
    | none => exact ⟨_, _, .select, hselect, rfl⟩
    | some names =>
      have hlen : names.length = columns.length := hcount names rfl
      have hnd : names.Nodup := by simpa [selectedNames, hlen] using hunique
      have named : names.length = ((List.range columns.length).map ColumnRef.position).length := by
        simpa using hlen
      have hrename : Opens ⟨columns, hrun⟩
          [.rename ((List.range columns.length).map .position) names named] ⟨names, hnd⟩ :=
        (opens_rename_all_iff named).mpr rfl
      exact ⟨_, ⟨names, hnd⟩, .selectAs named, opens_append_iff.mpr ⟨_, hselect, hrename⟩,
        by simp [columnsAfter, selectedNames, hlen]⟩
  | rename mapping =>
    obtain ⟨out, hopens, hnames⟩ := opens_rename hrun hclean
    exact ⟨_, out, .rename, hopens, hnames⟩
  | filter condition =>
    obtain ⟨predicate, hp⟩ := Condition.predicate_of_clean hclean hanchor
    exact ⟨_, s, .filter hp, (opens_filter_iff hp).mpr ⟨Condition.column_mem hclean, rfl⟩, rfl⟩
  | delete condition =>
    obtain ⟨predicate, hp⟩ := Condition.predicate_of_clean hclean hanchor
    exact ⟨_, s, .delete hp, (opens_filter_iff hp).mpr ⟨Condition.column_mem hclean, rfl⟩, rfl⟩
  | limit rows => exact ⟨_, s, .limit, opens_singleton_iff.mpr ⟨_, .limit⟩, rfl⟩
  | insert name position value =>
    obtain ⟨hnew, hpos⟩ := insert_problems_eq_nil_iff.mp hclean
    obtain ⟨out, hopens, hnames⟩ := opens_insert value hpos hnew
    exact ⟨_, out, .insert, hopens, hnames.trans (columnsAfter_insert value hnew hpos).symm⟩
  | update columns value mapping =>
    obtain ⟨hall, func, hfunc⟩ := update_problems_eq_nil_iff.mp hclean
    have old : columns.map ColumnRef.name ≠ [] := by simpa [Runnable] using hrun
    exact ⟨_, s, .update hfunc old,
      (opens_update_iff (bind_updateFunc? hfunc) old).mpr ⟨hall, rfl⟩, rfl⟩
  | typecast types =>
    have hopens : ∀ converter, Opens s [.typecast converter] s := fun converter =>
      opens_singleton_iff.mpr ⟨_, .typecast⟩
    cases types with
    | none => exact ⟨_, s, .typecastAll, hopens _, rfl⟩
    | some types => exact ⟨_, s, .typecast, hopens _, rfl⟩
  | tidy op columns =>
    have hall := missingColumns_eq_nil_iff.mp hclean
    exact ⟨_, s, .tidy, op.opens_operators_iff.mpr ⟨hall, rfl⟩, rfl⟩

/-- A step whose operators open misses nothing that the checks leave open. -/
theorem Step.runnable_of_opens {s out : Schema} {step : Step} {ops : List Operator}
    (hmakes : step.Makes ops) (hopens : Opens s ops out) : step.Runnable s.names := by
  cases hmakes with
  | select =>
    obtain ⟨-, hnames⟩ := opens_select_iff.mp hopens
    exact hnames ▸ out.nodup
  | selectAs named =>
    rw [← List.singleton_append, opens_append_iff] at hopens
    obtain ⟨mid, hselect, -⟩ := hopens
    obtain ⟨-, hnames⟩ := opens_select_iff.mp hselect
    exact hnames ▸ mid.nodup
  | rename => exact (replaceNames_of_opens hopens).1
  | update hfunc old => simpa [Runnable] using old
  | filter | delete | limit | insert | typecastAll | typecast | tidy => trivial

/-! ## All steps -/

theorem stepFindings_cons_eq_nil_iff {place : Nat} {available : List String} {step : Step}
    {steps : List Step} :
    stepFindings place available (step :: steps) = [] ↔
      step.problems available = [] ∧
        stepFindings (place + 1) (step.columnsAfter available) steps = [] := by
  simp [stepFindings]

/-- Steps without findings that find what they need open one after the other. -/
theorem extendBySteps_opens {place : Nat} {steps : List Step} {s : Schema}
    (hclean : stepFindings place s.names steps = [])
    (hanchor : ∀ step ∈ steps, step.PatternAnchors) (hrun : RunnableSteps s.names steps)
    (p : Pipeline) :
    ∃ ops out, extendBySteps place p steps = .ok ⟨p.source, p.operators ++ ops⟩ ∧
      Opens s ops out ∧ out.names = columnsAfterSteps s.names steps := by
  -- what the checks take for the columns after a step are the names of its output
  induction steps generalizing place s p with
  | nil => exact ⟨[], s, by simp [extendBySteps], opens_nil_iff.mpr rfl, rfl⟩
  | cons step steps ih =>
    obtain ⟨hfirst, hrest⟩ := stepFindings_cons_eq_nil_iff.mp hclean
    obtain ⟨front, mid, hmakes, hfront, hmid⟩ :=
      Step.opens_of_clean hfirst (hanchor step List.mem_cons_self) hrun.1
    have hrun' : RunnableSteps mid.names steps := hmid ▸ hrun.2
    obtain ⟨back, out, hsteps, hback, hout⟩ := ih (hmid ▸ hrest)
      (fun other hother => hanchor other (List.mem_cons_of_mem _ hother)) hrun'
      ⟨p.source, p.operators ++ front⟩
    refine ⟨front ++ back, out, ?_, opens_append_iff.mpr ⟨mid, hfront, hback⟩, ?_⟩
    · rw [List.append_assoc] at hsteps
      exact extendBySteps_cons_eq_ok_iff.mpr ⟨_, hmakes.extend_eq p, hsteps⟩
    · rw [hout, hmid]
      rfl

/-- A step without problems whose operators open leaves the names that the checks say. -/
theorem Step.names_of_opens {s out : Schema} {step : Step} {ops : List Operator}
    (hclean : step.problems s.names = []) (hanchor : step.PatternAnchors)
    (hmakes : step.Makes ops) (hopens : Opens s ops out) :
    out.names = step.columnsAfter s.names := by
  obtain ⟨ops', out', hmakes', hopens', hnames⟩ :=
    opens_of_clean hclean hanchor (runnable_of_opens hmakes hopens)
  obtain rfl := hmakes.unique hmakes'
  obtain rfl := hopens.unique hopens'
  exact hnames

/-- Steps without findings whose operators open have found what they need. -/
theorem runnableSteps_of_opens {place : Nat} {steps : List Step} {s out : Schema}
    {p : Pipeline} {ops : List Operator} (hclean : stepFindings place s.names steps = [])
    (hanchor : ∀ step ∈ steps, step.PatternAnchors)
    (hsteps : extendBySteps place p steps = .ok ⟨p.source, p.operators ++ ops⟩)
    (hopens : Opens s ops out) : RunnableSteps s.names steps := by
  obtain ⟨made, hmade, hops⟩ := extendBySteps_eq_ok_iff.mp hsteps
  obtain rfl : ops = made.flatten := by simpa using hops
  clear hsteps hops
  induction hmade generalizing place s with
  | nil => trivial
  | cons hmakes _ ih =>
    obtain ⟨hfirst, hrest⟩ := stepFindings_cons_eq_nil_iff.mp hclean
    obtain ⟨hanchored, hanchor⟩ := List.forall_mem_cons.mp hanchor
    obtain ⟨mid, hfront, hback⟩ := opens_append_iff.mp hopens
    have hnames := Step.names_of_opens hfirst hanchored hmakes hfront
    exact ⟨Step.runnable_of_opens hmakes hfront, hnames ▸ ih (hnames ▸ hrest) hanchor hback⟩

end Checks

/-! ## The whole specification -/

/-- The columns of a pipeline are those of its operators, opened on the columns of its
source. -/
theorem Pipeline.columns_eq_ok_iff {p : Pipeline} {s out : Schema} {fs : FileSystem}
    (hsource : p.source.columns fs = .ok s fs) :
    p.columns fs = .ok out fs ↔ Opens s p.operators out := by
  have hchain : p.openChain fs = Action.ofExcept (Chain.openOn s p.operators) fs := by
    simp [openChain, bind, EStateM.bind, hsource]
  unfold Opens Chain.openOn at *
  cases hstages : openStages s p.operators with
  | error e =>
    simp [columns, bind, EStateM.bind, hchain, hstages, Action.ofExcept]
  | ok opened =>
    simp [columns, bind, EStateM.bind, hchain, hstages, Action.ofExcept, pure, EStateM.pure,
      Prod.ext_iff]

/-- **What a clean validation promises.** If a specification has no findings on the
names of its input's columns, and its patterns can be tied to a text, then it builds
and its operators open one after the other exactly if no selection takes a column
twice, no mapping renames a column that only an entry before it has made, and no
update is without columns. -/
theorem build_opens_iff_runnable [Pattern.Engine] (spec : PipelineSpec) (source : Source)
    (s : Schema) (fs : FileSystem) (hsource : source.columns fs = .ok s fs)
    (hclean : spec.findings s.names = [])
    (hanchor : ∀ step ∈ spec.steps, step.PatternAnchors) :
    (∃ p out, spec.build (Pipeline.ofSource source) = .ok p ∧ p.columns fs = .ok out fs) ↔
      spec.Runnable s.names := by
  have hsteps : stepFindings 0 s.names spec.steps = [] := by
    simp only [PipelineSpec.findings, List.append_eq_nil_iff] at hclean
    exact hclean.2
  constructor
  · rintro ⟨p, out, hbuild, hcolumns⟩
    obtain ⟨ops, rfl⟩ := extendBySteps_appends hbuild
    have hopens := (Pipeline.columns_eq_ok_iff (p := ⟨source, [] ++ ops⟩) hsource).mp hcolumns
    exact runnableSteps_of_opens hsteps hanchor hbuild hopens
  · intro hrun
    obtain ⟨ops, out, hbuild, hopens, -⟩ :=
      extendBySteps_opens hsteps hanchor hrun (Pipeline.ofSource source)
    exact ⟨_, out, hbuild, (Pipeline.columns_eq_ok_iff hsource).mpr hopens⟩

/-- Names that are handed on from column to column. -/
def PipelineSpec.handover : PipelineSpec :=
  { version := "0.1"
    name := "handover"
    steps := [
      .rename ⟨[("c", "d"), ("a", "c")], by decide⟩,
      .filter (.matchText "b" "x+" true),
      .select ["c", "b"] (some ["b", "a"]),
      .update ["a"] (some .null) none] }

theorem handover_build_opens :
    let source := Source.rows ⟨["a", "b", "c"], by decide⟩ []
    PipelineSpec.handover.findings ["a", "b", "c"] = [] ∧
      (∀ step ∈ PipelineSpec.handover.steps, step.PatternAnchors) ∧
      ∃ p out, PipelineSpec.handover.build (Pipeline.ofSource source) = .ok p ∧
        p.columns .empty = .ok out .empty := by
  have hclean : PipelineSpec.handover.findings ["a", "b", "c"] = [] := rfl
  have hanchor : ∀ step ∈ PipelineSpec.handover.steps, step.PatternAnchors := by
    simp only [PipelineSpec.handover, List.forall_mem_cons, List.not_mem_nil, false_implies,
      implies_true, and_true]
    exact ⟨trivial, fun _ => ⟨_, rfl⟩, trivial, trivial⟩
  exact ⟨hclean, hanchor, (build_opens_iff_runnable _ _ _ .empty rfl hclean hanchor).mpr
    (by decide)⟩

/-- A specification of a single step. -/
def PipelineSpec.ofStep (step : Step) : PipelineSpec :=
  { version := "0.1", name := "single step", steps := [step] }

theorem Source.twoNames_nodup : ["a", "b"].Nodup := by decide

/-- A source of two columns without rows. -/
def Source.twoColumns : Source := .rows ⟨["a", "b"], twoNames_nodup⟩ []

/-- The step has no findings on two columns, and yet no pipeline that it makes opens on
them. -/
def Step.CleanButStuck [Pattern.Engine] (step : Step) : Prop :=
  (PipelineSpec.ofStep step).findings ["a", "b"] = [] ∧ step.PatternAnchors ∧
    ¬∃ p out, (PipelineSpec.ofStep step).build (Pipeline.ofSource Source.twoColumns) = .ok p ∧
      p.columns .empty = .ok out .empty

/-- Three steps without findings that do not run: a column taken twice, a mapping that
renames what it has just named, and no column to update. -/
theorem clean_specs_that_do_not_open :
    Step.CleanButStuck (.select ["a", "a"] (some ["x", "y"])) ∧
      Step.CleanButStuck (.rename ⟨[("a", "c"), ("c", "d")], by decide⟩) ∧
      Step.CleanButStuck (.update [] (some .null) none) := by
  refine ⟨⟨rfl, trivial, ?_⟩, ⟨rfl, trivial, ?_⟩, ⟨rfl, trivial, ?_⟩⟩
  · rintro ⟨p, out, hbuild, hcolumns⟩
    cases hbuild
    cases hcolumns
  · rintro ⟨p, out, hbuild, hcolumns⟩
    cases hbuild
    cases hcolumns
  · rintro ⟨p, out, hbuild, -⟩
    cases hbuild

end TableFlow
