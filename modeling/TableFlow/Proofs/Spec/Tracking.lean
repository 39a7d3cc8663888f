import TableFlow.Proofs.Spec.Soundness

/-!
# Names on the way through a specification

The checks of a specification carry a list of names from step to step, and never look at
a pipeline. `build_take_columns` says that the list is right at every step: after any
number of steps it holds the names of the columns of the pipeline that these steps make.

A specification is cut between two steps. `stepFindings_append` and `runnableSteps_append`
say what the second part is checked against, and what each of them needs.
-/

namespace TableFlow

/-! ## Patterns of steps that were built -/

section

variable [Pattern.Engine]

theorem Condition.patternAnchors_of_predicate {condition : Condition} {p : Predicate}
    (hp : condition.predicate = .ok p) : condition.PatternAnchors := by
  cases condition with
  | compare op column value => trivial
  | isEmpty column => trivial
  | matchText column pattern whole =>
    intro _
    rw [predicate, Predicate.ofPattern] at hp
    split at hp
    · cases hp
    · rename_i compiled hcompiled
      exact ⟨compiled, hcompiled⟩

/-- The pattern of a step that makes operators has been tied to a text. -/
theorem Step.Makes.patternAnchors {step : Step} {ops : List Operator} (h : step.Makes ops) :
    step.PatternAnchors := by
  cases h with
  | filter hp => exact Condition.patternAnchors_of_predicate hp
  | delete hp => exact Condition.patternAnchors_of_predicate hp
  | select | selectAs | rename | limit | insert | update | typecastAll | typecast | tidy => trivial

theorem patternAnchors_of_extendBySteps {place : Nat} {steps : List Step} {p q : Pipeline}
    (hq : extendBySteps place p steps = .ok q) : ∀ step ∈ steps, step.PatternAnchors := by
  obtain ⟨made, hmade, -⟩ := extendBySteps_eq_ok_iff.mp hq
  clear hq
  induction hmade with
  | nil => simp
  | cons hmakes _ ih => exact List.forall_mem_cons.mpr ⟨hmakes.patternAnchors, ih⟩

end

/-! ## Cutting a list of steps -/

/-- Steps behind others are checked against the names that those leave. -/
theorem stepFindings_append [Pattern.Engine] (place : Nat) (available : List String)
    (xs ys : List Step) :
    stepFindings place available (xs ++ ys) = stepFindings place available xs ++
      stepFindings (place + xs.length) (columnsAfterSteps available xs) ys := by
  induction xs generalizing place available with
  | nil => rfl
  | cons step xs ih =>
    have hplace : place + (xs.length + 1) = place + 1 + xs.length := by omega
    simp only [List.cons_append, stepFindings, ih, List.length_cons, hplace, List.append_assoc]
    rfl

theorem runnableSteps_append {available : List String} {xs ys : List Step} :
    RunnableSteps available (xs ++ ys) ↔
      RunnableSteps available xs ∧ RunnableSteps (columnsAfterSteps available xs) ys := by
  induction xs generalizing available with
  | nil => simp [RunnableSteps, columnsAfterSteps]
  | cons step xs ih =>
    simp only [List.cons_append, RunnableSteps, ih, and_assoc]
    rfl

/-! ## The names after every step -/

/-- The specification that ends after some of its steps. -/
def PipelineSpec.firstSteps (spec : PipelineSpec) (count : Nat) : PipelineSpec :=
  { spec with steps := spec.steps.take count }

/-- The names that the checks of a specification hold after some of its steps. -/
def PipelineSpec.namesAfter (spec : PipelineSpec) (available : List String) (count : Nat) :
    List String :=
  columnsAfterSteps available (spec.steps.take count)

/-- If a specification has no findings, and it builds and opens, then the pipeline of its
first steps builds and opens too, however many steps these are, and its columns have the
names that the checks hold after them. -/
theorem build_take_columns [Pattern.Engine] (spec : PipelineSpec) (source : Source) (s : Schema)
    (fs : FileSystem) (hsource : source.columns fs = .ok s fs)
    (hclean : spec.findings s.names = [])
    (hopens : ∃ p out, spec.build (Pipeline.ofSource source) = .ok p ∧
      p.columns fs = .ok out fs) (count : Nat) :
    ∃ p out, (spec.firstSteps count).build (Pipeline.ofSource source) = .ok p ∧
      p.columns fs = .ok out fs ∧ out.names = spec.namesAfter s.names count := by
  obtain ⟨p, out, hbuild, hcolumns⟩ := hopens
  have hsteps : stepFindings 0 s.names spec.steps = [] := by
    simp only [PipelineSpec.findings, List.append_eq_nil_iff] at hclean
    exact hclean.2
  have hanchor : ∀ step ∈ spec.steps, step.PatternAnchors := patternAnchors_of_extendBySteps hbuild
  -- the specification opens, so it leaves nothing open, and neither do its first steps
  have hrun : RunnableSteps s.names spec.steps := by
    obtain ⟨ops, rfl⟩ := extendBySteps_appends hbuild
    have hopens := (Pipeline.columns_eq_ok_iff (p := ⟨source, [] ++ ops⟩) hsource).mp hcolumns
    exact runnableSteps_of_opens hsteps hanchor hbuild hopens
  rw [← List.take_append_drop count spec.steps] at hsteps hrun
  rw [stepFindings_append, List.append_eq_nil_iff] at hsteps
  obtain ⟨ops, mid, hfirst, hmid, hnames⟩ :=
    extendBySteps_opens hsteps.1
      (fun step hstep => hanchor step (List.mem_of_mem_take hstep))
      (runnableSteps_append.mp hrun).1 (Pipeline.ofSource source)
  exact ⟨_, mid, hfirst, (Pipeline.columns_eq_ok_iff hsource).mpr hmid, hnames⟩

/-- After three of its four steps, the columns of a pipeline have been renamed, filtered
and taken in another order under other names. -/
theorem handover_take_columns :
    let source := Source.rows ⟨["a", "b", "c"], by decide⟩ []
    PipelineSpec.handover.findings ["a", "b", "c"] = [] ∧
      (∃ p out, PipelineSpec.handover.build (Pipeline.ofSource source) = .ok p ∧
        p.columns .empty = .ok out .empty) ∧
      PipelineSpec.handover.namesAfter ["a", "b", "c"] 1 = ["c", "b", "d"] ∧
      PipelineSpec.handover.namesAfter ["a", "b", "c"] 3 = ["b", "a"] ∧
      ∃ p out, (PipelineSpec.handover.firstSteps 3).build (Pipeline.ofSource source) = .ok p ∧
        p.columns .empty = .ok out .empty ∧
          out.names = PipelineSpec.handover.namesAfter ["a", "b", "c"] 3 := by
  have hclean : PipelineSpec.handover.findings ["a", "b", "c"] = [] := rfl
  have hopens : ∃ p out, PipelineSpec.handover.build
      (Pipeline.ofSource (.rows ⟨["a", "b", "c"], by decide⟩ [])) = .ok p ∧
        p.columns .empty = .ok out .empty := ⟨_, _, rfl, rfl⟩
  exact ⟨hclean, hopens, rfl, rfl, build_take_columns _ _ _ .empty rfl hclean hopens 3⟩

end TableFlow
