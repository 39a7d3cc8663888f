import TableFlow.Proofs.Result
import TableFlow.Spec.Run

/-!
# Checks and runs

A run checks its specification before it does anything else, and rejects it only for
what this check finds.

* `verdict` is what a check found, if it came to know the columns of the input;
* `PipelineSpec.check_eq` and `PipelineSpec.run_eq` take a check and a run apart;
* `PipelineSpec.run_rejects_iff` ties the failure of a run to the verdict.

The last one needs that nothing else in a run fails in the same way. `Action.FailsWith`
says this of an action, and goes through its parts.
-/

namespace TableFlow

/-! ## Failures of actions -/

namespace Action

variable {α β : Type}

/-- Whatever an action fails with satisfies a condition. -/
def FailsWith (P : Failure → Prop) (a : Action Failure α) : Prop :=
  ∀ fs failure after, a fs = .error failure after → P failure

namespace FailsWith

variable {P : Failure → Prop}

theorem bind {a : Action Failure α} {f : α → Action Failure β} (ha : a.FailsWith P)
    (hf : ∀ x, (f x).FailsWith P) : (a >>= f).FailsWith P := by
  intro fs failure after h
  change EStateM.bind a f fs = .error failure after at h
  unfold EStateM.bind at h
  split at h
  · exact hf _ _ _ _ h
  · rename_i hfail
    cases h
    exact ha _ _ _ hfail

theorem pure (x : α) : (Pure.pure x : Action Failure α).FailsWith P := by
  intro fs failure after h
  cases h

theorem ofExcept {r : Outcome α} (h : ∀ failure, r = .error failure → P failure) :
    (Action.ofExcept r).FailsWith P := by
  intro fs failure after hfail
  unfold Action.ofExcept at hfail
  split at hfail
  · cases hfail
  · cases hfail
    exact h _ rfl

theorem within {a : Action Error α} {activities : List Activity}
    (h : ∀ e, P ⟨activities, .error e⟩) : (a.within activities).FailsWith P := by
  intro fs failure after hfail
  unfold Action.within Action.mapError at hfail
  split at hfail
  · cases hfail
  · cases hfail
    exact h _

end FailsWith

end Action

/-! ## Checks and what the commands make of them -/

/-- What a check found, if it came to know the columns of the input. -/
def verdict : EStateM.Result Failure FileSystem CheckedInput → Option (List Finding)
  | .ok checked _ => some checked.findings
  | .error _ _ => none

namespace PipelineSpec

section

variable [Pattern.Engine]

theorem checkAgainst_eq (spec : PipelineSpec) (input : CsvFile) (fs : FileSystem) :
    spec.checkAgainst input fs =
      match input.columnsIn fs with
      | .error e => .error ⟨[.readHeader input.path], .error e⟩ fs
      | .ok schema => .ok ⟨input, schema, spec.findings schema.names⟩ fs := by
  show EStateM.bind _ _ fs = _
  simp only [EStateM.bind, Action.within, Action.mapError, CsvFile.columns, Action.inspect]
  cases input.columnsIn fs <;> rfl

theorem verdict_checkAgainst (spec : PipelineSpec) (input : CsvFile) (fs : FileSystem) :
    verdict (spec.checkAgainst input fs) =
      (input.columnsIn fs).toOption.map fun schema => spec.findings schema.names := by
  rw [checkAgainst_eq]
  cases input.columnsIn fs <;> rfl

theorem check_eq (spec : PipelineSpec) (inputPath : Option String) (fs : FileSystem) :
    spec.check inputPath fs =
      match spec.inputFile inputPath with
      | .error e => .error e fs
      | .ok input => spec.checkAgainst input fs := by
  show EStateM.bind _ _ fs = _
  simp only [EStateM.bind, Action.ofExcept]
  cases spec.inputFile inputPath <;> rfl

/-- A run checks the specification, and goes on only without findings. -/
theorem run_eq (spec : PipelineSpec) (inputPath outputPath : Option String) (fs : FileSystem) :
    spec.run inputPath outputPath fs =
      match spec.check inputPath fs with
      | .error e after => .error e after
      | .ok checked after =>
        if checked.findings = [] then
          spec.carryOut checked.input checked.schema outputPath after
        else .error (.ofCause (.invalidSpec checked.findings)) after := by
  show EStateM.bind _ _ fs = _
  simp only [EStateM.bind]
  cases spec.check inputPath fs with
  | error e after => rfl
  | ok checked after =>
    obtain ⟨input, schema, findings⟩ := checked
    cases findings <;> rfl

end

/-! What fails without being a rejection of the specification. -/

/-- The failure is not that of a specification with findings. -/
def NotRejected (failure : Failure) : Prop := ∀ findings, failure.cause ≠ .invalidSpec findings

theorem notRejected_error (activities : List Activity) (e : Error) :
    NotRejected ⟨activities, .error e⟩ := by
  intro findings heq
  cases heq

theorem withDelimiterText_fails {f : CsvFile} {text : Option String} {failure : Failure}
    (h : f.withDelimiterText text = .error failure) : NotRejected failure := by
  cases text with
  | none => cases h
  | some text =>
    simp only [CsvFile.withDelimiterText, Result.map_eq_error_iff] at h
    unfold parseDelimiter at h
    split at h
    · cases h
    · split at h
      · cases h
      · cases h
        intro findings heq
        cases heq

theorem inputFile_fails {spec : PipelineSpec} {inputPath : Option String} {failure : Failure}
    (h : spec.inputFile inputPath = .error failure) : NotRejected failure := by
  unfold inputFile at h
  split at h
  · cases h
    intro findings heq
    cases heq
  · exact withDelimiterText_fails (Result.map_eq_error_iff.mp h)

theorem outputFile_fails {spec : PipelineSpec} {outputPath : Option String} {failure : Failure}
    (h : spec.outputFile outputPath = .error failure) : NotRejected failure := by
  unfold outputFile at h
  split at h
  · cases h
  · exact withDelimiterText_fails (Result.map_eq_error_iff.mp h)

section

variable [Pattern.Engine]

/-- A step is refused for an error of the library, or for what an update lacks. -/
theorem extend_fails {step : Step} {p : Pipeline} {cause : Cause}
    (h : step.extend p = .error cause) : (∃ e, cause = .error e) ∨ cause = .updateSource := by
  have herror : ∀ {x : Result Pipeline}, x.mapError Cause.error = .error cause →
      (∃ e, cause = .error e) ∨ cause = .updateSource := by
    intro x hx
    obtain ⟨e, -, he⟩ := Result.mapError_eq_error_iff.mp hx
    exact Or.inl ⟨e, he.symm⟩
  cases step with
  | select columns names =>
    cases names with
    | none => cases h
    | some names => exact herror h
  | rename mapping => exact herror h
  | filter condition => exact herror h
  | delete condition => exact herror h
  | limit rows => cases h
  | insert name position value =>
    rw [Step.extend] at h
    exact herror h
  | update columns value mapping =>
    rw [Step.extend] at h
    split at h
    · exact herror h
    · cases h
      exact Or.inr rfl
  | typecast types => cases types <;> cases h
  | tidy op columns => exact herror h

theorem build_fails {spec : PipelineSpec} {p : Pipeline} {failure : Failure}
    (h : spec.build p = .error failure) : NotRejected failure := by
  unfold build at h
  -- the place of a step is only told in failures
  generalize 0 = place at h
  generalize spec.steps = steps at h
  induction steps generalizing place p with
  | nil => cases h
  | cons step steps ih =>
    rw [extendBySteps] at h
    split at h
    · rename_i cause hstep
      cases h
      intro findings heq
      rcases extend_fails hstep with ⟨e, rfl⟩ | rfl
      · cases heq
      · cases heq
    · exact ih _ h

theorem check_fails (spec : PipelineSpec) (inputPath : Option String) :
    (spec.check inputPath).FailsWith NotRejected := by
  refine Action.FailsWith.bind (Action.FailsWith.ofExcept fun _ => inputFile_fails) fun input => ?_
  refine Action.FailsWith.bind (Action.FailsWith.within (notRejected_error _)) fun schema => ?_
  exact Action.FailsWith.pure _

theorem carryOut_fails (spec : PipelineSpec) (input : CsvFile) (schema : Schema)
    (outputPath : Option String) : (spec.carryOut input schema outputPath).FailsWith NotRejected := by
  refine Action.FailsWith.bind (Action.FailsWith.ofExcept fun _ => build_fails) fun pipeline => ?_
  refine Action.FailsWith.bind (Action.FailsWith.within (notRejected_error _)) fun columns => ?_
  refine Action.FailsWith.bind (Action.FailsWith.ofExcept fun _ => outputFile_fails) fun output => ?_
  refine Action.FailsWith.bind (Action.FailsWith.within (notRejected_error _)) fun written => ?_
  exact Action.FailsWith.pure _

/-- The findings with which a run fails are those of its check. -/
theorem run_rejects_iff {spec : PipelineSpec} {inputPath outputPath : Option String}
    {fs : FileSystem} {findings : List Finding} :
    (∃ failure after, spec.run inputPath outputPath fs = .error failure after ∧
        failure.cause = .invalidSpec findings) ↔
      findings ≠ [] ∧ verdict (spec.check inputPath fs) = some findings := by
  rw [run_eq]
  cases hcheck : spec.check inputPath fs with
  | error failure after =>
    have hcause := check_fails spec inputPath fs failure after hcheck findings
    simp [verdict, hcause]
  | ok checked after =>
    by_cases hnone : checked.findings = []
    · -- what fails behind a clean check is never a rejection
      simp only [verdict, hnone]
      constructor
      · rintro ⟨failure, last, hfail, hcause⟩
        exact absurd hcause (carryOut_fails spec _ _ _ _ _ _ hfail findings)
      · rintro ⟨hsome, hsame⟩
        cases hsame
        exact absurd rfl hsome
    · simp only [if_neg hnone, verdict]
      constructor
      · rintro ⟨failure, last, hfail, hcause⟩
        cases hfail
        cases hcause
        exact ⟨hnone, rfl⟩
      · rintro ⟨-, hsame⟩
        cases hsame
        exact ⟨_, _, rfl, rfl⟩

end

/-! ## Files of a run -/

/-- A delimiter that is named is that of the file; the rest of the file stays. -/
theorem withDelimiterText_eq_ok {f file : CsvFile} {named : Option String}
    (h : f.withDelimiterText named = .ok file) :
    file.path = f.path ∧ file.names = f.names ∧
      ∀ text, named = some text → parseDelimiter text = .ok file.delimiter := by
  cases named with
  | none =>
    cases h
    refine ⟨rfl, rfl, ?_⟩
    intro text htext
    cases htext
  | some text =>
    obtain ⟨delimiter, hparse, rfl⟩ := Result.map_eq_ok_iff.mp h
    refine ⟨rfl, rfl, ?_⟩
    intro other hother
    cases hother
    exact hparse

/-- The input that a run reads is at the path, under the names that are given, and with
the delimiter that is named. -/
theorem inputFile_eq_ok {spec : PipelineSpec} {inputPath : Option String} {path : String}
    {file : CsvFile} (hpath : (inputPath <|> spec.input.path) = some path)
    (h : spec.inputFile inputPath = .ok file) :
    file.path = path ∧ file.names = spec.input.header ∧
      ∀ text, spec.input.delimiter = some text → parseDelimiter text = .ok file.delimiter := by
  unfold inputFile at h
  rw [hpath] at h
  obtain ⟨read, hread, rfl⟩ := Result.map_eq_ok_iff.mp h
  obtain ⟨hsame, hnames, hdelimiter⟩ := withDelimiterText_eq_ok hread
  cases hheader : spec.input.header with
  | none => exact ⟨hsame, hnames, hdelimiter⟩
  | some names => exact ⟨hsame, rfl, hdelimiter⟩

end PipelineSpec

end TableFlow
