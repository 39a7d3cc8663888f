import TableFlow.Proofs.Spec.Running

/-!
# Runs in place

The output of a run is created before the rows of its input are read. If both are one file,
nothing is left of the rows by then, though the columns are known from before.

* `PipelineSpec.Prepared.run_in_place` is what remains of the file: the names of the columns
  that come out, without any rows;
* `PipelineSpec.sameInto_iff` says when a run into another file would have left no more;
* `PipelineSpec.ledger_loses_rows` is a file of two rows that a specification without steps
  empties.
-/

namespace TableFlow

/-! ## Limits of no rows -/

/-- A limit of no rows is among the operators of a step only if it is the step. -/
theorem Step.Makes.limit_mem_iff [Pattern.Engine] {step : Step} {ops : List Operator}
    (h : step.Makes ops) :
    .limit 0 ∈ ops ↔ step = .limit 0 := by
  cases h with
  | limit => simp [← UInt64.toNat_inj, eq_comm]
  | rename => simp [Mapping.renaming]
  | tidy => simp [Tidying.operator]
  | select | selectAs | filter | delete | insert | update | typecastAll | typecast => simp

theorem extendBySteps_mem_limit [Pattern.Engine] {place : Nat} {steps : List Step} {p q : Pipeline}
    (hq : extendBySteps place p steps = .ok q) :
    .limit 0 ∈ q.operators ↔ .limit 0 ∈ p.operators ∨ .limit 0 ∈ steps := by
  obtain ⟨made, hmade, rfl⟩ := extendBySteps_eq_ok_iff.mp hq
  clear hq
  rw [List.mem_append, or_congr_right]
  induction hmade with
  | nil => simp
  | cons hmakes _ ih =>
    rw [List.flatten_cons, List.mem_append, hmakes.limit_mem_iff, ih, List.mem_cons,
      @eq_comm _ (Step.limit 0)]

namespace PipelineSpec

variable {spec : PipelineSpec} {inputPath outputPath : Option String} {fs after : FileSystem}
  {input output : CsvFile} {schema : Schema} {p : Pipeline} {chain : Chain}

section

variable [Pattern.Engine]

/-- A prepared run has nothing to do from the start exactly if one of its steps is a limit
of no rows. -/
theorem Prepared.isExhausted_iff (h : spec.Prepared inputPath fs input schema p chain) :
    chain.isExhausted = true ↔ .limit 0 ∈ spec.steps := by
  have hsteps := extendBySteps_mem_limit h.build_eq
  simp only [Pipeline.ofSource, List.not_mem_nil, false_or] at hsteps
  exact (Chain.isExhausted_of_openOn h.openOn_eq).trans hsteps

/-! ## Files at a path -/

theorem Prepared.input_path {path : String}
    (h : spec.Prepared (some path) fs input schema p chain) : input.path = path :=
  (inputFile_eq_ok rfl h.input_eq).1

/-- A run with an output path that ends well has an output there. -/
theorem exists_output_of_run {path : String} {report : RunReport}
    (hrun : spec.run inputPath (some path) fs = .ok report after) :
    ∃ output, spec.outputFile (some path) = .ok (some output) ∧ output.path = path := by
  obtain ⟨input, schema, p, chain, hprepared⟩ := exists_prepared_of_run hrun
  rw [hprepared.run_eq] at hrun
  cases houtput : spec.outputFile (some path) with
  | error e => simp [houtput] at hrun
  | ok found =>
    obtain ⟨output, hfile, rfl⟩ := Result.map_eq_ok_iff.mp houtput
    exact ⟨output, rfl, (withDelimiterText_eq_ok hfile).1⟩

end

/-- The delimiter of an output at a path. -/
def outputDelimiter (spec : PipelineSpec) (path : String) : Outcome (Option UInt8) :=
  (spec.outputFile (some path)).map (Option.map CsvFile.delimiter)

theorem exists_output_of_delimiter {path other : String}
    (houtput : spec.outputFile (some path) = .ok (some output))
    (hsame : spec.outputDelimiter other = spec.outputDelimiter path) :
    ∃ file, spec.outputFile (some other) = .ok (some file) ∧ file.path = other ∧
      file.delimiter = output.delimiter := by
  unfold outputDelimiter at hsame
  rw [houtput] at hsame
  obtain ⟨found, hfound, hdelimiter⟩ := Result.map_eq_ok_iff.mp hsame
  obtain ⟨file, hfile, rfl⟩ := Result.map_eq_ok_iff.mp hfound
  exact ⟨file, hfound, (withDelimiterText_eq_ok hfile).1, by simpa using hdelimiter⟩

/-! ## In place -/

/-- A run in place reads no rows and leaves no rows behind. -/
theorem Prepared.run_in_place [Pattern.Engine] {path : String} {report : RunReport}
    (h : spec.Prepared (some path) fs input schema p chain)
    (houtput : spec.outputFile (some path) = .ok (some output)) (hpath : output.path = path)
    (hrun : spec.run (some path) (some path) fs = .ok report after) :
    report.rowsRead = 0 ∧ report.rowsWritten = 0 ∧
      after.read path = .ok (Csv.ofTexts output.delimiter [chain.schema.names]) := by
  obtain ⟨made, place, items, hroom, hitems, -⟩ := h.exists_of_run houtput hrun
  rw [hpath] at hroom
  have hemptied := FileSystem.lookup_put_self hroom.place_eq []
  rw [← h.input_path] at hemptied
  obtain rfl := CsvFile.rowsIn_of_empty hemptied hitems
  rw [h.run_into houtput (hpath ▸ hroom) hitems] at hrun
  obtain ⟨rfl, rfl⟩ := (EStateM.Result.ok.injEq ..).mp hrun
  refine ⟨?_, rfl, ?_⟩
  · simp [Chain.passage, Pipeline.chainIn_stats h.chain_eq]
  · rw [FileSystem.read, FileSystem.lookup_put_self hroom.place_eq]
    rfl

/-! ## Into a fresh file -/

/-- A file is another one than a file that is not there yet. -/
theorem not_samePlace_of_fresh {path fresh : String} {content : List UInt8} {made : FileSystem}
    {place : List String} (hfile : fs.lookup path = .ok (.file content))
    (hroom : fs.RoomFor fresh made place) (hfree : made.node? place = none) :
    ¬made.SamePlace path fresh := by
  rintro ⟨there, hpath, hfresh⟩
  have hlater := FileSystem.lookup_mono (FileSystem.createDirectories_extends hroom.made_eq) hfile
  obtain ⟨-, -, found, hfound, hnode⟩ := FileSystem.lookup_eq_ok_iff.mp hlater
  rw [FileSystem.walk_of_filePlace hroom.place_eq] at hfresh
  cases hfresh
  rw [hpath] at hfound
  cases hfound
  rw [hfree] at hnode
  cases hnode

section

variable [Pattern.Engine]

/-- A run on a file into a fresh one reads the rows of the file. -/
theorem Prepared.run_into_fresh {path fresh : String} {content : List UInt8}
    (h : spec.Prepared (some path) fs input schema p chain)
    (hfile : fs.lookup path = .ok (.file content)) (hfresh : fs.Fresh fresh)
    (houtput : spec.outputFile (some fresh) = .ok (some output)) (hpath : output.path = fresh) :
    ∃ items after, input.rowsIn fs = .ok items ∧
      after.read fresh =
        .ok ((chain.passage items).inFile output.delimiter chain.schema.names) ∧
      spec.run (some path) (some fresh) fs =
        match (chain.passage items).error with
        | some e => .error ⟨[.runPipeline spec.name], .error e⟩ after
        | none =>
          .ok ⟨(chain.passage items).chain.stats.read, (chain.passage items).rows.length,
            schema.width, chain.schema.width, spec.steps.length, some fresh⟩ after := by
  subst hpath
  obtain ⟨made, place, hroom, hfree⟩ := hfresh
  have hapart := not_samePlace_of_fresh hfile hroom hfree
  rw [← h.input_path] at hapart hfile
  obtain ⟨items, hitems⟩ := CsvFile.exists_rowsIn h.schema_eq hfile
  have hopened := CsvFile.rowsIn_of_kept (hroom.lookup_opened [] hapart) hitems
  refine ⟨items, _, hitems, ?_, h.run_into houtput hroom hopened⟩
  rw [FileSystem.read, FileSystem.lookup_put_self hroom.place_eq]

/-- A run into another file tells the same numbers of rows as this report, and leaves the
content there that stands at the path now. -/
def SameInto (spec : PipelineSpec) (path fresh : String) (fs : FileSystem) (report : RunReport)
    (after : FileSystem) : Prop :=
  ∃ other later, spec.run (some path) (some fresh) fs = .ok other later ∧
    report.rowsRead = other.rowsRead ∧ report.rowsWritten = other.rowsWritten ∧
    after.read path = later.read fresh

end

/-- Running in place gives what a run into a fresh file gives exactly if there are no rows
to lose: the input has none, or one of the steps is a limit of no rows. -/
theorem sameInto_iff [Pattern.Engine] {path fresh : String} {content : List UInt8}
    {report : RunReport} (hfile : fs.lookup path = .ok (.file content))
    (hrun : spec.run (some path) (some path) fs = .ok report after)
    (hfresh : fs.Fresh fresh)
    (hdelimiter : spec.outputDelimiter fresh = spec.outputDelimiter path) :
    spec.SameInto path fresh fs report after ↔
      (∃ input, spec.inputFile (some path) = .ok input ∧ input.rows fs = .ok [] fs) ∨
        .limit 0 ∈ spec.steps := by
  obtain ⟨input, schema, p, chain, hprepared⟩ := exists_prepared_of_run hrun
  obtain ⟨output, houtput, hpath⟩ := exists_output_of_run hrun
  obtain ⟨other, hother, hotherPath, hsame⟩ := exists_output_of_delimiter houtput hdelimiter
  obtain ⟨hread, hwritten, hcontent⟩ := hprepared.run_in_place houtput hpath hrun
  obtain ⟨items, later, hitems, hlater, hfreshRun⟩ :=
    hprepared.run_into_fresh hfile hfresh hother hotherPath
  have hstats := Pipeline.chainIn_stats hprepared.chain_eq
  have hrows : ∀ found, input.rows fs = .ok found fs ↔ found = items := by
    intro found
    rw [CsvFile.rows_eq_ok_iff, hitems, Except.ok.injEq, eq_comm]
  unfold SameInto
  rw [hread, hwritten, hcontent, hfreshRun, ← hsame]
  constructor
  · rintro ⟨otherReport, otherAfter, hok, hreadSame, -, -⟩
    cases herror : (chain.passage items).error with
    | some e => simp [herror] at hok
    | none =>
      simp only [herror] at hok
      obtain ⟨rfl, -⟩ := (EStateM.Result.ok.injEq ..).mp hok
      by_cases hend : chain.isExhausted = true
      · exact .inr (hprepared.isExhausted_iff.mp hend)
      · -- a chain that is not over reads the first of the items, if there is one
        left
        refine ⟨input, hprepared.input_eq, (hrows []).mpr ?_⟩
        by_contra hsome
        have hreads := Chain.passage_reads hend (Ne.symm hsome) herror
        rw [hstats] at hreads
        simp only at hreads hreadSame
        omega
  · intro hnothing
    have hpassage : chain.passage items = ⟨[], none, chain, items⟩ := by
      rcases hnothing with ⟨found, hfound, hnone⟩ | hlimit
      · obtain rfl : input = found := Except.ok.inj (hprepared.input_eq.symm.trans hfound)
        rw [← (hrows []).mp hnone]
        rfl
      · exact Chain.passage_of_isExhausted (hprepared.isExhausted_iff.mpr hlimit) items
    refine ⟨_, later, by rw [hpassage], ?_, rfl, ?_⟩
    · rw [hstats]
    · rw [hlater, hpassage]
      rfl

/-! ## A file that loses its rows -/

/-- No steps: all rows are to stay as they are. -/
def untouched : PipelineSpec := { version := "0.1", name := "copy", steps := [] }

/-- Two rows below their names. -/
def ledger : FileSystem := ⟨[(["p.csv"], .file (Utf8.ofString "a,b\n1,2\n3,4\n"))]⟩

def ledgerFile : CsvFile := ⟨"p.csv", none, CsvFile.comma⟩

theorem untouched_prepared : untouched.Prepared (some "p.csv") ledger ledgerFile
    ⟨["a", "b"], by decide⟩ ⟨.csv ledgerFile, []⟩ ⟨[], ⟨["a", "b"], by decide⟩, ⟨0, 0⟩, false⟩ :=
  ⟨rfl, rfl, rfl, rfl, rfl⟩

/-- In place, only the names stay. -/
theorem untouched_in_place :
    untouched.run (some "p.csv") (some "p.csv") ledger = .ok ⟨0, 0, 2, 2, 0, some "p.csv"⟩
      (ledger.put ["p.csv"] (.file (Utf8.ofString "a,b\n"))) := by
  have hitems : ledgerFile.rowsIn (ledger.put ["p.csv"] (.file [])) = .ok [] := rfl
  have houtput : untouched.outputFile (some "p.csv") = .ok (some ledgerFile) := rfl
  rw [untouched_prepared.run_into houtput (FileSystem.roomFor_top rfl rfl) hitems]
  rfl

/-- In another file, there are two rows. -/
theorem untouched_into_q :
    untouched.run (some "p.csv") (some "q.csv") ledger = .ok ⟨2, 2, 2, 2, 0, some "q.csv"⟩
      (ledger.put ["q.csv"] (.file (Utf8.ofString "a,b\n1,2\n3,4\n"))) := by
  have hitems : ledgerFile.rowsIn (ledger.put ["q.csv"] (.file [])) =
      .ok [.ok (0, [.str "1", .str "2"]), .ok (1, [.str "3", .str "4"])] := rfl
  have houtput : untouched.outputFile (some "q.csv") =
      .ok (some ⟨"q.csv", none, CsvFile.comma⟩) := rfl
  rw [untouched_prepared.run_into houtput (FileSystem.roomFor_top rfl rfl) hitems]
  rfl

theorem ledger_fresh : ledger.Fresh "q.csv" :=
  ⟨ledger, ["q.csv"], FileSystem.roomFor_top rfl rfl, rfl⟩

theorem ledger_lookup :
    ledger.lookup "p.csv" = .ok (.file (Utf8.ofString "a,b\n1,2\n3,4\n")) := rfl

theorem untouched_outputDelimiter :
    untouched.outputDelimiter "q.csv" = untouched.outputDelimiter "p.csv" := by
  have hq : untouched.outputDelimiter "q.csv" = .ok (some CsvFile.comma) := rfl
  have hp : untouched.outputDelimiter "p.csv" = .ok (some CsvFile.comma) := rfl
  rw [hq, hp]

/-- A run in place that ends well has lost both rows, which a run into a fresh file keeps. -/
theorem ledger_loses_rows :
    ledger.lookup "p.csv" = .ok (.file (Utf8.ofString "a,b\n1,2\n3,4\n")) ∧
      ledger.Fresh "q.csv" ∧
      untouched.outputDelimiter "q.csv" = untouched.outputDelimiter "p.csv" ∧
      untouched.run (some "p.csv") (some "p.csv") ledger = .ok ⟨0, 0, 2, 2, 0, some "p.csv"⟩
        (ledger.put ["p.csv"] (.file (Utf8.ofString "a,b\n"))) ∧
      untouched.run (some "p.csv") (some "q.csv") ledger = .ok ⟨2, 2, 2, 2, 0, some "q.csv"⟩
        (ledger.put ["q.csv"] (.file (Utf8.ofString "a,b\n1,2\n3,4\n"))) ∧
      ¬untouched.SameInto "p.csv" "q.csv" ledger ⟨0, 0, 2, 2, 0, some "p.csv"⟩
        (ledger.put ["p.csv"] (.file (Utf8.ofString "a,b\n"))) := by
  refine ⟨ledger_lookup, ledger_fresh, untouched_outputDelimiter, untouched_in_place,
    untouched_into_q, ?_⟩
  rintro ⟨other, later, hrun, hread, -⟩
  rw [untouched_into_q] at hrun
  obtain ⟨rfl, -⟩ := (EStateM.Result.ok.injEq ..).mp hrun
  cases hread

theorem ledger_sameInto_iff :
    ledger.lookup "p.csv" = .ok (.file (Utf8.ofString "a,b\n1,2\n3,4\n")) ∧
      untouched.run (some "p.csv") (some "p.csv") ledger = .ok ⟨0, 0, 2, 2, 0, some "p.csv"⟩
        (ledger.put ["p.csv"] (.file (Utf8.ofString "a,b\n"))) ∧
      ledger.Fresh "q.csv" ∧
      untouched.outputDelimiter "q.csv" = untouched.outputDelimiter "p.csv" ∧
      (untouched.SameInto "p.csv" "q.csv" ledger ⟨0, 0, 2, 2, 0, some "p.csv"⟩
          (ledger.put ["p.csv"] (.file (Utf8.ofString "a,b\n"))) ↔
        (∃ input, untouched.inputFile (some "p.csv") = .ok input ∧
            input.rows ledger = .ok [] ledger) ∨
          .limit 0 ∈ untouched.steps) :=
  ⟨ledger_lookup, untouched_in_place, ledger_fresh, untouched_outputDelimiter,
    sameInto_iff ledger_lookup untouched_in_place ledger_fresh untouched_outputDelimiter⟩

end PipelineSpec

end TableFlow
