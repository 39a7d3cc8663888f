import TableFlow.CommandLine.Run
import TableFlow.Pattern.Grammar
import TableFlow.Proofs.Files.Refill
import TableFlow.Proofs.Schema.Names
import TableFlow.Proofs.Spec.Verdict

/-!
# The verdict of the validate command

Two commands check a specification against the header of its input. A run reads the
header with the delimiter of the specification, or takes the column names that it gives;
the validate command goes by the ending of the file name alone.

* `validateSpec_of_load` and `validateSpec_accepts_iff` are the response of the validate
  command to its own check, `review`;
* `answers_of_load` is what the two commands answer, also where they find the same;
* `judgedAlike_iff` is the condition on the input of a specification under which the two
  commands find the same in every file system.

That they do not always agree is seen on files of a single byte: as a delimiter it makes
two empty names, and under another delimiter it is one name.
-/

namespace TableFlow

/-! ## Columns of small files -/

namespace CsvFile

theorem columnsIn_of_names {f : CsvFile} {names : List String} (h : f.names = some names)
    (fs : FileSystem) : f.columnsIn fs = Schema.ofNames names := by
  unfold columnsIn
  rw [h]

theorem columnsIn_of_lookup {f : CsvFile} {fs : FileSystem} {path : String}
    {content : List UInt8} (hpath : f.path = path) (hnames : f.names = none)
    (hfile : fs.lookup path = .ok (.file content)) :
    f.columnsIn fs =
      (Csv.header (Csv.scan f.delimiter content)).mapError Error.csv >>= Schema.ofNames := by
  have hrecords : f.openRecords fs = .ok (.ok (Csv.scan f.delimiter content)) := by
    simp only [openRecords, hpath, hfile]
  simp only [columnsIn, hnames, hrecords]
  cases Csv.header (Csv.scan f.delimiter content) <;> rfl

/-- Without files there is no header to read. -/
theorem columnsIn_empty {f : CsvFile} (hnames : f.names = none) :
    ∃ e, f.columnsIn .empty = .error e := by
  unfold columnsIn openRecords
  rw [hnames]
  cases hlookup : FileSystem.empty.lookup f.path with
  | error e => exact ⟨_, rfl⟩
  | ok node =>
    cases node with
    | directory => exact ⟨_, rfl⟩
    | file content => exact absurd hlookup (FileSystem.lookup_empty f.path content)

theorem inferDelimiter_cases (path : String) :
    inferDelimiter path = comma ∨ inferDelimiter path = tab := by
  simp only [inferDelimiter]
  split
  · exact Or.inr rfl
  · exact Or.inl rfl

end CsvFile

/-- A file with nothing but its delimiter has two empty names. -/
theorem Csv.header_delimiter {b : UInt8} (h : b = CsvFile.comma ∨ b = CsvFile.tab) :
    Csv.header (Csv.scan b [b]) = .ok ["", ""] := by
  rcases h with rfl | rfl <;> rfl

/-- Under another delimiter it is one name. -/
theorem Csv.header_other {b d : UInt8} (h : b = CsvFile.comma ∨ b = CsvFile.tab)
    (hne : b ≠ d) : ∃ name, Csv.header (Csv.scan d [b]) = .ok [name] := by
  have hstep : Csv.step d .recordStart .empty b = ⟨.inField, ⟨[], [b]⟩, none⟩ := by
    rcases h with rfl | rfl <;>
      · simp only [Csv.step, Csv.recordStartStep, Csv.fieldStartStep, Csv.fieldStep, if_neg hne]
        rfl
  have hmark : Csv.skipMark [b] = (0, [b]) := by
    rcases h with rfl | rfl <;> rfl
  have hscan : Csv.scan d [b] = [⟨.start, [[b]]⟩] := by
    simp only [Csv.scan, hmark, Csv.scanFrom, hstep]
    rfl
  rw [hscan]
  rcases h with rfl | rfl
  · exact ⟨",", rfl⟩
  · exact ⟨"\t", rfl⟩

namespace CsvFile

/-! The files in which the two readers of a path are told apart: one that is empty, and
one that holds nothing but the delimiter of its name. -/

section

variable {fs : FileSystem} {path : String} {old : List UInt8}

theorem columnsIn_refill_nil (hold : fs.lookup path = .ok (.file old)) :
    ∃ s, (ofPath path).columnsIn (fs.refill []) = .ok s := by
  refine ⟨⟨[], List.nodup_nil⟩, ?_⟩
  rw [columnsIn_of_lookup rfl rfl (FileSystem.lookup_refill hold [])]
  rfl

theorem columnsIn_refill_delimiter (hold : fs.lookup path = .ok (.file old)) :
    ∃ e, (ofPath path).columnsIn (fs.refill [inferDelimiter path]) = .error e := by
  have hlookup := FileSystem.lookup_refill hold [inferDelimiter path]
  have hheader := Csv.header_delimiter (inferDelimiter_cases path)
  have hdelimiter : (ofPath path).delimiter = inferDelimiter path := by rw [ofPath]
  -- the two names are equal, and no schema has a name twice
  obtain ⟨e, he⟩ : ∃ e, Schema.ofNames ["", ""] = .error e :=
    Schema.ofNames_of_not_nodup (by simp)
  refine ⟨e, ?_⟩
  rw [columnsIn_of_lookup rfl rfl hlookup, hdelimiter, hheader]
  exact he

theorem columnsIn_refill_other {f : CsvFile} (hold : fs.lookup path = .ok (.file old))
    (hpath : f.path = path) (hnames : f.names = none)
    (hne : inferDelimiter path ≠ f.delimiter) :
    ∃ s, f.columnsIn (fs.refill [inferDelimiter path]) = .ok s := by
  have hlookup := FileSystem.lookup_refill hold [inferDelimiter path]
  obtain ⟨name, hname⟩ := Csv.header_other (inferDelimiter_cases path) hne
  have hone : [name].Nodup := by simp
  refine ⟨⟨[name], hone⟩, ?_⟩
  rw [columnsIn_of_lookup hpath hnames hlookup, hname]
  exact Schema.ofNames_of_nodup hone

end

end CsvFile

namespace CommandLine

/-- The validate command answers with the findings, and leaves the files as they are. -/
theorem validateSpec_of_load [Pattern.Engine] {spec : PipelineSpec} {specPath : String}
    {fs : FileSystem} (hload : PipelineSpec.load specPath fs = .ok spec fs) (inputPath : Option String) :
    validateSpec specPath inputPath fs =
      match review spec inputPath fs with
      | .error e after => .error e after
      | .ok checked after => .ok (Response.ofFindings spec checked.findings) after := by
  show EStateM.bind _ _ fs = _
  simp only [EStateM.bind, hload]
  show EStateM.bind _ _ fs = _
  simp only [EStateM.bind]
  cases review spec inputPath fs <;> rfl

/-- The command succeeds exactly on specifications without findings. -/
theorem ofFindings_failure_eq_none_iff {spec : PipelineSpec} {findings : List Finding} :
    (Response.ofFindings spec findings).failure = none ↔ findings = [] := by
  cases findings <;> simp [Response.ofFindings, Response.ofText]

section

variable [Pattern.Engine]

theorem validateSpec_accepts_iff {spec : PipelineSpec} {specPath : String} {fs : FileSystem}
    (hload : PipelineSpec.load specPath fs = .ok spec fs) (inputPath : Option String) :
    (∃ response after, validateSpec specPath inputPath fs = .ok response after ∧
        response.failure = none) ↔
      verdict (review spec inputPath fs) = some [] := by
  rw [validateSpec_of_load hload]
  cases review spec inputPath fs with
  | error failure after => simp [verdict]
  | ok checked after => simp [verdict, ofFindings_failure_eq_none_iff]

/-- The validate command and a run find the same in a specification. -/
def JudgedAlike (spec : PipelineSpec) (inputPath : Option String) (fs : FileSystem) : Prop :=
  verdict (review spec inputPath fs) = verdict (spec.check inputPath fs)

/-- What the two commands answer on a specification in a file, in terms of what they find: the
validate command succeeds if it finds nothing, and a run is rejected with what it finds. So
where they find the same, the validate command succeeds on what a run finds nothing wrong with,
and prints the findings with which a run is rejected. -/
structure Answers (spec : PipelineSpec) (specPath : String) (inputPath : Option String)
    (fs : FileSystem) : Prop where
  accepts : (∃ response after, validateSpec specPath inputPath fs = .ok response after ∧
      response.failure = none) ↔ verdict (review spec inputPath fs) = some []
  rejects : ∀ outputPath findings,
    (∃ failure after, spec.run inputPath outputPath fs = .error failure after ∧
      failure.cause = .invalidSpec findings) ↔
        findings ≠ [] ∧ verdict (spec.check inputPath fs) = some findings
  alike : JudgedAlike spec inputPath fs →
    ((∃ response after, validateSpec specPath inputPath fs = .ok response after ∧
        response.failure = none) ↔ verdict (spec.check inputPath fs) = some []) ∧
      ∀ outputPath failure after findings,
        spec.run inputPath outputPath fs = .error failure after →
        failure.cause = .invalidSpec findings →
          ∃ last, validateSpec specPath inputPath fs =
            .ok (Response.ofFindings spec findings) last

theorem answers_of_load {spec : PipelineSpec} {specPath : String} {fs : FileSystem}
    (hload : PipelineSpec.load specPath fs = .ok spec fs) (inputPath : Option String) :
    Answers spec specPath inputPath fs where
  accepts := validateSpec_accepts_iff hload inputPath
  rejects _ _ := PipelineSpec.run_rejects_iff
  alike halike := by
    unfold JudgedAlike at halike
    constructor
    · rw [validateSpec_accepts_iff hload, halike]
    · intro outputPath failure after findings hfail hcause
      obtain ⟨-, hfound⟩ := PipelineSpec.run_rejects_iff.mp ⟨failure, after, hfail, hcause⟩
      rw [← halike] at hfound
      rw [validateSpec_of_load hload]
      cases hreview : review spec inputPath fs with
      | error e last =>
        rw [hreview] at hfound
        cases hfound
      | ok checked last =>
        rw [hreview] at hfound
        cases hfound
        exact ⟨last, rfl⟩

end

end CommandLine

/-! ## When the commands agree -/

/-- The input is to be read as the ending of its name says: with a header line, and with
no delimiter or the one that the ending stands for. -/
def InputConfig.IsPlain (input : InputConfig) (path : String) : Prop :=
  input.header = none ∧
    ∀ text, input.delimiter = some text → parseDelimiter text = .ok (CsvFile.inferDelimiter path)

namespace PipelineSpec

/-- A file that is to be read as its name says is the file of that name. -/
theorem inputFile_of_isPlain {spec : PipelineSpec} {inputPath : Option String} {path : String}
    (hpath : (inputPath <|> spec.input.path) = some path) (hplain : spec.input.IsPlain path) :
    spec.inputFile inputPath = .ok (CsvFile.ofPath path) := by
  obtain ⟨hheader, hdelimiter⟩ := hplain
  unfold inputFile
  rw [hpath, hheader]
  cases htext : spec.input.delimiter with
  | none => rfl
  | some text =>
    simp only [CsvFile.withDelimiterText, hdelimiter text htext]
    rfl

end PipelineSpec

namespace CommandLine

section

variable [Pattern.Engine]

theorem judgedAlike_of_isPlain {spec : PipelineSpec} {inputPath : Option String} {path : String}
    (hpath : (inputPath <|> spec.input.path) = some path) (hplain : spec.input.IsPlain path)
    (fs : FileSystem) : JudgedAlike spec inputPath fs := by
  unfold JudgedAlike review
  rw [PipelineSpec.check_eq, PipelineSpec.inputFile_of_isPlain hpath hplain, hpath]

/-- Without an input both commands refuse. -/
theorem judgedAlike_of_no_path {spec : PipelineSpec} {inputPath : Option String}
    (hpath : (inputPath <|> spec.input.path) = none) (fs : FileSystem) :
    JudgedAlike spec inputPath fs := by
  unfold JudgedAlike review
  rw [PipelineSpec.check_eq, PipelineSpec.inputFile, hpath]
  rfl

/-! A verdict is reached exactly if the columns of the input can be read. -/

theorem verdict_review_isSome {spec : PipelineSpec} {inputPath : Option String} {path : String}
    (hpath : (inputPath <|> spec.input.path) = some path) (fs : FileSystem) :
    (verdict (review spec inputPath fs)).isSome = ((CsvFile.ofPath path).columnsIn fs).isOk := by
  simp only [review, hpath, PipelineSpec.verdict_checkAgainst]
  cases (CsvFile.ofPath path).columnsIn fs <;> rfl

theorem verdict_check_isSome {spec : PipelineSpec} {inputPath : Option String} {file : CsvFile}
    (hinput : spec.inputFile inputPath = .ok file) (fs : FileSystem) :
    (verdict (spec.check inputPath fs)).isSome = (file.columnsIn fs).isOk := by
  simp only [PipelineSpec.check_eq, hinput, PipelineSpec.verdict_checkAgainst]
  cases file.columnsIn fs <;> rfl

theorem isOk_eq_of_judgedAlike {spec : PipelineSpec} {inputPath : Option String} {path : String}
    {file : CsvFile} {fs : FileSystem} (hpath : (inputPath <|> spec.input.path) = some path)
    (hinput : spec.inputFile inputPath = .ok file) (halike : JudgedAlike spec inputPath fs) :
    ((CsvFile.ofPath path).columnsIn fs).isOk = (file.columnsIn fs).isOk := by
  rw [← verdict_review_isSome hpath, ← verdict_check_isSome hinput, halike]

/-- An input that is not to be read as its name says is judged differently in some file
system, by a specification without steps. -/
theorem not_judgedAlike_of_not_isPlain {spec : PipelineSpec} {inputPath : Option String}
    {path : String} (hpath : (inputPath <|> spec.input.path) = some path)
    (hfile : ∃ fs content, FileSystem.lookup fs path = .ok (.file content))
    (hplain : ¬spec.input.IsPlain path) : ∃ fs, ¬JudgedAlike spec inputPath fs := by
  obtain ⟨fs, old, hold⟩ := hfile
  obtain ⟨blank, hblank⟩ := CsvFile.columnsIn_refill_nil hold
  cases hinput : spec.inputFile inputPath with
  | error e =>
    -- a run refuses the delimiter before it looks at any file
    refine ⟨fs.refill [], fun halike => ?_⟩
    have hsome := verdict_review_isSome hpath (fs.refill [])
    rw [halike, PipelineSpec.check_eq, hinput, hblank] at hsome
    cases hsome
  | ok file =>
    obtain ⟨hfile, hnames, hdelimiter⟩ := PipelineSpec.inputFile_eq_ok hpath hinput
    cases hheader : spec.input.header with
    | some names =>
      -- the names that are given decide alone, with or without a file
      have hcolumns : ∀ fs, file.columnsIn fs = Schema.ofNames names :=
        CsvFile.columnsIn_of_names (hnames.trans hheader)
      cases hschema : Schema.ofNames names with
      | error e =>
        refine ⟨fs.refill [], fun halike => ?_⟩
        have hok := isOk_eq_of_judgedAlike hpath hinput halike
        rw [hblank, hcolumns, hschema] at hok
        cases hok
      | ok schema =>
        obtain ⟨e, he⟩ := CsvFile.columnsIn_empty (f := CsvFile.ofPath path) rfl
        refine ⟨.empty, fun halike => ?_⟩
        have hok := isOk_eq_of_judgedAlike hpath hinput halike
        rw [he, hcolumns, hschema] at hok
        cases hok
    | none =>
      -- the delimiters differ, and so do the names in a file of one delimiter
      have hne : CsvFile.inferDelimiter path ≠ file.delimiter := by
        intro heq
        refine hplain ⟨hheader, fun text htext => ?_⟩
        rw [hdelimiter text htext, heq]
      obtain ⟨e, he⟩ := CsvFile.columnsIn_refill_delimiter hold
      obtain ⟨one, hone⟩ := CsvFile.columnsIn_refill_other hold hfile (hnames.trans hheader) hne
      refine ⟨fs.refill [CsvFile.inferDelimiter path], fun halike => ?_⟩
      have hok := isOk_eq_of_judgedAlike hpath hinput halike
      rw [he, hone] at hok
      cases hok

end

/-- The validate command and a run find the same in every specification with this input
and in every file system, if and only if the input is to be read as its name says. What they
find is what they answer. -/
theorem judgedAlike_iff [Pattern.Engine] {input : InputConfig} {inputPath : Option String}
    {path : String} (hpath : (inputPath <|> input.path) = some path)
    (hfile : ∃ fs content, FileSystem.lookup fs path = .ok (.file content)) :
    ((∀ spec : PipelineSpec, spec.input = input → ∀ fs, JudgedAlike spec inputPath fs) ↔
        input.IsPlain path) ∧
      ∀ spec specPath fs, PipelineSpec.load specPath fs = .ok spec fs →
        Answers spec specPath inputPath fs := by
  refine ⟨⟨?_, ?_⟩, fun spec specPath fs hload => answers_of_load hload inputPath⟩
  · intro h
    by_contra hplain
    let spec : PipelineSpec := { version := "", name := "", input := input }
    have hdiffer : ∃ fs, ¬JudgedAlike spec inputPath fs :=
      not_judgedAlike_of_not_isPlain hpath hfile hplain
    obtain ⟨fs, hfs⟩ := hdiffer
    exact hfs (h spec rfl fs)
  · rintro hplain spec rfl fs
    exact judgedAlike_of_isPlain hpath hplain fs

/-- Names of columns are looked for in a file of tabs, as the name and the specification
say. -/
theorem tabs_judgedAlike :
    ((none : Option String) <|> some "d.tsv") = some "d.tsv" ∧
      (∃ fs content, FileSystem.lookup fs "d.tsv" = .ok (.file content)) ∧
      ∀ spec : PipelineSpec, spec.input = { path := some "d.tsv", delimiter := some "tab" } →
        ∀ fs, JudgedAlike spec none fs := by
  have hfile : ∃ fs content, FileSystem.lookup fs "d.tsv" = .ok (.file content) :=
    ⟨⟨[(["d.tsv"], .file [])]⟩, [], rfl⟩
  have hplain : InputConfig.IsPlain { path := some "d.tsv", delimiter := some "tab" } "d.tsv" := by
    refine ⟨rfl, ?_⟩
    intro text htext
    cases htext
    rfl
  exact ⟨rfl, hfile, (judgedAlike_iff rfl hfile).1.mpr hplain⟩

/-- A file of semicolons, and a file without a header line. -/
def oddFiles : FileSystem :=
  ⟨[(["d.csv"], .file (Utf8.ofString "a;b\n1;2\n")), (["n.csv"], .file (Utf8.ofString "1,2\n"))]⟩

/-- Selects a column of a file of semicolons. -/
def semicolons : PipelineSpec :=
  { version := "0.1", name := "semicolons", steps := [.select ["a"] none],
    input := { path := some "d.csv", delimiter := some ";" } }

/-- Selects a column of a file without a header line. -/
def headless : PipelineSpec :=
  { version := "0.1", name := "headless", steps := [.select ["a"] none],
    input := { path := some "n.csv", header := some ["a", "b"] } }

/-- A run finds nothing wrong with these specifications. The validate command misses the
column that they select, as it looks for it in the wrong line or between other
delimiters. -/
theorem run_accepts_what_validate_rejects :
    (verdict (semicolons.check none oddFiles) = some [] ∧
        verdict (review semicolons none oddFiles) =
          some [⟨some 0, .missingColumn "select" "a"⟩]) ∧
      (verdict (headless.check none oddFiles) = some [] ∧
        verdict (review headless none oddFiles) = some [⟨some 0, .missingColumn "select" "a"⟩]) ∧
      ¬∀ spec inputPath fs, JudgedAlike spec inputPath fs := by
  have hrun : verdict (semicolons.check none oddFiles) = some [] := rfl
  have hvalidate : verdict (review semicolons none oddFiles) =
      some [⟨some 0, .missingColumn "select" "a"⟩] := rfl
  refine ⟨⟨hrun, hvalidate⟩, ⟨rfl, rfl⟩, ?_⟩
  intro h
  have halike : verdict (review semicolons none oddFiles) =
      verdict (semicolons.check none oddFiles) := h semicolons none oddFiles
  rw [hrun, hvalidate] at halike
  cases halike

end CommandLine

end TableFlow
