import TableFlow.Proofs.Pipeline.Effects
import TableFlow.Proofs.Spec.Running

/-!
# What a run leaves in the file system

A run checks nearly everything before it touches its output. What it does not check is that its
output can be created, and that its input is there if the names of its columns are given: then
the output is created, and so emptied, before the run fails. Otherwise the rows stream into the
output, and whether or not that goes well, nothing changes but the output and the missing
directories above it.

* `PipelineSpec.Refused` is how a run ends before it turns to its output,
  `PipelineSpec.Spoiled` how it ends between that and its first row, and `PipelineSpec.Streams`
  that its source is open; every run is one of these, and only one;
* `PipelineSpec.run_effects` is what each of them leaves;
* `PipelineSpec.lastWeek_spoiled` is a run that fails unread and takes an old output with it.
-/

namespace TableFlow

namespace PipelineSpec

variable {spec : PipelineSpec} {inputPath outputPath : Option String} {fs : FileSystem}
  {input : CsvFile} {schema : Schema} {p : Pipeline} {chain : Chain}

section Fates

variable [Pattern.Engine]

/-! ## How far a run comes -/

/-- What ends a run before it turns to its output, and the failure that it ends with. -/
inductive Refused (spec : PipelineSpec) (inputPath outputPath : Option String)
    (fs : FileSystem) : Failure → Prop
  /-- There is no input path, or the delimiter of the input is not one character. -/
  | input {failure : Failure} (hinput : spec.inputFile inputPath = .error failure) :
      Refused spec inputPath outputPath fs failure
  /-- The input cannot be opened, or its header is none. -/
  | header {input : CsvFile} {e : Error} (hinput : spec.inputFile inputPath = .ok input)
      (hschema : input.columnsIn fs = .error e) :
      Refused spec inputPath outputPath fs ⟨[.readHeader input.path], .error e⟩
  /-- The specification is not valid for the header. -/
  | findings {input : CsvFile} {schema : Schema} (hinput : spec.inputFile inputPath = .ok input)
      (hschema : input.columnsIn fs = .ok schema) (hfindings : spec.findings schema.names ≠ []) :
      Refused spec inputPath outputPath fs
        (.ofCause (.invalidSpec (spec.findings schema.names)))
  /-- A step cannot be turned into operators. -/
  | build {input : CsvFile} {schema : Schema} {failure : Failure}
      (hinput : spec.inputFile inputPath = .ok input) (hschema : input.columnsIn fs = .ok schema)
      (hclean : spec.findings schema.names = [])
      (hbuild : spec.build (Pipeline.ofSource (.csv input)) = .error failure) :
      Refused spec inputPath outputPath fs failure
  /-- An operator does not open on the columns that reach it. -/
  | operators {input : CsvFile} {schema : Schema} {p : Pipeline} {e : Error}
      (hinput : spec.inputFile inputPath = .ok input) (hschema : input.columnsIn fs = .ok schema)
      (hclean : spec.findings schema.names = [])
      (hbuild : spec.build (Pipeline.ofSource (.csv input)) = .ok p)
      (hchain : p.chainIn fs = .error e) :
      Refused spec inputPath outputPath fs ⟨[], .error e⟩
  /-- The delimiter of the output is not one character. -/
  | output {input : CsvFile} {schema : Schema} {p : Pipeline} {chain : Chain} {failure : Failure}
      (hprepared : spec.Prepared inputPath fs input schema p chain)
      (houtput : spec.outputFile outputPath = .error failure) :
      Refused spec inputPath outputPath fs failure
  /-- There is no output, and the input cannot be opened. -/
  | source {input : CsvFile} {schema : Schema} {p : Pipeline} {chain : Chain} {e : Error}
      (hprepared : spec.Prepared inputPath fs input schema p chain)
      (houtput : spec.outputFile outputPath = .ok none) (hitems : input.rowsIn fs = .error e) :
      Refused spec inputPath outputPath fs ⟨[.runPipeline spec.name], .error e⟩

/-- What ends a run that has turned to its output and has not opened its input yet, the failure
that it ends with, and what it leaves. -/
inductive Spoiled (spec : PipelineSpec) (inputPath outputPath : Option String)
    (fs : FileSystem) : Failure → FileSystem → Prop
  /-- The output cannot be created. Directories above it may have been made. -/
  | uncreated {input : CsvFile} {schema : Schema} {p : Pipeline} {chain : Chain} {file : CsvFile}
      {e : Error} {after : FileSystem}
      (hprepared : spec.Prepared inputPath fs input schema p chain)
      (houtput : spec.outputFile outputPath = .ok (some file))
      (hcreate : file.create fs = .error e after) :
      Spoiled spec inputPath outputPath fs ⟨[.runPipeline spec.name], .error e⟩ after
  /-- The output has been created, and the input cannot be opened. The names of the columns
  take the place of what was in the output. -/
  | unread {input : CsvFile} {schema : Schema} {p : Pipeline} {chain : Chain} {file : CsvFile}
      {made : FileSystem} {place : List String} {e : Error}
      (hprepared : spec.Prepared inputPath fs input schema p chain)
      (houtput : spec.outputFile outputPath = .ok (some file))
      (hroom : fs.RoomFor file.path made place)
      (hitems : input.rowsIn (made.put place (.file [])) = .error e) :
      Spoiled spec inputPath outputPath fs ⟨[.runPipeline spec.name], .error e⟩
        (made.put place (.file (Csv.ofTexts file.delimiter [chain.schema.names])))

/-- The input of the run is open, and its rows are about to stream into this output, or are
only counted without one. -/
inductive Streams (spec : PipelineSpec) (inputPath outputPath : Option String)
    (fs : FileSystem) : Option CsvFile → Prop
  | counted {input : CsvFile} {schema : Schema} {p : Pipeline} {chain : Chain} {items : List Item}
      (hprepared : spec.Prepared inputPath fs input schema p chain)
      (houtput : spec.outputFile outputPath = .ok none) (hitems : input.rowsIn fs = .ok items) :
      Streams spec inputPath outputPath fs none
  | written {input : CsvFile} {schema : Schema} {p : Pipeline} {chain : Chain} {file : CsvFile}
      {made : FileSystem} {place : List String} {items : List Item}
      (hprepared : spec.Prepared inputPath fs input schema p chain)
      (houtput : spec.outputFile outputPath = .ok (some file))
      (hroom : fs.RoomFor file.path made place)
      (hitems : input.rowsIn (made.put place (.file [])) = .ok items) :
      Streams spec inputPath outputPath fs (some file)

/-- A run that is not refused is prepared and knows its output. -/
theorem refused_or_prepared (spec : PipelineSpec) (inputPath outputPath : Option String)
    (fs : FileSystem) :
    (∃ failure, spec.Refused inputPath outputPath fs failure) ∨
      ∃ input schema p chain output, spec.Prepared inputPath fs input schema p chain ∧
        spec.outputFile outputPath = .ok output := by
  cases hinput : spec.inputFile inputPath with
  | error failure => exact .inl ⟨_, .input hinput⟩
  | ok input =>
    cases hschema : input.columnsIn fs with
    | error e => exact .inl ⟨_, .header hinput hschema⟩
    | ok schema =>
      by_cases hclean : spec.findings schema.names = []
      swap
      · exact .inl ⟨_, .findings hinput hschema hclean⟩
      cases hbuild : spec.build (Pipeline.ofSource (.csv input)) with
      | error failure => exact .inl ⟨_, .build hinput hschema hclean hbuild⟩
      | ok p =>
        cases hchain : p.chainIn fs with
        | error e => exact .inl ⟨_, .operators hinput hschema hclean hbuild hchain⟩
        | ok chain =>
          have hprepared : spec.Prepared inputPath fs input schema p chain :=
            ⟨hinput, hschema, hclean, hbuild, hchain⟩
          cases houtput : spec.outputFile outputPath with
          | error failure => exact .inl ⟨_, .output hprepared houtput⟩
          | ok output => exact .inr ⟨input, schema, p, chain, output, hprepared, rfl⟩

/-- There is nothing that a run can come to but these. -/
theorem refused_or_spoiled_or_streams (spec : PipelineSpec)
    (inputPath outputPath : Option String) (fs : FileSystem) :
    (∃ failure, spec.Refused inputPath outputPath fs failure) ∨
      (∃ failure after, spec.Spoiled inputPath outputPath fs failure after) ∨
        ∃ output, spec.Streams inputPath outputPath fs output := by
  rcases refused_or_prepared spec inputPath outputPath fs with
    hrefused | ⟨input, schema, p, chain, output, hprepared, houtput⟩
  · exact .inl hrefused
  cases output with
  | none =>
    cases hitems : input.rowsIn fs with
    | error e => exact .inl ⟨_, .source hprepared houtput hitems⟩
    | ok items => exact .inr (.inr ⟨none, .counted hprepared houtput hitems⟩)
  | some file =>
    cases hcreate : file.create fs with
    | error e after => exact .inr (.inl ⟨_, after, .uncreated hprepared houtput hcreate⟩)
    | ok writer opened =>
      obtain ⟨made, place, hroom, -⟩ := CsvFile.roomFor_of_create hcreate
      cases hitems : input.rowsIn (made.put place (.file [])) with
      | error e => exact .inr (.inl ⟨_, _, .unread hprepared houtput hroom hitems⟩)
      | ok items => exact .inr (.inr ⟨some file, .written hprepared houtput hroom hitems⟩)

/-! ### Only one of them -/

theorem Prepared.input_unique {input' : CsvFile} {schema' : Schema} {p' : Pipeline}
    {chain' : Chain} (h : spec.Prepared inputPath fs input schema p chain)
    (h' : spec.Prepared inputPath fs input' schema' p' chain') : input' = input :=
  Except.ok.inj (h'.input_eq.symm.trans h.input_eq)

/-- A prepared run can only be refused for its output, or without one for its input. -/
theorem Prepared.of_refused {failure : Failure}
    (h : spec.Prepared inputPath fs input schema p chain)
    (hrefused : spec.Refused inputPath outputPath fs failure) :
    spec.outputFile outputPath = .error failure ∨
      spec.outputFile outputPath = .ok none ∧ ∃ e, input.rowsIn fs = .error e := by
  cases hrefused with
  | input hinput => cases h.input_eq.symm.trans hinput
  | header hinput hschema =>
    cases h.input_eq.symm.trans hinput
    cases h.schema_eq.symm.trans hschema
  | findings hinput hschema hfindings =>
    cases h.input_eq.symm.trans hinput
    cases h.schema_eq.symm.trans hschema
    exact absurd h.clean hfindings
  | build hinput hschema hclean hbuild =>
    cases h.input_eq.symm.trans hinput
    cases h.build_eq.symm.trans hbuild
  | operators hinput hschema hclean hbuild hchain =>
    cases h.input_eq.symm.trans hinput
    cases h.build_eq.symm.trans hbuild
    cases h.chain_eq.symm.trans hchain
  | output hprepared houtput => exact .inl houtput
  | source hprepared houtput hitems =>
    obtain rfl := h.input_unique hprepared
    exact .inr ⟨houtput, _, hitems⟩

theorem Spoiled.not_refused {failure cause : Failure} {after : FileSystem}
    (h : spec.Spoiled inputPath outputPath fs failure after) :
    ¬spec.Refused inputPath outputPath fs cause := by
  intro hrefused
  cases h with
  | uncreated hprepared houtput | unread hprepared houtput =>
    rcases hprepared.of_refused hrefused with hnone | ⟨hnone, -⟩ <;>
      cases houtput.symm.trans hnone

theorem Streams.not_refused {output : Option CsvFile} {failure : Failure}
    (h : spec.Streams inputPath outputPath fs output) :
    ¬spec.Refused inputPath outputPath fs failure := by
  intro hrefused
  cases h with
  | counted hprepared houtput hitems =>
    rcases hprepared.of_refused hrefused with hnone | ⟨-, e, hunread⟩
    · cases houtput.symm.trans hnone
    · cases hitems.symm.trans hunread
  | written hprepared houtput =>
    rcases hprepared.of_refused hrefused with hnone | ⟨hnone, -⟩ <;>
      cases houtput.symm.trans hnone

theorem Streams.not_spoiled {output : Option CsvFile} {failure : Failure} {after : FileSystem}
    (h : spec.Streams inputPath outputPath fs output) :
    ¬spec.Spoiled inputPath outputPath fs failure after := by
  intro hspoiled
  cases h with
  | counted hprepared houtput =>
    cases hspoiled with
    | uncreated _ hfile | unread _ hfile => cases houtput.symm.trans hfile
  | written hprepared houtput hroom hitems =>
    cases hspoiled with
    | uncreated _ hfile hcreate =>
      cases houtput.symm.trans hfile
      cases (CsvFile.create_eq hroom).symm.trans hcreate
    | unread hother hfile hagain hunread =>
      cases houtput.symm.trans hfile
      obtain ⟨rfl, rfl⟩ := hroom.unique hagain
      obtain rfl := hprepared.input_unique hother
      cases hitems.symm.trans hunread

/-! ### What they end with -/

/-- A refused run ends with the failure, in the file system that it started in. -/
theorem Refused.run_eq {failure : Failure}
    (h : spec.Refused inputPath outputPath fs failure) :
    spec.run inputPath outputPath fs = .error failure fs := by
  cases h with
  | input hinput => rw [PipelineSpec.run_eq, check_eq, hinput]
  | header hinput hschema =>
    simp only [PipelineSpec.run_eq, check_eq, hinput, checkAgainst_eq, hschema]
  | findings hinput hschema hfindings =>
    simp only [PipelineSpec.run_eq, check_eq, hinput, checkAgainst_eq, hschema, hfindings, if_false]
  | build hinput hschema hclean hbuild =>
    simp only [PipelineSpec.run_eq, check_eq, hinput, checkAgainst_eq, hschema, hclean, if_true,
      carryOut_eq, hbuild]
  | operators hinput hschema hclean hbuild hchain =>
    simp only [PipelineSpec.run_eq, check_eq, hinput, checkAgainst_eq, hschema, hclean, if_true,
      carryOut_eq, hbuild, hchain]
  | output hprepared houtput => rw [hprepared.run_eq, houtput]
  | source hprepared houtput hitems =>
    have hstream := Pipeline.streamWithStats_count_unread hprepared.chain_eq
      ((hprepared.itemsIn_eq fs).trans hitems)
    rw [hprepared.run_eq, houtput]
    simp only [streamInto, hstream]

/-- A spoiled run ends with the failure, and has done this to its output. -/
theorem Spoiled.run_eq {failure : Failure} {after : FileSystem}
    (h : spec.Spoiled inputPath outputPath fs failure after) :
    spec.run inputPath outputPath fs = .error failure after := by
  cases h with
  | uncreated hprepared houtput hcreate =>
    have hstream := Pipeline.streamWithStats_write_uncreated hprepared.chain_eq hcreate
    rw [hprepared.run_eq, houtput]
    simp only [streamInto, hstream]
  | unread hprepared houtput hroom hitems =>
    have hstream := Pipeline.streamWithStats_write_unread (names_of_outputFile houtput)
      hprepared.chain_eq hroom ((hprepared.itemsIn_eq _).trans hitems)
    rw [hprepared.run_eq, houtput]
    simp only [streamInto, hstream]

/-- A run whose columns are read from its input is only spoiled if there is no room for its
output. -/
theorem Spoiled.headed_or_no_room {failure : Failure} {after : FileSystem}
    (h : spec.Spoiled inputPath outputPath fs failure after) :
    spec.input.header ≠ none ∨ ∃ file, spec.outputFile outputPath = .ok (some file) ∧
      ∀ made place, ¬fs.RoomFor file.path made place := by
  cases h with
  | uncreated hprepared houtput hcreate =>
    refine .inr ⟨_, houtput, fun made place hroom => ?_⟩
    cases (CsvFile.create_eq hroom).symm.trans hcreate
  | unread hprepared houtput hroom hitems =>
    left
    intro hnone
    have hnames := hprepared.names_eq.trans hnone
    obtain ⟨items, hread⟩ := CsvFile.exists_rowsIn_opened hnames hroom hprepared.schema_eq
    cases hread.symm.trans hitems

/-- A prepared run leaves what streaming its rows leaves. -/
theorem Prepared.leaves_run {output : Option CsvFile}
    (h : spec.Prepared inputPath fs input schema p chain)
    (houtput : spec.outputFile outputPath = .ok output) :
    (spec.run inputPath outputPath).leaves fs = (streamInto p output).leaves fs := by
  unfold Action.leaves
  rw [h.run_eq, houtput]
  simp only
  cases streamInto p output fs <;> rfl

/-! ## What is left -/

/-- Without an output, a prepared run changes nothing. -/
theorem Prepared.leaves_run_none (h : spec.Prepared inputPath fs input schema p chain)
    (houtput : spec.outputFile outputPath = .ok none) :
    (spec.run inputPath outputPath).leaves fs = fs := by
  rw [h.leaves_run houtput]
  exact Pipeline.leaves_streamWithStats_count h.chain_eq

theorem Prepared.touched {file : CsvFile} (h : spec.Prepared inputPath fs input schema p chain)
    (houtput : spec.outputFile outputPath = .ok (some file)) :
    fs.Touched file.path ((spec.run inputPath outputPath).leaves fs) := by
  rw [h.leaves_run houtput]
  exact Pipeline.touched_streamWithStats_write h.chain_eq file

/-- Whatever a run ends with, it changes nothing but its output and missing directories above
it. -/
theorem leaves_changesOnlyAt (spec : PipelineSpec) (inputPath : Option String) (fs : FileSystem)
    {path : String} (hpath : (outputPath <|> spec.output.map OutputConfig.path) = some path) :
    fs.ChangesOnlyAt ((spec.run inputPath outputPath).leaves fs) path := by
  rcases refused_or_prepared spec inputPath outputPath fs with
    ⟨failure, hrefused⟩ | ⟨input, schema, p, chain, output, hprepared, houtput⟩
  · rw [Action.leaves_of_error hrefused.run_eq]
    exact FileSystem.ChangesOnlyAt.refl fs path
  · have hfile := (path_of_outputFile houtput).trans hpath
    obtain ⟨file, rfl, rfl⟩ := Option.map_eq_some_iff.mp hfile
    exact (hprepared.touched houtput).changesOnlyAt

/-- Without an output, a run changes nothing. -/
theorem leaves_of_no_output (spec : PipelineSpec) (inputPath : Option String) (fs : FileSystem)
    (hnone : (outputPath <|> spec.output.map OutputConfig.path) = none) :
    (spec.run inputPath outputPath).leaves fs = fs := by
  rcases refused_or_prepared spec inputPath outputPath fs with
    ⟨failure, hrefused⟩ | ⟨input, schema, p, chain, output, hprepared, houtput⟩
  · exact Action.leaves_of_error hrefused.run_eq
  · have hfile := (path_of_outputFile houtput).trans hnone
    obtain rfl := Option.map_eq_none_iff.mp hfile
    exact hprepared.leaves_run_none houtput

/-- A run that does not stream leaves everything as it was exactly if what it has done to its
output, if anything, has made no difference. -/
theorem leaves_eq_iff_of_not_streams
    (h : ¬∃ output, spec.Streams inputPath outputPath fs output) :
    (spec.run inputPath outputPath).leaves fs = fs ↔
      ∀ failure after, spec.Spoiled inputPath outputPath fs failure after → after = fs := by
  constructor
  · intro hunchanged failure after hspoiled
    rwa [Action.leaves_of_error hspoiled.run_eq] at hunchanged
  · intro hspoiled
    rcases refused_or_spoiled_or_streams spec inputPath outputPath fs with
      ⟨failure, hrefused⟩ | ⟨failure, after, hend⟩ | hstreams
    · exact Action.leaves_of_error hrefused.run_eq
    · exact (Action.leaves_of_error hend.run_eq).trans (hspoiled failure after hend)
    · exact absurd hstreams h

/-- A run is refused, spoiled or streams, and only one of these. Refused, it ends with its
failure in the file system that it started in. Spoiled, it ends with its failure before a row
is read and has touched its output, so that a run that does not stream leaves everything as it
was exactly if this made no difference; but this only befalls a run whose columns are named by
the specification, or whose output cannot be created. Whatever it comes to, a run changes
nothing but what stands at its output path and missing directories above it, so that other
paths lead to what they led to; and nothing at all if neither the caller nor the specification
names an output. -/
theorem run_effects (spec : PipelineSpec) (inputPath outputPath : Option String)
    (fs : FileSystem) :
    ((∃ output, spec.Streams inputPath outputPath fs output) ↔
        ¬((∃ failure, spec.Refused inputPath outputPath fs failure) ∨
          ∃ failure after, spec.Spoiled inputPath outputPath fs failure after)) ∧
      (∀ failure, spec.Refused inputPath outputPath fs failure →
        spec.run inputPath outputPath fs = .error failure fs ∧
          ∀ cause after, ¬spec.Spoiled inputPath outputPath fs cause after) ∧
      (∀ failure after, spec.Spoiled inputPath outputPath fs failure after →
        spec.run inputPath outputPath fs = .error failure after ∧
          (spec.input.header ≠ none ∨ ∃ file, spec.outputFile outputPath = .ok (some file) ∧
            ∀ made place, ¬fs.RoomFor file.path made place)) ∧
      ((¬∃ output, spec.Streams inputPath outputPath fs output) →
        ((spec.run inputPath outputPath).leaves fs = fs ↔
          ∀ failure after, spec.Spoiled inputPath outputPath fs failure after → after = fs)) ∧
      (∀ path, (outputPath <|> spec.output.map OutputConfig.path) = some path →
        fs.ChangesOnlyAt ((spec.run inputPath outputPath).leaves fs) path ∧
          ∀ other node, fs.lookup other = .ok node →
            ¬((spec.run inputPath outputPath).leaves fs).SamePlace other path →
            ((spec.run inputPath outputPath).leaves fs).lookup other = .ok node) ∧
      (outputPath = none → spec.output = none →
        (spec.run inputPath outputPath).leaves fs = fs) := by
  refine ⟨⟨?_, ?_⟩, ?_, ?_, leaves_eq_iff_of_not_streams, ?_, ?_⟩
  · rintro ⟨output, hstreams⟩ (⟨failure, hrefused⟩ | ⟨failure, after, hspoiled⟩)
    · exact hstreams.not_refused hrefused
    · exact hstreams.not_spoiled hspoiled
  · intro hneither
    have hfate := refused_or_spoiled_or_streams spec inputPath outputPath fs
    rw [← or_assoc] at hfate
    exact hfate.resolve_left hneither
  · exact fun failure hrefused =>
      ⟨hrefused.run_eq, fun cause after hspoiled => hspoiled.not_refused hrefused⟩
  · exact fun failure after hspoiled => ⟨hspoiled.run_eq, hspoiled.headed_or_no_room⟩
  · intro path hpath
    have hchanges := leaves_changesOnlyAt spec inputPath fs hpath
    exact ⟨hchanges, fun other node hother hapart => hchanges.lookup_of_apart hother hapart⟩
  · intro hpath hconfig
    exact leaves_of_no_output spec inputPath fs (by rw [hpath, hconfig]; rfl)

end Fates

/-! ## An output of an earlier run -/

/-- A row, and what an earlier run has left. -/
def lastWeek : FileSystem :=
  ⟨[(["in.csv"], .file (Utf8.ofString "id,last\n1,zu\n")),
    (["out.csv"], .file (Utf8.ofString "last\nold\n"))]⟩

/-- Keeps one column, and writes over the output of the run before. -/
def keepColumn (name : String) : PipelineSpec :=
  { version := "0.1"
    name := "one column"
    output := some { path := "out.csv" }
    steps := [.select [name] none] }

/-- A misspelled column leaves the old output as it is, and so does a run into a file below a
directory that is not there yet. -/
theorem lastWeek_effects :
    (∃ failure, (keepColumn "lst").Refused (some "in.csv") none lastWeek failure ∧
        (keepColumn "lst").run (some "in.csv") none lastWeek = .error failure lastWeek) ∧
      (∃ output, (keepColumn "last").Streams (some "in.csv") (some "new/out.csv") lastWeek
        (some output)) ∧
      (((keepColumn "last").run (some "in.csv") (some "new/out.csv")).leaves lastWeek).lookup
        "out.csv" = .ok (.file (Utf8.ofString "last\nold\n")) := by
  obtain ⟨-, hunchanged, -⟩ := run_effects (keepColumn "lst") (some "in.csv") none lastWeek
  obtain ⟨-, -, -, -, hchanges, -⟩ :=
    run_effects (keepColumn "last") (some "in.csv") (some "new/out.csv") lastWeek
  have hschema : (⟨"in.csv", none, CsvFile.comma⟩ : CsvFile).columnsIn lastWeek =
      .ok ⟨["id", "last"], by decide⟩ := rfl
  have hrefused : (keepColumn "lst").Refused (some "in.csv") none lastWeek _ :=
    .findings rfl hschema (by decide)
  refine ⟨⟨_, hrefused, (hunchanged _ hrefused).1⟩, ?_, ?_⟩
  · have hroom : lastWeek.RoomFor "new/out.csv" (lastWeek.makeDirectories ["new"]).2
        ["new", "out.csv"] := ⟨by decide +kernel, by decide +kernel⟩
    obtain ⟨items, hitems⟩ := CsvFile.exists_rowsIn_opened rfl hroom hschema
    exact ⟨_, .written ⟨rfl, hschema, rfl, rfl, rfl⟩ rfl hroom hitems⟩
  · have hlookup : lastWeek.lookup "out.csv" = .ok (.file (Utf8.ofString "last\nold\n")) := rfl
    refine (hchanges "new/out.csv" rfl).2 "out.csv" _ hlookup fun hsame => ?_
    exact absurd (hsame.components_eq (by decide) (by decide)) (by decide)

/-- The same specification with the names of the columns, for a file without a header line. -/
def keepColumnOf (names : List String) (name : String) : PipelineSpec :=
  { keepColumn name with input := { header := some names } }

/-- A run on a file that is not there finds no fault with its columns, since their names are
given. It fails before it has read a row, and by then the old output is gone. -/
theorem lastWeek_spoiled :
    (¬∃ output, (keepColumnOf ["id", "last"] "last").Streams (some "gone.csv") none lastWeek
        output) ∧
      (∃ failure after, (keepColumnOf ["id", "last"] "last").run (some "gone.csv") none lastWeek =
          .error failure after ∧ after.read "out.csv" = .ok (Utf8.ofString "last\n")) ∧
      lastWeek.read "out.csv" = .ok (Utf8.ofString "last\nold\n") ∧
      ((keepColumnOf ["id", "last"] "last").run (some "gone.csv") none).leaves lastWeek ≠
        lastWeek := by
  have hspoiled : (keepColumnOf ["id", "last"] "last").Spoiled (some "gone.csv") none lastWeek
      _ _ :=
    .unread ⟨rfl, rfl, rfl, rfl, rfl⟩ rfl (FileSystem.roomFor_top rfl rfl) rfl
  have hread : lastWeek.read "out.csv" = .ok (Utf8.ofString "last\nold\n") := rfl
  refine ⟨?_, ⟨_, _, hspoiled.run_eq, rfl⟩, hread, ?_⟩
  · rintro ⟨output, hstreams⟩
    exact hstreams.not_spoiled hspoiled
  · rw [Action.leaves_of_error hspoiled.run_eq]
    intro hsame
    have hlater := congrArg (FileSystem.read · "out.csv") hsame
    simp only [hread] at hlater
    exact absurd hlater (by decide)

end PipelineSpec

end TableFlow
