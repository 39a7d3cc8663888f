import TableFlow.Proofs.Pipeline.Writing
import TableFlow.Proofs.Spec.Soundness
import TableFlow.Proofs.Spec.Verdict

/-!
# Runs of specifications, step by step

Before a run touches its output it reads the header of its input, checks the specification,
builds the pipeline and opens it. `PipelineSpec.Prepared` is that this went well, with what
it gave.

* `PipelineSpec.Prepared.run_eq` is what a prepared run does with an output;
* `PipelineSpec.exists_prepared_of_run` says that a run which ends well was prepared;
* `PipelineSpec.Prepared.run_into` is a prepared run into a file, in terms of the rows that
  it reads.
-/

namespace TableFlow

namespace PipelineSpec

variable {spec : PipelineSpec} {inputPath outputPath : Option String} {fs : FileSystem}

section

variable [Pattern.Engine]

/-- What a run knows when it turns to its output. -/
structure Prepared (spec : PipelineSpec) (inputPath : Option String) (fs : FileSystem)
    (input : CsvFile) (schema : Schema) (p : Pipeline) (chain : Chain) : Prop where
  input_eq : spec.inputFile inputPath = .ok input
  schema_eq : input.columnsIn fs = .ok schema
  clean : spec.findings schema.names = []
  build_eq : spec.build (Pipeline.ofSource (.csv input)) = .ok p
  chain_eq : p.chainIn fs = .ok chain

theorem carryOut_eq (spec : PipelineSpec) (input : CsvFile) (schema : Schema)
    (outputPath : Option String) (fs : FileSystem) :
    spec.carryOut input schema outputPath fs =
      match spec.build (Pipeline.ofSource (.csv input)) with
      | .error e => .error e fs
      | .ok p =>
        match p.chainIn fs with
        | .error e => .error ⟨[], .error e⟩ fs
        | .ok chain =>
          match spec.outputFile outputPath with
          | .error e => .error e fs
          | .ok output =>
            match streamInto p output fs with
            | .error e after => .error ⟨[.runPipeline spec.name], .error e⟩ after
            | .ok (written, stats) after =>
              .ok ⟨stats.read, written, schema.width, chain.schema.width, spec.steps.length,
                output.map CsvFile.path⟩ after := by
  show EStateM.bind _ _ fs = _
  simp only [EStateM.bind, Action.ofExcept]
  cases spec.build (Pipeline.ofSource (.csv input)) with
  | error e => rfl
  | ok p =>
    show EStateM.bind _ _ fs = _
    simp only [EStateM.bind, Action.within, Action.mapError, p.columns_eq, Action.ofExcept]
    cases p.chainIn fs with
    | error e => rfl
    | ok chain =>
      show EStateM.bind _ _ fs = _
      simp only [EStateM.bind, Action.ofExcept]
      cases spec.outputFile outputPath with
      | error e => rfl
      | ok output =>
        show EStateM.bind _ _ fs = _
        simp only [EStateM.bind, Action.mapError]
        cases streamInto p output fs <;> rfl

/-- A prepared run only needs its output. -/
theorem Prepared.run_eq {input : CsvFile} {schema : Schema} {p : Pipeline} {chain : Chain}
    (h : spec.Prepared inputPath fs input schema p chain) (outputPath : Option String) :
    spec.run inputPath outputPath fs =
      match spec.outputFile outputPath with
      | .error e => .error e fs
      | .ok output =>
        match streamInto p output fs with
        | .error e after => .error ⟨[.runPipeline spec.name], .error e⟩ after
        | .ok (written, stats) after =>
          .ok ⟨stats.read, written, schema.width, chain.schema.width, spec.steps.length,
            output.map CsvFile.path⟩ after := by
  rw [PipelineSpec.run_eq, check_eq, h.input_eq]
  simp only [checkAgainst_eq, h.schema_eq, h.clean, if_true, carryOut_eq, h.build_eq, h.chain_eq]

/-- A run that ends well was prepared. -/
theorem exists_prepared_of_run {report : RunReport} {after : FileSystem}
    (h : spec.run inputPath outputPath fs = .ok report after) :
    ∃ input schema p chain, spec.Prepared inputPath fs input schema p chain := by
  rw [PipelineSpec.run_eq, check_eq] at h
  cases hinput : spec.inputFile inputPath with
  | error e => simp [hinput] at h
  | ok input =>
    simp only [hinput, checkAgainst_eq] at h
    cases hschema : input.columnsIn fs with
    | error e => simp [hschema] at h
    | ok schema =>
      simp only [hschema] at h
      split at h
      · rename_i hclean
        rw [carryOut_eq] at h
        cases hbuild : spec.build (Pipeline.ofSource (.csv input)) with
        | error e => simp [hbuild] at h
        | ok p =>
          cases hchain : p.chainIn fs with
          | error e => simp [hbuild, hchain] at h
          | ok chain => exact ⟨input, schema, p, chain, hinput, hschema, hclean, hbuild, hchain⟩
      · cases h

/-! ## Inputs and outputs -/

/-- The pipeline of a specification reads the input. -/
theorem Prepared.source_eq {input : CsvFile} {schema : Schema} {p : Pipeline} {chain : Chain}
    (h : spec.Prepared inputPath fs input schema p chain) : p.source = .csv input := by
  obtain ⟨ops, rfl⟩ := extendBySteps_appends h.build_eq
  rfl

theorem Prepared.itemsIn_eq {input : CsvFile} {schema : Schema} {p : Pipeline} {chain : Chain}
    (h : spec.Prepared inputPath fs input schema p chain) (later : FileSystem) :
    p.source.itemsIn later = input.rowsIn later := by
  rw [h.source_eq]
  rfl

/-- The columns of the input have the names that the specification gives, if it does. -/
theorem Prepared.names_eq {input : CsvFile} {schema : Schema} {p : Pipeline} {chain : Chain}
    (h : spec.Prepared inputPath fs input schema p chain) : input.names = spec.input.header := by
  have hinput := h.input_eq
  cases hpath : inputPath <|> spec.input.path with
  | none =>
    unfold inputFile at hinput
    rw [hpath] at hinput
    cases hinput
  | some path => exact (inputFile_eq_ok hpath hinput).2.1

/-- The operators are open on the columns of the input. -/
theorem Prepared.openOn_eq {input : CsvFile} {schema : Schema} {p : Pipeline} {chain : Chain}
    (h : spec.Prepared inputPath fs input schema p chain) :
    Chain.openOn schema p.operators = .ok chain := by
  obtain ⟨s, hcolumns, hopen⟩ := Pipeline.chainIn_eq_ok_iff.mp h.chain_eq
  rw [h.source_eq] at hcolumns
  obtain rfl : schema = s := Except.ok.inj (h.schema_eq.symm.trans hcolumns)
  exact hopen

end

theorem outputFile_eq_some {output : CsvFile}
    (h : spec.outputFile outputPath = .ok (some output)) :
    ∃ path, (outputPath <|> spec.output.map OutputConfig.path) = some path ∧
      (CsvFile.ofPath path).withDelimiterText (spec.output.bind OutputConfig.delimiter) =
        .ok output := by
  unfold outputFile at h
  split at h
  · cases h
  · rename_i path hpath
    obtain ⟨file, hfile, hsome⟩ := Result.map_eq_ok_iff.mp h
    cases hsome
    exact ⟨path, hpath, hfile⟩

/-- An output has a header line. -/
theorem names_of_outputFile {output : CsvFile}
    (h : spec.outputFile outputPath = .ok (some output)) : output.names = none := by
  obtain ⟨path, -, hfile⟩ := outputFile_eq_some h
  exact (withDelimiterText_eq_ok hfile).2.1

/-- The delimiter of an output is one of the first 128 characters. -/
theorem delimiter_of_outputFile {output : CsvFile}
    (h : spec.outputFile outputPath = .ok (some output)) : output.delimiter.toNat < 0x80 := by
  obtain ⟨path, -, hfile⟩ := outputFile_eq_some h
  cases hnamed : spec.output.bind OutputConfig.delimiter with
  | none =>
    rw [hnamed] at hfile
    cases hfile
    simp only [CsvFile.ofPath, CsvFile.inferDelimiter]
    split <;> decide
  | some text =>
    obtain ⟨-, -, hnames⟩ := withDelimiterText_eq_ok hfile
    have hparse := hnames text hnamed
    unfold parseDelimiter at hparse
    split at hparse
    · rw [← Except.ok.inj hparse]
      decide
    · split at hparse
      · rename_i b hbytes
        cases hparse
        exact Utf8.toNat_lt_of_ofString hbytes
      · cases hparse

theorem path_of_outputFile {output : Option CsvFile}
    (h : spec.outputFile outputPath = .ok output) :
    output.map CsvFile.path = (outputPath <|> spec.output.map OutputConfig.path) := by
  cases output with
  | some file =>
    obtain ⟨path, hpath, hfile⟩ := outputFile_eq_some h
    rw [hpath, Option.map_some, (withDelimiterText_eq_ok hfile).1]
    rfl
  | none =>
    unfold outputFile at h
    split at h
    · rename_i hnone
      rw [hnone]
      rfl
    · obtain ⟨file, -, hsome⟩ := Result.map_eq_ok_iff.mp h
      cases hsome

/-! ## What a run reads -/

section Reading

variable {input : CsvFile} {schema : Schema} {p : Pipeline} {chain : Chain} {path : String}
  {made : FileSystem} {place : List String} {items : List Item}

/-- What is written to the output later does not matter to another file either. -/
theorem lookup_written (hroom : fs.RoomFor path made place) (content : List UInt8)
    (hapart : ¬made.SamePlace input.path path) :
    ∀ node, (made.put place (.file [])).lookup input.path = .ok node →
      (made.put place (.file content)).lookup input.path = .ok node := by
  intro node hnode
  have hwritten := (FileSystem.samePlace_put_iff hroom.place_eq []).not.mpr hapart
  have hlater := FileSystem.lookup_put_of_ne (FileSystem.filePlace_put hroom.place_eq []) content
    hnode hwritten
  rwa [FileSystem.put_put] at hlater

/-- If another file was there from the start, its rows are those that were there. -/
theorem rowsIn_before (hroom : fs.RoomFor path made place)
    (hapart : ¬made.SamePlace input.path path) (hexists : fs.pathExists input.path = true)
    (hitems : input.rowsIn (made.put place (.file [])) = .ok items) :
    input.rowsIn fs = .ok items := by
  obtain ⟨node, hnode⟩ := FileSystem.pathExists_iff.mp hexists
  have hopened := hroom.lookup_opened [] hapart node hnode
  refine CsvFile.rowsIn_of_kept (fun other hother => ?_) hitems
  rwa [← hopened, hother] at hnode

theorem Prepared.rows_width [Pattern.Engine] (h : spec.Prepared inputPath fs input schema p chain)
    (hroom : fs.RoomFor path made place)
    (hitems : input.rowsIn (made.put place (.file [])) = .ok items) :
    ∀ entry ∈ (chain.passage items).rows, entry.2.length = chain.schema.width :=
  Chain.passage_width (Chain.openOn_carries h.openOn_eq)
    (CsvFile.rowsIn_fit_opened hroom h.schema_eq hitems)

end Reading

/-! ## Runs into a file -/

section Writing

variable [Pattern.Engine] {input output : CsvFile} {schema : Schema} {p : Pipeline}
  {chain : Chain}

/-- A prepared run into a file, once it is known what it reads. -/
theorem Prepared.run_into {made : FileSystem} {place : List String} {items : List Item}
    (h : spec.Prepared inputPath fs input schema p chain)
    (houtput : spec.outputFile outputPath = .ok (some output))
    (hroom : fs.RoomFor output.path made place)
    (hitems : input.rowsIn (made.put place (.file [])) = .ok items) :
    spec.run inputPath outputPath fs =
      let passage := chain.passage items
      let after := made.put place (.file (passage.inFile output.delimiter chain.schema.names))
      match passage.error with
      | some e => .error ⟨[.runPipeline spec.name], .error e⟩ after
      | none =>
        .ok ⟨passage.chain.stats.read, passage.rows.length, schema.width, chain.schema.width,
          spec.steps.length, some output.path⟩ after := by
  have hsource := (h.itemsIn_eq _).trans hitems
  have hstream := Pipeline.streamWithStats_write (names_of_outputFile houtput) h.chain_eq hroom
    hsource (h.rows_width hroom hitems)
  rw [h.run_eq, houtput]
  simp only [streamInto, hstream]
  cases (chain.passage items).error <;> rfl

/-- A run into a file that ends well has found room for the file and rows to read. -/
theorem Prepared.exists_of_run {report : RunReport} {after : FileSystem}
    (h : spec.Prepared inputPath fs input schema p chain)
    (houtput : spec.outputFile outputPath = .ok (some output))
    (hrun : spec.run inputPath outputPath fs = .ok report after) :
    ∃ made place items, fs.RoomFor output.path made place ∧
      input.rowsIn (made.put place (.file [])) = .ok items ∧
      (chain.passage items).error = none := by
  have hstream := hrun
  rw [h.run_eq, houtput] at hstream
  simp only [streamInto] at hstream
  split at hstream
  · cases hstream
  rename_i result last hresult
  obtain ⟨_, made, place, items, -, hroom, hitems⟩ :=
    Pipeline.exists_of_streamWithStats_write (names_of_outputFile houtput) hresult
  rw [h.source_eq] at hitems
  refine ⟨made, place, items, hroom, hitems, ?_⟩
  rw [h.run_into houtput hroom hitems] at hrun
  cases herror : (chain.passage items).error with
  | none => rfl
  | some e => simp [herror] at hrun

end Writing

end PipelineSpec

end TableFlow
