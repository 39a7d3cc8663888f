import TableFlow.Proofs.Pipeline.Modes
import TableFlow.Proofs.Spec.Running

/-!
# What a run delivers

A run that ends well has written the table that its pipeline makes of the input, and has
counted what it did. `PipelineSpec.run_delivers` says so for an output that is another file
than the input; that the same file will not do is shown in another module.

* `PipelineSpec.Delivers` is what is found in the output and in the report;
* `PipelineSpec.Prepared.toTable_eq` is the table, from any file system in which the
  input is still there.
-/

namespace TableFlow

/-- The first name does not start with a byte order mark. -/
def Schema.Unmarked (s : Schema) : Prop :=
  ∀ name ∈ s.names.head?, name.toList.head? ≠ some '\uFEFF'

namespace PipelineSpec

variable {spec : PipelineSpec} {inputPath outputPath : Option String} {fs after : FileSystem}

/-- The output reads back as the texts of the table, in rows numbered from zero. The report
tells the size of the table, the widths of both files, and a number of rows that the run can
have read. The input is as it was. -/
structure Delivers (input output : CsvFile) (report : RunReport) (t : Table)
    (fs after : FileSystem) : Prop where
  columns : output.columns after = .ok t.schema after
  rows : output.rows after =
    .ok (t.rows.zipIdx.map fun (row, id) => .ok (id, row.map fun v => .str v.text)) after
  rowsWritten : report.rowsWritten = t.size
  columnsAfter : report.columnsAfter = t.width
  columnsBefore : ∃ s, input.columns fs = .ok s fs ∧ report.columnsBefore = s.width
  written_le_read : report.rowsWritten ≤ report.rowsRead
  read_le_rows : ∃ items, input.rows after = .ok items after ∧ report.rowsRead ≤ items.length
  input_kept : ∀ node, fs.lookup input.path = .ok node → after.lookup input.path = .ok node

section Parts

variable {input output : CsvFile} {schema : Schema} {p : Pipeline} {chain : Chain}
  {items : List Item}

/-- The pipeline makes the same table of its input wherever the input is the same. -/
theorem Prepared.toTable_eq [Pattern.Engine] (h : spec.Prepared inputPath fs input schema p chain)
    {now : FileSystem} (hcolumns : input.columnsIn now = .ok schema)
    (hitems : input.rowsIn now = .ok items) (hdone : (chain.passage items).error = none)
    (hwidth : ∀ entry ∈ (chain.passage items).rows, entry.2.length = chain.schema.width) :
    p.toTable now = .ok ⟨chain.schema, (chain.passage items).rows, hwidth⟩ now := by
  have hchain : p.chainIn now = .ok chain := by
    refine Pipeline.chainIn_eq_ok_iff.mpr ⟨schema, ?_, h.openOn_eq⟩
    rw [h.source_eq]
    exact hcolumns
  have hsource : p.source.itemsIn now = .ok items := by
    rw [h.source_eq]
    exact hitems
  have hattempt : p.attempt now = .ok (chain.schema, chain.passage items) :=
    Pipeline.attempt_eq_ok_iff.mpr ⟨chain, items,
      Pipeline.begin?_eq_ok_iff.mpr ⟨hchain, hsource⟩, rfl, rfl, hdone⟩
  have hfits : p.source.RowsFit now := by
    rw [h.source_eq]
    exact Source.rowsFit_csv input now
  exact Pipeline.toTable_of_attempt hattempt hfits

/-- A file that was written under a schema and rows of its width. -/
theorem holdsTexts_of_passage {made : FileSystem} {place : List String} {q : Passage}
    {out : Schema} (houtput : spec.outputFile outputPath = .ok (some output))
    (hplace : made.filePlace output.path = .ok place) (hpos : 0 < out.width)
    (hdelimiter : Csv.Separates output.delimiter) (hmark : out.Unmarked)
    (hwidth : ∀ entry ∈ q.rows, entry.2.length = out.width) :
    output.HoldsTexts (made.put place (.file (q.inFile output.delimiter out.names))) out
      (q.rows.map fun entry => entry.2.map Value.text) where
  names_eq := by
    intro names hnames
    rw [names_of_outputFile houtput] at hnames
    cases hnames
  separates := hdelimiter
  lookup_eq := by
    rw [CsvFile.recordsOf, names_of_outputFile houtput]
    exact FileSystem.lookup_put_self hplace _
  unmarked := by
    obtain ⟨name, names, hnames⟩ := List.exists_cons_of_length_pos hpos
    have hname : name.toList.head? ≠ some '\uFEFF' := hmark name (by simp [hnames])
    rw [CsvFile.recordsOf, names_of_outputFile houtput, hnames]
    exact Csv.skipMark_ofTexts (delimiter_of_outputFile houtput) hname _ _
  width_pos := hpos
  row_width := by
    intro row hrow
    obtain ⟨entry, hentry, rfl⟩ := List.mem_map.mp hrow
    rw [List.length_map, hwidth entry hentry]

end Parts

/-- A run that ends well writes what the pipeline computes and reports it truthfully, if
its output is another file than its input. -/
theorem run_delivers [Pattern.Engine] {report : RunReport} {input output : CsvFile}
    (hrun : spec.run inputPath outputPath fs = .ok report after)
    (hinput : spec.inputFile inputPath = .ok input)
    (houtput : spec.outputFile outputPath = .ok (some output))
    (hapart : ¬after.SamePlace input.path output.path)
    (hcolumns : 1 ≤ report.columnsAfter)
    (hdelimiter : Csv.Separates output.delimiter)
    (hmark : ∀ p out, spec.build (Pipeline.ofSource (.csv input)) = .ok p →
      p.columns fs = .ok out fs → out.Unmarked) :
    ∃ p t, spec.build (Pipeline.ofSource (.csv input)) = .ok p ∧
      p.toTable after = .ok t after ∧
      (fs.pathExists input.path = true → p.toTable fs = .ok t fs) ∧
      Delivers input output report t fs after := by
  obtain ⟨found, schema, p, chain, hprepared⟩ := exists_prepared_of_run hrun
  obtain rfl : input = found := Except.ok.inj (hinput.symm.trans hprepared.input_eq)
  obtain ⟨made, place, items, hroom, hitems, hdone⟩ := hprepared.exists_of_run houtput hrun
  have hwidth := hprepared.rows_width hroom hitems
  rw [hprepared.run_into houtput hroom hitems] at hrun
  simp only [hdone] at hrun
  obtain ⟨rfl, rfl⟩ := (EStateM.Result.ok.injEq ..).mp hrun
  have hother : ¬made.SamePlace input.path output.path :=
    (FileSystem.samePlace_put_iff hroom.place_eq _).not.mp hapart
  -- the input is found in the end as it was found before, and as it was read
  have hkept := hroom.lookup_opened
    ((chain.passage items).inFile output.delimiter chain.schema.names) hother
  have hschema := CsvFile.columnsIn_of_kept hkept hprepared.schema_eq
  have hrows := CsvFile.rowsIn_of_kept (lookup_written hroom
    ((chain.passage items).inFile output.delimiter chain.schema.names) hother) hitems
  have hout : p.columns fs = .ok chain.schema fs := by
    rw [p.columns_eq, hprepared.chain_eq]
    rfl
  have hholds := holdsTexts_of_passage houtput hroom.place_eq hcolumns hdelimiter
    (hmark p chain.schema hprepared.build_eq hout) hwidth
  have hstats := Pipeline.chainIn_stats hprepared.chain_eq
  obtain ⟨-, hread, htaken⟩ := chain.passage_counts items
  refine ⟨p, ⟨chain.schema, (chain.passage items).rows, hwidth⟩, hprepared.build_eq,
    hprepared.toTable_eq hschema hrows hdone hwidth, ?_, ?_⟩
  · intro hexists
    exact hprepared.toTable_eq hprepared.schema_eq (rowsIn_before hroom hother hexists hitems)
      hdone hwidth
  · exact {
      columns := CsvFile.columns_eq_ok_iff.mpr hholds.columnsIn
      rows := by
        refine (CsvFile.rows_eq_ok_iff.mpr hholds.rowsIn).trans ?_
        simp only [Table.rows, List.zipIdx_map, List.map_map]
        congr 1
        exact List.map_congr_left fun _ _ => by simp
      rowsWritten := rfl
      columnsAfter := rfl
      columnsBefore := ⟨schema, CsvFile.columns_eq_ok_iff.mpr hprepared.schema_eq, rfl⟩
      written_le_read := by simpa [hstats] using hread
      read_le_rows := ⟨items, CsvFile.rows_eq_ok_iff.mpr hrows, by simpa [hstats] using htaken⟩
      input_kept := hkept }

/-- The second column of the first two rows. -/
def lastNames : PipelineSpec :=
  { version := "0.1"
    name := "last names"
    steps := [.limit 2, .select ["last"] none] }

/-- Three rows, of which one needs quotes and one has an empty cell. -/
def people : FileSystem :=
  ⟨[(["in.csv"], .file (Utf8.ofString "id,last\n1,\"de, la\"\n2,\n3,zu\n"))]⟩

def peopleFile : CsvFile := ⟨"in.csv", none, CsvFile.comma⟩

def namesFile : CsvFile := ⟨"out.csv", none, CsvFile.comma⟩

/-- What is left when the names have been written: a field between quotes, and a pair of
quotes for the empty one. -/
def peopleAndNames : FileSystem :=
  people.put ["out.csv"] (.file (Utf8.ofString "last\n\"de, la\"\n\"\"\n"))

theorem lastNames_run :
    lastNames.run (some "in.csv") (some "out.csv") people =
      .ok ⟨2, 2, 2, 1, 2, some "out.csv"⟩ peopleAndNames := by
  have hprepared : lastNames.Prepared (some "in.csv") people peopleFile
      ⟨["id", "last"], by decide⟩ ⟨.csv peopleFile, [.limit 2, .select [.name "last"]]⟩
      ⟨[.limit 2 0, .select [1]], ⟨["last"], by decide⟩, ⟨0, 0⟩, false⟩ :=
    ⟨rfl, rfl, rfl, rfl, rfl⟩
  have houtput : lastNames.outputFile (some "out.csv") = .ok (some namesFile) := rfl
  have hroom : people.RoomFor namesFile.path people ["out.csv"] :=
    FileSystem.roomFor_top rfl rfl
  have hitems : peopleFile.rowsIn (people.put ["out.csv"] (.file [])) =
      .ok [.ok (0, [.str "1", .str "de, la"]), .ok (1, [.str "2", .str ""]),
        .ok (2, [.str "3", .str "zu"])] := rfl
  have hpassage : Chain.passage
      ⟨[.limit 2 0, .select [1]], ⟨["last"], by decide⟩, ⟨0, 0⟩, false⟩
      [.ok (0, [.str "1", .str "de, la"]), .ok (1, [.str "2", .str ""]),
        .ok (2, [.str "3", .str "zu"])] =
      ⟨[(0, [.str "de, la"]), (1, [.str ""])], none,
        ⟨[.limit 2 2, .select [1]], ⟨["last"], by decide⟩, ⟨2, 2⟩, true⟩,
        [.ok (2, [.str "3", .str "zu"])]⟩ := rfl
  rw [hprepared.run_into houtput hroom hitems, hpassage]
  rfl

theorem lastNames_delivers :
    lastNames.run (some "in.csv") (some "out.csv") people =
        .ok ⟨2, 2, 2, 1, 2, some "out.csv"⟩ peopleAndNames ∧
      lastNames.inputFile (some "in.csv") = .ok peopleFile ∧
      lastNames.outputFile (some "out.csv") = .ok (some namesFile) ∧
      ¬peopleAndNames.SamePlace peopleFile.path namesFile.path ∧
      ∃ p t, lastNames.build (Pipeline.ofSource (.csv peopleFile)) = .ok p ∧
        p.toTable peopleAndNames = .ok t peopleAndNames ∧
        (people.pathExists peopleFile.path = true → p.toTable people = .ok t people) ∧
        Delivers peopleFile namesFile ⟨2, 2, 2, 1, 2, some "out.csv"⟩ t people
          peopleAndNames := by
  have hapart : ¬peopleAndNames.SamePlace peopleFile.path namesFile.path := by
    intro hsame
    exact absurd (hsame.components_eq (by decide) (by decide)) (by decide)
  have hmark : ∀ p out, lastNames.build (Pipeline.ofSource (.csv peopleFile)) = .ok p →
      p.columns people = .ok out people → out.Unmarked := by
    rintro p out ⟨⟩ hcolumns
    have hknown : Pipeline.columns ⟨.csv peopleFile, [.limit 2, .select [.name "last"]]⟩ people =
        .ok ⟨["last"], by decide⟩ people := rfl
    obtain ⟨rfl, -⟩ := (EStateM.Result.ok.injEq ..).mp (hknown.symm.trans hcolumns)
    rintro name ⟨⟩
    decide
  exact ⟨lastNames_run, rfl, rfl, hapart,
    run_delivers lastNames_run rfl rfl hapart (by decide) ⟨by decide, by decide⟩ hmark⟩

end PipelineSpec

end TableFlow
