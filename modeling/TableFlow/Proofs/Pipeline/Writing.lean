import TableFlow.Proofs.Csv.Reading
import TableFlow.Proofs.Files.Frame
import TableFlow.Proofs.Pipeline.Start

/-!
# Runs into a file

A run into a file creates the file before its source is read, and whatever the rows are
that come out, the file holds the line of the schema and theirs when the run is over.

* `Collector.Writing.Holds` is what has been written so far, kept by each row;
* `Pipeline.streamWithStats_write` is a run, and `Pipeline.exists_of_streamWithStats_write`
  what has gone well before a run ends well.
-/

namespace TableFlow

open Files (Node)

/-! ## Creating and flushing -/

namespace CsvFile

variable {f : CsvFile} {fs made : FileSystem} {place : List String}

theorem create_apply (f : CsvFile) (fs : FileSystem) :
    f.create fs =
      match fs.makeDirectories (Files.parentComponents f.path) with
      | (.error e, made) => .error (.file e) made
      | (.ok (), made) =>
        match made.filePlace f.path with
        | .error e => .error (.during ("Failed to create " ++ f.path) (.csv (.file e))) made
        | .ok place => .ok ⟨f, .start f.delimiter⟩ (made.put place (.file [])) := by
  show EStateM.bind _ _ fs = _
  simp only [EStateM.bind, Action.mapError, Action.makeDirectories]
  rcases fs.makeDirectories (Files.parentComponents f.path) with ⟨e | u, made⟩
  · rfl
  · show EStateM.bind _ _ made = _
    simp only [EStateM.bind, Action.change, FileSystem.write]
    cases made.filePlace f.path <;> rfl

theorem create_eq (hroom : fs.RoomFor f.path made place) :
    f.create fs = .ok ⟨f, .start f.delimiter⟩ (made.put place (.file [])) := by
  have hmade := FileSystem.createDirectories_eq_ok_iff.mp hroom.made_eq
  simp only [create_apply, hmade, hroom.place_eq]

theorem roomFor_of_create {w : CsvWriter} {after : FileSystem} (h : f.create fs = .ok w after) :
    ∃ made place, fs.RoomFor f.path made place ∧ after = made.put place (.file []) := by
  rw [create_apply] at h
  split at h
  · cases h
  rename_i made hmade
  split at h
  · cases h
  rename_i place hplace
  cases h
  exact ⟨made, place, ⟨FileSystem.createDirectories_eq_ok_iff.mpr hmade, hplace⟩, rfl⟩

/-- What is read when a file has been created is as wide as the header that was read before.
If it is the created file itself that is read, there is nothing in it. -/
theorem rowsIn_fit_opened {path : String} {schema : Schema} {items : List Item}
    (hroom : fs.RoomFor path made place) (hcolumns : f.columnsIn fs = .ok schema)
    (hitems : f.rowsIn (made.put place (.file [])) = .ok items) :
    ∀ item ∈ items, item.Fits schema.width := by
  by_cases hsame : made.SamePlace f.path path
  · obtain ⟨node, hlookup⟩ := exists_lookup_of_rowsIn hitems
    obtain rfl := FileSystem.lookup_put_of_samePlace hroom.place_eq [] hsame hlookup
    simp [rowsIn_of_empty hlookup hitems]
  · exact rowsIn_fit (columnsIn_of_kept (hroom.lookup_opened [] hsame) hcolumns) hitems

/-- A file whose header has been read can be read again when a file has been created, be it
this one. -/
theorem exists_rowsIn_opened {path : String} {schema : Schema} (hnames : f.names = none)
    (hroom : fs.RoomFor path made place) (hcolumns : f.columnsIn fs = .ok schema) :
    ∃ items, f.rowsIn (made.put place (.file [])) = .ok items := by
  obtain ⟨content, hfile⟩ := exists_file_of_columnsIn hnames hcolumns
  have hmade := FileSystem.lookup_mono
    (FileSystem.createDirectories_extends hroom.made_eq) hfile
  by_cases hsame : made.SamePlace f.path path
  · have hempty := FileSystem.lookup_put_of_file hroom.place_eq [] hsame hmade
    have hnothing : f.columnsIn (made.put place (.file [])) = .ok ⟨[], List.nodup_nil⟩ := by
      simp only [columnsIn, hnames, openRecords_of_lookup hempty]
      rfl
    exact exists_rowsIn hnothing hempty
  · have hkept := hroom.lookup_opened [] hsame
    exact exists_rowsIn (columnsIn_of_kept hkept hcolumns) (hkept _ hfile)

end CsvFile

/-! ## Records -/

theorem Csv.ofTexts_concat (delimiter : UInt8) (records : List (List String))
    (texts : List String) :
    Csv.ofTexts delimiter (records ++ [texts]) =
      Csv.ofTexts delimiter records ++ Csv.line delimiter (texts.map Utf8.ofString) := by
  simp [Csv.ofTexts, Csv.text]

namespace CsvWriter

/-- The writer is between two records, and these are the ones that it has taken. -/
structure Holds (w : CsvWriter) (file : CsvFile) (records : List (List String)) : Prop where
  file_eq : w.file = file
  delimiter_eq : w.output.delimiter = file.delimiter
  output : w.output.Holds (Csv.ofTexts file.delimiter records) []

theorem holds_start (file : CsvFile) : Holds ⟨file, .start file.delimiter⟩ file [] where
  file_eq := rfl
  delimiter_eq := rfl
  output := Csv.Output.holds_start file.delimiter

variable {w : CsvWriter} {file : CsvFile} {records : List (List String)}

/-- The first record is taken, and every later one of its width. -/
theorem Holds.writeTexts (h : w.Holds file records) (texts : List String)
    (hwidth : w.output.width.getD texts.length = texts.length) :
    ∃ later, w.writeTexts texts = (.ok (), later) ∧ later.Holds file (records ++ [texts]) ∧
      later.output.width = some texts.length := by
  have hfields : (texts.map Utf8.ofString).length = texts.length := List.length_map _
  obtain ⟨output, hrecord, hholds, hdelimiter, hkept⟩ :=
    h.output.record (texts.map Utf8.ofString) (by rw [hfields, hwidth])
  refine ⟨{ w with output := output }, by simp only [CsvWriter.writeTexts, hrecord], ⟨h.file_eq,
    hdelimiter.trans h.delimiter_eq, ?_⟩, by rw [hkept, hfields]⟩
  rw [h.delimiter_eq] at hholds
  rwa [Csv.ofTexts_concat]

/-- What was taken reaches the place of the file. -/
theorem Holds.flush (h : w.Holds file records) {fs : FileSystem} {place : List String}
    (hplace : fs.filePlace file.path = .ok place) :
    w.flush fs = .ok () (fs.put place (.file (Csv.ofTexts file.delimiter records))) := by
  simp only [CsvWriter.flush, Action.change, FileSystem.write, h.file_eq, hplace,
    h.output.bytes_of_nil]

end CsvWriter

namespace Collector

/-- These records have been taken: a header, and as many rows of its width as were
counted. -/
structure Writing.Holds (w : Writing) (file : CsvFile) (names : List String)
    (rows : List (List String)) : Prop where
  writer : w.writer.Holds file (names :: rows)
  width_eq : w.writer.output.width = some names.length
  written_eq : w.written = rows.length

variable {file : CsvFile}

theorem write_start (hnames : file.names = none) {fs made : FileSystem} {place : List String}
    (hroom : fs.RoomFor file.path made place) (s : Schema) :
    ∃ w, (write file).start s fs = .ok w (made.put place (.file [])) ∧
      w.Holds file s.names [] := by
  obtain ⟨writer, hwrite, hholds, hwidth⟩ :=
    (CsvWriter.holds_start file).writeTexts s.names rfl
  refine ⟨⟨writer, 0⟩, ?_, hholds, hwidth, rfl⟩
  show EStateM.bind _ _ fs = _
  simp only [EStateM.bind, CsvFile.create_eq hroom, CsvWriter.writeHeader, hnames, hwrite]
  rfl

/-- A run into a file starts with the file created, and its header taken. -/
theorem exists_of_write_start {fs after : FileSystem} {s : Schema} {w : Writing}
    (h : (write file).start s fs = .ok w after) :
    ∃ writer, file.create fs = .ok writer after ∧ w = ⟨(writer.writeHeader s).2, 0⟩ := by
  change EStateM.bind _ _ fs = _ at h
  cases hcreate : file.create fs with
  | error e opened =>
    simp only [EStateM.bind, hcreate] at h
    cases h
  | ok writer opened =>
    simp only [EStateM.bind, hcreate] at h
    rcases hheader : writer.writeHeader s with ⟨e | u, later⟩
    · rw [hheader] at h
      change EStateM.bind _ _ opened = _ at h
      cases hflush : later.flush opened <;> simp only [EStateM.bind, hflush] at h <;> cases h
    · rw [hheader] at h
      cases h
      exact ⟨writer, rfl, by rw [hheader]⟩

theorem roomFor_of_write {fs after : FileSystem} {s : Schema} {w : Writing}
    (h : (write file).start s fs = .ok w after) :
    ∃ made place, fs.RoomFor file.path made place ∧ after = made.put place (.file []) := by
  obtain ⟨writer, hcreate, -⟩ := exists_of_write_start h
  exact CsvFile.roomFor_of_create hcreate

variable {w : Writing} {names : List String} {rows : List (List String)}

/-- A row of the right width is taken. -/
theorem Writing.Holds.add (h : w.Holds file names rows) {entry : Entry}
    (hwidth : entry.2.length = names.length) :
    ((write file).add w entry).1 = .ok .drop ∧
      ((write file).add w entry).2.Holds file names (rows ++ [entry.2.map Value.text]) := by
  have htexts : (entry.2.map Value.text).length = names.length := by
    rw [List.length_map, hwidth]
  obtain ⟨writer, hwrite, hholds, hkept⟩ :=
    h.writer.writeTexts (entry.2.map Value.text) (by rw [h.width_eq, htexts]; rfl)
  simp only [write, CsvWriter.writeRow, hwrite]
  exact ⟨trivial, hholds, by rw [hkept, htexts], by simp [h.written_eq]⟩

theorem write_takes (file : CsvFile) (names : List String) :
    (write file).Takes names.length fun w => ∃ rows, w.Holds file names rows := by
  refine (write_neverStops file).takes ?_
  rintro w entry ⟨rows, hholds⟩ hwidth
  obtain ⟨htaken, hlater⟩ := hholds.add hwidth
  exact ⟨⟨_, htaken⟩, _, hlater⟩

theorem Writing.Holds.stateAfter (h : w.Holds file names rows) {entries : List Entry}
    (hwidth : ∀ entry ∈ entries, entry.2.length = names.length) :
    ((write file).stateAfter w entries).Holds file names
      (rows ++ entries.map fun entry => entry.2.map Value.text) := by
  unfold Collector.stateAfter
  induction entries generalizing w rows with
  | nil => simpa using h
  | cons entry entries ih =>
    obtain ⟨hentry, hentries⟩ := List.forall_mem_cons.mp hwidth
    obtain ⟨-, hlater⟩ := h.add hentry
    simpa using ih hlater hentries

theorem Writing.Holds.abandon (h : w.Holds file names rows) {fs : FileSystem}
    {place : List String} (hplace : fs.filePlace file.path = .ok place) :
    (write file).abandon w fs =
      .ok () (fs.put place (.file (Csv.ofTexts file.delimiter (names :: rows)))) :=
  h.writer.flush hplace

/-- At the end everything that was written reaches the place of the file. -/
theorem Writing.Holds.finish (h : w.Holds file names rows) {fs : FileSystem}
    {place : List String} (hplace : fs.filePlace file.path = .ok place) :
    (write file).finish w fs =
      .ok rows.length (fs.put place (.file (Csv.ofTexts file.delimiter (names :: rows)))) := by
  show EStateM.bind _ _ fs = _
  simp only [EStateM.bind, h.writer.flush hplace, h.written_eq]
  rfl

end Collector

/-! ## Runs -/

/-- The rows that come out, below the names of their columns, as they stand in a file. -/
def Passage.inFile (q : Passage) (delimiter : UInt8) (names : List String) : List UInt8 :=
  Csv.ofTexts delimiter (names :: q.rows.map fun entry => entry.2.map Value.text)

namespace Pipeline

variable {p : Pipeline} {file : CsvFile} {fs : FileSystem}

/-- A run into a file, once it is known what is read: the file holds the names of the
columns and the rows that came out, also if one of the items failed. -/
theorem streamWithStats_write {made : FileSystem} {place : List String} {chain : Chain}
    {items : List Item} (hnames : file.names = none) (hchain : p.chainIn fs = .ok chain)
    (hroom : fs.RoomFor file.path made place)
    (hitems : p.source.itemsIn (made.put place (.file [])) = .ok items)
    (hwidth : ∀ entry ∈ (chain.passage items).rows, entry.2.length = chain.schema.width) :
    p.streamWithStats (Collector.write file) fs =
      let passage := chain.passage items
      let after := made.put place (.file (passage.inFile file.delimiter chain.schema.names))
      match passage.error with
      | some e => .error e after
      | none => .ok (passage.rows.length, passage.chain.stats) after := by
  obtain ⟨w, hstart, hholds⟩ := Collector.write_start hnames hroom chain.schema
  have hlast := hholds.stateAfter hwidth
  have hplace := FileSystem.filePlace_put hroom.place_eq []
  have habandon := hlast.abandon hplace
  have hfinish := hlast.finish hplace
  rw [FileSystem.put_put, List.nil_append] at habandon hfinish
  rw [List.length_map] at hfinish
  rw [streamWithStats_eq, hchain]
  simp only [hstart]
  rw [driveInto_eq (Collector.write_takes file chain.schema.names) ⟨[], hholds⟩ hitems hwidth]
  cases herror : (chain.passage items).error with
  | some e => simp only [herror, habandon, Passage.inFile]
  | none => simp only [herror, hfinish, Passage.inFile]

/-- A run into a file that cannot be created leaves what the attempt leaves. -/
theorem streamWithStats_write_uncreated {chain : Chain} {e : Error} {after : FileSystem}
    (hchain : p.chainIn fs = .ok chain) (hcreate : file.create fs = .error e after) :
    p.streamWithStats (Collector.write file) fs = .error e after := by
  have hstart : (Collector.write file).start chain.schema fs = .error e after := by
    show EStateM.bind _ _ fs = _
    simp only [EStateM.bind, hcreate]
  rw [streamWithStats_eq, hchain]
  simp only [hstart]

/-- A run into a file whose source cannot be opened leaves the names of the columns in the
file. -/
theorem streamWithStats_write_unread {made : FileSystem} {place : List String} {chain : Chain}
    {e : Error} (hnames : file.names = none) (hchain : p.chainIn fs = .ok chain)
    (hroom : fs.RoomFor file.path made place)
    (hitems : p.source.itemsIn (made.put place (.file [])) = .error e) :
    p.streamWithStats (Collector.write file) fs =
      .error e (made.put place (.file (Csv.ofTexts file.delimiter [chain.schema.names]))) := by
  obtain ⟨w, hstart, hholds⟩ := Collector.write_start hnames hroom chain.schema
  have habandon := hholds.abandon (FileSystem.filePlace_put hroom.place_eq [])
  rw [FileSystem.put_put] at habandon
  rw [streamWithStats_eq, hchain]
  simp only [hstart, driveInto, p.source.items_eq, hitems, Action.ofExcept, habandon]

/-- A run into a file ends well only if everything could be opened. -/
theorem exists_of_streamWithStats_write {result : Nat × Stats} {after : FileSystem}
    (hnames : file.names = none)
    (h : p.streamWithStats (Collector.write file) fs = .ok result after) :
    ∃ chain made place items, p.chainIn fs = .ok chain ∧ fs.RoomFor file.path made place ∧
      p.source.itemsIn (made.put place (.file [])) = .ok items := by
  rw [streamWithStats_eq] at h
  split at h
  · cases h
  rename_i chain hchain
  split at h
  · cases h
  rename_i w opened hstart
  obtain ⟨made, place, hroom, -⟩ := Collector.roomFor_of_write hstart
  obtain ⟨_, hagain, -⟩ := Collector.write_start hnames hroom chain.schema
  rw [hagain] at hstart
  cases hstart
  cases hitems : p.source.itemsIn (made.put place (.file [])) with
  | ok items => exact ⟨chain, made, place, items, hchain, hroom, hitems⟩
  | error e =>
    simp only [driveInto, p.source.items_eq, hitems, Action.ofExcept] at h
    cases habandon : (Collector.write file).abandon w (made.put place (.file [])) <;>
      simp [habandon] at h

end Pipeline

end TableFlow
