import TableFlow.Proofs.Pipeline.Writing

/-!
# Tables in files

A table that is written to a delimited file is read back as the texts of its cells, whether
the file has a header line or is given the names of its columns.

* `CsvWriter.Holds.writeHeader` and `CsvWriter.Holds.writeRows` are what a writer has taken;
* `CsvFile.read_written` is the table on its way into the file and back.
-/

namespace TableFlow

namespace CsvWriter

variable {w : CsvWriter} {file : CsvFile} {records : List (List String)} {width : Nat}

/-- A new writer takes the names of the columns, unless the file is given them. -/
theorem Holds.writeHeader (h : w.Holds file []) (hstart : w.output.width = none) (s : Schema) :
    ∃ later, w.writeHeader s = (.ok (), later) ∧ later.Holds file (file.recordsOf s.names []) ∧
      later.output.width.getD s.width = s.width := by
  unfold CsvWriter.writeHeader CsvFile.recordsOf
  rw [h.file_eq]
  cases file.names with
  | some names => exact ⟨w, rfl, h, by rw [hstart]; rfl⟩
  | none =>
    obtain ⟨later, hwrite, hholds, hwidth⟩ := h.writeTexts s.names (by rw [hstart]; rfl)
    exact ⟨later, hwrite, hholds, by rw [hwidth]; rfl⟩

/-- Rows of one width are all taken, if the records before them are as wide. -/
theorem Holds.writeRows (h : w.Holds file records) (hwidth : w.output.width.getD width = width)
    {rows : List Row} (hrows : ∀ row ∈ rows, row.length = width) :
    ∃ later, w.writeRows rows = (List.replicate rows.length (.ok ()), later) ∧
      later.Holds file (records ++ rows.map fun row => row.map Value.text) := by
  induction rows generalizing w records with
  | nil => exact ⟨w, rfl, by simpa using h⟩
  | cons row rows ih =>
    obtain ⟨hrow, hrest⟩ := List.forall_mem_cons.mp hrows
    have htexts : (row.map Value.text).length = width := by rw [List.length_map, hrow]
    obtain ⟨next, hwrite, hnext, hkept⟩ :=
      h.writeTexts (row.map Value.text) (by rw [htexts, hwidth])
    obtain ⟨later, hwrites, hlater⟩ := ih hnext (by rw [hkept, htexts]; rfl) hrest
    refine ⟨later, ?_, by simpa using hlater⟩
    simp only [CsvWriter.writeRows, CsvWriter.writeRow, hwrite, hwrites]
    rfl

end CsvWriter

namespace CsvFile

/-- The records of the rows stand behind that of the names, if there is one. -/
theorem recordsOf_append (f : CsvFile) (names : List String) (rows : List (List String)) :
    f.recordsOf names [] ++ rows = f.recordsOf names rows := by
  unfold recordsOf
  cases f.names <;> rfl

/-- A file that is given as many names as a schema has is read under them, and its records are
the same. -/
theorem exists_schema_of_given {f : CsvFile} {s : Schema}
    (hgiven : ∀ names, f.names = some names → names.Nodup ∧ names.length = s.width) :
    ∃ read : Schema, read.names = f.names.getD s.names ∧ read.width = s.width ∧
      ∀ rows, f.recordsOf read.names rows = f.recordsOf s.names rows := by
  unfold recordsOf
  cases hnames : f.names with
  | none => exact ⟨s, rfl, rfl, fun _ => rfl⟩
  | some names =>
    obtain ⟨hnd, hlength⟩ := hgiven names hnames
    exact ⟨⟨names, hnd⟩, rfl, hlength, fun _ => rfl⟩

/-- A file holds what has been brought into it, if that does not start with a byte order
mark. -/
theorem holdsTexts_of_written {f : CsvFile} {fs : FileSystem} {place : List String} {s : Schema}
    {rows : List (List String)} (hplace : fs.filePlace f.path = .ok place)
    (hdelimiter : Csv.Separates f.delimiter) (hwidth : 0 < s.width)
    (hnames : ∀ names, f.names = some names → s.names = names)
    (hrows : ∀ row ∈ rows, row.length = s.width)
    (hmark : ¬[0xEF, 0xBB, 0xBF] <+: Csv.ofTexts f.delimiter (f.recordsOf s.names rows)) :
    f.HoldsTexts
      (fs.put place (.file (Csv.ofTexts f.delimiter (f.recordsOf s.names rows)))) s rows where
  names_eq := hnames
  separates := hdelimiter
  lookup_eq := FileSystem.lookup_put_self hplace _
  unmarked := Csv.skipMark_of_not_prefix hmark
  width_pos := hwidth
  row_width := hrows

/-- A file that has been created takes the names and the rows of a table. If what is written
does not start with a byte order mark, the file then has the names that it is given, or else
those of the table, and its rows are the texts of the cells, numbered from zero. -/
theorem read_written (f : CsvFile) (t : Table) {fs opened : FileSystem} {w : CsvWriter}
    (hwidth : 0 < t.width) (hdelimiter : Csv.Separates f.delimiter)
    (hgiven : ∀ names, f.names = some names → names.Nodup ∧ names.length = t.width)
    (hcreate : f.create fs = .ok w opened) :
    ∃ headed written after,
      w.writeHeader t.schema = (.ok (), headed) ∧
        headed.writeRows t.rows = (List.replicate t.size (.ok ()), written) ∧
        written.flush opened = .ok () after ∧
        (¬[0xEF, 0xBB, 0xBF] <+: written.output.bytes →
          ∃ s, s.names = f.names.getD t.schema.names ∧ f.columns after = .ok s after ∧
            f.rows after =
              .ok (t.rows.zipIdx.map fun (row, id) => .ok (id, row.map fun v => .str v.text))
                after) := by
  obtain ⟨made, place, hroom, rfl⟩ := roomFor_of_create hcreate
  rw [create_eq hroom] at hcreate
  cases hcreate
  have hrows : ∀ row ∈ t.rows, row.length = t.width := by
    intro row hrow
    obtain ⟨entry, hentry, rfl⟩ := List.mem_map.mp hrow
    exact t.row_width entry hentry
  obtain ⟨headed, hheader, hheaded, hsame⟩ :=
    (CsvWriter.holds_start f).writeHeader rfl t.schema
  obtain ⟨written, hwrites, hwritten⟩ := hheaded.writeRows hsame hrows
  rw [f.recordsOf_append] at hwritten
  have hflush := hwritten.flush (FileSystem.filePlace_put hroom.place_eq [])
  rw [FileSystem.put_put] at hflush
  have hsize : t.rows.length = t.size := List.length_map _
  refine ⟨headed, written, _, hheader, hsize ▸ hwrites, hflush, ?_⟩
  intro hmark
  obtain ⟨s, hnames, hwide, hrecords⟩ := exists_schema_of_given hgiven
  rw [hwritten.output.bytes_of_nil, ← hrecords] at hmark
  have hholds := holdsTexts_of_written hroom.place_eq hdelimiter (hwide ▸ hwidth)
    (by intro names hgave; rw [hnames, hgave]; rfl)
    (by
      intro texts htexts
      obtain ⟨row, hrow, rfl⟩ := List.mem_map.mp htexts
      rw [List.length_map, hrows row hrow, hwide]
      rfl)
    hmark
  rw [← hrecords]
  refine ⟨s, hnames, columns_eq_ok_iff.mpr hholds.columnsIn, ?_⟩
  refine (rows_eq_ok_iff.mpr hholds.rowsIn).trans ?_
  simp only [List.zipIdx_map, List.map_map]
  congr 1
  exact List.map_congr_left fun _ _ => by simp

/-- A single column: empty cells, one with the delimiter, quotes and a line end, and a list. -/
def remarks : Table :=
  ⟨⟨["remark"], by decide⟩,
    [(4, [.null]), (4, [.str "a,\"b\"\r\n"]), (7, [.list [.bool true, .str "x"]]), (2, [.str ""])],
    by decide⟩

/-- A file that has no header line, and names of its own. -/
def remarksFile : CsvFile := ⟨"remarks.txt", some ["note"], comma⟩

/-- All of the cells come back as texts, and none of the rows gets lost with its empty line. -/
theorem remarks_read_written :
    ∃ w opened headed written after,
      remarksFile.create .empty = .ok w opened ∧
        w.writeHeader remarks.schema = (.ok (), headed) ∧
        headed.writeRows remarks.rows = (List.replicate 4 (.ok ()), written) ∧
        written.flush opened = .ok () after ∧
        remarksFile.columns after = .ok ⟨["note"], by decide⟩ after ∧
        remarksFile.rows after =
          .ok [.ok (0, [.str ""]), .ok (1, [.str "a,\"b\"\r\n"]), .ok (2, [.str "(true, x)"]),
            .ok (3, [.str ""])] after := by
  have hroom : FileSystem.empty.RoomFor remarksFile.path .empty ["remarks.txt"] :=
    FileSystem.roomFor_top rfl rfl
  have hcreate := create_eq hroom
  obtain ⟨headed, written, after, hheader, hwrites, hflush, hread⟩ :=
    read_written remarksFile remarks (by decide) ⟨by decide, by decide⟩
      (by rintro names ⟨⟩; exact ⟨by decide, rfl⟩) hcreate
  have hmark : ¬[0xEF, 0xBB, 0xBF] <+: written.output.bytes := by
    cases hheader
    obtain rfl := congrArg Prod.snd hwrites
    decide
  obtain ⟨⟨names, hnd⟩, hnames, hcolumns, hrows⟩ := hread hmark
  cases hnames
  exact ⟨_, _, headed, written, after, hcreate, hheader, hwrites, hflush, hcolumns, hrows⟩

end CsvFile

end TableFlow
