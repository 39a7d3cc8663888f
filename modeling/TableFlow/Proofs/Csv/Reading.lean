import TableFlow.Csv.File
import TableFlow.Proofs.Csv.Writing
import TableFlow.Proofs.Schema.Names
import TableFlow.Proofs.Text.Utf8

/-!
# Reading what was written

The reader is followed byte by byte through a field, its closing quote, a record and a whole
text, each with any bytes behind it.

* `Csv.split` is the reader without the places of the records;
* `Csv.split_text` says that written records are the records that are read;
* `Csv.skipMark_ofTexts` says when such a text is not taken for one with a byte order mark;
* `CsvFile.HoldsTexts.columnsIn` and `CsvFile.HoldsTexts.rowsIn` are the names and the rows of
  a file that holds such a text.
-/

namespace TableFlow.Csv

/-! ## Bytes -/

/-- The records of the rest of a text, without their places. -/
def split (delimiter : UInt8) (s : State) (p : Partial) : List UInt8 → List (List Field)
  | [] => (finalRecord s p).toList
  | b :: bs =>
    let next := step delimiter s p b
    next.record.toList ++ split delimiter next.state next.read bs

theorem scanFrom_fields (delimiter : UInt8) (s : State) (p : Partial) (start here : Position)
    (bytes : List UInt8) :
    (scanFrom delimiter s p start here bytes).map Record.fields = split delimiter s p bytes := by
  induction bytes generalizing s p start here with
  | nil =>
    rw [scanFrom, split]
    cases finalRecord s p <;> rfl
  | cons b bs ih =>
    rw [scanFrom, split]
    cases (step delimiter s p b).record with
    | none => exact ih ..
    | some fields => exact congrArg (fields :: ·) (ih ..)

/-- A byte that can stand between fields. -/
structure Separates (delimiter : UInt8) : Prop where
  ne_quote : delimiter ≠ quote
  ne_lineEnd : isLineEnd delimiter = false

variable {delimiter : UInt8}

/-- Between quotes, a field is read up to its last byte. -/
theorem split_doubled (field rest : List UInt8) (p : Partial) :
    split delimiter .quoted p (doubleQuotes field ++ rest) =
      split delimiter .quoted ⟨p.fields, field.reverse ++ p.field⟩ rest := by
  induction field generalizing p with
  | nil => rfl
  | cons b field ih =>
    by_cases hquote : b = quote
    · -- two quotes stand for one
      subst hquote
      have hstep := ih (p.push quote)
      simpa [doubleQuotes, split, step, Partial.push] using hstep
    · have hstep := ih (p.push b)
      simpa [doubleQuotes, split, step, Partial.push, hquote] using hstep

/-- Behind the closing quote a byte counts as it does behind a field without quotes. -/
theorem split_afterQuote {b : UInt8} (hb : b ≠ quote) (p : Partial) (rest : List UInt8) :
    split delimiter .afterQuote p (b :: rest) = split delimiter .inField p (b :: rest) := by
  simp [split, step, hb]

/-- A field without special bytes is read up to its last byte. -/
theorem split_inField {field : Field} (hfield : needsQuotes delimiter field = false)
    (rest : List UInt8) (p : Partial) :
    split delimiter .inField p (field ++ rest) =
      split delimiter .inField ⟨p.fields, field.reverse ++ p.field⟩ rest := by
  induction field generalizing p with
  | nil => rfl
  | cons b field ih =>
    simp only [needsQuotes, List.any_cons, Bool.or_eq_false_iff, decide_eq_false_iff_not] at hfield
    obtain ⟨⟨⟨hdelimiter, -⟩, hend⟩, hfield⟩ := hfield
    have hstep := ih hfield (p.push b)
    simpa [split, step, fieldStep, hdelimiter, hend, Partial.push] using hstep

/-- A written field is read up to the byte behind it, if that is no quote. -/
theorem split_quoted {b : UInt8} (hb : b ≠ quote) (field : Field) (done : List Field)
    (rest : List UInt8) :
    split delimiter .fieldStart ⟨done, []⟩ (quoted delimiter field ++ b :: rest) =
      split delimiter .inField ⟨done, field.reverse⟩ (b :: rest) := by
  unfold quoted
  cases hneeds : needsQuotes delimiter field with
  | true =>
    have hopen : split delimiter .quoted ⟨done, []⟩ (doubleQuotes field ++ quote :: b :: rest) =
        split delimiter .inField ⟨done, field.reverse⟩ (b :: rest) := by
      rw [split_doubled, List.append_nil]
      exact split_afterQuote hb _ _
    simpa [split, step, fieldStartStep] using hopen
  | false =>
    cases field with
    | nil => simp [split, step, fieldStartStep, hb]
    | cons first field =>
      -- the first byte decides that there are no quotes
      have hfirst : first ≠ quote := by
        rintro rfl
        simp [needsQuotes] at hneeds
      have hplain := split_inField hneeds (b :: rest) ⟨done, []⟩
      simp only [List.append_nil] at hplain
      rw [← hplain]
      simp [split, step, fieldStartStep, hfirst]

/-- A line feed behind a field ends the record. -/
theorem fieldStep_lineFeed (h : Separates delimiter) (p : Partial) :
    fieldStep delimiter p lineFeed = ⟨.recordStart, .empty, some p.record⟩ := by
  have hfeed : lineFeed ≠ delimiter := by
    rintro rfl
    cases h.ne_lineEnd
  rw [fieldStep, if_neg hfeed, if_pos (by decide), endRecord, if_neg (by decide)]

/-- The fields of a record are read up to its line feed. -/
theorem split_joined (h : Separates delimiter) (field : Field) (fields done : List Field)
    (rest : List UInt8) :
    split delimiter .fieldStart ⟨done, []⟩
        (joined delimiter (field :: fields) ++ lineFeed :: rest) =
      (done.reverse ++ field :: fields) :: split delimiter .recordStart .empty rest := by
  induction fields generalizing field done with
  | nil =>
    rw [joined, List.flatMap_nil, List.append_nil, split_quoted (by decide)]
    simp [split, step, fieldStep_lineFeed h, Partial.record, Partial.endField]
  | cons next fields ih =>
    -- behind the delimiter the next field starts
    have hrest := ih next (field :: done)
    rw [joined, List.append_assoc] at hrest
    rw [joined, List.flatMap_cons, List.append_assoc, List.cons_append, List.cons_append,
      split_quoted h.ne_quote]
    simpa [split, step, fieldStep, Partial.endField] using hrest

/-- A record that has any bytes starts with one that ends no line. -/
theorem isLineEnd_of_joined (h : Separates delimiter) {fields : List Field} {b : UInt8}
    {bs : List UInt8} (hjoined : joined delimiter fields = b :: bs) : isLineEnd b = false := by
  cases fields with
  | nil => cases hjoined
  | cons field fields =>
    rw [joined, quoted] at hjoined
    cases hneeds : needsQuotes delimiter field with
    | true =>
      rw [hneeds, if_pos rfl] at hjoined
      cases hjoined
      rfl
    | false =>
      rw [hneeds, if_neg (by simp)] at hjoined
      cases field with
      | cons first field =>
        cases hjoined
        simp only [needsQuotes, List.any_cons, Bool.or_eq_false_iff] at hneeds
        exact hneeds.1.2
      | nil =>
        -- an empty field in front of others leaves the delimiter as the first byte
        cases fields with
        | nil => cases hjoined
        | cons next fields =>
          cases hjoined
          exact h.ne_lineEnd

/-- A written record is read as it was. -/
theorem split_line (h : Separates delimiter) {fields : List Field} (hsome : fields ≠ [])
    (rest : List UInt8) :
    split delimiter .recordStart .empty (line delimiter fields ++ rest) =
      fields :: split delimiter .recordStart .empty rest := by
  obtain ⟨field, fields, rfl⟩ := List.exists_cons_of_ne_nil hsome
  unfold line
  cases hjoined : joined delimiter (field :: fields) with
  | nil =>
    -- one empty field, written as a pair of quotes
    rw [joined, List.append_eq_nil_iff] at hjoined
    obtain ⟨hfield, hfields⟩ := hjoined
    have hnone : fields = [] := by
      cases fields with
      | nil => rfl
      | cons next fields => cases hfields
    have hempty : field = [] := by
      unfold quoted at hfield
      split at hfield
      · cases hfield
      · exact hfield
    subst hnone hempty
    have hquote : isLineEnd quote = false := by decide
    have hfeed : lineFeed ≠ quote := by decide
    simp [split, step, recordStartStep, fieldStartStep, fieldStep_lineFeed h, hquote, hfeed,
      Partial.record, Partial.endField, Partial.empty]
  | cons b bs =>
    have hfields := split_joined h field fields [] rest
    rw [hjoined] at hfields
    have hb := isLineEnd_of_joined h hjoined
    simpa [split, step, recordStartStep, hb, Partial.empty] using hfields

/-- Written records are read as they were. -/
theorem split_text (h : Separates delimiter) {records : List (List Field)}
    (hsome : ∀ fields ∈ records, fields ≠ []) :
    split delimiter .recordStart .empty (text delimiter records) = records := by
  induction records with
  | nil => rfl
  | cons fields records ih =>
    obtain ⟨hfields, hrecords⟩ := List.forall_mem_cons.mp hsome
    rw [text, List.flatMap_cons, split_line h hfields]
    exact congrArg (fields :: ·) (ih hrecords)

/-- What is read from a text that has no byte order mark. -/
theorem scan_text (h : Separates delimiter) {records : List (List Field)}
    (hsome : ∀ fields ∈ records, fields ≠ [])
    (hmark : skipMark (text delimiter records) = (0, text delimiter records)) :
    (scan delimiter (text delimiter records)).map Record.fields = records := by
  rw [scan, hmark]
  exact (scanFrom_fields ..).trans (split_text h hsome)

/-! ## Texts -/

/-- Records of texts as they stand in a file. -/
def ofTexts (delimiter : UInt8) (records : List (List String)) : List UInt8 :=
  text delimiter (records.map fun texts => texts.map Utf8.ofString)

theorem fieldTexts_ofString (place : Position) (index : Nat) (texts : List String) :
    fieldTexts place index (texts.map Utf8.ofString) = .ok texts := by
  induction texts generalizing index with
  | nil => rfl
  | cons text texts ih =>
    simp only [List.map_cons, fieldTexts, Utf8.decode_ofString, ih, String.ofList_toList]

theorem recordTexts_of_fields {width : Nat} {r : Record} {texts : List String}
    (hfields : r.fields = texts.map Utf8.ofString) (hwidth : texts.length = width)
    (place : Position) : recordTexts width place r = .ok texts := by
  unfold recordTexts
  rw [hfields, List.length_map, if_pos hwidth, fieldTexts_ofString]

theorem map_recordTexts {width : Nat} {records : List Record} {texts : List (List String)}
    (hfields : records.map Record.fields = texts.map fun row => row.map Utf8.ofString)
    (hwidth : ∀ row ∈ texts, row.length = width) :
    records.map (fun r => recordTexts width r.start r) = texts.map .ok := by
  induction records generalizing texts with
  | nil =>
    cases texts with
    | nil => rfl
    | cons row texts => cases hfields
  | cons r records ih =>
    cases texts with
    | nil => cases hfields
    | cons row texts =>
      obtain ⟨hfirst, hrest⟩ := List.cons.inj hfields
      obtain ⟨hrow, hrows⟩ := List.forall_mem_cons.mp hwidth
      rw [List.map_cons, recordTexts_of_fields hfirst hrow, ih hrest hrows]
      rfl

/-- Records of these texts, behind a header of the same width, are read as them. -/
theorem rows_of_fields {header : Record} {records : List Record} {texts : List (List String)}
    (hfields : records.map Record.fields = texts.map fun row => row.map Utf8.ofString)
    (hwidth : ∀ row ∈ texts, row.length = header.fields.length) :
    rows true (header :: records) = texts.map .ok := by
  unfold rows
  rw [if_pos rfl]
  cases records with
  | nil =>
    have hnone : texts = [] := List.map_eq_nil_iff.mp hfields.symm
    rw [hnone]
    rfl
  | cons second records =>
    -- the first row is read along with the header, and its place is another one
    cases texts with
    | nil => cases hfields
    | cons row texts =>
      obtain ⟨hsecond, hrest⟩ := List.cons.inj hfields
      obtain ⟨hrow, hrows⟩ := List.forall_mem_cons.mp hwidth
      rw [rowsAfterHeader]
      simp only [recordTexts_of_fields hsecond hrow, map_recordTexts hrest hrows, List.map_cons]

/-- Records of these texts, all of one width, are read as them without a header. -/
theorem rows_of_all {width : Nat} {records : List Record} {texts : List (List String)}
    (hfields : records.map Record.fields = texts.map fun row => row.map Utf8.ofString)
    (hwidth : ∀ row ∈ texts, row.length = width) : rows false records = texts.map .ok := by
  show rowsOfAll records = texts.map .ok
  cases texts with
  | nil =>
    have hnone : records = [] := List.map_eq_nil_iff.mp hfields
    rw [hnone]
    rfl
  | cons row texts =>
    obtain ⟨first, rest, rfl, hfirst, -⟩ := List.map_eq_cons_iff.mp hfields
    -- the first record says how wide the others have to be
    have hfirst : first.fields.length = width := by
      rw [hfirst, List.length_map, hwidth row List.mem_cons_self]
    rw [rowsOfAll, hfirst]
    exact map_recordTexts hfields hwidth

/-- A text that does not start with a mark is read from its first byte. -/
theorem skipMark_of_not_prefix {bytes : List UInt8} (h : ¬[0xEF, 0xBB, 0xBF] <+: bytes) :
    skipMark bytes = (0, bytes) := by
  unfold skipMark
  split
  · exact absurd ⟨_, rfl⟩ h
  · rfl

/-- A text that starts like no mark is read from its first byte. -/
theorem skipMark_of_head? {bytes : List UInt8} (h : bytes.head? ≠ some 0xEF) :
    skipMark bytes = (0, bytes) := by
  apply skipMark_of_not_prefix
  rintro ⟨rest, rfl⟩
  exact h rfl

/-- The bytes of a character start with a mark only if it is the mark. -/
theorem skipMark_encodeChar {c : Char} (hc : c ≠ '\uFEFF') (rest : List UInt8) :
    skipMark (Utf8.encodeChar c ++ rest) = (0, Utf8.encodeChar c ++ rest) := by
  apply skipMark_of_not_prefix
  rintro ⟨tail, hbytes⟩
  have hmark : Utf8.next? ([0xEF, 0xBB, 0xBF] ++ tail) = some ('\uFEFF', 3, tail) :=
    Utf8.next?_encodeChar '\uFEFF' tail
  rw [hbytes, Utf8.next?_encodeChar] at hmark
  simp only [Option.some.injEq, Prod.mk.injEq] at hmark
  exact hc hmark.1

/-- A record that starts with an empty field starts with a delimiter or a quote. -/
theorem head?_line_empty (delimiter : UInt8) (fields : List Field) :
    (line delimiter ([] :: fields)).head? = some delimiter ∨
      (line delimiter ([] :: fields)).head? = some quote := by
  cases fields with
  | nil => exact .inr rfl
  | cons field fields => exact .inl rfl

/-- Any other record starts with its first field. -/
theorem line_of_ne_nil (delimiter : UInt8) {field : Field} (h : field ≠ [])
    (fields : List Field) :
    ∃ rest, line delimiter (field :: fields) = quoted delimiter field ++ rest := by
  have hquoted : quoted delimiter field ≠ [] := by
    unfold quoted
    split
    · exact List.cons_ne_nil _ _
    · exact h
  unfold line
  rw [joined, if_neg (by simp [hquoted]), List.append_assoc]
  exact ⟨_, rfl⟩

/-- A text is not taken for one with a mark unless its first name starts with it. -/
theorem skipMark_ofTexts (hascii : delimiter.toNat < 0x80) {name : String}
    (hname : name.toList.head? ≠ some '\uFEFF') (names : List String)
    (records : List (List String)) :
    skipMark (ofTexts delimiter ((name :: names) :: records)) =
      (0, ofTexts delimiter ((name :: names) :: records)) := by
  obtain ⟨rest, hrest⟩ : ∃ rest, ofTexts delimiter ((name :: names) :: records) =
      line delimiter (Utf8.ofString name :: names.map Utf8.ofString) ++ rest := by
    simp only [ofTexts, text, List.map_cons, List.flatMap_cons]
    exact ⟨_, rfl⟩
  rw [hrest]
  cases hchars : name.toList with
  | nil =>
    have hempty : Utf8.ofString name = [] := by
      rw [Utf8.ofString, hchars]
      rfl
    have hdelimiter : delimiter ≠ 0xEF := by
      rintro rfl
      exact absurd hascii (by decide)
    rw [hempty]
    apply skipMark_of_head?
    rcases head?_line_empty delimiter (names.map Utf8.ofString) with hhead | hhead
    all_goals
      rw [List.head?_append, hhead]
      simp [hdelimiter, quote]
  | cons c cs =>
    have hbytes : Utf8.ofString name = Utf8.encodeChar c ++ Utf8.encode cs := by
      rw [Utf8.ofString, hchars]
      rfl
    have hc : c ≠ '\uFEFF' := by
      rintro rfl
      rw [hchars] at hname
      exact hname rfl
    have hsome : Utf8.ofString name ≠ [] := by
      rw [hbytes]
      exact List.append_ne_nil_of_left_ne_nil
        (List.ne_nil_of_length_pos (Utf8.encodeChar_length_pos c)) _
    obtain ⟨more, hline⟩ := line_of_ne_nil delimiter hsome (names.map Utf8.ofString)
    rw [hline, quoted]
    split
    · exact skipMark_of_head? (by simp [quote])
    · rw [hbytes, List.append_assoc, List.append_assoc]
      exact skipMark_encodeChar hc _

end TableFlow.Csv

/-! ## Files -/

namespace TableFlow.CsvFile

variable {f : CsvFile} {fs : FileSystem}

theorem openRecords_of_lookup {content : List UInt8}
    (hfile : fs.lookup f.path = .ok (.file content)) :
    f.openRecords fs = .ok (.ok (Csv.scan f.delimiter content)) := by
  simp only [openRecords, hfile]

/-- The records of a file of these rows: one for the names of the columns, unless they are
given, and one for each row. -/
def recordsOf (f : CsvFile) (names : List String) (rows : List (List String)) :
    List (List String) :=
  match f.names with
  | none => names :: rows
  | some _ => rows

/-- A file that holds the lines of a schema, unless its names are given, and of rows of its
width. -/
structure HoldsTexts (f : CsvFile) (fs : FileSystem) (schema : Schema)
    (rows : List (List String)) : Prop where
  names_eq : ∀ names, f.names = some names → schema.names = names
  separates : Csv.Separates f.delimiter
  lookup_eq : fs.lookup f.path =
    .ok (.file (Csv.ofTexts f.delimiter (f.recordsOf schema.names rows)))
  unmarked : Csv.skipMark (Csv.ofTexts f.delimiter (f.recordsOf schema.names rows)) =
    (0, Csv.ofTexts f.delimiter (f.recordsOf schema.names rows))
  width_pos : 0 < schema.width
  row_width : ∀ row ∈ rows, row.length = schema.width

variable {schema : Schema} {rows : List (List String)}

theorem HoldsTexts.record_width (h : f.HoldsTexts fs schema rows) :
    ∀ texts ∈ f.recordsOf schema.names rows, texts.length = schema.width := by
  unfold recordsOf
  split
  · exact List.forall_mem_cons.mpr ⟨rfl, h.row_width⟩
  · exact h.row_width

theorem HoldsTexts.openRecords (h : f.HoldsTexts fs schema rows) :
    ∃ records, f.openRecords fs = .ok (.ok records) ∧
      records.map Csv.Record.fields =
        (f.recordsOf schema.names rows).map fun texts => texts.map Utf8.ofString := by
  have hsome : ∀ fields ∈
      (f.recordsOf schema.names rows).map (fun texts => texts.map Utf8.ofString),
      fields ≠ [] := by
    intro fields hfields
    obtain ⟨texts, htexts, rfl⟩ := List.mem_map.mp hfields
    have hlength := h.record_width texts htexts
    have hpos := h.width_pos
    apply List.ne_nil_of_length_pos
    rw [List.length_map]
    omega
  exact ⟨_, openRecords_of_lookup h.lookup_eq, Csv.scan_text h.separates hsome h.unmarked⟩

theorem HoldsTexts.columnsIn (h : f.HoldsTexts fs schema rows) :
    f.columnsIn fs = .ok schema := by
  obtain ⟨records, hopen, hrecords⟩ := h.openRecords
  unfold CsvFile.columnsIn
  cases hnames : f.names with
  | some names => exact Schema.ofNames_eq_ok_iff.mpr (h.names_eq names hnames).symm
  | none =>
    rw [recordsOf, hnames, List.map_cons] at hrecords
    obtain ⟨header, rest, rfl, hheader, -⟩ := List.map_eq_cons_iff.mp hrecords
    simp only [hopen, Csv.header, hheader, Csv.fieldTexts_ofString]
    exact Schema.ofNames_eq_ok_iff.mpr rfl

theorem HoldsTexts.rowsIn (h : f.HoldsTexts fs schema rows) :
    f.rowsIn fs = .ok (rows.zipIdx.map fun (row, id) => .ok (id, row.map .str)) := by
  obtain ⟨records, hopen, hrecords⟩ := h.openRecords
  have hread : Csv.rows f.names.isNone records = rows.map .ok := by
    cases hnames : f.names with
    | some names =>
      rw [recordsOf, hnames] at hrecords
      exact Csv.rows_of_all hrecords h.row_width
    | none =>
      rw [recordsOf, hnames, List.map_cons] at hrecords
      obtain ⟨header, rest, rfl, hheader, hrest⟩ := List.map_eq_cons_iff.mp hrecords
      apply Csv.rows_of_fields hrest
      intro row hrow
      rw [h.row_width row hrow, hheader, List.length_map]
      rfl
  simp only [CsvFile.rowsIn, h.columnsIn, hopen, hread, List.zipIdx_map, List.map_map]
  congr 1
  apply List.map_congr_left
  rintro ⟨row, id⟩ hmem
  have hrow : row.length = schema.width := h.row_width row (List.fst_mem_of_mem_zipIdx hmem)
  simp [item, hrow]

/-! What is there to read. -/

theorem exists_lookup_of_rowsIn {items : List Item} (h : f.rowsIn fs = .ok items) :
    ∃ node, fs.lookup f.path = .ok node := by
  cases hlookup : fs.lookup f.path with
  | ok node => exact ⟨node, rfl⟩
  | error fault =>
    unfold CsvFile.rowsIn at h
    split at h
    · cases h
    · simp [CsvFile.openRecords, hlookup] at h

/-- There is a file from which a header has been read. -/
theorem exists_file_of_columnsIn (hnames : f.names = none) (h : f.columnsIn fs = .ok schema) :
    ∃ content, fs.lookup f.path = .ok (.file content) := by
  simp only [CsvFile.columnsIn, hnames, CsvFile.openRecords] at h
  cases hlookup : fs.lookup f.path with
  | error fault => simp [hlookup] at h
  | ok node =>
    cases node with
    | directory => simp [hlookup] at h
    | file content => exact ⟨content, rfl⟩

/-- A file whose schema is known can be read. -/
theorem exists_rowsIn {content : List UInt8} (hcolumns : f.columnsIn fs = .ok schema)
    (hfile : fs.lookup f.path = .ok (.file content)) : ∃ items, f.rowsIn fs = .ok items := by
  unfold CsvFile.rowsIn
  rw [hcolumns, openRecords_of_lookup hfile]
  exact ⟨_, rfl⟩

theorem rowsIn_of_empty {items : List Item} (hfile : fs.lookup f.path = .ok (.file []))
    (h : f.rowsIn fs = .ok items) : items = [] := by
  have hnone : Csv.rows f.names.isNone (Csv.scan f.delimiter []) = [] := by
    cases f.names.isNone <;> rfl
  unfold CsvFile.rowsIn at h
  rw [openRecords_of_lookup hfile] at h
  simp only [hnone] at h
  split at h <;> cases h
  rfl

/-! What is read stays the same as long as the file does. -/

section Kept

variable {later : FileSystem}
  (hkept : ∀ node, fs.lookup f.path = .ok node → later.lookup f.path = .ok node)
include hkept

theorem openRecords_of_kept {records : Except Csv.Fault (List Csv.Record)}
    (h : f.openRecords fs = .ok records) : f.openRecords later = .ok records := by
  cases hlookup : fs.lookup f.path with
  | error fault => simp [CsvFile.openRecords, hlookup] at h
  | ok node =>
    simp only [CsvFile.openRecords, hlookup] at h
    simp only [CsvFile.openRecords, hkept node hlookup]
    exact h

theorem columnsIn_of_kept (h : f.columnsIn fs = .ok schema) :
    f.columnsIn later = .ok schema := by
  unfold CsvFile.columnsIn at h ⊢
  split at h
  · exact h
  · cases hopen : f.openRecords fs with
    | error e => simp [hopen] at h
    | ok records =>
      rw [hopen] at h
      rw [openRecords_of_kept hkept hopen]
      exact h

theorem rowsIn_of_kept {items : List Item} (h : f.rowsIn fs = .ok items) :
    f.rowsIn later = .ok items := by
  unfold CsvFile.rowsIn at h ⊢
  cases hcolumns : f.columnsIn fs with
  | error e => simp [hcolumns] at h
  | ok schema =>
    cases hopen : f.openRecords fs with
    | error e => simp [hcolumns, hopen] at h
    | ok records =>
      rw [hcolumns, hopen] at h
      rw [columnsIn_of_kept hkept hcolumns, openRecords_of_kept hkept hopen]
      exact h

end Kept

end TableFlow.CsvFile
