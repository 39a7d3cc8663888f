import TableFlow.Csv.Writer

/-!
# Delimited text as a whole

The writer puts out pieces of a record and keeps track of a quote that it still owes. What
it has written in the end is the text that `Csv.text` describes: records that end in a line
feed, with delimiters between the fields.

* `Csv.line` and `Csv.text` are records as they stand in a file;
* `Csv.Output.holds_record` ties one call of the writer to them.
-/

namespace TableFlow.Csv

/-- A field as it stands in a file. -/
def quoted (delimiter : UInt8) (field : Field) : List UInt8 :=
  if needsQuotes delimiter field then quote :: (doubleQuotes field ++ [quote]) else field

/-- The fields of a record, with delimiters between them. -/
def joined (delimiter : UInt8) : List Field → List UInt8
  | [] => []
  | field :: fields =>
    quoted delimiter field ++ fields.flatMap fun f => delimiter :: quoted delimiter f

/-- A record as it stands in a file. One without any bytes is a pair of quotes. -/
def line (delimiter : UInt8) (fields : List Field) : List UInt8 :=
  (if joined delimiter fields = [] then [quote, quote] else joined delimiter fields) ++ [lineFeed]

/-- Records as they stand in a file. -/
def text (delimiter : UInt8) (records : List (List Field)) : List UInt8 :=
  records.flatMap (line delimiter)

theorem joined_concat (delimiter : UInt8) (fields : List Field) (field : Field) :
    joined delimiter (fields ++ [field]) =
      if fields = [] then quoted delimiter field
      else joined delimiter fields ++ delimiter :: quoted delimiter field := by
  cases fields <;> simp [joined]

namespace Output

/-! ## Pieces -/

section Pieces

variable (o : Output) (f : Field) (bs : List UInt8)

@[simp]
theorem bytes_put : (o.put bs).bytes = o.bytes ++ bs := by
  simp [put, bytes]

@[simp]
theorem delimiter_closeQuote : o.closeQuote.delimiter = o.delimiter := by
  unfold closeQuote
  split <;> rfl

@[simp]
theorem width_closeQuote : o.closeQuote.width = o.width := by
  unfold closeQuote
  split <;> rfl

@[simp]
theorem fields_closeQuote : o.closeQuote.fields = o.fields := by
  unfold closeQuote
  split <;> rfl

@[simp]
theorem openQuote_closeQuote : o.closeQuote.openQuote = false := by
  unfold closeQuote
  split
  · rfl
  · rename_i hclosed
    simpa using hclosed

theorem closeQuote_of_closed (h : o.openQuote = false) : o.closeQuote = o := by
  simp [closeQuote, h]

@[simp]
theorem delimiter_separate : o.separate.delimiter = o.delimiter := by
  unfold separate
  split
  · exact o.delimiter_closeQuote
  · rfl

@[simp]
theorem width_separate : o.separate.width = o.width := by
  unfold separate
  split
  · exact o.width_closeQuote
  · rfl

@[simp]
theorem fields_separate : o.separate.fields = o.fields := by
  unfold separate
  split
  · exact o.fields_closeQuote
  · rfl

@[simp]
theorem delimiter_field : (o.field f).delimiter = o.delimiter := by
  unfold field
  simp only
  split <;> exact o.delimiter_separate

@[simp]
theorem width_field : (o.field f).width = o.width := by
  unfold field
  simp only
  split <;> exact o.width_separate

@[simp]
theorem fields_field : (o.field f).fields = o.fields + 1 := by
  unfold field
  simp only
  split <;> exact congrArg (· + 1) o.fields_separate

theorem bytes_field (hclosed : o.separate.openQuote = false) :
    (o.field f).closeQuote.bytes = o.separate.bytes ++ quoted o.delimiter f := by
  unfold field quoted
  simp only [delimiter_separate]
  split
  · simp [closeQuote, put, bytes]
  · rw [closeQuote_of_closed]
    · exact bytes_put _ _
    · exact hclosed

theorem openQuote_field (hclosed : o.separate.openQuote = false) :
    (o.field f).openQuote = needsQuotes o.delimiter f := by
  unfold field
  simp only [delimiter_separate]
  split
  · simp [*]
  · simp [put, *]

theorem hasBytes_field :
    (o.field f).hasBytes = (o.separate.hasBytes || !(quoted o.delimiter f).isEmpty) := by
  unfold field quoted
  simp only [delimiter_separate]
  split <;> rfl

end Pieces

/-! ## Records -/

/-- The record under way has these fields, and stands behind these bytes. -/
structure Holds (o : Output) (before : List UInt8) (done : List Field) : Prop where
  /-- The bytes, once the last field has its closing quote. -/
  bytes_eq : o.closeQuote.bytes = before ++ joined o.delimiter done
  fields_eq : o.fields = done.length
  hasBytes_eq : o.hasBytes = !(joined o.delimiter done).isEmpty
  closed_of_empty : joined o.delimiter done = [] → o.openQuote = false

theorem holds_start (delimiter : UInt8) : (start delimiter).Holds [] [] where
  bytes_eq := rfl
  fields_eq := rfl
  hasBytes_eq := rfl
  closed_of_empty _ := rfl

/-- Between two records nothing is owed. -/
theorem Holds.bytes_of_nil {o : Output} {before : List UInt8} (h : o.Holds before []) :
    o.bytes = before := by
  have hbytes := h.bytes_eq
  rwa [o.closeQuote_of_closed (h.closed_of_empty rfl), joined, List.append_nil] at hbytes

/-- What stands before a field: the fields before it and a delimiter, or nothing. -/
theorem Holds.separate {o : Output} {before : List UInt8} {done : List Field}
    (h : o.Holds before done) :
    o.separate.openQuote = false ∧
      o.separate.hasBytes = !done.isEmpty ∧
      o.separate.bytes = before ++
        (if done = [] then [] else joined o.delimiter done ++ [o.delimiter]) := by
  unfold Output.separate
  rw [h.fields_eq]
  cases done with
  | nil =>
    have hclosed := h.closed_of_empty rfl
    exact ⟨hclosed, h.hasBytes_eq, by simpa using h.bytes_of_nil⟩
  | cons first rest =>
    refine ⟨o.openQuote_closeQuote, by simp [put], ?_⟩
    simp [h.bytes_eq]

theorem Holds.field {o : Output} {before : List UInt8} {done : List Field}
    (h : o.Holds before done) (f : Field) : (o.field f).Holds before (done ++ [f]) := by
  obtain ⟨hclosed, hhas, hbytes⟩ := h.separate
  have hjoined := joined_concat o.delimiter done f
  refine ⟨?_, by simp [h.fields_eq], ?_, ?_⟩
  · rw [o.bytes_field f hclosed, hbytes, delimiter_field, hjoined]
    split <;> simp
  · rw [o.hasBytes_field f, hhas, delimiter_field, hjoined]
    cases done <;> simp
  · -- a field that owes a quote has one already
    intro hempty
    rw [o.openQuote_field f hclosed]
    rw [delimiter_field, hjoined, quoted] at hempty
    cases hneeds : needsQuotes o.delimiter f with
    | false => rfl
    | true => split at hempty <;> simp at hempty

theorem Holds.foldl_field {o : Output} {before : List UInt8} {done : List Field}
    (h : o.Holds before done) (fields : List Field) :
    (fields.foldl Output.field o).Holds before (done ++ fields) := by
  induction fields generalizing o done with
  | nil => simpa using h
  | cons f fields ih => simpa using ih (h.field f)

@[simp]
theorem delimiter_foldl_field (o : Output) (fields : List Field) :
    (fields.foldl Output.field o).delimiter = o.delimiter := by
  induction fields generalizing o with
  | nil => rfl
  | cons f fields ih => rw [List.foldl_cons, ih, delimiter_field]

@[simp]
theorem width_foldl_field (o : Output) (fields : List Field) :
    (fields.foldl Output.field o).width = o.width := by
  induction fields generalizing o with
  | nil => rfl
  | cons f fields ih => rw [List.foldl_cons, ih, width_field]

/-- The record under way, with a pair of quotes if it has no bytes. -/
def filled (o : Output) : Output := if o.hasBytes then o else o.put [quote, quote]

@[simp]
theorem delimiter_filled (o : Output) : o.filled.delimiter = o.delimiter := by
  unfold filled
  split <;> rfl

@[simp]
theorem width_filled (o : Output) : o.filled.width = o.width := by
  unfold filled
  split <;> rfl

@[simp]
theorem fields_filled (o : Output) : o.filled.fields = o.fields := by
  unfold filled
  split <;> rfl

theorem Holds.bytes_filled {o : Output} {before : List UInt8} {fields : List Field}
    (h : o.Holds before fields) :
    o.filled.closeQuote.bytes = before ++
      if joined o.delimiter fields = [] then [quote, quote] else joined o.delimiter fields := by
  have hbytes := h.bytes_eq
  unfold filled
  rw [h.hasBytes_eq]
  by_cases hempty : joined o.delimiter fields = []
  · have hclosed := h.closed_of_empty hempty
    rw [o.closeQuote_of_closed hclosed, hempty, List.append_nil] at hbytes
    simp only [hempty, List.isEmpty_nil, Bool.not_true, Bool.false_eq_true, if_false, if_true]
    rw [closeQuote_of_closed]
    · rw [bytes_put, hbytes]
    · exact hclosed
  · simpa [hempty] using hbytes

/-- The end of a record: its line stands behind what was there before, and the number of
its fields is the width of all records if it is the first one. -/
theorem Holds.terminate {o : Output} {before : List UInt8} {fields : List Field}
    (h : o.Holds before fields) :
    o.terminate.Holds (before ++ line o.delimiter fields) [] ∧
      o.terminate.delimiter = o.delimiter ∧
      o.terminate.width = some (o.width.getD fields.length) := by
  have hend : o.terminate = { o.filled.closeQuote.put [lineFeed] with
      fields := 0, hasBytes := false,
      width := some (o.filled.closeQuote.width.getD o.filled.closeQuote.fields) } := rfl
  have hclosed : o.terminate.openQuote = false := by
    rw [hend]
    exact o.filled.openQuote_closeQuote
  refine ⟨⟨?_, by rw [hend]; rfl, by rw [hend]; rfl, fun _ => hclosed⟩, ?_, ?_⟩
  · rw [closeQuote_of_closed _ hclosed, hend]
    refine (bytes_put _ _).trans ?_
    rw [h.bytes_filled, line, List.append_assoc]
    exact (List.append_nil _).symm
  · rw [hend]
    simp [put]
  · rw [hend]
    simp [h.fields_eq]

/-- The first record is written as its line, and every later one of its width. -/
theorem Holds.record {o : Output} {before : List UInt8} (h : o.Holds before [])
    (fields : List Field) (hwidth : o.width.getD fields.length = fields.length) :
    ∃ later, o.record fields = (.ok (), later) ∧
      later.Holds (before ++ line o.delimiter fields) [] ∧
      later.delimiter = o.delimiter ∧ later.width = some fields.length := by
  have hfields : (fields.foldl Output.field o).Holds before fields := h.foldl_field fields
  obtain ⟨hholds, hdelimiter, hkept⟩ := hfields.terminate
  simp only [delimiter_foldl_field, width_foldl_field, hwidth] at hholds hdelimiter hkept
  refine ⟨_, ?_, hholds, hdelimiter, hkept⟩
  unfold Output.record
  simp only [width_foldl_field]
  cases hsome : o.width with
  | none => rfl
  | some width =>
    rw [hsome, Option.getD_some] at hwidth
    simp [hfields.fields_eq, hwidth]

end Output

end TableFlow.Csv
