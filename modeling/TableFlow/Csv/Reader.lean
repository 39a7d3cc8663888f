import TableFlow.Csv.Fault
import TableFlow.Text.Utf8

/-!
# Reading delimited text

Delimited text is read byte by byte. A record ends at a carriage return or a line
feed, blank lines are no records, and a field that starts with a quote runs to
the next quote that is not doubled. A byte order mark at the start is skipped.

* `Csv.scan` splits bytes into records with the places where they start.
* `Csv.header` and `Csv.rows` read the names and the rows of a file; reading goes
  on after a faulty record.
-/

namespace TableFlow.Csv

/-- The bytes of a field. -/
abbrev Field := List UInt8

def quote : UInt8 := 0x22

def lineFeed : UInt8 := 0x0A

def carriageReturn : UInt8 := 0x0D

/-- What the next byte belongs to. -/
inductive State where
  /-- Before the first byte of a record. -/
  | recordStart
  /-- Before the first byte of a field. -/
  | fieldStart
  /-- In a field, or behind the closing quote of one. -/
  | inField
  /-- Between quotes. -/
  | quoted
  /-- Behind a quote in a quoted field: the next byte says whether it was doubled. -/
  | afterQuote
  /-- Behind a carriage return that ended a record. -/
  | afterReturn
deriving DecidableEq, Inhabited

/-- What has been read of a record: its finished fields and the field under way,
both with the last one first. -/
structure Partial where
  fields : List Field
  field : Field
deriving DecidableEq, Inhabited

namespace Partial

def empty : Partial := ⟨[], []⟩

/-- Adds a byte to the field under way. -/
def push (p : Partial) (b : UInt8) : Partial := ⟨p.fields, b :: p.field⟩

/-- Ends the field under way. -/
def endField (p : Partial) : Partial := ⟨p.field.reverse :: p.fields, []⟩

/-- The fields of the finished record. -/
def record (p : Partial) : List Field := p.endField.fields.reverse

end Partial

/-- The effect of a byte: the state after it, what has been read, and the record
that it ends. -/
structure Step where
  state : State
  read : Partial
  record : Option (List Field)

/-- The byte ends a record. -/
def isLineEnd (b : UInt8) : Bool := b = lineFeed || b = carriageReturn

/-- The end of a record at a line end. -/
def endRecord (p : Partial) (b : UInt8) : Step :=
  ⟨if b = carriageReturn then .afterReturn else .recordStart, .empty, some p.record⟩

/-- A byte of a field that is not quoted. -/
def fieldStep (delimiter : UInt8) (p : Partial) (b : UInt8) : Step :=
  if b = delimiter then ⟨.fieldStart, p.endField, none⟩
  else if isLineEnd b then endRecord p b
  else ⟨.inField, p.push b, none⟩

/-- The first byte of a field. -/
def fieldStartStep (delimiter : UInt8) (p : Partial) (b : UInt8) : Step :=
  if b = quote then ⟨.quoted, p, none⟩ else fieldStep delimiter p b

/-- The first byte of a record. -/
def recordStartStep (delimiter : UInt8) (p : Partial) (b : UInt8) : Step :=
  if isLineEnd b then ⟨.recordStart, p, none⟩ else fieldStartStep delimiter p b

/-- One byte. -/
def step (delimiter : UInt8) (s : State) (p : Partial) (b : UInt8) : Step :=
  match s with
  | .recordStart => recordStartStep delimiter p b
  | .fieldStart => fieldStartStep delimiter p b
  | .inField => fieldStep delimiter p b
  | .quoted => if b = quote then ⟨.afterQuote, p, none⟩ else ⟨.quoted, p.push b, none⟩
  | .afterQuote =>
    -- two quotes stand for one, and anything else goes on without quotes
    if b = quote then ⟨.quoted, p.push b, none⟩ else fieldStep delimiter p b
  | .afterReturn =>
    -- the two bytes of a line end together, though the record is already over
    if b = lineFeed then ⟨.recordStart, p, none⟩ else recordStartStep delimiter p b

/-- The record that the end of the text ends. -/
def finalRecord (s : State) (p : Partial) : Option (List Field) :=
  match s with
  | .recordStart | .afterReturn => none
  | .fieldStart | .inField | .quoted | .afterQuote => some p.record

/-- A record with the place where it starts. -/
structure Record where
  start : Position
  fields : List Field
deriving DecidableEq, Inhabited

/-- The place behind one more byte. -/
def Position.advance (p : Position) (b : UInt8) : Position :=
  ⟨p.record, if b = lineFeed then p.line + 1 else p.line, p.byte + 1⟩

/-- The place at which the next record starts. -/
def Position.nextRecord (p : Position) : Position := ⟨p.record + 1, p.line, p.byte⟩

/-- The records of the rest of a text: `start` is the place where the record under
way starts and `here` the place of the next byte. -/
def scanFrom (delimiter : UInt8) (s : State) (p : Partial) (start here : Position) :
    List UInt8 → List Record
  | [] =>
    match finalRecord s p with
    | some fields => [⟨start, fields⟩]
    | none => []
  | b :: bs =>
    let next := step delimiter s p b
    let here := here.advance b
    match next.record with
    | some fields =>
      ⟨start, fields⟩ ::
        scanFrom delimiter next.state next.read here.nextRecord here.nextRecord bs
    | none => scanFrom delimiter next.state next.read start here bs

/-- The text without a byte order mark, and the bytes of the mark. -/
def skipMark : List UInt8 → Nat × List UInt8
  | 0xEF :: 0xBB :: 0xBF :: rest => (3, rest)
  | bytes => (0, bytes)

/-- The records of a text. -/
def scan (delimiter : UInt8) (bytes : List UInt8) : List Record :=
  let (mark, rest) := skipMark bytes
  scanFrom delimiter .recordStart .empty .start ⟨0, 1, mark⟩ rest

/-! ## Texts of fields -/

/-- The texts of the fields from an index on. -/
def fieldTexts (place : Position) (index : Nat) : List Field → Except Fault (List String)
  | [] => .ok []
  | field :: fields =>
    match Utf8.decode field with
    | .error byte => .error (.invalidText place index byte)
    | .ok cs =>
      match fieldTexts place (index + 1) fields with
      | .error e => .error e
      | .ok texts => .ok (String.ofList cs :: texts)

/-- The names in the first record; an empty text has none. -/
def header (records : List Record) : Except Fault (List String) :=
  match records with
  | [] => .ok []
  | r :: _ => fieldTexts r.start 0 r.fields

/-- The texts of a record that has to have `width` fields. A fault in a field is
reported at `place`. -/
def recordTexts (width : Nat) (place : Position) (r : Record) : Except Fault (List String) :=
  if r.fields.length = width then fieldTexts place 0 r.fields
  else .error (.unequalLengths (some r.start) width r.fields.length)

/-- The rows of a file whose first record is its header. The header is read along
with the first row, so the place of that row is the start of the file. -/
def rowsAfterHeader (records : List Record) : List (Except Fault (List String)) :=
  match records with
  | [] => []
  | [_] => []
  | first :: second :: rest =>
    let width := first.fields.length
    recordTexts width first.start second :: rest.map fun r => recordTexts width r.start r

/-- The rows of a file without a header. -/
def rowsOfAll (records : List Record) : List (Except Fault (List String)) :=
  match records with
  | [] => []
  | first :: _ => records.map fun r => recordTexts first.fields.length r.start r

/-- The rows of a file. -/
def rows (hasHeader : Bool) (records : List Record) : List (Except Fault (List String)) :=
  if hasHeader then rowsAfterHeader records else rowsOfAll records

end TableFlow.Csv
