import TableFlow.Csv.Reader

/-!
# Writing delimited text

A field is written between quotes if it holds the delimiter, a quote or a line
end, with its quotes doubled. A record without any byte is written as a pair of
quotes, so that it is not taken for a blank line. All records have to have as
many fields as the first one; a record that does not is left unfinished.
-/

namespace TableFlow.Csv

/-- The field cannot be written as it is. -/
def needsQuotes (delimiter : UInt8) (field : Field) : Bool :=
  field.any fun b => b = delimiter || b = quote || isLineEnd b

/-- A field with its quotes doubled. -/
def doubleQuotes (field : Field) : Field :=
  field.flatMap fun b => if b = quote then [quote, quote] else [b]

/-- What has been written: the bytes, how many fields of the record under way, whether
it has any bytes, whether its last field still lacks its closing quote, and the
number of fields of the first record. Chunks are kept with the last one first. -/
structure Output where
  delimiter : UInt8
  chunks : List (List UInt8)
  fields : Nat
  hasBytes : Bool
  openQuote : Bool
  width : Option Nat
deriving DecidableEq, Inhabited

namespace Output

/-- Nothing written yet. -/
def start (delimiter : UInt8) : Output := ⟨delimiter, [], 0, false, false, none⟩

/-- All bytes written so far. -/
def bytes (o : Output) : List UInt8 := o.chunks.reverse.flatten

/-- Writes bytes of the record under way. -/
def put (o : Output) (bytes : List UInt8) : Output :=
  { o with chunks := bytes :: o.chunks, hasBytes := o.hasBytes || !bytes.isEmpty }

/-- Writes the closing quote of the last field, if it lacks one. -/
def closeQuote (o : Output) : Output :=
  if o.openQuote then { o.put [quote] with openQuote := false } else o

/-- Writes the delimiter in front of every field but the first. -/
def separate (o : Output) : Output :=
  if 0 < o.fields then o.closeQuote.put [o.delimiter] else o

/-- Writes a field, up to its closing quote. -/
def field (o : Output) (field : Field) : Output :=
  let o := o.separate
  let o :=
    if needsQuotes o.delimiter field then
      { o.put (quote :: doubleQuotes field) with openQuote := true }
    else o.put field
  { o with fields := o.fields + 1 }

/-- Writes the line end of a record. -/
def terminate (o : Output) : Output :=
  let o := if o.hasBytes then o else o.put [quote, quote]
  let o := o.closeQuote.put [lineFeed]
  { o with fields := 0, hasBytes := false, width := some (o.width.getD o.fields) }

/-- Writes a record. -/
def record (o : Output) (fields : List Field) : Except Fault Unit × Output :=
  let o := fields.foldl field o
  match o.width with
  | some width =>
    if o.fields = width then (.ok (), o.terminate)
    else (.error (.unequalLengths none width o.fields), o)
  | none => (.ok (), o.terminate)

end Output

end TableFlow.Csv
