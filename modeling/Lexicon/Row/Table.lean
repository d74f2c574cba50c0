import Lexicon.Parquet.File
import Lexicon.Row

/-!
# Tables of rows

An exported listing is a table file with a column for each column of a row.
-/

namespace Lexicon.Row

open Lexicon.Parquet (Column Table Value ValueType)

/-- A column of texts, any of which may be absent. -/
def optionalColumn (rows : List Row) (cell : Row → Option Text) (name : Text) :
    Column :=
  ⟨name, .text, rows.map fun r => (cell r).map Value.text⟩

/-- A column of texts. -/
def textColumn (rows : List Row) (cell : Row → Text) (name : Text) : Column :=
  optionalColumn rows (fun r => some (cell r)) name

/-- A column of numbers. -/
def numberColumn (rows : List Row) (cell : Row → Int) (name : Text) : Column :=
  ⟨name, .number, rows.map fun r => some (Value.number (cell r))⟩

/-- The names of the columns, in order. -/
def columnNames : List Text :=
  [lit "id", lit "locale", lit "description", lit "filename", lit "date",
    lit "filesize", lit "version"]

/-- **The columns of some rows**, in order. -/
def columns (rows : List Row) : List Column :=
  columnNames.zipWith (fun name column => column name) [
    optionalColumn rows (·.id),
    textColumn rows (·.locale),
    optionalColumn rows (·.description),
    textColumn rows (·.filename),
    numberColumn rows (·.date),
    numberColumn rows (·.filesize),
    numberColumn rows (·.version)]

/-- How the columns are told to readers that keep tables in memory, written in
base 64. -/
def schemaNote : Text :=
  lit ("/////58BAAAEAAAA8v///xQAAAAEAAEAAAAKAAsACAAKAAQA+P///wwAAAAIAAgAAAAEAAcAAAA4"
    ++ "AQAADAEAANwAAACsAAAAcAAAADgAAAAEAAAA0P7//yAAAAAQAAAACAAAAAECAAAAAAAAkP///0AA"
    ++ "AAABAAAABwAAAHZlcnNpb24AAP///yAAAAAQAAAACAAAAAECAAAAAAAAwP///0AAAAABAAAACAAA"
    ++ "AGZpbGVzaXplAAAAADT///8oAAAAEAAAAAgAAAABAgAAAAAAAPT///9AAAAAAQAAAAgACQAEAAgA"
    ++ "BAAAAGRhdGUAAAAAbP///xgAAAAQAAAACAAAAAEUAAAAAAAAbP///wgAAABmaWxlbmFtZQAAAACY"
    ++ "////GAAAABAAAAAIAAAAARQAAAAAAACY////CwAAAGRlc2NyaXB0aW9uAMT///8YAAAAEAAAAAgA"
    ++ "AAABFAAAAAAAAMT///8GAAAAbG9jYWxlAADs////LAAAACAAAAAYAAAAARQAABAAEgAEABAAEQAI"
    ++ "AAAADAAAAAAA/P///wQABAACAAAAaWQA")

/-- The writer that table files name. -/
def writer : Text :=
  lit ("Polars (python) version 2.1.0 "
    ++ "(build 7f902bd3ffd27ff82d14278a09a295ff2f7aed92)")

/-- **The table of some rows.** -/
def table (rows : List Row) : Table where
  rows := rows.length
  columns := columns rows
  notes := [(lit "ARROW:schema", schemaNote)]
  writer := writer

end Lexicon.Row
