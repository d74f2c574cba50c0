import Lexicon.FileName
import Lexicon.Row.Table

/-!
# Contents of files

A plain file holds bytes, a metadata store or an exported listing, which is a
table file. Of the two only the rows matter to the rest of the library. Here is
how a store is written down: a line with the mark by which such files are told
apart, and a line for each row with its columns between tabs, texts escaped as
file names are and an absent one as a hyphen, which no escaped text is. Zeros
fill up the last page of the file.
-/

namespace Lexicon

/-- **What a plain file holds.** -/
inductive Content where
  /-- Bytes. -/
  | bytes (data : List Byte)
  /-- A metadata store with its rows. -/
  | store (rows : List Row)
  /-- An exported listing with its rows. -/
  | listing (rows : List Row)
  deriving DecidableEq

namespace Content

/-- The sign between the columns of a row. -/
def tab : CodePoint := 0x09

/-- The sign behind every line. -/
def newline : CodePoint := 0x0A

/-- The mark of a metadata store: the bytes in front of a database file, which
name the format and say how its pages are laid out. -/
def storeMark : Text :=
  lit "SQLite format 3" ++ [0, 0x10, 0, 1, 1, 0, 0x40, 0x20, 0x20]

/-- The length of a page of a store file. -/
def pageLength : Nat := 4096

/-- How many pages a store file has at least. -/
def minPages : Nat := 3

/-- How an absent text is written. -/
def absentMark : Text := ['-']

/-- A text that may be absent, as a column. -/
def optionalCell : Option Text → Text
  | none => absentMark
  | some t => FileName.escape t

/-- The line of a row. -/
def rowLine (r : Row) : Text :=
  Text.join tab [optionalCell r.id, FileName.escape r.locale,
    optionalCell r.description, FileName.escape r.filename, Text.ofInt r.date,
    Text.ofInt r.filesize, Text.ofInt r.version]

/-- The lines of a store: its mark and its rows. -/
def storeLines (rows : List Row) : List Byte :=
  (storeMark :: rows.map rowLine).flatMap fun line =>
    (line ++ [newline]).flatMap Utf8.encodeCodePoint

/-- How many pages hold so many bytes of a store. -/
def pagesFor (size : Nat) : Nat :=
  max minPages ((size + pageLength - 1) / pageLength)

/-- The bytes of a store file. -/
def storeBytes (rows : List Row) : List Byte :=
  let lines := storeLines rows
  lines ++ List.replicate (pagesFor lines.length * pageLength - lines.length) 0

/-- **The bytes of a content.** -/
def toBytes : Content → List Byte
  | .bytes data => data
  | .store rows => storeBytes rows
  | .listing rows => (Row.table rows).bytes

/-- Whether a content begins as a store does, but is none. -/
def isTornStore : Content → Bool
  | .bytes data => (storeMark.flatMap Utf8.encodeCodePoint).isPrefixOf data
  | .store _ | .listing _ => false

/-- The text of a column that may be absent. -/
def readOptional? (cell : Text) : Option (Option Text) :=
  if cell = absentMark then some none
  else (FileName.unescape cell).toOption.map some

/-- The row of a line. -/
def readRow? (line : Text) : Option Row :=
  match line.split (· == tab) with
  | [id, locale, description, filename, date, filesize, version] => do
    return {
      id := ← readOptional? id
      locale := ← (FileName.unescape locale).toOption
      description := ← readOptional? description
      filename := ← (FileName.unescape filename).toOption
      date := ← Numeral.int? date
      filesize := ← Numeral.int? filesize
      version := ← Numeral.int? version }
  | _ => none

/-- The rows of a store file. -/
def readStore? (data : List Byte) : Option (List Row) := do
  let lines := (← Utf8.decode? data).split (· == newline)
  match lines.dropLast with
  | [] => none
  | first :: rest => if first = storeMark then rest.mapM readRow? else none

/-- **The content that bytes give**: a store where they are just as one is
written down, and bytes otherwise. -/
def ofBytes (data : List Byte) : Content :=
  match readStore? data with
  | some rows => if storeBytes rows = data then .store rows else .bytes data
  | none => .bytes data

/-- **Taking bytes as a content loses none of them.** -/
@[simp] theorem toBytes_ofBytes (data : List Byte) :
    (ofBytes data).toBytes = data := by
  unfold ofBytes
  split
  · split
    · assumption
    · rfl
  · rfl

end Content

end Lexicon
