import Lexicon.Parquet.Column
import Lexicon.Parquet.Runs
import Lexicon.Zstandard.Frame

/-!
# Chunks

A column is written as two pages, its dictionary and its cells as numbers into
the dictionary, each with a header and compressed. Behind them stands what a
reader has to know about them.
-/

namespace Lexicon.Parquet

/-- **A page**: its header and what it holds. -/
structure Page where
  /-- The number of the kind of page. -/
  kind : Nat
  /-- What the header says beyond that and the sizes. -/
  details : Nat × Encoded
  /-- What it holds. -/
  body : List Byte

namespace Page

/-- What is stored of the body. -/
def stored (p : Page) : List Byte :=
  Zstandard.Frame.bytes p.body

/-- The header. -/
def header (p : Page) : List Byte :=
  (Encoded.record [(1, .int32 p.kind), (2, .int32 p.body.length),
    (3, .int32 p.stored.length), p.details]).bytes

/-- **The bytes of a page.** -/
def bytes (p : Page) : List Byte :=
  p.header ++ p.stored

/-- How long the page would be without compression. -/
def plainSize (p : Page) : Nat :=
  p.header.length + p.body.length

end Page

namespace Column

/-- What is known about the values of a column: how many are missing, the
greatest and the least. -/
def statistics (c : Column) : Encoded :=
  .record ([(3, .int64 c.absent)]
    ++ (c.greatest?.map fun v => (5, Encoded.binary v.bytes)).toList
    ++ (c.least?.map fun v => (6, Encoded.binary v.bytes)).toList)

/-- The number of the type of a column. -/
def typeNumber (c : Column) : Nat :=
  match c.type with
  | .text => 6
  | .number => 2

/-- **The page of the dictionary.** -/
def dictionaryPage (c : Column) : Page where
  kind := 2
  details := (7, .record [(1, .int32 c.dictionary.length), (2, .int32 0)])
  body := c.dictionary.flatMap Value.plainBytes

/-- Which cells are there. Where all are, it is said once. -/
def presence (c : Column) : List Byte :=
  let runs :=
    if c.absent = 0 then Runs.stretchBytes 1 (1, c.cells.length)
    else Runs.flagBytes (c.cells.map Option.isSome)
  LittleEndian.bytes 4 runs.length ++ runs

/-- The cells as numbers into the dictionary, with the width of the numbers in
front. -/
def numberBytes (c : Column) : List Byte :=
  let most := c.numbers.foldl Nat.max 0
  let width := if most = 0 then 0 else most.log2 + 1
  UInt8.ofNat width :: Runs.bytes width c.numbers

/-- **The page of the cells.** -/
def cellPage (c : Column) : Page where
  kind := 0
  details := (5, .record [(1, .int32 c.cells.length), (2, .int32 8), (3, .int32 3),
    (4, .int32 3), (5, c.statistics)])
  body := c.presence ++ c.numberBytes

end Column

/-- **A column at its place in a file.** -/
structure Chunk where
  /-- The column. -/
  column : Column
  /-- Where its pages begin. -/
  position : Nat

namespace Chunk

/-- The bytes of the pages. -/
def pages (c : Chunk) : List Byte :=
  c.column.dictionaryPage.bytes ++ c.column.cellPage.bytes

/-- How long the pages would be without compression. -/
def plainSize (c : Chunk) : Nat :=
  c.column.dictionaryPage.plainSize + c.column.cellPage.plainSize

/-- Where the page of the cells begins. -/
def cellPosition (c : Chunk) : Nat :=
  c.position + c.column.dictionaryPage.bytes.length

/-- **What a reader has to know about the pages.** -/
def summary (c : Chunk) : Encoded :=
  .record [
    (1, .int32 c.column.typeNumber),
    (2, .list 5 [.int32 0, .int32 3, .int32 8]),
    (3, .list 8 [.binary (textBytes c.column.name)]),
    (4, .int32 6),
    (5, .int64 c.column.cells.length),
    (6, .int64 c.plainSize),
    (7, .int64 c.pages.length),
    (9, .int64 c.cellPosition),
    (11, .int64 c.position),
    (12, c.column.statistics)]

/-- The bytes of a chunk. -/
def bytes (c : Chunk) : List Byte :=
  c.pages ++ c.summary.bytes

/-- The chunks of some columns, the first of them at a position. -/
def ofColumns (position : Nat) : List Column → List Chunk
  | [] => []
  | column :: rest =>
    let chunk : Chunk := ⟨column, position⟩
    chunk :: ofColumns (position + chunk.bytes.length) rest

/-- What can be looked up about the values of the page of the cells. -/
def valueIndex (c : Chunk) : List Byte :=
  let bound (v? : Option Value) : Encoded :=
    .list 8 [.binary ((v?.map Value.bytes).getD [0])]
  (Encoded.record [
    (1, .list 1 [.flag c.column.present.isEmpty]),
    (2, bound c.column.least?),
    (3, bound c.column.greatest?),
    (4, .int32 0),
    (5, .list 6 [.int64 c.column.absent])]).bytes

/-- Where the page of the cells is found. -/
def placeIndex (c : Chunk) : List Byte :=
  let place := Encoded.record [
    (1, .int64 c.cellPosition),
    (2, .int32 c.column.cellPage.bytes.length),
    (3, .int64 0)]
  (Encoded.record [(1, .list Encoded.recordType [place])]).bytes

end Chunk

end Lexicon.Parquet
