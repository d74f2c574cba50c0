import Lexicon.Parquet.Chunk

/-!
# Table files

A table file holds its columns one behind the other, then what can be looked up
about them, and at its end what it says about itself. A table without rows has
no columns written.
-/

namespace Lexicon.Parquet

/-- **A table.** -/
structure Table where
  /-- How many rows it has. -/
  rows : Nat
  /-- Its columns. -/
  columns : List Column
  /-- What is noted about it, each note under a name. -/
  notes : List (Text × Text)
  /-- Who wrote it. -/
  writer : Text

namespace Table

/-- The mark in front of a file and at its end. -/
def mark : List Byte := textBytes (lit "PAR1")

/-- The chunks of a table. -/
def chunks (t : Table) : List Chunk :=
  if t.rows = 0 then [] else Chunk.ofColumns mark.length t.columns

/-- The positions at which pieces of these lengths begin, the first of them at
`position`. -/
def positions (position : Nat) : List (List Byte) → List Nat
  | [] => []
  | piece :: rest => position :: positions (position + piece.length) rest

/-- What a file says about a column. -/
def columnRecord (c : Column) : Encoded :=
  .record ([(1, .int32 c.typeNumber), (3, .int32 1), (4, .binary (textBytes c.name))]
    ++ match c.type with
      | .text => [(6, .int32 0), (10, .record [(1, .record [])])]
      | .number => [])

/-- What a file says about its columns: a root and what is under it. -/
def columnRecords (t : Table) : Encoded :=
  let root := Encoded.record
    [(4, .binary (textBytes (lit "root"))), (5, .int32 t.columns.length)]
  .list Encoded.recordType (root :: t.columns.map columnRecord)

/-- What a file says about a chunk, the indexes of which have these positions
and lengths. -/
def chunkRecord (c : Chunk) (valueIndex placeIndex : Nat) : Encoded :=
  .record [
    (2, .int64 (c.cellPosition + c.pages.length)),
    (3, c.summary),
    (4, .int64 placeIndex),
    (5, .int32 c.placeIndex.length),
    (6, .int64 valueIndex),
    (7, .int32 c.valueIndex.length)]

/-- What a file says about its rows. -/
def rowRecord (t : Table) (chunks : List Encoded) : Encoded :=
  .record [
    (1, .list Encoded.recordType chunks),
    (2, .int64 (t.chunks.map Chunk.plainSize).sum),
    (3, .int64 t.rows),
    (5, .int64 mark.length),
    (6, .int64 (t.chunks.map fun c => c.pages.length).sum),
    (7, .int16 0)]

/-- A note. -/
def noteRecord (note : Text × Text) : Encoded :=
  .record [(1, .binary (textBytes note.1)), (2, .binary (textBytes note.2))]

/-- **What a file says about itself**, where its rows are told so. -/
def record (t : Table) (rows : List Encoded) : Encoded :=
  .record [
    (1, .int32 1),
    (2, t.columnRecords),
    (3, .int64 t.rows),
    (4, .list Encoded.recordType rows),
    (5, .list Encoded.recordType (t.notes.map noteRecord)),
    (6, .binary (textBytes t.writer)),
    (7, .list Encoded.recordType (t.columns.map fun _ => .record [(1, .record [])]))]

/-- **The bytes of the file of a table.** -/
def bytes (t : Table) : List Byte :=
  let chunks := t.chunks
  let front := mark ++ chunks.flatMap Chunk.bytes
  let valueIndexes := chunks.map Chunk.valueIndex
  let placeIndexes := chunks.map Chunk.placeIndex
  let found := positions front.length (valueIndexes ++ placeIndexes)
  let told := (chunks.zip ((found.take chunks.length).zip
      (found.drop chunks.length))).map
    fun (c, valueIndex, placeIndex) => chunkRecord c valueIndex placeIndex
  let rows := if chunks.isEmpty then [] else [t.rowRecord told]
  let last := (t.record rows).bytes
  front ++ valueIndexes.flatten ++ placeIndexes.flatten ++ last
    ++ LittleEndian.bytes 4 last.length ++ mark

end Table

end Lexicon.Parquet
