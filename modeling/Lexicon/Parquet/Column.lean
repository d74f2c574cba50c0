import Lexicon.LittleEndian
import Lexicon.Text.Order
import Lexicon.Text.Utf8

/-!
# Columns

A column of a table holds texts or integers of 64 bits, and any cell may be
empty. Its different values are numbered: integers that lie close together by
size, all others in the order in which they come.
-/

namespace Lexicon.Parquet

/-- **What a cell holds.** -/
inductive Value where
  /-- A text. -/
  | text (text : Text)
  /-- An integer. -/
  | number (number : Int)
  deriving DecidableEq

/-- **What the cells of a column hold.** -/
inductive ValueType where
  /-- Texts. -/
  | text
  /-- Integers. -/
  | number
  deriving DecidableEq

/-- **A column of a table.** -/
structure Column where
  /-- Its name. -/
  name : Text
  /-- What its cells hold. -/
  type : ValueType
  /-- Its cells, in order. -/
  cells : List (Option Value)
  deriving DecidableEq

/-- The bytes of a text. -/
def textBytes (t : Text) : List Byte :=
  t.flatMap Utf8.encodeCodePoint

namespace Value

/-- The bytes of a value by itself. -/
def bytes : Value → List Byte
  | .text t => textBytes t
  | .number n => LittleEndian.intBytes 8 n

/-- The bytes of a value among others. -/
def plainBytes : Value → List Byte
  | .text t => LittleEndian.bytes 4 (textBytes t).length ++ textBytes t
  | .number n => LittleEndian.intBytes 8 n

/-- The order of values: texts by their code points, integers by size. -/
def le : Value → Value → Bool
  | .text s, .text t => Text.le s t
  | .number m, .number n => m ≤ n
  | .text _, .number _ => true
  | .number _, .text _ => false

/-- The lesser of two values. -/
def min (v w : Value) : Value :=
  if v.le w then v else w

/-- The greater of two values. -/
def max (v w : Value) : Value :=
  if v.le w then w else v

/-- Whether two values are integers that lie close together. -/
def isClose : Value → Value → Bool
  | .number m, .number n => (m - n).natAbs < 0xFFFF
  | _, _ => false

end Value

namespace Column

/-- The values of the cells that are not empty. -/
def present (c : Column) : List Value :=
  c.cells.filterMap id

/-- How many cells are empty. -/
def absent (c : Column) : Nat :=
  c.cells.length - c.present.length

/-- The least value, if there is any. -/
def least? (c : Column) : Option Value :=
  match c.present with
  | [] => none
  | v :: rest => some (rest.foldl Value.min v)

/-- The greatest value, if there is any. -/
def greatest? (c : Column) : Option Value :=
  match c.present with
  | [] => none
  | v :: rest => some (rest.foldl Value.max v)

/-- Whether the values are numbered by size. -/
def isNarrow (c : Column) : Bool :=
  match c.least?, c.greatest? with
  | some v, some w => v.isClose w
  | _, _ => false

/-- **The different values of a column**, as they are numbered. -/
def dictionary (c : Column) : List Value :=
  let values := c.present.eraseDups
  if c.isNarrow then values.mergeSort Value.le else values

/-- The numbers of the values of a column. -/
def numbers (c : Column) : List Nat :=
  c.present.map c.dictionary.idxOf

@[simp] theorem mem_dictionary (c : Column) (v : Value) :
    v ∈ c.dictionary ↔ v ∈ c.present := by
  unfold dictionary
  split
  · rw [List.mem_mergeSort, List.mem_eraseDups]
  · rw [List.mem_eraseDups]

/-- **The numbers name the values of a column.** -/
theorem map_getElem?_numbers (c : Column) :
    c.numbers.map (c.dictionary[·]?) = c.present.map some := by
  rw [numbers, List.map_map]
  refine List.map_congr_left fun v hv => ?_
  have hlt : c.dictionary.idxOf v < c.dictionary.length :=
    List.idxOf_lt_length_iff.mpr ((c.mem_dictionary v).mpr hv)
  exact (List.getElem?_eq_getElem hlt).trans (congrArg some (List.getElem_idxOf hlt))

end Column

end Lexicon.Parquet
