import Lexicon.BigEndian
import Lexicon.Content

/-!
# Journals

While a change is under way, a journal keeps what is needed to undo it. Its
header says how many pages the store file had before, so undoing the change
begins by cutting the file to that length. A journal whose header is none, or
is not there as a whole, undoes nothing.
-/

namespace Lexicon.Journal

/-- The bytes in front of a journal. -/
def mark : List Byte := [0xD9, 0xD5, 0x05, 0xF9, 0x20, 0xA1, 0x63, 0xD7]

/-- The length of the header of a journal, in bytes. -/
def headerLength : Nat := 512

/-- Whether a journal is one that was not finished. -/
def isUnfinished (journal : List Byte) : Bool :=
  journal.head? != some 0

/-- The number of four bytes that starts at a position. -/
def field (journal : List Byte) (position : Nat) : Nat :=
  BigEndian.number ((journal.drop position).take 4)

/-- Whether a number is a size that a disk can have for its units: a power of
two that is neither too small nor too large. -/
def isUnit (least n : Nat) : Bool :=
  least ≤ n && n ≤ 0x10000 && 2 ^ n.log2 == n

/-- The length of the pages that a journal was written for. -/
def pageLength (journal : List Byte) : Nat :=
  match field journal 24 with
  | 0 => Content.pageLength
  | n => n

/-- **The length that the store file had** before the change, if the journal
says so. -/
def formerLength? (journal : List Byte) : Option Nat :=
  if headerLength ≤ journal.length && mark.isPrefixOf journal
      && isUnit 32 (field journal 20) && isUnit 512 (pageLength journal) then
    some (pageLength journal * field journal 16)
  else none

/-- **What a store file holds after the change is undone.** A file that is no
longer than it was stays as it is. -/
def undo (journal : List Byte) (content : Content) : Content :=
  match formerLength? journal with
  | none => content
  | some length =>
    let data := content.toBytes
    if length < data.length then .bytes (data.take length) else content

end Lexicon.Journal
