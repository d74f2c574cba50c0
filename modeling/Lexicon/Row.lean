import Lexicon.Text.Utf8

/-!
# Rows

A row is the flat form of a record: what the metadata store keeps and what an
exported listing shows. Its columns are fixed.
-/

namespace Lexicon

/-- **A row of the metadata store or of an exported listing.** -/
structure Row where
  /-- The identifier of the word list. A row without one cannot be stored. -/
  id : Option Text
  /-- The text of the locale. -/
  locale : Text
  /-- The description, if there is one. -/
  description : Option Text
  /-- The name of the file, or empty where it is where it belongs. -/
  filename : Text
  /-- When the file was written, in whole seconds. -/
  date : Int
  /-- The size in bytes. -/
  filesize : Int
  /-- The content version. -/
  version : Int
  deriving DecidableEq

/-- Whether an integer fits into a signed 64-bit field. -/
def isInt64 (i : Int) : Bool :=
  -2 ^ 63 ≤ i && i < 2 ^ 63

namespace Row

/-- The numbers of a row, in the order of its columns. -/
def numbers (r : Row) : List Int :=
  [r.date, r.filesize, r.version]

/-- The texts of a row, in the order of its columns. -/
def texts (r : Row) : List Text :=
  r.id.toList ++ [r.locale] ++ r.description.toList ++ [r.filename]

end Row

end Lexicon
