import Lexicon.Locale
import Lexicon.Row
import Lexicon.Text.Numeral

/-!
# Records

A record is what is known about one dictionary: which word list it is, for
which locale, and the size, age and version of its file. A record may also
stand for a locale that has no dictionary yet; it has the version of one whose
header could not be read.
-/

namespace Lexicon

/-- **What is known about a dictionary.** -/
structure Record where
  /-- The identifier of the word list. -/
  id : Option Text
  /-- The locale. -/
  locale : Locale
  /-- A description for people. -/
  description : Option Text
  /-- The name of the file, where it has to be moved before use. -/
  filename : Option Text
  /-- The size in bytes. -/
  filesize : Int
  /-- When the file was written, in milliseconds. -/
  modified : Int
  /-- The content version. -/
  version : Int
  deriving DecidableEq

/-- How an absent text is told to people. -/
def Text.orNone (t : Option Text) : Text :=
  t.getD (lit "None")

namespace Record

/-- **The row of a record.** The time is cut to whole seconds, toward the
past. -/
def toRow (r : Record) : Row where
  id := r.id
  locale := r.locale.toText
  description := r.description
  filename := r.filename.getD []
  date := r.modified.fdiv 1000
  filesize := r.filesize
  version := r.version

/-- The text of a record. -/
def toText (r : Record) : Text :=
  lit "DictionaryInfo : Id = '" ++ Text.orNone r.id ++ lit "' : Locale="
    ++ r.locale.toText ++ lit " : Version=" ++ Text.ofInt r.version

end Record

/-- **What came of making a record for a file.** -/
inductive RecordResult where
  /-- The record. -/
  | found (record : Record)
  /-- There is no file. -/
  | absent (reason : Text)
  /-- The file is no usable dictionary. -/
  | malformed (reason : Text)
  deriving DecidableEq

namespace RecordResult

/-- The record, if there is one. -/
def record? : RecordResult → Option Record
  | .found record => some record
  | .absent _ | .malformed _ => none

/-- Why there is no record; nothing where there is one. -/
def reason : RecordResult → Text
  | .found _ => []
  | .absent reason | .malformed reason => reason

end RecordResult

end Lexicon
