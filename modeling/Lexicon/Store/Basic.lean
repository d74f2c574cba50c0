import Lexicon.FileTree.Error
import Lexicon.Record
import Lexicon.Text.Order

/-!
# The metadata store

The store keeps one row for each identifier, in the order in which the rows
were last written. Writing a batch of records is all or nothing: the first row
that cannot be stored leaves every row as it was. A row is stored if its texts
can be written as UTF-8, its numbers fit into 64 bits, and it has an
identifier; of several faults the one in the first column is told, and the
missing identifier last.
-/

namespace Lexicon

/-- **Why the store refused.** -/
inductive StoreError where
  /-- The file cannot be opened. -/
  | unopenable
  /-- What stands beside the file cannot be read or removed. -/
  | inputOutput
  /-- The file is no store. -/
  | notStore
  /-- Parts of the store are missing. -/
  | damaged
  /-- The store has not been initialised. -/
  | noTable
  /-- A row has no identifier. -/
  | missingId
  /-- A text holds surrogates. -/
  | unencodable (run : SurrogateRun)
  /-- A number does not fit into 64 bits. -/
  | tooLarge
  /-- The path never reached the system. -/
  | improper (error : FileError)
  deriving DecidableEq

/-- What is said about a refusal of the store. -/
def StoreError.message : StoreError → Text
  | .unopenable => lit "unable to open database file"
  | .inputOutput => lit "disk I/O error"
  | .notStore => lit "file is not a database"
  | .damaged => lit "database disk image is malformed"
  | .noTable => lit "no such table: dictionaries"
  | .missingId => lit "NOT NULL constraint failed: dictionaries.id"
  | .unencodable run => run.message
  | .tooLarge => lit "Python int too large to convert to SQLite INTEGER"
  | .improper error => error.message

/-- **The rows of a store**, in the order in which they were written. -/
abbrev Store := List Row

namespace Store

/-- A text as the store takes it. -/
def checkText (t : Text) : Except StoreError Unit :=
  match Utf8.surrogateRun? t with
  | some run => .error (.unencodable run)
  | none => .ok ()

/-- A number as the store takes it. -/
def checkNumber (n : Int) : Except StoreError Unit :=
  if isInt64 n then .ok () else .error .tooLarge

/-- **Whether a row can be stored**, and if not why. -/
def checkRow (r : Row) : Except StoreError Unit := do
  r.texts.forM checkText
  r.numbers.forM checkNumber
  if r.id.isNone then throw .missingId

/-- The rows with one more, in place of any with its identifier. -/
def insert (s : Store) (r : Row) : Store :=
  s.filter (·.id ≠ r.id) ++ [r]

/-- **The rows with those of some records written**, in order. -/
def upsert (s : Store) : List Record → Except StoreError Store
  | [] => .ok s
  | r :: rest => do
    checkRow r.toRow
    upsert (s.insert r.toRow) rest

/-- The rows without the one of an identifier. -/
def delete (s : Store) (id : Option Text) : Except StoreError Store := do
  id.toList.forM checkText
  return s.filter fun r => id.isNone || r.id != id

/-- **The rows by the text of their locale**, those of one locale in the order
in which they were written. -/
def sorted (s : Store) : List Row :=
  s.mergeSort fun a b => Text.le a.locale b.locale

end Store

end Lexicon
