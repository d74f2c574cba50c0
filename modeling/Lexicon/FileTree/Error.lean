import Lexicon.Text.Utf8.Escaped
import Lexicon.Text.Utf8.Refusal

/-!
# What a file system refuses

Most refusals are those of the system and carry its number. Four come
earlier: a path with a zero byte or with surrogates that stand for no byte
never reaches the system, nor does a position in a file that no offset can
hold, and not any number of directories is made at once.
-/

namespace Lexicon

/-- **Why an operation on files was refused.** -/
inductive FileError where
  /-- There is nothing at the path. -/
  | notFound
  /-- Reading or writing failed. -/
  | inputOutput
  /-- The path may not be used that way. -/
  | denied
  /-- The directory is in use. -/
  | busy
  /-- There is something at the path already. -/
  | alreadyExists
  /-- A plain file stands where a directory should. -/
  | notDirectory
  /-- A directory stands where a plain file should. -/
  | isDirectory
  /-- The operation makes no sense for these arguments. -/
  | invalid
  /-- A name is too long. -/
  | nameTooLong
  /-- The directory holds something. -/
  | notEmpty
  /-- The path holds a zero. -/
  | embeddedZero
  /-- The path holds surrogates that stand for no byte. -/
  | unencodable (run : SurrogateRun)
  /-- A position lies outside of what an offset can hold. -/
  | offsetOutOfRange
  /-- More directories are missing than are made at once. -/
  | tooManyMissing
  deriving DecidableEq

namespace FileError

/-- **Why a text cannot be passed to the system**, if it cannot: it needs
bytes, and none of them may be zero. -/
def ofText? (t : Text) : Option FileError :=
  match Utf8.nameRun? t with
  | some run => some (.unencodable run)
  | none => if t.any (· == 0) then some .embeddedZero else none

/-- The system's number of a refusal, if the refusal is the system's. -/
def number? : FileError → Option Nat
  | .notFound => some 2
  | .inputOutput => some 5
  | .denied => some 13
  | .busy => some 16
  | .alreadyExists => some 17
  | .notDirectory => some 20
  | .isDirectory => some 21
  | .invalid => some 22
  | .nameTooLong => some 36
  | .notEmpty => some 39
  | .embeddedZero | .unencodable _ | .offsetOutOfRange | .tooManyMissing => none

/-- Whether a refusal is the system's own. -/
def isSystem (e : FileError) : Bool :=
  e.number?.isSome

/-- **Whether a refusal only says that nothing is there**: no entry, a plain
file on the way, or a path that can name none. -/
def meansAbsent : FileError → Bool
  | .notFound | .notDirectory | .embeddedZero | .unencodable _ => true
  | _ => false

/-- What is said about a refusal. -/
def message (e : FileError) : Text :=
  match e with
  | .embeddedZero => lit "embedded null byte"
  | .unencodable run => run.message
  | .offsetOutOfRange => lit "cannot fit the offset"
  | .tooManyMissing => lit "too many directories are missing"
  | _ => lit "[Errno " ++ Text.ofNat (e.number?.getD 0) ++ lit "]"

end FileError

end Lexicon
