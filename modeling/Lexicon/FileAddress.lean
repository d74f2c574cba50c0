import Lexicon.Effect
import Lexicon.Header.Reader
import Lexicon.Time
import Lexicon.Volume

/-!
# Dictionaries in files

A dictionary is addressed by the path of a file, a position and a length. A
file of its own is addressed as a whole. What can be learned from an address
without looking into the dictionary is its header, and with it the content
version, and the time of the file.

Refusals of the system never stop a scan: a file that cannot be asked about
has no address, one that cannot be read has no header, and one whose time is
unknown has the time zero. Only arguments that never reach the system – a
path with a zero in it, say – are passed on as errors.
-/

namespace Lexicon

/-- **Where a dictionary is stored**: in a file, from a position on, with a
length. -/
structure FileAddress where
  /-- The file. -/
  path : Path
  /-- Where in the file the dictionary starts. -/
  offset : Int
  /-- How long it is. -/
  length : Int
  deriving DecidableEq

/-- **Why a header was not read.** -/
inductive HeaderError where
  /-- The bytes are no header. -/
  | unsupported (path : Path) (fault : HeaderFault)
  /-- The system refused the file. -/
  | unreadable (path : Path) (error : FileError)
  /-- The arguments never reached the system. -/
  | improper (error : FileError)
  deriving DecidableEq

/-- What is said about a header that was not read. -/
def HeaderError.message : HeaderError → Text
  | .unsupported path fault => path.toText ++ lit ": " ++ fault.message
  | .unreadable path error => path.toText ++ lit ": " ++ error.message
  | .improper error => error.message

namespace Volume

/-- A refusal of the file that a header was to be read from. -/
def headerRefusal (p : Path) (e : FileError) : HeaderError :=
  if e.isSystem then .unreadable p e else .improper e

/-- **The header at a position of a file.** Every position below `2 ^ 63` is
taken to be accepted, behind the end of the file too; a file system with a lower
limit refuses some of them as invalid before anything is read. -/
def readHeader (v : Volume) (p : Path) (offset : Int) (length? : Option Int) :
    Except HeaderError Header :=
  match v.open? p with
  | .error e => .error (headerRefusal p e)
  | .ok file =>
    if !isInt64 offset then .error (.improper .offsetOutOfRange)
    else if offset < 0 then .error (.unreadable p .invalid)
    else
      (Header.ofBytes (file.content.toBytes.drop offset.toNat) length?).mapError
        (HeaderError.unsupported p)

end Volume

namespace FileAddress

/-- **The address of a whole file**, if there is a plain file. -/
def ofFile (v : Volume) (p : Path) : Logged (Option FileAddress) :=
  match v.node p with
  | .ok (.file f) => ⟨some ⟨p, 0, f.content.toBytes.length⟩, []⟩
  | .ok (.dir _) => ⟨none, []⟩
  | .error e =>
    if e.meansAbsent then ⟨none, []⟩
    else
      ⟨none, [⟨.warning, lit "Could not stat dictionary file " ++ p.toText
        ++ lit ": " ++ e.message⟩]⟩

/-- **When the file was written**, in milliseconds; zero if the system does
not say. -/
def lastModified (v : Volume) (a : FileAddress) : Except FileError Int :=
  match v.node a.path with
  | .ok (.file f) => .ok (Time.millis f.modified)
  | .ok (.dir _) => .ok 0
  | .error e => if e.isSystem then .ok 0 else .error e

/-- **Deletes the file of an address**, and says whether it is gone. -/
def delete (v : Volume) (a : FileAddress) : Effect (Except FileError Bool) :=
  match v.unlink a.path with
  | .ok t => ⟨t, .ok true, []⟩
  | .error .notFound => ⟨v.tree, .ok true, []⟩
  | .error e =>
    if e.isSystem then
      ⟨v.tree, .ok false, [⟨.warning, lit "Could not delete "
        ++ a.path.toText ++ lit ": " ++ e.message⟩]⟩
    else ⟨v.tree, .error e, []⟩

/-- **The header at an address**, or nothing if it cannot be read. -/
def header? (v : Volume) (a : FileAddress) :
    Logged (Except FileError (Option Header)) :=
  match v.readHeader a.path a.offset (some a.length) with
  | .ok h => ⟨.ok (some h), []⟩
  | .error (.improper e) => ⟨.error e, []⟩
  | .error e =>
    ⟨.ok none, [⟨.debug, lit "Unreadable dictionary header: " ++ e.message⟩]⟩

/-- **The content version at an address**, `Header.noVersion` if its header
cannot be read. -/
def contentVersion (v : Volume) (a : FileAddress) :
    Logged (Except FileError Int) :=
  let header := a.header? v
  ⟨header.value.map fun h => (h.map Header.version).getD Header.noVersion,
    header.log⟩

end FileAddress

end Lexicon
