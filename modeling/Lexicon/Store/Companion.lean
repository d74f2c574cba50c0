import Lexicon.FileTree.Locate
import Lexicon.Store.Basic
import Lexicon.Store.Journal

/-!
# What accompanies a store file

Three files may stand beside the file of a store, named after it: a journal,
which holds what a change overwrites until the change is complete, a log, to
which changes are added in place of a journal, and an index of the log. Each
operation leaves none of its own behind, so one that is found is a leftover.

Before a store is looked into, leftovers are settled (`settle`). Beside a
blank store nothing can be left to undo, and journal and log are removed.
Beside any other file a journal is undone and removed unless its first byte
says that it is finished, which may leave the store blank, and a log is taken
up and removed with its index when the operation ends. A leftover without
contents is none.
-/

namespace Lexicon

/-- **A file that accompanies a store file.** -/
inductive Companion where
  /-- What a change overwrites. -/
  | journal
  /-- Changes that are yet to be carried into the store. -/
  | log
  /-- The index of the log. -/
  | index
  deriving DecidableEq

/-- **How a change is kept from being left half done.** -/
inductive Recording where
  /-- By a journal. -/
  | byJournal
  /-- By the log that was found. -/
  | byLog
  deriving DecidableEq

namespace Companion

/-- What the name of a companion adds to that of its store file. -/
def ending : Companion → Text
  | .journal => lit "-journal"
  | .log => lit "-wal"
  | .index => lit "-shm"

/-- The name of a companion of a store file. -/
def name (c : Companion) (store : Place) : Text :=
  store.getLast?.getD [] ++ c.ending

/-- The place of a companion of a store file. -/
def place (c : Companion) (store : Place) : Place :=
  store.dropLast ++ [c.name store]

/-- What stands in the place of a companion, unless it is a file without
contents. -/
def found? (c : Companion) (t : FileTree) (store : Place) : Option FileTree :=
  (t.lookup (c.place store)).filter fun s =>
    match s with
    | .file f => f.content != .bytes []
    | .dir _ => true

/-- The tree without a companion that is a plain file. -/
def remove (c : Companion) (t : FileTree) (store : Place) : FileTree :=
  match t.lookup (c.place store) with
  | some (.file _) => t.remove (c.place store)
  | _ => t

end Companion

namespace Store

/-- Whether a content is that of a store without a table. -/
def isBlank : Content → Bool
  | .bytes [] | .bytes [_] => true
  | _ => false

/-- Settles a journal that was left beside a store file, and says what the file
is then. -/
def settleJournal (t : FileTree) (store : Place) (f : File) :
    FileTree × Except StoreError File :=
  let blank := isBlank f.content
  match Companion.journal.found? t store with
  | none => (t, .ok f)
  | some (.dir _) => (t, if blank then .ok f else .error .inputOutput)
  | some (.file journal) =>
    let journal := journal.content.toBytes
    let cleared := Companion.journal.remove t store
    if blank then (cleared, .ok f)
    else if Journal.isUnfinished journal then
      let f := { f with content := Journal.undo journal f.content }
      (cleared.put store (.file f), .ok f)
    else (t, .ok f)

/-- Settles a log that was left beside a store file, and says how changes are
recorded then. -/
def settleLog (t : FileTree) (store : Place) (blank : Bool) :
    FileTree × Except StoreError Recording :=
  match Companion.log.found? t store with
  | none => (t, .ok .byJournal)
  | some (.dir _) => (t, .error (if blank then .inputOutput else .unopenable))
  | some (.file _) =>
    let t := Companion.log.remove t store
    if blank then (t, .ok .byJournal)
    else (Companion.index.remove t store, .ok .byLog)

/-- **Settles what was left beside a store file**, and says what the file is
and how changes are recorded then. -/
def settle (t : FileTree) (store : Place) (f : File) :
    FileTree × Except StoreError (File × Recording) :=
  match settleJournal t store f with
  | (t, .error e) => (t, .error e)
  | (t, .ok f) =>
    let (t, recording) := settleLog t store (isBlank f.content)
    (t, recording.map fun r => (f, r))

/-- **The tree after a change was recorded.** A journal needs a name that is
not too long and no directory in its place, and is removed when the change is
complete or given up. -/
def record (t : FileTree) (store : Place) : Recording → Except StoreError FileTree
  | .byLog => .ok t
  | .byJournal =>
    if Path.isTooLong (Companion.journal.name store)
        || (t.lookup (Companion.journal.place store)).any FileTree.isDir then
      .error .unopenable
    else .ok (Companion.journal.remove t store)

end Store

end Lexicon
