import Lexicon.Effect
import Lexicon.Store.Companion
import Lexicon.Store.Location

/-!
# Store files

A store is kept in a file. A free path is an empty store file, which has no
table until it is initialised, as has a file of a single byte; any other file
is no store at all. Every operation opens the file, making an empty one where
the path is free, and settles what was left beside it before it looks into it.
An operation that changes rows has to record the change before it can.
-/

namespace Lexicon.Store

/-! ## Opening -/

/-- **A store file under way**: the tree in which it stands, its place and the
file. -/
structure Opened where
  /-- The tree. -/
  tree : FileTree
  /-- The place of the file. -/
  place : Place
  /-- The file. -/
  file : File

/-- Opens the file of a store, an empty one where the path is free. -/
def openFile (t : FileTree) (p : Path) : Except StoreError Opened :=
  match p.checkText, locate? t p with
  | .error e, _ => .error (.improper e)
  | .ok (), none => .error .unopenable
  | .ok (), some place =>
    match t.lookup place with
    | none =>
      let empty : File := ⟨.bytes [], 0⟩
      .ok ⟨t.put place (.file empty), place, empty⟩
    | some (.file f) => .ok ⟨t, place, f⟩
    | some (.dir _) => .error .unopenable

/-- The rows of a store file, which must have a table. -/
def rowsOf : Content → Except StoreError Store
  | .store rows => .ok rows
  | content =>
    .error (if isBlank content then .noTable
      else if content.isTornStore then .damaged
      else .notStore)

/-! ## Changing -/

/-- **What an operation makes of the rows of a store.** An operation may be
refused after it has touched rows. -/
structure Draft where
  /-- Whether anything is written or taken away, be it for nothing. -/
  touched : Bool
  /-- The rows afterwards, if the operation is not refused. -/
  rows : Except StoreError Store

/-- The draft that gives a store its table. -/
def draftTable (content : Content) : Draft :=
  if isBlank content then ⟨true, .ok []⟩ else ⟨false, rowsOf content⟩

/-- The draft of a batch of records: the first row that can be stored is
written at once. -/
def draftUpsert (records : List Record) (content : Content) : Draft :=
  match rowsOf content with
  | .error e => ⟨false, .error e⟩
  | .ok rows =>
    ⟨records.head?.any fun r => (checkRow r.toRow).toOption.isSome,
      rows.upsert records⟩

/-- The draft of a deletion. -/
def draftDelete (id : Option Text) (content : Content) : Draft :=
  match rowsOf content with
  | .error e => ⟨false, .error e⟩
  | .ok rows =>
    let rest := rows.delete id
    ⟨rest.toOption.any (· != rows), rest⟩

/-- Carries out a draft on a store file that has been settled. -/
def complete (o : Opened) (recording : Recording) (draft : Draft) :
    FileTree × Except StoreError Unit :=
  if draft.touched then
    match record o.tree o.place recording, draft.rows with
    | .error e, _ => (o.tree, .error e)
    | .ok t, .error e => (t, .error e)
    | .ok t, .ok rows =>
      (t.put o.place (.file { o.file with content := .store rows }), .ok ())
  else (o.tree, draft.rows.map fun _ => ())

/-- **Looks into a store file**: opened and settled, what it holds goes to
`next`. -/
def look {α : Type} (t : FileTree) (p : Path)
    (next : Opened → Recording → FileTree × Except StoreError α) :
    FileTree × Except StoreError α :=
  match openFile t p with
  | .error e => (t, .error e)
  | .ok o =>
    match settle o.tree o.place o.file with
    | (t, .error e) => (t, .error e)
    | (t, .ok (f, recording)) => next { o with tree := t, file := f } recording

/-- **Changes the rows of a store file** as a draft says. A refusal leaves them
as they were. -/
def change (t : FileTree) (p : Path) (draft : Content → Draft) :
    FileTree × Except StoreError Unit :=
  look t p fun o recording => complete o recording (draft o.file.content)

/-! ## Operations -/

/-- What is reported about an operation on a store. -/
def report (outcome : Except StoreError Unit) (done failed : Text) : Log :=
  match outcome with
  | .ok () => [⟨.info, done⟩]
  | .error e => [⟨.error, failed ++ lit " failed: " ++ e.message⟩]

/-- **Makes the table of a store**, if it has none. -/
def initialise (t : FileTree) (p : Path) : Effect (Except StoreError Unit) :=
  let (tree, outcome) := change t p draftTable
  ⟨tree, outcome, report outcome (lit "Metadata database ready at " ++ p.toText)
    (lit "Initializing metadata database")⟩

/-- **Writes records to a store file**, all of them or none, and says how many
there were. To write no record, the store is not even looked into. -/
def upsertAt (t : FileTree) (p : Path) (records : List Record) :
    Effect (Except StoreError Nat) :=
  let (tree, outcome) :=
    if records.isEmpty then
      match openFile t p with
      | .error e => (t, .error e)
      | .ok o => (o.tree, .ok ())
    else change t p (draftUpsert records)
  ⟨tree, outcome.map fun _ => records.length, report outcome
    (lit "Stored " ++ Text.ofNat records.length ++ lit " dictionary rows")
    (lit "Storing dictionary rows")⟩

/-- **The rows of a store file**, by locale; none where it cannot be read. -/
def readAt (t : FileTree) (p : Path) : Effect (List Row) :=
  match look t p fun o _ => (o.tree, rowsOf o.file.content) with
  | (tree, .error e) =>
    ⟨tree, [], [⟨.error, lit "Reading dictionary rows failed: "
      ++ e.message⟩]⟩
  | (tree, .ok rows) => ⟨tree, sorted rows, []⟩

/-- **Deletes the row of an identifier** from a store file. -/
def deleteAt (t : FileTree) (p : Path) (id : Option Text) :
    Effect (Except StoreError Unit) :=
  let (tree, outcome) := change t p (draftDelete id)
  ⟨tree, outcome, report outcome
    (lit "Deleted dictionary row " ++ Text.orNone id)
    (lit "Deleting dictionary row " ++ Text.orNone id)⟩

end Lexicon.Store
