import Lexicon.Effect
import Lexicon.Record
import Lexicon.Text.Hex
import Lexicon.Volume

/-!
# Exported listings

A listing is exported as a table of the rows of its records, in order. It is
written into a draft, a new file beside its destination, and the draft is moved
over the destination when it is finished, so the destination holds the old
contents or the new ones and nothing in between. What goes wrong once there is
a draft takes the draft away again.

A draft has a name that is free, the first of those that are tried. It is found
by a path without double dots, which has to be a text without surrogates for
the table to be written into it. A table takes numbers of 64 bits and texts
without surrogates; of several cells that it does not take, the first is told,
row by row. A number may be too large for the table or, beyond 128 bits, for
any cell at all.
-/

namespace Lexicon

/-- **Why a listing was not exported.** -/
inductive ExportError where
  /-- A number does not fit into the 64 bits of a column. -/
  | tooLarge
  /-- A number does not fit into 128 bits. -/
  | beyondCells
  /-- A text holds surrogates. -/
  | unencodable (run : SurrogateRun)
  /-- The directory of the destination is not named by a text that can be
  written. -/
  | unwritable
  /-- The system refused a directory or the destination. -/
  | file (error : FileError)
  deriving DecidableEq

/-- What is said about a refusal to export. -/
def ExportError.message : ExportError → Text
  | .tooLarge => lit "a number does not fit into 64 bits"
  | .beyondCells => lit "a number does not fit into 128 bits"
  | .unencodable run => run.message
  | .unwritable => lit "Object does not have a .write() method."
  | .file error => error.message

namespace Export

/-- Whether a number fits into a cell, with a sign or without. -/
def fitsCell (n : Int) : Bool :=
  -2 ^ 127 ≤ n && n < 2 ^ 128

/-- Whether a number has a place in a table, and if not why. -/
def checkNumber (n : Int) : Except ExportError Unit :=
  if isInt64 n then .ok ()
  else .error (if fitsCell n then .tooLarge else .beyondCells)

/-- Whether a row has a place in a table, and if not why. -/
def checkRow (r : Row) : Except ExportError Unit :=
  match r.texts.findSome? Utf8.surrogateRun? with
  | some run => .error (.unencodable run)
  | none => r.numbers.forM checkNumber

/-- **The table of some records**, row by row. -/
def table (records : List Record) : Except ExportError (List Row) := do
  let rows := records.map Record.toRow
  rows.forM checkRow
  return rows

/-! ## Drafts -/

/-- A name such as a table has until it is finished. -/
def draftName (n : Nat) : Text :=
  lit "tmp" ++ Hex.fixed 8 n ++ lit ".parquet"

/-- The names that are tried for a draft, in order. -/
def draftNames : List Text :=
  (List.range' 0 10000).map draftName

/-- **The tree with a draft in a directory**, a new file without contents, and
the path of the draft. Names that are taken are passed over. -/
def openDraft (t : FileTree) (dir : Path) :
    List Text → Except FileError (FileTree × Path)
  | [] => .error .alreadyExists
  | name :: others =>
    match t.create (dir.child name) with
    | .ok t => .ok (t, dir.child name)
    | .error .alreadyExists => openDraft t dir others
    | .error e => .error e

/-- The tree with a table written into its draft. -/
def fillDraft (t : FileTree) (draft : Path) (rows : List Row) :
    Except ExportError FileTree :=
  if draft.toText.any CodePoint.isSurrogate then .error .unwritable
  else (t.write draft ⟨.listing rows, 0⟩).mapError .file

/-- The tree without a draft, if it is still there. -/
def discardDraft (v : Volume) (draft : Path) : Except FileError FileTree := do
  if ← v.isThere draft then v.unlink draft
  else return v.tree

/-! ## Writing -/

/-- **Ends an export that went wrong** after it had a draft. -/
def abandon (v : Volume) (draft p : Path) (e : ExportError) :
    Effect (Except ExportError Path) :=
  match discardDraft v draft with
  | .error refusal => ⟨v.tree, .error (.file refusal), []⟩
  | .ok t =>
    ⟨t, .error e, [⟨.error, lit "Writing dictionary listing to " ++ p.toText
      ++ lit " failed: " ++ e.message⟩]⟩

/-- **Ends an export that has a draft**: writes the table into it and moves it
over the destination. -/
def publish (v : Volume) (draft p : Path) (rows : List Row) :
    Effect (Except ExportError Path) :=
  match fillDraft v.tree draft rows with
  | .error e => abandon v draft p e
  | .ok filled =>
    match filled.rename draft p with
    | .error e => abandon (v.withTree filled) draft p (.file e)
    | .ok t =>
      ⟨t, .ok p, [⟨.info, lit "Wrote " ++ Text.ofNat rows.length
        ++ lit " dictionary records to " ++ p.toText⟩]⟩

/-- **Exports records to a file**, by way of a draft with one of the given
names, and says where they are. -/
def writeBy (names : List Text) (v : Volume) (p : Path)
    (records : List Record) : Effect (Except ExportError Path) :=
  match v.makeDirs p.parent with
  | (t, .error e) => ⟨t, .error (.file e), []⟩
  | (t, .ok ()) =>
    match table records with
    | .error e => ⟨t, .error e, []⟩
    | .ok rows =>
      match openDraft t p.parent.spelledOut names with
      | .error e => ⟨t, .error (.file e), []⟩
      | .ok (t, draft) => publish (v.withTree t) draft p rows

/-- **Exports records to a file**, and says where they are. -/
def write (v : Volume) (p : Path) (records : List Record) :
    Effect (Except ExportError Path) :=
  writeBy draftNames v p records

end Export

end Lexicon
