import Lexicon.Export
import Lexicon.Reconciliation.Reconcile
import Lexicon.Settings
import Lexicon.Staging.Promotion
import Lexicon.Store.File

/-!
# The command line

A run prepares the storage – its log file, its areas and its metadata store –
and then does what its first argument says: promote the staged downloads, or
promote them and print, export or store the listing. Without an argument the
listing is printed. A storage that cannot be prepared is reported and the run
goes on, since a missing directory shows as an empty listing.
-/

namespace Lexicon

/-- **What brings a run to an end before its time.** -/
inductive CommandError where
  /-- A path setting starts at the home directory of nobody. -/
  | home (error : UnknownHome)
  /-- A file was refused where nothing can make up for it. -/
  | file (error : FileError)
  /-- The metadata store refused a row. -/
  | store (error : StoreError)
  /-- The listing was not exported. -/
  | exported (error : ExportError)
  deriving DecidableEq

/-- What is said where a run ends before its time. -/
def CommandError.message : CommandError → Text
  | .home _ => lit "Could not determine home directory."
  | .file error => error.message
  | .store error => error.message
  | .exported error => error.message

/-- **What a run does**, by its arguments. -/
inductive Mode where
  /-- Promote the staged downloads. -/
  | promote
  /-- Print the listing. -/
  | print
  /-- Export the listing to a file. -/
  | writeTo (path : Path)
  /-- Write the listing to the metadata store. -/
  | sync
  /-- Say that there is no such mode. -/
  | unknown (name : Text)
  deriving DecidableEq

namespace Command

/-- The effect of one step of a run. -/
abbrev Step (α : Type) := Effect (Except CommandError α)

/-! ## Modes -/

/-- **What the arguments ask for.** -/
def modeOf : List Text → Mode
  | [] => .print
  | name :: rest =>
    if name = lit "promote" then .promote
    else if name = lit "list" then .print
    else if name = lit "sync" then .sync
    else if name = lit "export" then
      match rest with
      | path :: _ => .writeTo (Path.ofText path)
      | [] => .unknown name
    else .unknown name

/-- The end of a printed line. -/
def newline : Text := [0x0A]

/-- What is printed where no mode has the given name. -/
def usage (name : Text) : Text :=
  lit "Unknown mode: " ++ name ++ newline
    ++ lit "Available modes: promote, list, export <path>, sync" ++ newline
    ++ lit "Example: python main.py list" ++ newline
    ++ lit "         python main.py export listing.parquet" ++ newline

/-- **The line of a record**, in columns. -/
def line (r : Record) : Text :=
  let space := lit " "
  r.locale.toText.padRight 12 ++ space ++ (Text.orNone r.id).padRight 24
    ++ lit " v" ++ (Text.ofInt r.version).padRight 6 ++ space
    ++ (Text.ofInt r.filesize).padLeft 10 ++ lit "  "
    ++ Text.orNone r.description ++ newline

/-! ## Preparation -/

/-- The directory of the log file, in the storage root. -/
def logDirName : Text := lit "logs"

/-- The name of the log file. -/
def logFileName : Text := lit "dictpack.log"

/-- The name of the metadata store, in the storage root. -/
def storeName : Text := lit "metadata.db"

/-- The log file of a storage. -/
def logFile (root : Path) : Path :=
  (root.child logDirName).child logFileName

/-- The metadata store of a storage. -/
def storeFile (root : Path) : Path :=
  root.child storeName

/-- Opens the log file, making it and its directory where they are missing. -/
def openLogFile (v : Volume) (root : Path) :
    FileTree × Except FileError Unit :=
  match v.makeDirs (root.child logDirName) with
  | (t, .error e) => (t, .error e)
  | (t, .ok ()) =>
    match t.touch (logFile root) with
    | .error e => (t, .error e)
    | .ok t => (t, .ok ())

/-- **Prepares the log file.** A run without one goes on. -/
def prepareLog (v : Volume) (root : Path) : Step Unit :=
  let path := (logFile root).toText
  match openLogFile v root with
  | (t, .ok ()) => Effect.report t .info (lit "Logging to " ++ path)
  | (t, .error e) =>
    if e.isSystem then
      Effect.report t .warning (lit "File logging disabled, cannot write "
        ++ path ++ lit ": " ++ e.message)
    else ⟨t, .error (.file e), []⟩

/-- Whether a refusal of the store is its own, and so has been dealt with once
it was reported. -/
def isStoreRefusal : StoreError → Bool
  | .unopenable | .inputOutput | .notStore | .damaged | .noTable | .missingId =>
    true
  | .unencodable _ | .tooLarge | .improper _ => false

/-- **Prepares the areas and the metadata store** of a storage. -/
def prepareStorage (l : Layout) (v : Volume) : Step Unit :=
  let areas := l.makeAreas v
  match areas.value with
  | .error (.improper e) => ⟨areas.tree, .error (.file e), areas.log⟩
  | .error e =>
    ⟨areas.tree, .ok (), areas.log ++ [⟨.error,
      lit "Dictionary storage unavailable: " ++ e.message⟩]⟩
  | .ok () =>
    let store := Store.initialise areas.tree (storeFile l.root)
    let log := areas.log ++ store.log
    match store.value with
    | .error e =>
      ⟨store.tree, if isStoreRefusal e then .ok () else .error (.store e), log⟩
    | .ok () =>
      ⟨store.tree, .ok (), log ++ [⟨.info, lit "Initialization complete"⟩]⟩

/-- Prepares a storage, saying so first. -/
def prepare (l : Layout) (v : Volume) : Step Unit :=
  (prepareLog v l.root).andThen fun t _ =>
    (Effect.report t .info (lit "Initializing dictionary storage at "
      ++ l.root.toText ++ lit "...")).andThen fun t _ =>
        prepareStorage l (v.withTree t)

/-! ## What a run does -/

/-- Promotes all staged downloads. -/
def promote (l : Layout) (v : Volume) : Step (List Path) :=
  (l.promoteAll v).map (·.mapError CommandError.file)

/-- The sources of a run's listing. -/
def sources (e : Environment) (l : Layout) : Except UnknownHome Sources := do
  return {
    layout := l
    bundle? := some {
      directory := ← e.assetDir l.root
      ending := e.dictSuffix }
    enabled? := some (.ok e.enabledLocales) }

/-- **The listing of a run**, after a promotion. -/
def listing (e : Environment) (l : Layout) (v : Volume) : Step Listing :=
  (promote l v).andThen fun t _ =>
    match sources e l with
    | .error error => ⟨t, .error (.home error), []⟩
    | .ok s => (s.reconcile (v.withTree t)).map .ok

/-- Writes a listing to the metadata store. What the store refuses has been
reported; what it cannot be asked ends the run. -/
def sync (l : Layout) (t : FileTree) (records : Listing) : Step Unit :=
  (Store.upsertAt t (storeFile l.root) records).map fun outcome =>
    match outcome with
    | .ok _ => .ok ()
    | .error e => if isStoreRefusal e then .ok () else .error (.store e)

/-- **Does what a mode says**, and gives what is printed. -/
def perform (e : Environment) (l : Layout) (v : Volume) : Mode → Step Text
  | .promote =>
    (promote l v).andThen fun t moved =>
      (Effect.report t .info (lit "Promotion finished, "
        ++ Text.ofNat moved.length ++ lit " files moved")).map
          (·.map fun _ => [])
  | .print => (listing e l v).map (·.map (·.flatMap line))
  | .writeTo path =>
    (listing e l v).andThen fun t records =>
      (Export.write (v.withTree t) path records).map fun outcome =>
        (outcome.mapError CommandError.exported).map fun _ => []
  | .sync =>
    (listing e l v).andThen fun t records =>
      (sync l t records).map (·.map fun _ => [])
  | .unknown name => Effect.pure v.tree (usage name)

/-- **A run**, with what it prints and what it reports. Debugging lines are
not shown. -/
def run (e : Environment) (arguments : List Text) (v : Volume) : Step Text :=
  match e.storageRoot with
  | .error error => ⟨v.tree, .error (.home error), []⟩
  | .ok root =>
    let l : Layout := ⟨root⟩
    let done := (prepare l v).andThen fun t _ =>
      perform e l (v.withTree t) (modeOf arguments)
    { done with log := done.log.filter (·.level.isShown) }

end Command

end Lexicon
