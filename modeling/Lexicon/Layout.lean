import Lexicon.Effect
import Lexicon.FileName
import Lexicon.Volume

/-!
# The layout of a storage

Everything lives under one storage root. Cached word lists have a directory
for each locale, `dicts/<escaped locale>/<escaped id>`; downloads wait in
`staging/<escaped locale___id>`; `tmp` is scratch space; and leftover
downloads that were never installed lie at the root itself, as
`<locale>___<anything>.dict`. The separator of three underscores consists of
code points that escaping leaves alone, so it can be found again in an escaped
name.

Listings skip what cannot be inspected and say so, and a directory that cannot
be listed is an empty one.
-/

namespace Lexicon

/-- **The layout of a storage**, by its root. -/
structure Layout where
  /-- The storage root. -/
  root : Path
  deriving DecidableEq

/-- Why the areas of a storage were not made. -/
inductive DirectoryError where
  /-- The system refused to make a directory. -/
  | refused (path : Path) (error : FileError)
  /-- The path never reached the system. -/
  | improper (error : FileError)
  deriving DecidableEq

/-- What is said about a directory that was not made. -/
def DirectoryError.message : DirectoryError → Text
  | .refused path error =>
    lit "Could not create " ++ path.toText ++ lit ": " ++ error.message
  | .improper error => error.message

namespace Layout

/-- The name of the area of cached word lists. -/
def cacheName : Text := ['d', 'i', 'c', 't', 's']

/-- The name of the area of waiting downloads. -/
def stagingName : Text := ['s', 't', 'a', 'g', 'i', 'n', 'g']

/-- The name of the scratch area. -/
def scratchName : Text := ['t', 'm', 'p']

/-- What stands between the locale and the rest of a name. -/
def separator : Text := ['_', '_', '_']

/-- What a leftover download's name ends in. -/
def extension : Text := ['.', 'd', 'i', 'c', 't']

/-- The area of cached word lists. -/
def cacheRoot (l : Layout) : Path := l.root.child cacheName

/-- The area of downloads that wait to be moved into the cache. -/
def stagingRoot (l : Layout) : Path := l.root.child stagingName

/-- The scratch area. -/
def scratchRoot (l : Layout) : Path := l.root.child scratchName

/-! ## Listings -/

/-- The entry of a directory, if it is of a kind. -/
def keepKind (v : Volume) (kind : FileTree → Bool) (p : Path) :
    Logged (Option Path) :=
  match v.isKind kind p with
  | .ok true => ⟨some p, []⟩
  | .ok false => ⟨none, []⟩
  | .error e =>
    ⟨none, [⟨.warning, lit "Skipping " ++ p.toText ++ lit ": " ++ e.message⟩]⟩

/-- What is reported about a directory that cannot be listed. -/
def unlistable (p : Path) (e : FileError) : Log :=
  [⟨.warning, lit "Could not list directory " ++ p.toText ++ lit ": "
    ++ e.message⟩]

/-- **The entries of a directory that are of a kind**, by name. -/
def listKind (v : Volume) (kind : FileTree → Bool) (p : Path) :
    Logged (List Path) :=
  match v.isDir p with
  | .error e => ⟨[], unlistable p e⟩
  | .ok false => ⟨[], []⟩
  | .ok true =>
    match v.list p with
    | .error e => ⟨[], unlistable p e⟩
    | .ok entries => Logged.collect (entries.map (keepKind v kind))

/-- The plain files of a directory. -/
def listFiles (v : Volume) (p : Path) : Logged (List Path) :=
  listKind v FileTree.isFile p

/-- The directories in a directory. -/
def listDirs (v : Volume) (p : Path) : Logged (List Path) :=
  listKind v FileTree.isDir p

/-- The directory of a locale in the cache. -/
def cachePath (l : Layout) (localeKey : Text) : Path :=
  l.cacheRoot.appendText (FileName.escape localeKey)

/-- The directories of the cache, one for each locale. -/
def cacheDirs (l : Layout) (v : Volume) : Logged (List Path) :=
  listDirs v l.cacheRoot

/-- The cached files of a locale. -/
def cachedFiles (l : Layout) (v : Volume) (localeKey : Text) :
    Logged (List Path) :=
  listFiles v (l.cachePath localeKey)

/-- The waiting downloads. -/
def stagedFiles (l : Layout) (v : Volume) : Logged (List Path) :=
  listFiles v l.stagingRoot

/-- Whether a name is that of a leftover download. -/
def isLeftoverName (name : Text) : Bool :=
  name.endsWith extension && name.includes separator

/-- The leftover downloads at the root. -/
def leftoverFiles (l : Layout) (v : Volume) : Logged (List Path) :=
  let files := listFiles v l.root
  ⟨files.value.filter (isLeftoverName ·.name), files.log⟩

/-! ## Names of files -/

/-- Makes a directory if it is not there. That it cannot be made is only
reported: its absence shows later as an empty listing. -/
def ensureDir (v : Volume) (p : Path) (purpose : Text) :
    Effect (Except FileError Unit) :=
  match v.isDir p with
  | .error e => ⟨v.tree, .error e, []⟩
  | .ok true => ⟨v.tree, .ok (), []⟩
  | .ok false =>
    match v.makeDirs p with
    | (t, .ok ()) => ⟨t, .ok (), []⟩
    | (t, .error e) =>
      if e.isSystem then
        ⟨t, .ok (), [⟨.error, lit "Could not create the directory for "
          ++ purpose ++ lit ": " ++ e.message⟩]⟩
      else ⟨t, .error e, []⟩

/-- **The directory of a locale in the cache**, made if it is not there. -/
def cacheDir (l : Layout) (v : Volume) (localeKey : Text) :
    Effect (Except FileError Path) :=
  let path := l.cachePath localeKey
  (ensureDir v path (lit "locale " ++ localeKey)).map (·.map fun _ => path)

/-- **The cached file of a word list**: named after its identifier, in the
directory of its locale. -/
def cacheFile (l : Layout) (v : Volume) (id localeKey : Text) :
    Effect (Except FileError Path) :=
  (l.cacheDir v localeKey).map (·.map (·.appendText (FileName.escape id)))

/-- The name under which a download waits: that of its locale and identifier
together. -/
def stagingFileName (id localeKey : Text) : Text :=
  FileName.escape (localeKey ++ separator ++ id)

/-- **The file in which a download waits.** -/
def stagingFile (l : Layout) (v : Volume) (id localeKey : Text) :
    Effect (Except FileError Path) :=
  (ensureDir v l.stagingRoot (lit "staging")).map
    (·.map fun _ => l.stagingRoot.appendText (stagingFileName id localeKey))

/-- The name of a leftover download. -/
def leftoverName (localeKey token : Text) : Text :=
  FileName.escape localeKey ++ separator ++ FileName.escape token ++ extension

/-- **The file of a leftover download.** -/
def leftoverFile (l : Layout) (localeKey token : Text) : Path :=
  l.root.appendText (leftoverName localeKey token)

/-! ## Areas -/

/-- Makes directories one after the other, up to the first that cannot be
made. -/
def makeAll (v : Volume) : List Path → Effect (Except DirectoryError Unit)
  | [] => ⟨v.tree, .ok (), []⟩
  | p :: rest =>
    match v.makeDirs p with
    | (t, .ok ()) => makeAll (v.withTree t) rest
    | (t, .error e) =>
      ⟨t, .error (if e.isSystem then .refused p e else .improper e), []⟩

/-- **Makes the storage root and its three areas.** -/
def makeAreas (l : Layout) (v : Volume) : Effect (Except DirectoryError Unit) :=
  makeAll v [l.cacheRoot, l.stagingRoot, l.scratchRoot]

end Layout

end Lexicon
