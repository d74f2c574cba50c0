import Lexicon.Reconciliation.Sources
import Lexicon.Reconciliation.Sweep

/-!
# The four sources

Each source of records is swept in its own way: the cache directory by
directory, the leftover downloads and the built-in dictionaries file by file,
the enabled locales without looking at any file. A dictionary is only listed
for the locale under which it is filed: one for `en` that serves `en_US` is
usable there but no `en_US` dictionary.
-/

namespace Lexicon.Sources

/-- What an address and a result report together, as a candidate of a
source whose unusable files are only told to who debugs. -/
def findingOf (log : Log) (what : Text) (filed : Locale)
    (result : Logged (Except FileError RecordResult)) : Finding :=
  match result.value with
  | .error e => .failure e (log ++ result.log)
  | .ok (.found record) =>
    if record.locale = filed then .record record (log ++ result.log)
    else .none (log ++ result.log)
  | .ok unusable =>
    .none (log ++ result.log
      ++ [⟨.debug, lit "Ignoring " ++ what ++ lit ": " ++ unusable.reason⟩])

/-! ## The cache -/

/-- **A file of a cache directory as a candidate** for the locale of the
directory. Only main dictionaries are. -/
def cachedFinding (s : Sources) (v : Volume) (filed : Locale) (p : Path) :
    Finding :=
  match FileName.unescape p.name with
  | .error e =>
    .none [⟨.warning, lit "Skipping cached file " ++ p.toText ++ lit ": "
      ++ e.message⟩]
  | .ok id =>
    match WordListId.ofText? id with
    | none => .none []
    | some wordList =>
      if wordList.category? = some .main then
        let address := FileAddress.ofFile v p
        findingOf address.log (lit "cached file") filed
          (s.fileRecord v address.value id wordList.locale)
      else .none []

/-- The warning about a cache directory that is passed over. -/
def skippedDir (p : Path) (why : Text) : LogLine :=
  ⟨.warning, lit "Skipping cache directory " ++ p.toText ++ lit ": " ++ why⟩

/-- **The sweep over a cache directory.** -/
def sweepCacheDir (s : Sources) (v : Volume) (p : Path) : Sweep :=
  match FileName.unescape p.name with
  | .error e => Sweep.ofLog [skippedDir p e.message]
  | .ok key =>
    let files := Layout.listFiles v p
    (Sweep.ofLog files.log ++ Sweep.ofFindings
      (files.value.map (s.cachedFinding v (Locale.ofText key)))).excuse
      fun e => skippedDir p e.message

/-- **The sweep over the cache.** -/
def sweepCache (s : Sources) (v : Volume) : Sweep :=
  let dirs := s.layout.cacheDirs v
  Sweep.ofLog dirs.log ++ Sweep.concat (dirs.value.map (s.sweepCacheDir v))

/-! ## Leftover downloads -/

/-- What discarding a leftover download reports. -/
def discardLog (v : Volume) (a : FileAddress) : Log :=
  (discard v a).log

/-- **A leftover download as a candidate** for the locale in front of its
separator. -/
def leftoverFinding (s : Sources) (v : Volume) (p : Path) : Finding :=
  match Text.cut? Layout.separator p.name with
  | none => .none []
  | some (escapedLocale, _) =>
    match FileName.unescape escapedLocale with
    | .error e =>
      .none [⟨.warning, lit "Skipping leftover file " ++ p.toText ++ lit ": "
        ++ e.message⟩]
    | .ok key =>
      let address := FileAddress.ofFile v p
      match address.value with
      | none => .none address.log
      | some a =>
        let verdict := s.judge v a (Locale.ofText key)
        let log := address.log ++ verdict.log
        match verdict.value with
        | .error e => .failure e log
        | .ok (.keep record) => .record record log
        | .ok .discard => .discard a (log ++ discardLog v a)

/-- **The sweep over the leftover downloads.** -/
def sweepLeftovers (s : Sources) (v : Volume) : Sweep :=
  let files := s.layout.leftoverFiles v
  Sweep.ofLog files.log
    ++ Sweep.ofFindings (files.value.map (s.leftoverFinding v))

/-- The tree without the discarded files that can be deleted. -/
def afterDiscards (v : Volume) (discarded : List FileAddress) : FileTree :=
  discarded.foldl (fun t a => (discard (v.withTree t) a).tree) v.tree

/-! ## Built-in dictionaries -/

/-- **A locale of the bundle as a candidate.** -/
def bundledFinding (s : Sources) (v : Volume) (b : Bundle) (key : Text) :
    Finding :=
  let locale := Locale.ofText key
  match b.find? v locale with
  | .error e =>
    .none [⟨.warning, lit "Skipping bundled dictionary for " ++ locale.toText
      ++ lit ": " ++ e.message⟩]
  | .ok none => .none []
  | .ok (some p) =>
    let address := FileAddress.ofFile v p
    findingOf address.log (lit "bundled dictionary") locale
      (s.fileRecord v address.value (WordListId.ofMain locale)
        (b.localeOf p.name))

/-- **The sweep over the built-in dictionaries.** -/
def sweepBundle (s : Sources) (v : Volume) : Sweep :=
  match s.bundle? with
  | none => {}
  | some b =>
    let locales := b.locales v
    match locales.value with
    | .error e => { log := locales.log, failure? := some e }
    | .ok keys =>
      Sweep.ofLog locales.log
        ++ Sweep.ofFindings (keys.map (s.bundledFinding v b))

/-! ## Enabled locales -/

/-- **The sweep over the enabled locales.** -/
def sweepEnabled (s : Sources) : Sweep :=
  match s.enabled? with
  | none => {}
  | some (.error e) => { failure? := some e }
  | some (.ok keys) =>
    { records := keys.map fun key => s.placeholder (Locale.ofText key) }

end Lexicon.Sources
