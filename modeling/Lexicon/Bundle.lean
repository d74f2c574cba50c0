import Lexicon.FileAddress
import Lexicon.Locale

/-!
# The built-in dictionaries

An application brings main dictionaries along as plain files of one
directory, named `main_<language>` or `main_<language>_<region>`, and perhaps
a suffix that tells builds apart. A locale is looked up under its full
lower-case text first, if it has a region, and under its language alone next;
a dictionary without language serves where nothing else does.
-/

namespace Lexicon

/-- **A bundle of built-in dictionaries.** -/
structure Bundle where
  /-- The directory. -/
  directory : Path
  /-- The locales it declares; without a declaration they are read off the
  names of its files. -/
  declared? : Option (List Text) := none
  /-- What every name ends in. -/
  ending : Text := []

namespace Bundle

/-- What the names of main dictionaries open with. -/
def mainMark : Text := ['m', 'a', 'i', 'n', '_']

/-- The name of the dictionary that serves any locale. -/
def defaultName : Text := ['m', 'a', 'i', 'n']

/-- The locale key in the name of a main dictionary. -/
def keyOf? (b : Bundle) (name : Text) : Option Text :=
  if name.startsWith mainMark && name.endsWith b.ending then
    match (name.dropLastN b.ending.length).drop mainMark.length with
    | [] => none
    | key => some key
  else none

/-- The keys of the plain files among some entries, up to the first entry that
cannot be inspected, and why it could not. -/
def keysOf (b : Bundle) (v : Volume) :
    List Path → List Text × Option FileError
  | [] => ([], none)
  | p :: rest =>
    match v.isFile p with
    | .error e => ([], some e)
    | .ok isFile =>
      let (keys, failure?) := keysOf b v rest
      let key? := if isFile then b.keyOf? p.name else none
      (key?.toList ++ keys, failure?)

/-- What is reported about a bundle that cannot be listed to its end. -/
def unlistable (b : Bundle) (e : FileError) : Log :=
  [⟨.warning, lit "Could not list asset directory " ++ b.directory.toText
    ++ lit ": " ++ e.message⟩]

/-- **The locales of a bundle**: the declared ones, or those that its files
are named for. -/
def locales (b : Bundle) (v : Volume) :
    Logged (Except FileError (List Text)) :=
  match b.declared? with
  | some declared => ⟨.ok declared, []⟩
  | none =>
    match v.isDir b.directory with
    | .error e => ⟨.error e, []⟩
    | .ok false => ⟨.ok [], []⟩
    | .ok true =>
      match v.list b.directory with
      | .error e => ⟨.ok [], b.unlistable e⟩
      | .ok entries =>
        match b.keysOf v entries with
        | (keys, none) => ⟨.ok keys, []⟩
        | (keys, some e) => ⟨.ok keys, b.unlistable e⟩

/-- The file of a name in the bundle, if it is there. -/
def file? (b : Bundle) (v : Volume) (name : Text) :
    Except FileError (Option Path) :=
  let path := b.directory.appendText name
  (v.isFile path).map fun isFile => if isFile then some path else none

/-- The name under which a locale with a region is looked up first. -/
def fullName (b : Bundle) (l : Locale) : Text :=
  mainMark ++ l.toText.lower ++ b.ending

/-- The name under which a locale is looked up by its language. -/
def languageName (b : Bundle) (l : Locale) : Text :=
  mainMark ++ l.language ++ b.ending

/-- **The built-in dictionary of a locale**, if there is one. -/
def find? (b : Bundle) (v : Volume) (l : Locale) :
    Except FileError (Option Path) := do
  if l.region ≠ [] then
    match ← b.file? v (b.fullName l) with
    | some path => return some path
    | none => b.file? v (b.languageName l)
  else b.file? v (b.languageName l)

/-- **The built-in dictionary of a locale**, or the one that serves any. -/
def findOrDefault? (b : Bundle) (v : Volume) (l : Locale) :
    Except FileError (Option Path) := do
  match ← b.find? v l with
  | some path => return some path
  | none => b.file? v (defaultName ++ b.ending)

/-- The locale that the name of a built-in dictionary tells. -/
def localeOf (b : Bundle) (name : Text) : Locale :=
  let stem :=
    if name.endsWith b.ending then name.dropLastN b.ending.length else name
  Locale.ofText (stem.drop mainMark.length)

end Bundle

end Lexicon
