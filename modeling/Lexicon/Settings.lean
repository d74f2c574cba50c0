import Lexicon.Bundle
import Lexicon.Layout

/-!
# Settings

Four settings come from the environment: the storage root, the directory of
the built-in dictionaries, what their names end in, and the enabled locales.
The environment keeps them as bytes, so a text that has none is no setting.
An empty path setting counts as none. A path may start at the home directory
of its user, or of a user it names.
-/

namespace Lexicon

/-- **The settings as the environment has them**, and the home directories of
its users. -/
structure Environment where
  /-- The storage root, if it is set. -/
  storageRoot? : Option Text := none
  /-- The directory of the built-in dictionaries, if it is set. -/
  assetDir? : Option Text := none
  /-- What the names of built-in dictionaries end in, if it is set. -/
  dictSuffix? : Option Text := none
  /-- The enabled locales, if they are set. -/
  enabledLocales? : Option Text := none
  /-- The home directory. -/
  home : Text
  /-- The home directory of another user, if there is such a user. -/
  homeOf? : Text → Option Text := fun _ => none

/-- A path starts at the home directory of a user whom nobody knows. -/
structure UnknownHome where
  /-- The user. -/
  user : Text
  deriving DecidableEq

/-- **The settings of a run.** -/
structure Settings where
  /-- The storage root. -/
  storageRoot : Path
  /-- The directory of the built-in dictionaries. -/
  assetDir : Path
  /-- What the names of built-in dictionaries end in. -/
  dictSuffix : Text
  /-- The enabled locales. -/
  enabledLocales : List Text

namespace Environment

/-- A setting as the system keeps it, which is as bytes. -/
def setting (t? : Option Text) : Except FileError (Option Text) :=
  match t? with
  | none => .ok none
  | some t =>
    match FileError.ofText? t with
    | some e => .error e
    | none => .ok (some (Utf8.respell t))

/-- **The environment with its settings as the system keeps them**, or why it
cannot keep one. -/
def keep (e : Environment) : Except FileError Environment := do
  return { e with
    storageRoot? := ← setting e.storageRoot?
    assetDir? := ← setting e.assetDir?
    dictSuffix? := ← setting e.dictSuffix?
    enabledLocales? := ← setting e.enabledLocales? }

/-- The sign that stands for a home directory. -/
def tilde : CodePoint := 0x7E

/-- The sign between enabled locales. -/
def comma : CodePoint := 0x2C

/-- The name of the storage root in the home directory. -/
def defaultRootName : Text := lit ".dictpack"

/-- The name of the directory of built-in dictionaries in the storage root. -/
def assetName : Text := ['a', 's', 's', 'e', 't', 's']

/-- **A path with the home directory in place of the tilde that opens it.** -/
def expandHome (e : Environment) (p : Path) : Except UnknownHome Path :=
  match p.anchor, p.parts with
  | .relative, (c :: user) :: rest =>
    if c = tilde then
      let home? := if user = [] then some e.home else e.homeOf? user
      match home? with
      | some home =>
        let home := Path.ofText home
        .ok { home with parts := home.parts ++ rest }
      | none => .error ⟨user⟩
    else .ok p
  | _, _ => .ok p

/-- The path that a setting gives, if it is set and not empty. -/
def path? (e : Environment) (setting : Option Text) :
    Except UnknownHome (Option Path) :=
  match setting with
  | none | some [] => .ok none
  | some t => (e.expandHome (Path.ofText t)).map some

/-- **The storage root.** -/
def storageRoot (e : Environment) : Except UnknownHome Path := do
  match ← e.path? e.storageRoot? with
  | some p => return p
  | none => return (Path.ofText e.home).child defaultRootName

/-- **The directory of the built-in dictionaries** of a storage. -/
def assetDir (e : Environment) (root : Path) : Except UnknownHome Path := do
  match ← e.path? e.assetDir? with
  | some p => return p
  | none => return root.child assetName

/-- What the names of built-in dictionaries end in. -/
def dictSuffix (e : Environment) : Text :=
  e.dictSuffix?.getD []

/-- **The enabled locales**: what stands between the commas, without the
blanks around it. -/
def enabledLocales (e : Environment) : List Text :=
  (((e.enabledLocales?.getD []).split (· == comma)).map Text.strip).filter
    (· ≠ [])

/-- **The settings that an environment gives.** -/
def settings (e : Environment) : Except UnknownHome Settings := do
  let storageRoot ← e.storageRoot
  return {
    storageRoot
    assetDir := ← e.assetDir storageRoot
    dictSuffix := e.dictSuffix
    enabledLocales := e.enabledLocales }

end Environment

end Lexicon
