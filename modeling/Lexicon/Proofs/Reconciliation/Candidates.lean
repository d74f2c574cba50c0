import Mathlib.Data.List.Infix
import Lexicon.Proofs.Bundle.Resources
import Lexicon.Proofs.Layout.Listings
import Lexicon.Proofs.Reconciliation.Yield
import Lexicon.Reconciliation.Reconcile

/-!
# The candidates of a listing

Which records a reconciliation chooses from, said without a sweep and without
the functions that a sweep goes through: by the directories and plain files
that a volume shows and by what their names and headers tell. There are four
kinds of candidates, in this order.

* A **cached** dictionary lies in a directory of the cache whose name can be
  read, is named for a main word list, tells a version in its header, and
  belongs to the locale of the directory (`Header.IsFor`).
* A **leftover** download lies at the root, is named as one, and tells a
  version. It is a candidate for the locale in front of its separator. One
  that tells no version is useless, and `clearedTree` is the tree without
  those that can be deleted.
* A **bundled** dictionary is what a bundle has for one of its keys
  (`Bundle.resource?`), tells a version and belongs to the locale of the key.
  It is looked for in the cleared tree.
* An **enabled** locale is a candidate without a dictionary.

`Sources.candidates` lists them all.
-/

namespace Lexicon

/-! ## Files and headers -/

/-- **The header of a plain file**, if it can be read and tells a version. -/
def File.versioned? (f : File) : Option Header :=
  let bytes := f.content.toBytes
  (Header.ofBytes bytes (some bytes.length)).toOption.filter
    fun h => 0 ≤ h.version

/-- **The locale that a dictionary belongs to**: the one that its header names
in a `locale` that is not empty, or else the one that its own name tells. -/
def Header.IsFor (h : Header) (named l : Locale) : Prop :=
  (∃ e ∈ h.attributes.entries,
      e.1 = lit "locale" ∧ e.2 ≠ [] ∧ l = Locale.ofText e.2)
    ∨ ((∀ e ∈ h.attributes.entries, e.1 = lit "locale" → e.2 = [])
      ∧ l = named)

instance (h : Header) (named l : Locale) : Decidable (h.IsFor named l) :=
  inferInstanceAs (Decidable (_ ∨ _))

/-- The identifier of the main word list of a locale. -/
def Locale.mainId (l : Locale) : Text :=
  lit "main:" ++ l.toText.lower

/-- The locale key of a main word list: what follows its only colon. -/
def WordListId.mainKey? (id : Text) : Option Text :=
  match id.split (· == ':') with
  | [category, key] => if category = lit "main" then some key else none
  | _ => none

namespace Sources

/-- The record of a plain file with a header. -/
def recordOf (s : Sources) (f : File) (h : Header) (id : Text)
    (locale : Locale) (filename : Option Text) : Record where
  id := some id
  locale
  description := some (s.describe locale)
  filename
  filesize := f.content.toBytes.length
  modified := Time.millis f.modified
  version := h.version

/-- The record of a dictionary that is filed for a locale, if it tells a
version and belongs there. -/
def filedRecord? (s : Sources) (f : File) (id : Text) (named filed : Locale) :
    Option Record := do
  let h ← f.versioned?
  if h.IsFor named filed then some (s.recordOf f h id filed none) else none

/-! ## The four kinds of candidates -/

/-- A plain file of the cache as a candidate, by the name of its directory and
its own. -/
def cachedCandidate? (s : Sources) (dir name : Text) (f : File) :
    Option Record := do
  let dirKey ← (FileName.unescape dir).toOption
  let id ← (FileName.unescape name).toOption
  let key ← WordListId.mainKey? id
  s.filedRecord? f id (Locale.ofText key) (Locale.ofText dirKey)

/-- **The candidates of the cache**: directories by name, and in each the
plain files by name. -/
def cached (s : Sources) (v : Volume) : List Record :=
  let cache := s.layout.root.child (lit "dicts")
  (v.dirsIn cache).flatMap fun dir =>
    (v.filesIn (cache.child dir)).filterMap fun (name, f) =>
      s.cachedCandidate? dir name f

/-- The leftover downloads, by name. -/
def leftoverFiles (s : Sources) (v : Volume) : List (Text × File) :=
  (v.filesIn s.layout.root).filter fun (name, _) =>
    lit ".dict" <:+ name ∧ lit "___" <:+: name

/-- The locale key of a leftover download: what stands in front of its
separator, if that can be read. -/
def leftoverKey? (name : Text) : Option Text := do
  let (front, _) ← Text.cut? (lit "___") name
  (FileName.unescape front).toOption

/-- A leftover download as a candidate. -/
def leftoverCandidate? (s : Sources) (name : Text) (f : File) :
    Option Record := do
  let key ← leftoverKey? name
  let h ← f.versioned?
  let locale := Locale.ofText key
  return s.recordOf f h locale.mainId locale (some name)

/-- **The candidates among the leftover downloads**, by name. -/
def leftovers (s : Sources) (v : Volume) : List Record :=
  (s.leftoverFiles v).filterMap fun (name, f) => s.leftoverCandidate? name f

/-- Whether a leftover download is of no use: its locale can be read, but it
tells no version. -/
def isUseless (name : Text) (f : File) : Bool :=
  (leftoverKey? name).isSome && f.versioned?.isNone

/-- The leftover downloads of no use, by name. -/
def uselessLeftovers (s : Sources) (v : Volume) : List (Text × File) :=
  (s.leftoverFiles v).filter fun (name, f) => isUseless name f

/-- **The tree without the leftover downloads of no use**, as far as they can
be deleted. -/
def clearedTree (s : Sources) (v : Volume) : FileTree :=
  (s.uselessLeftovers v).foldl (fun t (name, _) =>
    ((v.withTree t).unlink (s.layout.root.child name)).toOption.getD t) v.tree

/-- What a bundle has for a key, as a candidate. -/
def bundledCandidate? (s : Sources) (v : Volume) (b : Bundle) (key : Text) :
    Option Record := do
  let locale := Locale.ofText key
  let (p, f) ← b.resource? v locale
  s.filedRecord? f locale.mainId (b.localeIn p.name) locale

/-- **The candidates of the bundle**, in the order of its keys. -/
def bundled (s : Sources) (v : Volume) : List Record :=
  s.bundle?.toList.flatMap fun b =>
    (b.keys v).filterMap (s.bundledCandidate? v b)

/-- An enabled locale as a candidate: it has no dictionary, so no version. -/
def enabledCandidate (s : Sources) (key : Text) : Record where
  id := some (Locale.ofText key).mainId
  locale := Locale.ofText key
  description := some (s.describe (Locale.ofText key))
  filename := none
  filesize := 0
  modified := 0
  version := -1

/-- **The enabled locales as candidates**, in order. -/
def enabled (s : Sources) : List Record :=
  ((s.enabled?.bind Except.toOption).getD []).map s.enabledCandidate

/-- **The candidates of a listing**, in order. -/
def candidates (s : Sources) (v : Volume) : List Record :=
  s.cached v ++ s.leftovers v ++ s.bundled (v.withTree (s.clearedTree v))
    ++ s.enabled

end Sources

end Lexicon
