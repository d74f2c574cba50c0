import Lexicon.FileName
import Lexicon.Locale

/-!
# Identifiers of word lists

A word list is known by its category and the key of its locale, written
`category:locale-key` with exactly one colon. The only category with a meaning
of its own is that of the main dictionaries; any other is carried along as it
is. The main dictionary of a locale has the locale's lower-case text for its
key, so that a built-in list can be replaced by a downloaded one.
-/

namespace Lexicon

/-- The categories with a meaning of their own. -/
inductive Category where
  /-- The main dictionary of a locale. -/
  | main
  deriving DecidableEq

namespace Category

/-- The text of a category in an identifier. -/
def toText : Category → Text
  | .main => ['m', 'a', 'i', 'n']

/-- The category that a text of an identifier names, if it is a known one. -/
def ofText? (t : Text) : Option Category :=
  if t = toText .main then some .main else none

end Category

/-- **The identifier of a word list**, in its two parts. -/
structure WordListId where
  /-- The category as it is written. -/
  rawCategory : Text
  /-- The key of the locale. -/
  localeKey : Text
  deriving DecidableEq

namespace WordListId

/-- The sign between the category and the locale key. -/
def separator : CodePoint := ':'

/-- **The identifier a text spells**, if exactly one colon parts it. -/
def ofText? (t : Text) : Option WordListId :=
  match t.split (· == separator) with
  | [rawCategory, localeKey] => some ⟨rawCategory, localeKey⟩
  | _ => none

/-- The text of an identifier. -/
def toText (i : WordListId) : Text :=
  i.rawCategory ++ separator :: i.localeKey

/-- The category, if it is a known one. -/
def category? (i : WordListId) : Option Category :=
  Category.ofText? i.rawCategory

/-- The locale that the key names. -/
def locale (i : WordListId) : Locale :=
  Locale.ofText i.localeKey

/-- Whether a text is the identifier of a main dictionary. -/
def isMain (t : Text) : Bool :=
  (ofText? t).any fun i => i.category? == some .main

/-- **The identifier of the main dictionary of a locale.** -/
def ofMain (l : Locale) : Text :=
  toText ⟨Category.toText .main, l.toText.lower⟩

end WordListId

/-- **The category that an escaped file name carries**, if the name can be
read and holds exactly one colon. -/
def FileName.category? (name : Text) : Option Text :=
  match FileName.unescape name with
  | .error _ => none
  | .ok t =>
    match t.split (· == WordListId.separator) with
    | [category, _] => some category
    | _ => none

end Lexicon
