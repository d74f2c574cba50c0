import Lexicon.Text.Case
import Lexicon.Text.Blank
import Lexicon.Text.Letter
import Lexicon.Text.Split

/-!
# Locales

A locale is a language with an optional script, region and variant, the
absent ones empty. Its text may part the fields with underscores or hyphens
and use any case; reading settles the case of each field, so that a directory
named `en_US` and an identifier ending in `en_us` mean the same locale. A
second part of four letters is a script, and the field after it a region;
whatever follows is the variant, kept as it is.

`Locale.isLessSpecificThan` orders locales by what they leave open: `en` is
less specific than `en_US`.
-/

namespace Lexicon

/-- **A locale**, compared field by field. -/
structure Locale where
  /-- The language, in lower case when it was read from a text. -/
  language : Text
  /-- The script, in title case when it was read, or empty. -/
  script : Text
  /-- The region, in upper case when it was read, or empty. -/
  region : Text
  /-- The variant, or empty. -/
  variant : Text
  deriving DecidableEq

namespace Locale

/-- Whether a code point parts two fields. -/
def isSeparator (c : CodePoint) : Bool :=
  c == '_' || c == '-'

/-- Whether the second part of a locale's text is a script: four letters. -/
def isScript (part : Text) : Bool :=
  part.length == 4 && part.all CodePoint.isLetter

/-- The region and the variant that the last parts of a text give. -/
def regionAndVariant : List Text → Text × Text
  | [] => ([], [])
  | region :: rest => (region.upper, Text.join '_' rest)

/-- The locale of a language and the parts behind it. -/
def ofParts (language : Text) (rest : List Text) : Locale :=
  match rest with
  | [] => ⟨language.lower, [], [], []⟩
  | part :: more =>
    if isScript part then
      let (region, variant) := regionAndVariant more
      ⟨language.lower, part.title, region, variant⟩
    else
      let (region, variant) := regionAndVariant rest
      ⟨language.lower, [], region, variant⟩

/-- **The locale a text names.** Blanks around it do not count. -/
def ofText (t : Text) : Locale :=
  match t.strip.split isSeparator with
  | [] => ⟨[], [], [], []⟩
  | language :: rest => ofParts language rest

/-- The fields of a locale, in order. -/
def fields (l : Locale) : List Text :=
  [l.language, l.script, l.region, l.variant]

/-- **The text of a locale**: its fields that are not empty, with underscores
between them. -/
def toText (l : Locale) : Text :=
  Text.join '_' (l.fields.filter (· ≠ []))

/-- Whether a field is open or says the same as another locale's. -/
def agrees (mine theirs : Text) : Bool :=
  mine == [] || mine == theirs

/-- **Whether another locale refines this one**: the same language, and of
script, region and variant each that is given here is the same there. -/
def isLessSpecificThan (l other : Locale) : Bool :=
  l != other && l.language == other.language && agrees l.script other.script
    && agrees l.region other.region && agrees l.variant other.variant

end Locale

end Lexicon
