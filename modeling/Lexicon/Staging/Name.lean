import Lexicon.Layout

/-!
# Names of staged files

A download waits under the escaped form of its locale key, the separator and
its identifier. Escaping leaves the separator alone, so the name is cut there,
and the part behind is the identifier in the very form the cache uses. A name
with no separator is told apart from one that is cut wrongly: the former may
be anything, the latter is of no use to anyone.
-/

namespace Lexicon

/-- A name that leads to no place in the cache. -/
structure StagingNameError where
  /-- The name. -/
  name : Text
  /-- Whether it has no separator at all. -/
  missingSeparator : Bool
  deriving DecidableEq

/-- What is said about such a name. -/
def StagingNameError.message (e : StagingNameError) : Text :=
  if e.missingSeparator then
    lit "Staging file " ++ e.name
      ++ lit " does not have the separator substring"
  else lit "Malformed staging file " ++ e.name

/-- **What a staged file's name says**: the locale key, and the identifier as
it is written in file names. -/
structure StagingName where
  /-- The locale key. -/
  localeKey : Text
  /-- The escaped identifier. -/
  escapedId : Text
  deriving DecidableEq

namespace StagingName

/-- **What a name says**, if the separator stands in it exactly once, between
two parts that are not empty, and the first can be read. -/
def ofText (name : Text) : Except StagingNameError StagingName :=
  match Text.cut? Layout.separator name with
  | none => .error ⟨name, true⟩
  | some (escapedLocale, escapedId) =>
    if escapedLocale = [] ∨ escapedId = []
        ∨ escapedId.includes Layout.separator then
      .error ⟨name, false⟩
    else
      match FileName.unescape escapedLocale with
      | .error _ => .error ⟨name, false⟩
      | .ok localeKey => .ok ⟨localeKey, escapedId⟩

end StagingName

end Lexicon
