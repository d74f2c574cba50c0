import Lexicon.Bundle
import Lexicon.FileAddress
import Lexicon.Layout
import Lexicon.Record
import Lexicon.WordListId

/-!
# Records of files

Where the records of a listing come from, and how one is made. A dictionary
in the cache or the bundle needs a readable header with a version, and belongs
to the locale that the header names, or else to the one its name tells. A
leftover download belongs to the locale of its name, and one whose header does
not tell a version is of no use and is to be deleted. A locale without any
dictionary gets a record of its own, which no dictionary is below.
-/

namespace Lexicon

/-- **Where the records of a listing come from.** -/
structure Sources where
  /-- The storage. -/
  layout : Layout
  /-- The built-in dictionaries, if there are any. -/
  bundle? : Option Bundle := none
  /-- The locales that the user has enabled, if that is known, or why they
  could not be told. -/
  enabled? : Option (Except FileError (List Text)) := none
  /-- How a locale is described. -/
  describe : Locale → Text := Locale.toText
  /-- How a header is read. -/
  readHeader : Volume → FileAddress →
    Logged (Except FileError (Option Header)) := FileAddress.header?

namespace Sources

/-- The locale of a dictionary: the one its header names, or a given one. -/
def contentLocale (h : Header) (fallback : Locale) : Locale :=
  match h.attributes.get? Header.localeKey with
  | none | some [] => fallback
  | some t => Locale.ofText t

/-- **The record of a dictionary in the cache or the bundle.** The file is
where it belongs, so its name is not kept. -/
def fileRecord (s : Sources) (v : Volume) (address? : Option FileAddress)
    (id : Text) (locale : Locale) : Logged (Except FileError RecordResult) :=
  match address? with
  | none => ⟨.ok (.absent (lit "no file for " ++ id)), []⟩
  | some a =>
    let header := s.readHeader v a
    match header.value with
    | .error e => ⟨.error e, header.log⟩
    | .ok none =>
      ⟨.ok (.malformed (lit "unreadable header in " ++ a.path.toText)),
        header.log⟩
    | .ok (some h) =>
      if h.version = Header.noVersion then
        ⟨.ok (.malformed (lit "unversioned dictionary " ++ a.path.toText)),
          header.log⟩
      else
        let locale := contentLocale h locale
        ⟨(a.lastModified v).map fun modified =>
          .found {
            id := some id
            locale
            description := some (s.describe locale)
            filename := none
            filesize := a.length
            modified
            version := h.version },
          header.log⟩

/-- **What is to become of a leftover download.** -/
inductive Verdict where
  /-- It is a dictionary of a known version. -/
  | keep (record : Record)
  /-- It is of no use. -/
  | discard

/-- **Judges a leftover download** by its header. -/
def judge (s : Sources) (v : Volume) (a : FileAddress) (locale : Locale) :
    Logged (Except FileError Verdict) :=
  let header := s.readHeader v a
  match header.value with
  | .error e => ⟨.error e, header.log⟩
  | .ok h? =>
    let version := (h?.map Header.version).getD Header.noVersion
    if version = Header.noVersion then ⟨.ok .discard, header.log⟩
    else
      ⟨(a.lastModified v).map fun modified =>
        .keep {
          id := some (WordListId.ofMain locale)
          locale
          description := some (s.describe locale)
          filename := some a.path.name
          filesize := a.length
          modified
          version },
        header.log⟩

/-- Deletes a leftover download that is of no use. -/
def discard (v : Volume) (a : FileAddress) : Effect (Except FileError Unit) :=
  let gone := a.delete v
  match gone.value with
  | .error e => ⟨gone.tree, .error e, gone.log⟩
  | .ok _ =>
    ⟨gone.tree, .ok (), gone.log ++ [⟨.info,
      lit "Deleted unusable leftover dictionary " ++ a.path.toText⟩]⟩

/-- **The record of a leftover download**, which is deleted if it is of no
use. -/
def leftoverRecord (s : Sources) (v : Volume) (address? : Option FileAddress)
    (locale : Locale) : Effect (Except FileError RecordResult) :=
  match address? with
  | none =>
    ⟨v.tree, .ok (.absent (lit "no leftover file for " ++ locale.toText)), []⟩
  | some a =>
    let verdict := s.judge v a locale
    match verdict.value with
    | .error e => ⟨v.tree, .error e, verdict.log⟩
    | .ok (.keep record) => ⟨v.tree, .ok (.found record), verdict.log⟩
    | .ok .discard =>
      let gone := discard v a
      ⟨gone.tree,
        gone.value.map fun _ =>
          .malformed (lit "unversioned leftover " ++ a.path.toText),
        verdict.log ++ gone.log⟩

/-- **The record of a locale that has no dictionary.** -/
def placeholder (s : Sources) (locale : Locale) : Record where
  id := some (WordListId.ofMain locale)
  locale
  description := some (s.describe locale)
  filename := none
  filesize := 0
  modified := 0
  version := Header.noVersion

end Sources

end Lexicon
