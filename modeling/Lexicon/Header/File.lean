import Lexicon.Header.Writer
import Lexicon.Volume

/-!
# Writing dictionary files

A dictionary file is its header and a body that nothing here looks into. The
file is opened before the header is made, so a header that cannot be written
leaves an empty file.
-/

namespace Lexicon

/-- Why a dictionary file was not written. -/
inductive DictionaryWriteError where
  /-- The file was refused. -/
  | file (error : FileError)
  /-- The header cannot be written. -/
  | header (error : HeaderWriteError)
  deriving DecidableEq

/-- **The tree with a dictionary file written**: its attributes in a header of
a format version, and its body. -/
def FileTree.writeDictionary (t : FileTree) (p : Path) (attributes : Attributes)
    (body : List Byte) (formatVersion modified : Int) :
    FileTree × Except DictionaryWriteError Unit :=
  match t.write p ⟨.bytes [], 0⟩ with
  | .error e => (t, .error (.file e))
  | .ok opened =>
    match Header.bytes attributes formatVersion 0 with
    | .error e => (opened, .error (.header e))
    | .ok header =>
      match opened.write p ⟨.bytes (header ++ body), modified⟩ with
      | .error e => (opened, .error (.file e))
      | .ok written => (written, .ok ())

end Lexicon
