import Lexicon.BigEndian
import Lexicon.Header.Basic

/-!
# Writing headers

A header can be written if its attributes are free of surrogates and its
numbers fit into their fields. The attributes are written first, so of two
faults theirs is told.
-/

namespace Lexicon

/-- Why a header cannot be written. -/
inductive HeaderWriteError where
  /-- A key or a value holds a surrogate. -/
  | unencodable (run : SurrogateRun)
  /-- A number does not fit into its field. -/
  | fieldOutOfRange
  deriving DecidableEq

namespace Header

/-- A text of the attributes with the zero that closes it. -/
def fieldBytes (t : Text) : Except HeaderWriteError (List Byte) :=
  match Utf8.encode t with
  | .error run => .error (.unencodable run)
  | .ok bytes => .ok (bytes ++ [0])

/-- The bytes of attributes. -/
def attributeBytes : List (Text × Text) → Except HeaderWriteError (List Byte)
  | [] => .ok []
  | (key, value) :: rest => do
    let k ← fieldBytes key
    let v ← fieldBytes value
    let bytes ← attributeBytes rest
    return k ++ v ++ bytes

/-- **The bytes of a header.** -/
def bytes (attributes : Attributes) (formatVersion flags : Int) :
    Except HeaderWriteError (List Byte) := do
  let body ← attributeBytes attributes.entries
  let size := fixedSize + body.length
  if 0 ≤ formatVersion ∧ formatVersion < 2 ^ 16 ∧ 0 ≤ flags ∧ flags < 2 ^ 16
      ∧ size < 2 ^ 32 then
    return BigEndian.bytes 4 magic
      ++ BigEndian.bytes 2 formatVersion.toNat ++ BigEndian.bytes 2 flags.toNat
      ++ BigEndian.bytes 4 size ++ body
  else throw .fieldOutOfRange

end Header

end Lexicon
