import Lexicon.BigEndian
import Lexicon.Header.Basic
import Lexicon.Text.Hex

/-!
# Reading headers

A header is read from a position of a file on, and may be told how much of
the file belongs to the dictionary. The checks go from the front: the twelve
fixed bytes, the magic number, the format version, the size, and whether the
file goes on to that size. Then the attributes: every field closed by a zero,
as many values as keys, all of it UTF-8.
-/

namespace Lexicon

/-- **Why bytes are no header.** -/
inductive HeaderFault where
  /-- The fixed bytes are not all there. -/
  | tooShort
  /-- The file is of another kind. -/
  | badMagic (magic : Nat)
  /-- The version of the format is too old. -/
  | unsupportedVersion (version : Nat)
  /-- The size is smaller than the fixed bytes or larger than the
  dictionary. -/
  | inconsistentSize (size : Nat)
  /-- The file ends before the header does. -/
  | truncated
  /-- The fields are not closed, or do not come in pairs. -/
  | malformedAttributes
  /-- A field is not UTF-8. -/
  | notUtf8
  deriving DecidableEq

/-- What is said about a header that cannot be read. -/
def HeaderFault.message : HeaderFault → Text
  | .tooShort => lit "file too short for a header"
  | .badMagic n => lit "bad magic number 0x" ++ Hex.digits n
  | .unsupportedVersion n =>
    lit "format version " ++ Text.ofNat n ++ lit " is not supported"
  | .inconsistentSize n => lit "inconsistent header size " ++ Text.ofNat n
  | .truncated => lit "truncated header"
  | .malformedAttributes => lit "malformed header attributes"
  | .notUtf8 => lit "header attributes are not utf-8"

namespace Header

/-- The fields of a block whose every field is closed by a zero. -/
def fields? : List Byte → Option (List (List Byte))
  | [] => some []
  | b :: rest =>
    match fields? rest with
    | none => none
    | some fields =>
      if b = 0 then some ([] :: fields)
      else
        match fields with
        | [] => none
        | f :: more => some ((b :: f) :: more)

/-- Neighbours put into pairs, if none is left over. -/
def pairs? {α : Type} : List α → Option (List (α × α))
  | [] => some []
  | [_] => none
  | a :: b :: rest => (pairs? rest).map ((a, b) :: ·)

/-- A key and its value as texts. -/
def decodePair? (p : List Byte × List Byte) : Option (Text × Text) := do
  return (← Utf8.decode? p.1, ← Utf8.decode? p.2)

/-- **The attributes that a block of bytes gives.** -/
def readAttributes (block : List Byte) : Except HeaderFault Attributes :=
  match (fields? block).bind pairs? with
  | none => .error .malformedAttributes
  | some pairs =>
    match pairs.mapM decodePair? with
    | none => .error .notUtf8
    | some texts => .ok (Attributes.ofList texts)

/-- **The header that bytes open with.** Where a length is given, the header
must not be longer. -/
def ofBytes (bytes : List Byte) (length? : Option Int) :
    Except HeaderFault Header :=
  let magicRead := BigEndian.number (bytes.take 4)
  let formatVersion := BigEndian.number ((bytes.drop 4).take 2)
  let flags := BigEndian.number ((bytes.drop 6).take 2)
  let size := BigEndian.number ((bytes.drop 8).take 4)
  let block := (bytes.drop fixedSize).take (size - fixedSize)
  if bytes.length < fixedSize then .error .tooShort
  else if magicRead ≠ magic then .error (.badMagic magicRead)
  else if formatVersion < minimumFormatVersion then
    .error (.unsupportedVersion formatVersion)
  else if size < fixedSize ∨ length?.any (· < (size : Int)) then
    .error (.inconsistentSize size)
  else if block.length ≠ size - fixedSize then .error .truncated
  else
    (readAttributes block).map fun attributes =>
      ⟨formatVersion, flags, attributes⟩

end Header

end Lexicon
