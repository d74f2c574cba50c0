import Lexicon.Zstandard.Huffman.Code

/-!
# Literals

The bytes of a block that no match covers are written together, as they are, as
one byte that is repeated, or in a Huffman code. A code has to save more than a
few bytes to be worth its while.
-/

namespace Lexicon.Zstandard

namespace Literals

/-- **How literals are written.** -/
inductive Form where
  /-- As they are. -/
  | plain
  /-- One byte, which is repeated. -/
  | repeated
  deriving DecidableEq

/-- The number of a form. -/
def Form.number : Form → Nat
  | .plain => 0
  | .repeated => 1

/-- The least number of bytes for which a code is tried. -/
def minCoded : Nat := 64

/-- The least number of bytes that are coded in four streams. -/
def minSplit : Nat := 256

/-- How many bytes a code has to save. -/
def minGain (size : Nat) : Nat :=
  size / 2 ^ 6 + 2

/-- The header of literals that are not coded. -/
def header (form : Form) (size : Nat) : List Byte :=
  if size < 2 ^ 5 then Bits.bytes [⟨form.number, 2⟩, ⟨0, 1⟩, ⟨size, 5⟩]
  else if size < 2 ^ 12 then Bits.bytes [⟨form.number, 2⟩, ⟨1, 2⟩, ⟨size, 12⟩]
  else Bits.bytes [⟨form.number, 2⟩, ⟨3, 2⟩, ⟨size, 20⟩]

/-- Literals as they are. -/
def plain (data : List Byte) : List Byte :=
  header .plain data.length ++ data

/-- The header of literals that are coded. -/
def codedHeader (size coded : Nat) : List Byte :=
  if size < 2 ^ 10 then
    let split := if size < minSplit then 0 else 1
    Bits.bytes [⟨2, 2⟩, ⟨split, 2⟩, ⟨size, 10⟩, ⟨coded, 10⟩]
  else if size < 2 ^ 14 then
    Bits.bytes [⟨2, 2⟩, ⟨2, 2⟩, ⟨size, 14⟩, ⟨coded, 14⟩]
  else Bits.bytes [⟨2, 2⟩, ⟨3, 2⟩, ⟨size, 18⟩, ⟨coded, 18⟩]

/-- The streams of some bytes: one, or four with the lengths of the first three
in front. -/
def streams (c : HuffmanCode) (data : List Nat) : List Byte :=
  if data.length < minSplit then c.stream data
  else
    let size := (data.length + 3) / 4
    let parts := (List.range 4).map fun i =>
      c.stream ((data.drop (i * size)).take size)
    parts.dropLast.flatMap (fun part => LittleEndian.bytes 2 part.length)
      ++ parts.flatten

/-- The code of some bytes and the bytes in it, if they can be coded and are
not more than before. -/
def coded? (data : List Nat) (counts : List Nat) : Option (List Byte) := do
  let limit := Distribution.logFor HuffmanCode.maxLength 1 data.length
    (counts.length - 1)
  let c := HuffmanCode.ofCounts limit counts
  let told ← c.bytes?
  if data.length ≤ told.length + 12 then none
  else
    let all := told ++ streams c data
    if data.length ≤ all.length + 1 then none else some all

/-- **The section of a block that holds its literals.** -/
def bytes (literals : List Byte) : List Byte :=
  let size := literals.length
  if size < minCoded then plain literals
  else
    let data := literals.map UInt8.toNat
    let counts := HuffmanCode.histogram data
    let most := counts.foldl max 0
    if most = size then header .repeated size ++ literals.take 1
    else if most ≤ size / 2 ^ 7 + 4 then plain literals
    else
      match coded? data counts with
      | none => plain literals
      | some coded =>
        if size ≤ coded.length + minGain size then plain literals
        else codedHeader size coded.length ++ coded

end Literals

end Lexicon.Zstandard
