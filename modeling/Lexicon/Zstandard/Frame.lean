import Lexicon.Zstandard.Block
import Lexicon.Zstandard.Matches

/-!
# Frames

A frame tells how many bytes it holds and has them in blocks, compressed where
that saves enough and as they are elsewhere. Only bytes that fit into a single
block are compressed.
-/

namespace Lexicon.Zstandard.Frame

/-- The mark in front of a frame. -/
def mark : List Byte := [0x28, 0xB5, 0x2F, 0xFD]

/-- How many bytes a block holds at most. -/
def maxBlock : Nat := 2 ^ 17

/-- The least number of bytes of a block that is compressed. -/
def minCompressed : Nat := 7

/-- The header behind the mark, which tells how many bytes there are. -/
def header (size : Nat) : List Byte :=
  if size < 0x100 then [0x20, UInt8.ofNat size]
  else if size < 0x10100 then 0x60 :: LittleEndian.bytes 2 (size - 0x100)
  else 0xA0 :: LittleEndian.bytes 4 size

/-- The header of a block. -/
def blockHeader (isLast isCompressed : Bool) (size : Nat) : List Byte :=
  Bits.bytes [⟨isLast.toNat, 1⟩, ⟨if isCompressed then 2 else 0, 2⟩, ⟨size, 21⟩]

/-- Bytes in blocks as they are. -/
def plainBlocks (data : List Byte) : List Byte :=
  if data.length ≤ maxBlock then blockHeader true false data.length ++ data
  else
    blockHeader false false maxBlock ++ data.take maxBlock
      ++ plainBlocks (data.drop maxBlock)
termination_by data.length
decreasing_by simp only [List.length_drop, maxBlock] at *; omega

/-- The literals of some bytes with these sequences. -/
def literals (sequences : List Sequence) (data : List Byte) : List Byte :=
  match sequences with
  | [] => data
  | s :: rest => data.take s.literals ++ literals rest (data.drop (s.literals + s.length))

/-- The compressed block of some bytes, if it saves enough. -/
def block? (data : List Byte) : Option (List Byte) :=
  if data.length < minCompressed || maxBlock < data.length then none
  else
    let sequences := sequences (data.map UInt8.toNat).toArray
    Block.bytes? data.length (literals sequences data) sequences

/-- **The frame of some bytes.** -/
def bytes (data : List Byte) : List Byte :=
  mark ++ header data.length ++
    match block? data with
    | some block => blockHeader true true block.length ++ block
    | none => plainBlocks data

end Lexicon.Zstandard.Frame
