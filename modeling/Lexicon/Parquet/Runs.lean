import Lexicon.Parquet.Compact
import Lexicon.Zstandard.Bits

/-!
# Runs

Small numbers of one width are written in two ways that take turns. A number
that comes more than eight times in a row is written once, with how often it
comes. All others are packed bit by bit in groups of eight, and numbers of a
long row fill up the last group before it.
-/

namespace Lexicon.Parquet

open Lexicon.Zstandard (Bits)

namespace Runs

/-- How many numbers are packed together. -/
def groupSize : Nat := 8

/-- How many groups of so many numbers there are, the last one perhaps not
full. -/
def groups (n : Nat) : Nat :=
  (n + groupSize - 1) / groupSize

/-- A number and how often it comes in a row. -/
abbrev Stretch := Nat × Nat

/-- The stretches of equal numbers, in order. -/
def stretches : List Nat → List Stretch
  | [] => []
  | n :: rest =>
    match stretches rest with
    | (m, count) :: more =>
      if n = m then (m, count + 1) :: more else (n, 1) :: (m, count) :: more
    | [] => [(n, 1)]

/-- **Stretches lose no numbers.** -/
theorem flatMap_stretches (numbers : List Nat) :
    (stretches numbers).flatMap (fun s => List.replicate s.2 s.1) = numbers := by
  induction numbers with
  | nil => rfl
  | cons n rest ih =>
    rw [stretches]
    split
    case h_1 m count more hs =>
      rw [hs] at ih
      split
      case isTrue hn =>
        rw [← ih, hn, List.flatMap_cons, List.flatMap_cons, List.replicate_succ]
        rfl
      case isFalse => rw [← ih]; rfl
    case h_2 hs =>
      rw [hs] at ih
      rw [← ih]
      rfl

/-- A stretch, written once. -/
def stretchBytes (width : Nat) (s : Stretch) : List Byte :=
  Encoded.varint (2 * s.2) ++ LittleEndian.bytes ((width + 7) / 8) s.1

/-- Numbers packed in groups, with `filling` behind the last one. -/
def packedBytes (width : Nat) (filling : List Nat) (numbers : List Nat) :
    List Byte :=
  if numbers.isEmpty then []
  else
    let size := groups numbers.length
    let all := (numbers ++ filling ++ List.replicate groupSize 0).take
      (size * groupSize)
    Encoded.varint (2 * size + 1) ++ Bits.bytes (all.map fun n => ⟨n, width⟩)

/-- What comes behind numbers that are packed 32 at a time: of the ones before,
those that stood in the same places. -/
def leftover (numbers : List Nat) : List Nat :=
  if numbers.length < 32 then [] else numbers.drop (numbers.length - 32)

/-- **The bytes of stretches**, with some numbers in front that are still to be
packed. -/
def bytesFrom (width : Nat) (filling : List Nat → List Nat) (waiting : List Nat) :
    List Stretch → List Byte
  | [] => packedBytes width (filling waiting) waiting
  | (n, count) :: rest =>
    let missing := groups waiting.length * groupSize - waiting.length
    if groupSize + missing < count then
      packedBytes width [] (waiting ++ List.replicate missing n)
        ++ stretchBytes width (n, count - missing)
        ++ bytesFrom width filling [] rest
    else bytesFrom width filling (waiting ++ List.replicate count n) rest

/-- **The bytes of numbers of a width.** -/
def bytes (width : Nat) (numbers : List Nat) : List Byte :=
  bytesFrom width leftover [] (stretches numbers)

/-- **The bytes of truth values.** -/
def flagBytes (flags : List Bool) : List Byte :=
  bytesFrom 1 (fun _ => []) [] (stretches (flags.map Bool.toNat))

end Runs

end Lexicon.Parquet
