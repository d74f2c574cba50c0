import Lexicon.LittleEndian

/-!
# Streams of bits

A stream is filled with numbers of various widths, each behind the one before
and with its lowest bit first. A stream that is read from its end is closed by
a bit that is set, so the reader finds where it starts.
-/

namespace Lexicon.Zstandard

/-- **A number in a stream of bits.** Only its low bits, as many as it is wide,
are written. -/
structure Bits where
  /-- The number. -/
  value : Nat
  /-- How many bits are written. -/
  width : Nat
  deriving DecidableEq

namespace Bits

/-- How many bits there are in a stream. -/
def count (stream : List Bits) : Nat :=
  (stream.map (·.width)).sum

/-- The number that the bits of a stream spell, the first one lowest. -/
def number : List Bits → Nat
  | [] => 0
  | b :: rest => b.value % 2 ^ b.width + 2 ^ b.width * number rest

/-- **The bytes of a stream**, the last one filled up with zeros. -/
def bytes (stream : List Bits) : List Byte :=
  LittleEndian.bytes ((count stream + 7) / 8) (number stream)

/-- **The bytes of a stream that is read from its end.** -/
def closedBytes (stream : List Bits) : List Byte :=
  bytes (stream ++ [⟨1, 1⟩])

@[simp] theorem count_append (s t : List Bits) :
    count (s ++ t) = count s + count t := by
  simp [count]

/-- **The number of a stream has no bits beyond it.** -/
theorem number_lt (stream : List Bits) : number stream < 2 ^ count stream := by
  induction stream with
  | nil => exact Nat.one_pos
  | cons b rest ih =>
    have hb : b.value % 2 ^ b.width < 2 ^ b.width :=
      Nat.mod_lt _ (Nat.two_pow_pos _)
    have hc : count (b :: rest) = b.width + count rest := by simp [count]
    rw [number, hc, Nat.pow_add]
    calc b.value % 2 ^ b.width + 2 ^ b.width * number rest
        < 2 ^ b.width + 2 ^ b.width * number rest := by omega
      _ = 2 ^ b.width * (number rest + 1) := by rw [Nat.mul_succ]; omega
      _ ≤ 2 ^ b.width * 2 ^ count rest := Nat.mul_le_mul_left _ ih

end Bits

end Lexicon.Zstandard
