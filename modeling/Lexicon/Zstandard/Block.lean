import Lexicon.Zstandard.Literals
import Lexicon.Zstandard.Sequence

/-!
# Compressed blocks

A compressed block holds its literals, how many sequences there are, how their
classes are distributed, and the sequences, from the last to the first. Each
kind of number has a state machine of its own.
-/

namespace Lexicon.Zstandard

/-- **How the classes of a kind of number are distributed.** -/
inductive Distributed where
  /-- As usual. -/
  | usual
  /-- All the same. -/
  | constant (number : Nat)
  /-- As told. -/
  | told (distribution : Distribution)
  deriving DecidableEq

namespace Distributed

/-- The number by which a reader knows. -/
def mode : Distributed → Nat
  | .usual => 0
  | .constant _ => 1
  | .told _ => 2

/-- What a reader is told beyond that. -/
def bytes : Distributed → List Byte
  | .usual => []
  | .constant number => [UInt8.ofNat number]
  | .told d => d.bytes

/-- The table of states. -/
def table (kind : NumberKind) : Distributed → StateTable
  | .usual => .ofDistribution kind.usual
  | .constant number => .constant number
  | .told d => .ofDistribution d

/-- Whether the usual distribution will do for so many classes, the most
frequent of which comes so often. -/
def isUsual (kind : NumberKind) (total most : Nat) : Bool :=
  total < 2 ^ kind.usual.log || most < total / 2 ^ (kind.usual.log - 1)

/-- The distribution that is told for some classes. The last of them is
written by the state that a machine starts in, and is not counted if it comes
elsewhere. -/
def toldFor (kind : NumberKind) (numbers : List Nat) : Distribution :=
  let counts := HuffmanCode.histogram numbers
  let log := Distribution.logFor kind.maxLog 2 numbers.length (counts.length - 1)
  let last := numbers.getLast?.getD 0
  let counts := counts.modify last fun n => if 1 < n then n - 1 else n
  .ofCounts log (if 2048 ≤ counts.sum then -1 else 1) counts

/-- **How some classes are distributed.** Classes beyond those of the usual
distribution need another one. -/
def ofNumbers (kind : NumberKind) (numbers : List Nat) : Distributed :=
  let most := (HuffmanCode.histogram numbers).foldl max 0
  let fits := numbers.all (· < kind.usual.shares.length)
  if most = numbers.length then
    if fits && numbers.length ≤ 2 then .usual else .constant (numbers.headD 0)
  else if fits && isUsual kind numbers.length most then .usual
  else .told (toldFor kind numbers)

end Distributed

/-- A sequence with its numbers classified. -/
structure ClassifiedSequence where
  /-- The count of literals. -/
  literals : Classified
  /-- The offset. -/
  offset : Classified
  /-- The length of the copy. -/
  length : Classified

/-- A sequence with its numbers classified. -/
def Sequence.classified (s : Sequence) : ClassifiedSequence where
  literals := NumberKind.literals.classify s.literals
  offset := NumberKind.offsets.classify s.offset
  length := NumberKind.lengths.classify s.length

namespace Block

/-- How many sequences there are, as a reader is told. -/
def countBytes (n : Nat) : List Byte :=
  if n < 0x80 then [UInt8.ofNat n]
  else if n < 0x7F00 then [UInt8.ofNat (n / 0x100 + 0x80), UInt8.ofNat n]
  else 0xFF :: LittleEndian.bytes 2 (n - 0x7F00)

/-- The state machines of a block. -/
structure Machines where
  /-- The table for counts of literals, and its state. -/
  literals : StateTable × Nat
  /-- The table for offsets, and its state. -/
  offset : StateTable × Nat
  /-- The table for lengths, and its state. -/
  length : StateTable × Nat

/-- The bits that tell which numbers of their classes are meant. -/
def restBits (s : ClassifiedSequence) : List Bits :=
  [s.literals.rest, s.length.rest, s.offset.rest]

/-- A machine that codes a class. -/
def codeWith (machine : StateTable × Nat) (c : Classified) :
    Bits × (StateTable × Nat) :=
  let (bits, state) := machine.1.code machine.2 c.number
  (bits, (machine.1, state))

/-- The bits of sequences, from the last but one on, and of the last states. -/
def code (m : Machines) : List ClassifiedSequence → List Bits
  | [] => [m.length.1.finish m.length.2, m.offset.1.finish m.offset.2,
      m.literals.1.finish m.literals.2]
  | s :: rest =>
    let (offsetBits, offset) := codeWith m.offset s.offset
    let (lengthBits, length) := codeWith m.length s.length
    let (literalBits, literals) := codeWith m.literals s.literals
    [offsetBits, lengthBits, literalBits] ++ restBits s
      ++ code ⟨literals, offset, length⟩ rest

/-- **The section of a block that holds its sequences**, if a reader can be
expected to take it. Old readers refuse what ends less than four bytes behind
where the last distribution that is told begins. -/
def sequenceBytes? (sequences : List Sequence) : Option (List Byte) :=
  let classified := sequences.map Sequence.classified
  match classified.reverse with
  | [] => some (countBytes 0)
  | last :: rest =>
    let literals := Distributed.ofNumbers .literals
      (classified.map (·.literals.number))
    let offsets := Distributed.ofNumbers .offsets (classified.map (·.offset.number))
    let lengths := Distributed.ofNumbers .lengths (classified.map (·.length.number))
    let machine (kind : NumberKind) (d : Distributed) (c : Classified) :=
      let table := d.table kind
      (table, table.start c.number)
    let machines : Machines := {
      literals := machine .literals literals last.literals
      offset := machine .offsets offsets last.offset
      length := machine .lengths lengths last.length }
    let modes := literals.mode * 2 ^ 6 + offsets.mode * 2 ^ 4 + lengths.mode * 2 ^ 2
    let stream := Bits.closedBytes (restBits last ++ code machines rest)
    let lastTold? := [lengths, offsets, literals].find? (·.mode = 2)
    if lastTold?.any fun d => d.bytes.length + stream.length < 4 then none
    else some (countBytes sequences.length ++ [UInt8.ofNat modes] ++ literals.bytes
      ++ offsets.bytes ++ lengths.bytes ++ stream)

/-- **A compressed block** of so many bytes in all, if it saves enough. -/
def bytes? (size : Nat) (literals : List Byte) (sequences : List Sequence) :
    Option (List Byte) := do
  let told ← sequenceBytes? sequences
  let all := Literals.bytes literals ++ told
  if size ≤ all.length + Literals.minGain size then none else some all

end Block

end Lexicon.Zstandard
