import Lexicon.Zstandard.Huffman.Limit
import Lexicon.Zstandard.StateTable

/-!
# Huffman codes

A code gives each byte that comes some bits, fewer to those that come more
often. The lengths settle the code: codes of one length are numbered in the
order of the bytes, and the longest come first. A reader is told a weight for
each byte but the last, which follows from the others.
-/

namespace Lexicon.Zstandard

/-- **A Huffman code for bytes.** -/
structure HuffmanCode where
  /-- The length of the code of each byte up to the last one that comes; 0 for
  a byte that does not. -/
  lengths : List Nat
  deriving DecidableEq

namespace HuffmanCode

/-- The greatest length of a code for literals. -/
def maxLength : Nat := 11

/-- How often each byte comes, up to the last one that does. -/
def histogram (data : List Nat) : List Nat :=
  let counts := data.foldl (fun (done : Array Nat) b => done.modify b (· + 1))
    (Array.replicate (data.foldl max 0 + 1) 0)
  counts.toList

/-- The symbols that come with their counts, the most frequent first. -/
def ranking (counts : List Nat) : List (Nat × Nat) :=
  (counts.zipIdx.filter (·.1 ≠ 0)).mergeSort fun a b => b.1 ≤ a.1

/-- **The code for bytes that come so often**, with no code longer than a
limit. -/
def ofCounts (limit : Nat) (counts : List Nat) : HuffmanCode :=
  let ranked := ranking counts
  let leaves := ranked.reverse.map fun (count, symbol) => CountTree.leaf symbol count
  let depths := ((CountTree.ofLeaves? leaves).map (CountTree.depths 0)).getD []
  let depthOf := depths.foldl
    (fun (done : Array Nat) (symbol, depth) => done.setIfInBounds symbol depth)
    (Array.replicate counts.length 0)
  let lengths := limitLengths limit (ranked.map (·.1))
    (ranked.map fun (_, symbol) => depthOf.getD symbol 0)
  let lengthOf := (ranked.zip lengths).foldl
    (fun (done : Array Nat) ((_, symbol), length) => done.setIfInBounds symbol length)
    (Array.replicate counts.length 0)
  ⟨lengthOf.toList⟩

/-- The length of the longest code. -/
def longest (c : HuffmanCode) : Nat :=
  c.lengths.foldl max 0

/-- The number of the first code of a length, which is `above` bits shorter
than the longest. -/
def firstOf (c : HuffmanCode) : Nat → Nat
  | 0 => 0
  | above + 1 =>
    (firstOf c above + (c.lengths.filter (· = c.longest - above)).length) / 2

/-- The bits of each byte. -/
def table (c : HuffmanCode) : Array Bits :=
  let firsts := ((List.range (c.longest + 1)).map fun length =>
    c.firstOf (c.longest - length)).toArray
  (c.lengths.foldl (fun ((next, done) : Array Nat × Array Bits) length =>
    (next.modify length (· + 1), done.push ⟨next.getD length 0, length⟩))
    (firsts, #[])).2

/-- **The stream of some bytes**, from the last to the first. -/
def stream (c : HuffmanCode) (data : List Nat) : List Byte :=
  let table := c.table
  Bits.closedBytes (data.reverse.map fun b => table.getD b ⟨0, 0⟩)

/-! ## Telling a reader -/

/-- The weight of each byte but the last: how much shorter than the longest
its code is, and one more. -/
def weights (c : HuffmanCode) : List Nat :=
  c.lengths.dropLast.map fun length => if length = 0 then 0 else c.longest + 1 - length

/-- The weights coded by two state machines that take turns. -/
def codedWeights (t : StateTable) (weights : List Nat) : List Byte :=
  match weights.reverse with
  | last :: second :: rest =>
    let (bits, (next, other)) := rest.foldl
      (fun ((done, (next, other)) : List Bits × (Nat × Nat)) w =>
        let (bits, state) := t.code next w
        (bits :: done, (other, state)))
      ([], (t.start last, t.start second))
    -- the machine of the first weight comes last, so that it is read first
    Bits.closedBytes (bits.reverse ++ [t.finish next, t.finish other])
  | _ => []

/-- The weights told by a distribution and what it codes, where that can be
done. -/
def toldByStates? (weights : List Nat) : Option (List Byte) :=
  let counts := histogram weights
  let most := counts.foldl max 0
  if most = weights.length || most ≤ 1 || weights.length ≤ 2 then none
  else
    let log := Distribution.logFor 6 2 weights.length (counts.length - 1)
    let d := Distribution.ofCounts log 1 counts
    some (d.bytes ++ codedWeights (.ofDistribution d) weights)

/-- The weights told one by one, two to a byte. -/
def toldByHalves : List Nat → List Byte
  | [] => []
  | [a] => [UInt8.ofNat (16 * a)]
  | a :: b :: rest => UInt8.ofNat (16 * a + b) :: toldByHalves rest

/-- **The bytes that tell a code to a reader**: by states where that takes less
than half a byte for each byte of the code. Codes for many bytes cannot be told
otherwise. -/
def bytes? (c : HuffmanCode) : Option (List Byte) :=
  let weights := c.weights
  let short? := (toldByStates? weights).filter fun told =>
    1 < told.length && told.length < weights.length / 2
  match short? with
  | some told => some (UInt8.ofNat told.length :: told)
  | none =>
    if 128 < weights.length then none
    else some (UInt8.ofNat (127 + weights.length) :: toldByHalves weights)

end HuffmanCode

end Lexicon.Zstandard
