import Lexicon.Zstandard.Huffman.Tree

/-!
# Limiting the length of codes

A tree may be deeper than codes can be long. The codes that are too long are
cut to the limit, which costs more than there is room for, and the debt is
repaid by making other codes longer: with each step the rarest symbol of some
length gets one bit more. What is repaid beyond the debt is given back to the
most frequent symbols of the greatest length.

Symbols are told here by their rank, the most frequent one first, so their
lengths never fall.
-/

namespace Lexicon.Zstandard

/-- **Codes whose lengths are being limited.** -/
structure Repayment where
  /-- The greatest length allowed. -/
  limit : Nat
  /-- The counts of the symbols. -/
  counts : Array Nat
  /-- The lengths of their codes. -/
  lengths : Array Nat
  /-- For each number of bits below the limit the last symbol with a code that
  much shorter, if it may still be made longer. -/
  lasts : Array (Option Nat)

namespace Repayment

/-- The last symbol whose code is so much shorter than the limit. -/
def last? (r : Repayment) (below : Nat) : Option Nat :=
  (r.lasts[below]?).join

/-- How often a symbol comes. -/
def countOf (r : Repayment) (symbol : Nat) : Nat :=
  r.counts.getD symbol 0

/-- The length of the code of a symbol. -/
def lengthOf (r : Repayment) (symbol : Nat) : Nat :=
  r.lengths.getD symbol 0

/-- Whether a code that is `below` bits under the limit is the one to make
longer, rather than two that are a bit closer to it. -/
def isCheaper (r : Repayment) (below : Nat) : Bool :=
  match r.last? below, r.last? (below - 1) with
  | none, _ => false
  | some _, none => true
  | some high, some low => r.countOf high ≤ 2 * r.countOf low

/-- How far below the limit the code is that is made longer, at most so
far. -/
def chooseFrom (r : Repayment) : Nat → Nat
  | 0 | 1 => 1
  | below + 1 => if r.isCheaper (below + 1) then below + 1 else chooseFrom r below

/-- The first length at least so far below the limit for which there is a
symbol. -/
def findFrom (r : Repayment) (below : Nat) : Nat :=
  ((List.range r.lasts.size).find? fun b => below ≤ b && (r.last? b).isSome).getD
    below

/-- Makes the code of a symbol longer that is `below` bits under the limit. -/
def lengthen (r : Repayment) (below symbol : Nat) : Repayment :=
  let lengths := r.lengths.setIfInBounds symbol (r.lengthOf symbol + 1)
  let closer := r.last? (below - 1) <|> some symbol
  let left :=
    if symbol = 0 ∨ lengths.getD (symbol - 1) 0 + below ≠ r.limit then none
    else some (symbol - 1)
  { r with
    lengths
    lasts := (r.lasts.setIfInBounds (below - 1) closer).setIfInBounds below left }

/-- Gives a bit back to the most frequent symbol with a code as long as the
limit. -/
def shorten (r : Repayment) : Repayment :=
  let symbol := match r.last? 1 with
    | some last => last + 1
    | none => (r.lengths.toList.findIdx (· = r.limit))
  { r with
    lengths := r.lengths.setIfInBounds symbol (r.lengthOf symbol - 1)
    lasts := r.lasts.setIfInBounds 1 (some symbol) }

/-- Gives back what was repaid beyond the debt. -/
def giveBack (r : Repayment) : Nat → Repayment
  | 0 => r
  | n + 1 => giveBack r.shorten n

/-- Repays a debt, in at most so many steps. -/
def repay (r : Repayment) : Nat → Int → Repayment
  | 0, debt => giveBack r (-debt).toNat
  | steps + 1, debt =>
    if debt ≤ 0 then giveBack r (-debt).toNat
    else
      let below := r.findFrom (r.chooseFrom (debt.toNat.log2 + 1))
      match r.last? below with
      | none => r
      | some symbol => repay (r.lengthen below symbol) steps (debt - 2 ^ (below - 1))

/-- For each number of bits below the limit the last symbol with a code that
much shorter. -/
def lastsOf (limit : Nat) (lengths : Array Nat) : Array (Option Nat) :=
  ((List.range (limit + 1)).map fun below =>
    if below = 0 then none
    else
      let symbols := (List.range lengths.size).filter fun s =>
        lengths.getD s 0 + below = limit
      symbols.getLast?).toArray

end Repayment

/-- **Lengths of codes, none above the limit**, for symbols from the most
frequent one on. Lengths that keep to the limit stay as they are. -/
def limitLengths (limit : Nat) (counts lengths : List Nat) : List Nat :=
  let deepest := lengths.foldl max 0
  if deepest ≤ limit then lengths
  else
    let unit := 2 ^ (deepest - limit)
    let debt := (lengths.map fun l => unit - min unit (2 ^ (deepest - l))).sum / unit
    let cut := (lengths.map fun l => min l limit).toArray
    let start : Repayment :=
      { limit, counts := counts.toArray, lengths := cut,
        lasts := Repayment.lastsOf limit cut }
    (start.repay debt debt).lengths.toList

end Lexicon.Zstandard
