import Lexicon.Zstandard.StateTable

/-!
# Sequences

A block is a list of sequences: some literals, and then bytes that are copied
from what came before. Lengths and offsets are written in classes, a few bits
behind the class telling which of its numbers is meant, and the classes are
coded by state machines.
-/

namespace Lexicon.Zstandard

/-- **Literals and a copy behind them.** -/
structure Sequence where
  /-- How many literals there are. -/
  literals : Nat
  /-- How far back the copy starts, and three more; 1 for as far as last
  time. -/
  offset : Nat
  /-- How many bytes are copied. -/
  length : Nat
  deriving DecidableEq

/-- **A number in its class.** -/
structure Classified where
  /-- The class. -/
  number : Nat
  /-- Which number of the class is meant. -/
  rest : Bits
  deriving DecidableEq

/-- The class of a number, where the numbers from `least` on belong to classes
of these widths, the first of them being class `number`. -/
def classifyFrom (number least : Nat) (widths : List Nat) (n : Nat) : Classified :=
  match widths with
  | [] => ⟨number, ⟨n - least, 0⟩⟩
  | width :: rest =>
    if n < least + 2 ^ width then ⟨number, ⟨n - least, width⟩⟩
    else classifyFrom (number + 1) (least + 2 ^ width) rest n

/-- **A kind of number in sequences.** -/
structure NumberKind where
  /-- The class of a number. -/
  classify : Nat → Classified
  /-- The distribution of classes in blocks of few sequences. -/
  usual : Distribution
  /-- The greatest logarithm of the table of another distribution. -/
  maxLog : Nat

namespace NumberKind

/-- The widths of the classes of literal counts. -/
def literalWidths : List Nat :=
  List.replicate 16 0 ++ [1, 1, 1, 1, 2, 2, 3, 3, 4, 6, 7, 8, 9, 10, 11, 12, 13,
    14, 15, 16]

/-- The widths of the classes of lengths. -/
def lengthWidths : List Nat :=
  List.replicate 32 0 ++ [1, 1, 1, 1, 2, 2, 3, 3, 4, 4, 5, 7, 8, 9, 10, 11, 12, 13,
    14, 15, 16]

/-- **Counts of literals.** -/
def literals : NumberKind where
  classify := classifyFrom 0 0 literalWidths
  usual := ⟨6, [4, 3] ++ List.replicate 11 2 ++ List.replicate 3 1
    ++ List.replicate 9 2 ++ [3, 2] ++ List.replicate 5 1 ++ List.replicate 4 (-1)⟩
  maxLog := 9

/-- **Offsets**, the class of which is their binary logarithm. -/
def offsets : NumberKind where
  classify n := ⟨n.log2, ⟨n, n.log2⟩⟩
  usual := ⟨5, List.replicate 6 1 ++ List.replicate 3 2 ++ List.replicate 15 1
    ++ List.replicate 5 (-1)⟩
  maxLog := 8

/-- **Lengths of copies**, of which the shortest is three. -/
def lengths : NumberKind where
  classify n := classifyFrom 0 0 lengthWidths (n - 3)
  usual := ⟨6, [1, 4, 3] ++ List.replicate 6 2 ++ List.replicate 37 1
    ++ List.replicate 7 (-1)⟩
  maxLog := 9

end NumberKind

end Lexicon.Zstandard
