import Lexicon.BigEndian

/-!
# Trees of least weight

The tree that gives frequent symbols short ways is built from below: the two
lightest trees become the branches of a new one until a single tree is left.
Of a leaf and a branching of the same weight the branching counts as lighter,
and of two of a kind the one that came first.
-/

namespace Lexicon.Zstandard

/-- **A tree of symbols**, each with its count. -/
inductive CountTree where
  /-- A symbol and how often it comes. -/
  | leaf (symbol count : Nat)
  /-- Two trees under one. -/
  | branch (left right : CountTree)

namespace CountTree

/-- How often the symbols of a tree come in all. -/
def count : CountTree → Nat
  | .leaf _ count => count
  | .branch left right => left.count + right.count

/-- How many steps below a tree its symbols are, the tree itself being so many
steps down. -/
def depths (down : Nat) : CountTree → List (Nat × Nat)
  | .leaf symbol _ => [(symbol, down)]
  | .branch left right => left.depths (down + 1) ++ right.depths (down + 1)

/-- The lightest of some leaves and branchings, both from light to heavy, and
what is left of them. -/
def lightest? : List CountTree → List CountTree →
    Option (CountTree × List CountTree × List CountTree)
  | [], [] => none
  | l :: leaves, [] => some (l, leaves, [])
  | [], b :: branchings => some (b, [], branchings)
  | l :: leaves, b :: branchings =>
    if l.count < b.count then some (l, leaves, b :: branchings)
    else some (b, l :: leaves, branchings)

/-- Joins the two lightest trees, so many times. -/
def join? : Nat → List CountTree → List CountTree → Option CountTree
  | 0, leaves, branchings => (lightest? leaves branchings).map (·.1)
  | times + 1, leaves, branchings => do
    let (left, leaves, branchings) ← lightest? leaves branchings
    let (right, leaves, branchings) ← lightest? leaves branchings
    join? times leaves (branchings ++ [.branch left right])

/-- **The tree of least weight** over leaves from light to heavy, if there are
any. -/
def ofLeaves? (leaves : List CountTree) : Option CountTree :=
  join? (leaves.length - 1) leaves []

end CountTree

end Lexicon.Zstandard
