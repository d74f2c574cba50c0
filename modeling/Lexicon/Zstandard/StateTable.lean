import Lexicon.Zstandard.Distribution

/-!
# Tables of states

A state machine codes symbols from the last to the first. Each of its states
belongs to a symbol, and the states of a symbol are strewn over the table. To
code a symbol, the machine writes as many low bits of its state as leave a
number that counts the states of the symbol, and goes on to the state that is
counted.
-/

namespace Lexicon.Zstandard

/-- **The states of each symbol**, in order. There are `2 ^ log` states. -/
structure StateTable where
  /-- The binary logarithm of the number of states. -/
  log : Nat
  /-- For each symbol its states, in order. -/
  states : Array (Array Nat)

namespace StateTable

/-- How many states lie between one and the next that is given out. -/
def stride (size : Nat) : Nat :=
  size / 2 + size / 8 + 3

/-- The symbols that get states at the end of the table, in order. -/
def rareSymbols (d : Distribution) : List Nat :=
  (List.range d.shares.length).filter fun s => d.shares.getD s 0 = -1

/-- The symbols that get states along the stride, each as often as its
share. -/
def commonSymbols (d : Distribution) : List Nat :=
  (List.range d.shares.length).flatMap fun s =>
    List.replicate (d.shares.getD s 0).toNat s

/-- The states along the stride that are not taken by rare symbols. -/
def commonStates (log rare : Nat) : List Nat :=
  ((List.range (2 ^ log)).map fun i => i * stride (2 ^ log) % 2 ^ log).filter
    (· < 2 ^ log - rare)

/-- The symbol of each state. -/
def owners (d : Distribution) : List Nat :=
  let rare := rareSymbols d
  let common :=
    ((commonStates d.log rare.length).zip (commonSymbols d)).foldl
      (fun (done : Array Nat) (state, symbol) => done.setIfInBounds state symbol)
      (Array.replicate (2 ^ d.log - rare.length) 0)
  common.toList ++ rare.reverse

/-- **The table of a distribution.** -/
def ofDistribution (d : Distribution) : StateTable where
  log := d.log
  states := (owners d).zipIdx.foldl
    (fun done (symbol, state) => done.modify symbol (·.push state))
    (Array.replicate d.shares.length #[])

/-- The table with a single state, that of one symbol. -/
def constant (symbol : Nat) : StateTable where
  log := 0
  states := (Array.replicate symbol #[]).push #[0]

/-- The states of a symbol. -/
def statesOf (t : StateTable) (symbol : Nat) : Array Nat :=
  t.states.getD symbol #[]

/-- A state of a symbol, as a number that has one bit more than the
logarithm. -/
def stateAt (t : StateTable) (symbol i : Nat) : Nat :=
  2 ^ t.log + (t.statesOf symbol).getD i 0

/-- **The state to start in** so that a symbol is coded. -/
def start (t : StateTable) (symbol : Nat) : Nat :=
  t.stateAt symbol 0

/-- How many low bits a state gives away before a symbol with so many
states. -/
def spareBits (log state size : Nat) : Nat :=
  let n := log - size.log2
  if state / 2 ^ n < size then n - 1 else n

/-- **Codes a symbol**: the bits that are written and the state that
follows. -/
def code (t : StateTable) (state symbol : Nat) : Bits × Nat :=
  let size := (t.statesOf symbol).size
  let n := spareBits t.log state size
  (⟨state, n⟩, t.stateAt symbol (state / 2 ^ n - size))

/-- The bits by which a reader learns the last state. -/
def finish (t : StateTable) (state : Nat) : Bits :=
  ⟨state, t.log⟩

end StateTable

end Lexicon.Zstandard
