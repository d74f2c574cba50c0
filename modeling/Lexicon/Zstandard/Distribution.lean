import Lexicon.Zstandard.Bits

/-!
# Distributions

A state machine that codes symbols has a power of two of states and gives each
symbol a share of them, so that a symbol that comes more often takes fewer
bits. Here is how counts become shares, and how shares are told to a reader.
-/

namespace Lexicon.Zstandard

/-- **How the states of a table are shared out among symbols.** -/
structure Distribution where
  /-- The binary logarithm of the number of states. -/
  log : Nat
  /-- The share of each symbol. A share of −1 is that of a rare symbol, which
  gets one state behind all others. -/
  shares : List Int
  deriving DecidableEq

namespace Distribution

/-- The smallest logarithm of a table that is told to a reader. -/
def minLog : Nat := 5

/-- The greatest logarithm of any table. -/
def maxLog : Nat := 12

/-- **The logarithm of a table for so many symbols**, of which `last` is the
greatest: no more than `most`, less where there are few symbols to code
(`spare` bits less than their number has), and enough to tell them apart. -/
def logFor (most spare total last : Nat) : Nat :=
  let enough := min (total.log2 + 1) (last.log2 + 2)
  let log := max (min most ((total - 1).log2 - spare)) enough
  min (max log minLog) maxLog

/-! ## Shares from counts -/

/-- From where on a share is rounded up, in parts of 2 ^ 20, for shares of less
than eight states. -/
def roundingPoints : List Nat :=
  [0, 473195, 504333, 520860, 550000, 700000, 750000, 830000]

/-- The share of a symbol that is not rare. -/
def shareOf (log total count : Nat) : Nat :=
  let unit := 2 ^ (62 - log)
  let exact := count * (2 ^ 62 / total)
  match roundingPoints[exact / unit]? with
  | some point =>
    if 2 ^ (42 - log) * point < exact % unit then exact / unit + 1
    else exact / unit
  | none => exact / unit

/-- The shares for which so many states are taken or still wanted. -/
def taken (shares : List Int) : Nat :=
  (shares.map Int.natAbs).sum

/-- What is known about the share of a symbol: all, or only its count. -/
abbrev Claim := Int ⊕ Nat

/-- The count of a symbol whose share is open. -/
def openCount : Claim → Nat
  | .inl _ => 0
  | .inr count => count

/-- Whether a claim has been met with a share. -/
def isMet : Claim → Bool
  | .inl share => share ≠ 0
  | .inr _ => false

/-- One state for each open claim of at most so many. -/
def meet (share : Int) (most : Nat) : Claim → Claim
  | .inl s => .inl s
  | .inr count => if count ≤ most then .inl share else .inr count

/-- The shares of open claims in proportion: each gets the states whose middles
lie in its stretch. -/
def inProportion (unit rate : Nat) : Nat → List Claim → List Int
  | _, [] => []
  | reached, .inl s :: rest => s :: inProportion unit rate reached rest
  | reached, .inr count :: rest =>
    let next := reached + count * rate
    ((next / unit - reached / unit : Nat) : Int) :: inProportion unit rate next rest

/-- So many states handed out one by one, in turn, to the symbols that have
some already. -/
def handOut (states : Nat) (shares : List Int) : List Int :=
  let holders := (shares.filter (0 < ·)).length
  let (_, shares) := shares.foldl (fun (turn, done) s =>
    if 0 < s then
      let more := states / holders + if turn < states % holders then 1 else 0
      (turn + 1, (s + more) :: done)
    else (turn, s :: done)) (0, [])
  shares.reverse

/-- **The shares where plain rounding wants too many states**: small counts get
one state each, and the rest is divided in proportion. -/
def divide (log : Nat) (rare : Int) (counts : List Nat) : List Int :=
  let total := counts.sum
  let low := total / 2 ^ log
  let claims := counts.map fun c => if c = 0 then .inl 0 else meet rare low (.inr c)
  let one := total * 3 / 2 ^ (log + 1)
  let claims := claims.map (meet 1 one)
  let wanted (claims : List Claim) := 2 ^ log - (claims.filter isMet).length
  let rest (claims : List Claim) := (claims.map openCount).sum
  let claims :=
    if one < rest claims / wanted claims then
      claims.map (meet 1 (rest claims * 3 / (wanted claims * 2)))
    else claims
  let shares := claims.map fun claim => claim.elim id fun _ => 0
  if claims.all isMet then
    let most := counts.foldl max 0
    shares.modify (counts.idxOf most) (· + wanted claims)
  else if rest claims = 0 then handOut (wanted claims) shares
  else
    let unit := 2 ^ (62 - log)
    let middle := unit / 2 - 1
    inProportion unit ((unit * wanted claims + middle) / rest claims) middle claims

/-- **The distribution that counts give.** What rounding leaves over goes to the
symbol with the greatest share, unless that would lose half of its own. -/
def ofCounts (log : Nat) (rare : Int) (counts : List Nat) : Distribution :=
  let total := counts.sum
  let low := total / 2 ^ log
  let plain := counts.map fun c => if c ≤ low then 0 else shareOf log total c
  let shares := counts.zipWith (fun (c p : Nat) =>
    if c = 0 then 0 else if c ≤ low then rare else (p : Int)) plain
  let largest := plain.idxOf (plain.foldl max 0)
  let spare : Int := 2 ^ log - taken shares
  if shares.getD largest 0 / 2 ≤ -spare then ⟨log, divide log rare counts⟩
  else ⟨log, shares.modify largest (· + spare)⟩

/-! ## Telling a reader -/

/-- A number of absent symbols: by threes, and what is left. -/
def absentBits (n : Nat) : List Bits :=
  List.replicate (n / 3) ⟨3, 2⟩ ++ [⟨n % 3, 2⟩]

/-- A share, where `left` is one more than the states that are left. Small
numbers save a bit where not all numbers of that width can come. -/
def shareBits (left : Nat) (share : Int) : Bits :=
  let width := left.log2 + 1
  let limit := 2 ^ width - 1 - left
  let code := (share + 1).toNat
  let code := if 2 ^ (width - 1) ≤ code then code + limit else code
  ⟨code, if code < limit then width - 1 else width⟩

/-- The shares of the symbols that are left. Behind an absent symbol,
`absent?` counts how many more are absent. -/
def tell (left : Nat) (absent? : Option Nat) : List Int → List Bits
  | [] => []
  | share :: rest =>
    if left ≤ 1 then []
    else
      match absent?, decide (share = 0) with
      | some n, true => tell left (some (n + 1)) rest
      | some n, false =>
        absentBits n ++ shareBits left share :: tell (left - share.natAbs) none rest
      | none, isAbsent =>
        shareBits left share
          :: tell (left - share.natAbs) (if isAbsent then some 0 else none) rest

/-- **The bytes that tell a distribution to a reader.** -/
def bytes (d : Distribution) : List Byte :=
  Bits.bytes (⟨d.log - minLog, 4⟩ :: tell (2 ^ d.log + 1) none d.shares)

end Distribution

end Lexicon.Zstandard
