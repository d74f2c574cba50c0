import Lexicon.Text.CodePoint

/-!
# UTF-8

Writing takes every text without surrogates and refuses any other, telling
where its first run of surrogates stands. Reading takes exactly the shortest
forms of code points that are no surrogates, so it accepts exactly what
writing produces.
-/

namespace Lexicon

/-- A byte. -/
abbrev Byte := UInt8

/-- **A stretch of surrogates** that cannot be written: the positions
`first` to `last` of the text, and the code point at `first`. -/
structure SurrogateRun where
  /-- The code point at the first position. -/
  codePoint : CodePoint
  /-- The first position. -/
  first : Nat
  /-- The last position. -/
  last : Nat
  deriving DecidableEq

namespace Utf8

/-- A byte that goes on with a code point, from the low six bits of a
number. -/
def continuation (n : Nat) : Byte :=
  UInt8.ofNat (0x80 + n % 0x40)

/-- The bytes of a code point, by its size. -/
def encodeCodePoint (c : CodePoint) : List Byte :=
  let n := c.val
  if n < 0x80 then [UInt8.ofNat n]
  else if n < 0x800 then [UInt8.ofNat (0xC0 + n / 0x40), continuation n]
  else if n < 0x10000 then
    [UInt8.ofNat (0xE0 + n / 0x1000), continuation (n / 0x40), continuation n]
  else
    [UInt8.ofNat (0xF0 + n / 0x40000), continuation (n / 0x1000),
      continuation (n / 0x40), continuation n]

/-- The first run of surrogates of a text whose first code point has the
position `position`. -/
def surrogateRunFrom? (position : Nat) : Text → Option SurrogateRun
  | [] => none
  | c :: rest =>
    if c.isSurrogate then
      some ⟨c, position,
        position + (rest.takeWhile CodePoint.isSurrogate).length⟩
    else
      surrogateRunFrom? (position + 1) rest

/-- The first run of surrogates of a text, if it has one. -/
def surrogateRun? (t : Text) : Option SurrogateRun :=
  surrogateRunFrom? 0 t

/-- **The bytes of a text**, or the run of surrogates that has none. -/
def encode (t : Text) : Except SurrogateRun (List Byte) :=
  match surrogateRun? t with
  | some run => .error run
  | none => .ok (t.flatMap encodeCodePoint)

/-- Whether a byte goes on with a code point. -/
def isContinuation (b : Byte) : Bool :=
  0x80 ≤ b.toNat && b.toNat ≤ 0xBF

/-- The code point of a number, if it is at least `least`, the smallest one
that needs the bytes it was written in, and no surrogate. -/
def codePoint? (least n : Nat) : Option CodePoint :=
  if least ≤ n ∧ ¬(0xD800 ≤ n ∧ n ≤ 0xDFFF) then CodePoint.ofNat? n else none

/-- **A code point under way**: how many bytes it still needs, the number its
bytes have given so far, and the least code point that needs so many. -/
structure Pending where
  /-- The bytes still owed. -/
  owed : Nat
  /-- The number so far. -/
  value : Nat
  /-- The least code point written in as many bytes. -/
  least : Nat
  deriving DecidableEq

/-- What a first byte opens. -/
def lead? (b : Byte) : Option Pending :=
  let n := b.toNat
  if n < 0x80 then some ⟨0, n, 0⟩
  else if n < 0xC0 then none
  else if n < 0xE0 then some ⟨1, n % 0x20, 0x80⟩
  else if n < 0xF0 then some ⟨2, n % 0x10, 0x800⟩
  else if n < 0xF8 then some ⟨3, n % 0x08, 0x10000⟩
  else none

/-- What is under way after one more byte. -/
def step? (p : Pending) (b : Byte) : Option Pending :=
  match p.owed with
  | 0 => lead? b
  | owed + 1 =>
    if isContinuation b then
      some ⟨owed, p.value * 0x40 + b.toNat % 0x40, p.least⟩
    else none

/-- The text some bytes write when `p` is under way before them. -/
def decodeFrom? (p : Pending) : List Byte → Option Text
  | [] => if p.owed = 0 then some [] else none
  | b :: rest =>
    match step? p b with
    | none => none
    | some q =>
      if q.owed = 0 then
        (codePoint? q.least q.value).bind fun c =>
          (decodeFrom? q rest).map (c :: ·)
      else
        decodeFrom? q rest

/-- **The text some bytes write**, or nothing if they are not UTF-8. -/
def decode? (bytes : List Byte) : Option Text :=
  decodeFrom? ⟨0, 0, 0⟩ bytes

end Utf8

end Lexicon
