import Lexicon.Zstandard.Sequence

/-!
# Matches

Where the bytes at a position have come before, they are copied. Two tables
remember where bytes were seen last, one by the next eight bytes and one by the
next few. At each position the search looks whether the last offset fits one
byte on, then for eight bytes, then for few; where only few are found, it looks
for eight bytes one position on before it settles for them. The longer it finds
nothing, the larger are its steps.
-/

namespace Lexicon.Zstandard

/-- **How thoroughly matches are searched.** -/
structure Effort where
  /-- The binary logarithm of the table by eight bytes. -/
  longLog : Nat
  /-- The binary logarithm of the table by few bytes. -/
  shortLog : Nat
  /-- How many bytes are few. -/
  few : Nat
  deriving DecidableEq

namespace Effort

/-- The effort for so many bytes. Tables are no larger than their number calls
for. -/
def ofSize (size : Nat) : Effort :=
  let log := max 6 ((size - 1).log2 + 1)
  if size ≤ 2 ^ 14 then
    { longLog := min 15 (min 14 log + 1), shortLog := min 14 log, few := 4 }
  else { longLog := min 16 (log + 1), shortLog := min 15 log, few := 5 }

end Effort

/-- **A search under way.** -/
structure Search where
  /-- The effort. -/
  effort : Effort
  /-- The bytes. -/
  data : Array Nat
  /-- Where bytes were seen last, by eight of them. There is none at 0. -/
  long : Array Nat
  /-- Where bytes were seen last, by few of them. -/
  short : Array Nat
  /-- The last offset, or 0. -/
  offset : Nat
  /-- The offset before it, or 0. -/
  before : Nat
  /-- Up to where sequences reach. -/
  reached : Nat
  /-- The sequences, the last one first. -/
  sequences : List Sequence

/-- **A match that was found.** -/
structure Match where
  /-- Where it starts. -/
  start : Nat
  /-- How long it is. -/
  length : Nat
  /-- How far back the bytes are, unless it is as far as last time. -/
  offset? : Option Nat

namespace Search

/-- The start of a search. -/
def ofData (data : Array Nat) : Search :=
  let effort := Effort.ofSize data.size
  { effort, data,
    long := Array.replicate (2 ^ effort.longLog) 0
    short := Array.replicate (2 ^ effort.shortLog) 0
    offset := 1, before := 0, reached := 0, sequences := [] }

/-! ## Reading -/

/-- The number that so many bytes from a position on spell, lowest first. -/
def read (s : Search) : Nat → Nat → Nat
  | 0, _ => 0
  | n + 1, p => s.data.getD p 0 + 0x100 * read s n (p + 1)

/-- How many bytes from two positions on are the same, at most so many. -/
def common (s : Search) : Nat → Nat → Nat → Nat
  | 0, _, _ => 0
  | n + 1, p, q =>
    if s.data.getD p 0 = s.data.getD q 0 then common s n (p + 1) (q + 1) + 1 else 0

/-- **The bytes that two positions have in common are the same.** -/
theorem getD_of_lt_common (s : Search) {n p q i : Nat} (h : i < s.common n p q) :
    s.data.getD (p + i) 0 = s.data.getD (q + i) 0 := by
  induction n generalizing p q i with
  | zero => exact absurd h (Nat.not_lt_zero i)
  | succ n ih =>
    rw [common] at h
    split at h
    case isTrue hb =>
      cases i with
      | zero => exact hb
      | succ i =>
        have := ih (Nat.lt_of_succ_lt_succ h)
        rwa [Nat.succ_add_eq_add_succ, Nat.succ_add_eq_add_succ] at this
    case isFalse => exact absurd h (Nat.not_lt_zero i)

/-- How many bytes before two positions are the same, at most so many. -/
def commonBefore (s : Search) : Nat → Nat → Nat → Nat
  | 0, _, _ => 0
  | n + 1, p, q =>
    if s.data.getD (p - 1) 0 = s.data.getD (q - 1) 0 then
      commonBefore s n (p - 1) (q - 1) + 1
    else 0

/-- How long the match of a position with an earlier one is. -/
def lengthAt (s : Search) (p q : Nat) : Nat :=
  s.common (s.data.size - p) p q

/-- The place in a table for eight bytes. -/
def longKey (s : Search) (p : Nat) : Nat :=
  s.read 8 p * 0xCF1BBCDCB7A56463 % 2 ^ 64 / 2 ^ (64 - s.effort.longLog)

/-- The place in a table for few bytes. -/
def shortKey (s : Search) (p : Nat) : Nat :=
  if s.effort.few = 4 then
    s.read 4 p * 2654435761 % 2 ^ 32 / 2 ^ (32 - s.effort.shortLog)
  else
    s.read 5 p * 2 ^ 24 * 889523592379 % 2 ^ 64 / 2 ^ (64 - s.effort.shortLog)

/-- The last position at which there is something to look for. -/
def limit (s : Search) : Nat :=
  s.data.size - 8

/-! ## Remembering -/

/-- Remembers a position by eight bytes. -/
def noteLong (s : Search) (p : Nat) : Search :=
  { s with long := s.long.setIfInBounds (s.longKey p) p }

/-- Remembers a position by few bytes. -/
def noteShort (s : Search) (p : Nat) : Search :=
  { s with short := s.short.setIfInBounds (s.shortKey p) p }

/-- Remembers a position by both. -/
def note (s : Search) (p : Nat) : Search :=
  (s.noteLong p).noteShort p

/-- Where the eight bytes at a position were seen last. -/
def seenLong? (s : Search) (p : Nat) : Option Nat :=
  let q := s.long.getD (s.longKey p) 0
  if 0 < q && s.read 8 q == s.read 8 p then some q else none

/-- Where the few bytes at a position were seen last, four of them at
least. -/
def seenShort? (s : Search) (p : Nat) : Option Nat :=
  let q := s.short.getD (s.shortKey p) 0
  if 0 < q && s.read 4 q == s.read 4 p then some q else none

/-- Whether four bytes at a position are those an offset back. -/
def repeats (s : Search) (offset p : Nat) : Bool :=
  0 < offset && s.read 4 (p - offset) == s.read 4 p

/-! ## Finding -/

/-- The match of a position with an earlier one, as far as it goes both
ways. -/
def matchAt (s : Search) (p q : Nat) : Match :=
  let more := s.commonBefore (min (p - s.reached) q) p q
  ⟨p - more, s.lengthAt p q + more, some (p - q)⟩

/-- The match that starts with few bytes at a position: the eight bytes at the
next one are preferred if more of them match. -/
def matchNear (s : Search) (p q next : Nat) : Match :=
  match s.seenLong? next with
  | some far =>
    if s.lengthAt p q < s.lengthAt next far then s.matchAt next far
    else s.matchAt p q
  | none => s.matchAt p q

/-- How many positions are looked at before the steps become larger. -/
def patience : Nat := 256

/-- **The next match** from a position on, where the search goes on `step`
further and steps become larger at `slow`; the position at which it was
found comes with it. -/
def find? : Nat → Search → Nat → Nat → Nat → Nat → Search × Option (Match × Nat)
  | 0, s, _, _, _, _ => (s, none)
  | fuel + 1, s, p, next, step, slow =>
    if s.limit < next then (s, none)
    else
      let long? := s.seenLong? p
      let short? := s.seenShort? p
      let s := s.note p
      -- positions that are skipped may lie within the match
      let noted := if step < 4 then s.noteLong next else s
      if s.repeats s.offset (p + 1) then
        (s, some (⟨p + 1, s.lengthAt (p + 1) (p + 1 - s.offset), none⟩, p))
      else
        match long?, short? with
        | some q, _ => (noted, some (s.matchAt p q, p))
        | none, some q => (noted, some (s.matchNear p q next, p))
        | none, none =>
          let (step, slow) :=
            if slow ≤ next then (step + 1, slow + patience) else (step, slow)
          find? fuel s next (next + step) step slow

/-- Adds a sequence. -/
def add (s : Search) (m : Match) : Search :=
  let offset := m.offset?.getD s.offset
  { s with
    offset
    before := if m.offset?.isSome then s.offset else s.before
    reached := m.start + m.length
    sequences :=
      ⟨m.start - s.reached, (m.offset?.map (· + 3)).getD 1, m.length⟩ :: s.sequences }

/-- Remembers some of the positions that a match covers. -/
def noteCovered (s : Search) (found : Nat) : Search :=
  let s := s.noteLong (found + 2)
  let s := s.noteLong (s.reached - 2)
  (s.noteShort (found + 2)).noteShort (s.reached - 1)

/-- Adds the matches that follow at once with the offset before the last one;
the two change places with each. -/
def addRepeats : Nat → Search → Search
  | 0, s => s
  | fuel + 1, s =>
    let p := s.reached
    if p ≤ s.limit && s.repeats s.before p then
      let length := s.lengthAt p (p - s.before)
      let s := { s with offset := s.before, before := s.offset }
      addRepeats fuel ((s.noteShort p).noteLong p |>.add ⟨p, length, none⟩)
    else s

/-- Searches for matches from where sequences reach, `p` being the first
position that is looked at. -/
def run : Nat → Search → Nat → Search
  | 0, s, _ => s
  | fuel + 1, s, p =>
    match find? s.data.size s p (p + 1) 1 (p + patience) with
    | (s, none) => s
    | (s, some (m, found)) =>
      let s := s.add m
      let s := if s.reached ≤ s.limit then addRepeats s.data.size (s.noteCovered found)
        else s
      run fuel s s.reached

end Search

/-- **The sequences of some bytes.** What they do not reach remains as
literals. -/
def sequences (data : Array Nat) : List Sequence :=
  if data.size < 8 then []
  else (Search.run data.size (Search.ofData data) 1).sequences.reverse

end Lexicon.Zstandard
