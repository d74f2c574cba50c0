import Lexicon.Number

/-!
# Times of files

A file system keeps times in nanoseconds, records keep them in milliseconds.
The conversion is done in binary floating point with 53 significant bits: the
seconds, plus the nanoseconds times the float nearest to a billionth, times a
thousand, each result rounded to the nearest float and a tie to the even one.
So a time may lose a millisecond on the way, always the same one.

Every float that occurs is a multiple of `2 ^ -82`, so the computation is done
on integers that count those.
-/

namespace Lexicon.Time

/-- How many bits the significand of a float has. -/
def significandBits : Nat := 53

/-- A number rounded to its leading `significandBits` bits, a tie to the even
side. -/
def roundNat (n : Nat) : Nat :=
  if n < 2 ^ significandBits then n
  else
    let unit := 2 ^ (n.log2 + 1 - significandBits)
    let low := n / unit
    let up := unit < 2 * (n % unit) ∨ (unit = 2 * (n % unit) ∧ low % 2 = 1)
    (if up then low + 1 else low) * unit

/-- An integer rounded to as many leading bits, whatever its sign. -/
def round (i : Int) : Int :=
  i.sign * roundNat i.natAbs

/-- How many bits follow the point. -/
def scaleBits : Nat := 82

/-- The float nearest to a billionth, at that scale. -/
def billionth : Int := 4835703278458517

/-- **The milliseconds of a time in nanoseconds**, cut toward zero. -/
def millis (nanos : Int) : Int :=
  let seconds := round (nanos / 1000000000)
  let rest := round (nanos % 1000000000 * billionth)
  let time := round (seconds * 2 ^ scaleBits + rest)
  (round (time * 1000)).tdiv (2 ^ scaleBits)

end Lexicon.Time
