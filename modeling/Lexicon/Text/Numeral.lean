import Lexicon.Text.Blank
import Lexicon.Text.DecimalDigit

/-!
# Decimal numerals

Writing is plain: a minus sign where one is needed and ASCII digits without
leading zeros. Reading is generous: blanks around the numeral, a sign of
either kind, leading zeros, digits of any script and single underscores
between digits, but no more than `maxDigits` digits.

The blanks that may surround a numeral are not quite those of `strip`: of
ASCII only the space and the five controls from tab to carriage return count.
-/

namespace Lexicon

namespace Numeral

/-- The most digits a numeral may have. -/
def maxDigits : Nat := 4300

/-- Whether a code point may surround a numeral. -/
def isBlank (c : CodePoint) : Bool :=
  if c.val < 0x80 then c.val == 0x20 || (0x09 ≤ c.val && c.val ≤ 0x0D)
  else c.isBlank

/-- The code point that may part two digits. -/
def underscore : CodePoint := 0x5F

/-- **The values of the digits of a numeral** without its sign: at least one
digit, and single underscores only between two of them. -/
def digits? : Text → Option (List Nat)
  | [] => none
  | [c] => c.digitValue?.map ([·])
  | c :: next :: rest =>
    match c.digitValue? with
    | none => none
    | some d =>
      (if next = underscore then digits? rest else digits? (next :: rest)).map
        (d :: ·)

/-- The number whose decimal digits have the given values, highest first. -/
def ofDigits (ds : List Nat) : Nat :=
  ds.foldl (fun n d => n * 10 + d) 0

/-- The number an unsigned numeral spells. -/
def nat? (t : Text) : Option Nat := do
  let ds ← digits? t
  if ds.length ≤ maxDigits then some (ofDigits ds) else none

/-- **The integer a numeral spells**, or nothing if the text is none. -/
def int? (t : Text) : Option Int :=
  match t.trim isBlank with
  | [] => none
  | c :: rest =>
    if c = '-' then (nat? rest).map fun n => -(n : Int)
    else if c = '+' then (nat? rest).map Int.ofNat
    else (nat? (c :: rest)).map Int.ofNat

end Numeral

namespace Text

/-- The decimal digits of a number. -/
def ofNat (n : Nat) : Text :=
  (Nat.toDigits 10 n).map CodePoint.ofChar

/-- An integer in decimal. -/
def ofInt : Int → Text
  | .ofNat n => ofNat n
  | .negSucc n => CodePoint.ofChar '-' :: ofNat (n + 1)

/-- A text filled up with spaces behind it to a given width. -/
def padRight (width : Nat) (t : Text) : Text :=
  t ++ List.replicate (width - t.length) (CodePoint.ofChar ' ')

/-- A text filled up with spaces in front of it to a given width. -/
def padLeft (width : Nat) (t : Text) : Text :=
  List.replicate (width - t.length) (CodePoint.ofChar ' ') ++ t

end Text

end Lexicon
