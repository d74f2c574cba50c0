import Lexicon.Text.DecimalDigit
import Lexicon.Text.Letter

/-!
# Which words may be learned

A text may enter a user dictionary if it is neither empty nor too long,
consists of letters, connectors and digits, and is not all digits: a number
alone may be a code or an account, while digits among letters belong to an
address or a name. `WordPolicy.accepts` decides it in one pass, which counts
the digits and ends at the first code point that has no place in a word.
-/

namespace Lexicon

/-- **What counts as a word**: which code points may stand between letters,
and how long a word may be. -/
structure WordPolicy where
  /-- The code points allowed beside letters and digits. -/
  connectors : Text := [0x27, 0x2D]
  /-- The greatest length, in code points. -/
  maxLength : Int := 48

/-- Why a number was not looked up as a code point. -/
inductive CodePointError where
  /-- The number does not fit into 32 bits with a sign. -/
  | tooWide
  /-- The number is no code point. -/
  | outOfRange
  deriving DecidableEq

namespace WordPolicy

/-- Whether a code point may be part of a word. -/
def isWordCodePoint (p : WordPolicy) (c : CodePoint) : Bool :=
  c.isLetter || p.connectors.any (· == c)

/-- **Whether the code point of a number may be part of a word.** -/
def isWordNumber (p : WordPolicy) (n : Int) : Except CodePointError Bool :=
  if n < -2 ^ 31 ∨ 2 ^ 31 ≤ n then .error .tooWide
  else if n < 0 then .error .outOfRange
  else
    match CodePoint.ofNat? n.toNat with
    | none => .error .outOfRange
    | some c => .ok (p.isWordCodePoint c)

/-- **A code point that is given by its number** is asked about as it is. -/
@[simp] theorem isWordNumber_val (p : WordPolicy) (c : CodePoint) :
    p.isWordNumber c.val = .ok (p.isWordCodePoint c) := by
  have hc := c.isLt
  unfold isWordNumber
  rw [if_neg (by omega), if_neg (by omega), Int.toNat_natCast,
    CodePoint.ofNat?_val]

/-- The digits of a text, counted on from those before it. The count is given
up at a code point that is neither a digit nor part of a word. -/
def countDigits? (p : WordPolicy) (digits : Nat) : Text → Option Nat
  | [] => some digits
  | c :: rest =>
    if c.isDecimalDigit then p.countDigits? (digits + 1) rest
    else if p.isWordCodePoint c then p.countDigits? digits rest
    else none

/-- **Whether a text may be learned.** -/
def accepts (p : WordPolicy) (t : Text) : Bool :=
  if t = [] ∨ p.maxLength < t.length then false
  else
    match p.countDigits? 0 t with
    | none => false
    | some digits => digits < t.length

end WordPolicy

end Lexicon
