import Lexicon.Text.Split

/-!
# Blanks

A blank is a code point that Unicode takes for white space: those of its
separator categories and the control characters that part words, lines,
groups or files. `strip` takes them off the two ends of a text.
-/

namespace Lexicon

namespace CodePoint

/-- **Whether a code point is a blank.** -/
def isBlank (c : CodePoint) : Bool :=
  let n := c.val
  (0x09 ≤ n && n ≤ 0x0D) || (0x1C ≤ n && n ≤ 0x20) || n == 0x85 || n == 0xA0
    || n == 0x1680 || (0x2000 ≤ n && n ≤ 0x200A) || n == 0x2028
    || n == 0x2029 || n == 0x202F || n == 0x205F || n == 0x3000

end CodePoint

namespace Text

/-- The text without the blanks at its two ends. -/
def strip (t : Text) : Text :=
  t.trim CodePoint.isBlank

end Text

end Lexicon
