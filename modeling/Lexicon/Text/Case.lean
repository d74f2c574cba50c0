import Lexicon.Text.Case.Context
import Lexicon.Text.Case.LowerTable
import Lexicon.Text.Case.UpperTable
import Lexicon.Text.Case.TitleTable

/-!
# Lower, upper and title case

The full case mappings: one code point may become several, as the sharp s
does in upper case. ASCII is mapped by its two ranges, everything else by the
tables.

Lower case depends on the context in one place. A capital sigma becomes the
final form where its word ends with it – a cased code point comes before it,
none comes after it, and case-ignorable ones count on neither side – and the
ordinary small sigma elsewhere. Title case writes the first cased code point
of each run of them in title case and the others in lower case.
-/

namespace Lexicon

namespace CodePoint

/-- The lower case of a code point out of any context. -/
def lower (c : CodePoint) : Text :=
  if c.val < 0x80 then
    [if 0x41 ≤ c.val ∧ c.val ≤ 0x5A then c + 0x20 else c]
  else
    (caseImage? lowerRuns lowerSpecials c).getD [c]

/-- The upper case of a code point. -/
def upper (c : CodePoint) : Text :=
  if c.val < 0x80 then
    [if 0x61 ≤ c.val ∧ c.val ≤ 0x7A then c - 0x20 else c]
  else
    (caseImage? upperRuns upperSpecials c).getD [c]

/-- The title case of a code point: its upper case but for the exceptions of
the table. -/
def title (c : CodePoint) : Text :=
  if c.val < 0x80 then c.upper
  else (caseImage? titleRuns titleSpecials c).getD c.upper

/-- The capital sigma, whose lower case has two forms. -/
def capitalSigma : CodePoint := 0x3A3

end CodePoint

namespace Text

/-- Whether the nearest code point of `t` that is not case-ignorable is
cased. -/
def opensCased (t : Text) : Bool :=
  (t.dropWhile CodePoint.isCaseIgnorable).head?.any CodePoint.isCased

/-- **The lower case of a code point in its context**: `before` is what
precedes it, nearest first, and `after` what follows. -/
def lowerIn (before : Text) (c : CodePoint) (after : Text) : Text :=
  if c = CodePoint.capitalSigma then
    [if opensCased before && !opensCased after then 0x3C2 else 0x3C3]
  else
    c.lower

/-- The lower case of a text that follows `before`, nearest first. -/
def lowerFrom (before : Text) : Text → Text
  | [] => []
  | c :: rest => lowerIn before c rest ++ lowerFrom (c :: before) rest

/-- **The lower case of a text.** -/
def lower (t : Text) : Text :=
  lowerFrom [] t

/-- **The upper case of a text.** -/
def upper (t : Text) : Text :=
  t.flatMap CodePoint.upper

/-- The title case of a text that follows `before`, nearest first. -/
def titleFrom (before : Text) : Text → Text
  | [] => []
  | c :: rest =>
    (if before.head?.any CodePoint.isCased then lowerIn before c rest
      else c.title)
      ++ titleFrom (c :: before) rest

/-- **The title case of a text.** -/
def title (t : Text) : Text :=
  titleFrom [] t

end Text

end Lexicon
