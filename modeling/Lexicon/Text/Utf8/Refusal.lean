import Lexicon.Text.Hex
import Lexicon.Text.Numeral
import Lexicon.Text.Utf8

/-!
# What is said about texts that cannot be written

A text with surrogates has no bytes. What is said about it names the first run
of them by its positions, and a single one by its number too.
-/

namespace Lexicon

/-- What is said about a text that cannot be written as UTF-8. -/
def SurrogateRun.message (run : SurrogateRun) : Text :=
  (if run.first = run.last then
    lit "'utf-8' codec can't encode character '\\u"
      ++ Hex.digits run.codePoint.val ++ lit "' in position "
      ++ Text.ofNat run.first
  else
    lit "'utf-8' codec can't encode characters in position "
      ++ Text.ofNat run.first ++ lit "-" ++ Text.ofNat run.last)
    ++ lit ": surrogates not allowed"

end Lexicon
