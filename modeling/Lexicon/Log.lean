import Lexicon.Text.CodePoint

/-!
# Logs

What an operation reports on the way is a list of lines, oldest first, each
with a level. Operations return their lines beside their result, so a scan
that skips a file says so and still gives a listing.
-/

namespace Lexicon

/-- How much a line of the log matters. -/
inductive Level where
  /-- Of use to whoever looks for a fault. -/
  | debug
  /-- The ordinary course of things. -/
  | info
  /-- Something was passed over. -/
  | warning
  /-- Something that was asked for was not done. -/
  | error
  deriving DecidableEq

/-- Whether lines of a level show where debugging lines do not. -/
def Level.isShown : Level → Bool
  | .debug => false
  | _ => true

/-- **A line of the log.** -/
structure LogLine where
  /-- The level. -/
  level : Level
  /-- What is reported. -/
  message : Text
  deriving DecidableEq

/-- **What was reported**, oldest first. -/
abbrev Log := List LogLine

/-- **A value with what was reported on the way to it.** -/
structure Logged (α : Type) where
  /-- The value. -/
  value : α
  /-- The lines, oldest first. -/
  log : Log := []

namespace Logged

/-- **The values that were found**, with everything that was reported on the
way, in order. -/
def collect {α : Type} (found : List (Logged (Option α))) : Logged (List α) :=
  ⟨found.filterMap (·.value), found.flatMap (·.log)⟩

end Logged

end Lexicon
