import Lexicon.Text.CodePoint

/-!
# Runs of case pairs

Alphabets write their capitals beside their small letters in one of two ways:
in a block of their own, at a fixed distance, or alternating with them. A run
is a stretch of either kind, every code point or every second one, and moves
all of its members by the same distance.
-/

namespace Lexicon

/-- **A run of a case table**: `first`, `first + step`, … up to `last`, each
moved by `shift`. -/
structure CaseRun where
  /-- The first member. -/
  first : Nat
  /-- The last member. -/
  last : Nat
  /-- The distance between neighbours. -/
  step : Nat
  /-- How far each member moves. -/
  shift : Int

namespace CaseRun

/-- Whether a number belongs to the run. -/
def holds (r : CaseRun) (n : Nat) : Bool :=
  r.first ≤ n && n ≤ r.last && (n - r.first) % r.step == 0

/-- The image of a member of the run. -/
def image (r : CaseRun) (c : CodePoint) : CodePoint :=
  (CodePoint.ofNat? (c.val + r.shift).toNat).getD c

end CaseRun

/-- **The image of a code point in a case table**: its own entry if it has a
longer one, what its run says, or nothing if the table leaves it alone. -/
def caseImage? (runs : List CaseRun) (specials : List (Nat × List CodePoint))
    (c : CodePoint) : Option Text :=
  match specials.lookup c.val with
  | some t => some t
  | none => (runs.find? (·.holds c.val)).map fun r => [r.image c]

end Lexicon
