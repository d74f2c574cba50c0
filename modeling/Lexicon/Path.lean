import Lexicon.Text.Split
import Lexicon.Text.Utf8.Escaped

/-!
# Paths

A path is what its text says, before any file system is asked: whether it
starts at the root, and its components in order. Empty components and single
dots say nothing and are dropped; a double dot is kept, since what it means
depends on the directories it leads through. Exactly two slashes in front are
a root of their own.
-/

namespace Lexicon

/-- Where a path starts. -/
inductive Anchor where
  /-- At the working directory. -/
  | relative
  /-- At the root. -/
  | root
  /-- At the root written with two slashes. -/
  | doubleRoot
  deriving DecidableEq

/-- **A path**: where it starts and the components that follow. -/
structure Path where
  /-- Where it starts. -/
  anchor : Anchor
  /-- Its components, outermost first. -/
  parts : List Text
  deriving DecidableEq

namespace Path

/-- The sign between components. -/
def slash : CodePoint := 0x2F

/-- The component that stays where it is. -/
def dot : Text := [0x2E]

/-- The component that leads to the directory above. -/
def dotDot : Text := [0x2E, 0x2E]

/-- The anchor that the slashes in front of a text give. -/
def anchorOf (t : Text) : Anchor :=
  match (t.takeWhile (· == slash)).length with
  | 0 => .relative
  | 2 => .doubleRoot
  | _ => .root

/-- The components that a text spells. -/
def partsOf (t : Text) : List Text :=
  (t.split (· == slash)).filter fun part => part != [] && part != dot

/-- **The path a text spells.** -/
def ofText (t : Text) : Path :=
  ⟨anchorOf t, partsOf t⟩

/-- The text of an anchor. -/
def anchorText : Anchor → Text
  | .relative => []
  | .root => [slash]
  | .doubleRoot => [slash, slash]

/-- **The text of a path.** The path that says nothing is a single dot. -/
def toText (p : Path) : Text :=
  if p.anchor = .relative ∧ p.parts = [] then dot
  else anchorText p.anchor ++ Text.join slash p.parts

/-- The path of an entry of a directory. -/
def child (p : Path) (name : Text) : Path :=
  { p with parts := p.parts ++ [name] }

/-- **A path seen from another one**: put behind it, unless it starts at a
root itself. -/
def append (p q : Path) : Path :=
  if q.anchor = .relative then { p with parts := p.parts ++ q.parts } else q

/-- The path that a text spells, seen from another path. -/
def appendText (p : Path) (t : Text) : Path :=
  p.append (ofText t)

/-- The last component, or nothing where there is none. -/
def name (p : Path) : Text :=
  p.parts.getLast?.getD []

/-- The path without its last component. -/
def parent (p : Path) : Path :=
  { p with parts := p.parts.dropLast }

/-- **A path without double dots**: each takes back the component before it,
wherever that leads. -/
def spelledOut (p : Path) : Path :=
  { p with
    parts := p.parts.foldl
      (fun way name => if name = dotDot then way.dropLast else way ++ [name]) [] }

/-- The greatest length of a name, in bytes. -/
def maxNameBytes : Nat := 255

/-- Whether a name is longer than any directory takes. -/
def isTooLong (name : Text) : Bool :=
  maxNameBytes < (Utf8.encodeName name).length

/-- The greatest length of a path that the system takes, in bytes. -/
def maxBytes : Nat := 4095

/-- Whether a path is longer than any that the system takes. -/
def isOverlong (p : Path) : Bool :=
  maxBytes < (Utf8.encodeName p.toText).length

end Path

end Lexicon
