import Lexicon.FileTree.Basic
import Lexicon.FileTree.Error
import Lexicon.Path

/-!
# Where paths lead

A path is followed one component at a time from the place where it starts.
Every step needs a directory to start from, a double dot leads up, and a name
that is longer than any directory takes is refused; the last component may
lead to nothing. Every other component leads to the entry whose name has the
same bytes. Relative paths start at the top of the tree. The name `/`, which
no entry can bear, stands there for the root directory.

A path with a zero in it, with a surrogate that stands for no byte, or longer
than the system takes leads nowhere at all (`Path.check`).
-/

namespace Lexicon

namespace Path

/-- The place where a path starts. -/
def start (p : Path) : Place :=
  if p.anchor = .relative then [] else [[slash]]

/-- Whether the text of a path can be passed on at all. -/
def checkText (p : Path) : Except FileError Unit :=
  match FileError.ofText? p.toText with
  | some e => .error e
  | none => .ok ()

/-- Whether the system takes a path of its length. -/
def checkLength (p : Path) : Except FileError Unit :=
  if p.isOverlong then .error .nameTooLong else .ok ()

/-- **Whether a path reaches the system**, and is taken there. -/
def check (p : Path) : Except FileError Unit := do
  p.checkText
  p.checkLength

/-- Whether a path ends in no name of its own: it is a start, or its last
component leads upward. -/
def endsNameless (p : Path) : Bool :=
  p.parts.getLast?.all (· == dotDot)

end Path

namespace FileTree

/-- The place above another one; above the root and the top is nothing. -/
def above (place : Place) : Place :=
  if place = [[Path.slash]] then place else place.dropLast

/-- Requires a directory at a place. -/
def checkDir (t : FileTree) (place : Place) : Except FileError Unit :=
  match t.lookup place with
  | none => .error .notFound
  | some (.file _) => .error .notDirectory
  | some (.dir _) => .ok ()

/-- The place that components lead to. Every step needs a directory to start
from; the last one may lead to nothing. -/
def walk (t : FileTree) (here : Place) : List Text → Except FileError Place
  | [] => .ok here
  | name :: rest =>
    match t.checkDir here with
    | .error e => .error e
    | .ok () =>
      if name = Path.dotDot then t.walk (above here) rest
      else if Path.isTooLong name then .error .nameTooLong
      else t.walk (here ++ [Utf8.respell name]) rest

/-- **Following components one after the other**: where the first lead is where
the rest start. -/
theorem walk_append (t : FileTree) (here : Place) (first rest : List Text) :
    t.walk here (first ++ rest)
      = (t.walk here first).bind fun place => t.walk place rest := by
  induction first generalizing here with
  | nil => rfl
  | cons name more ih =>
    rw [List.cons_append, walk, walk]
    cases t.checkDir here with
    | error e => rfl
    | ok u =>
      simp only []
      split
      · exact ih _
      · split
        · rfl
        · exact ih _

/-- **The place that a path leads to.** -/
def locate (t : FileTree) (p : Path) : Except FileError Place :=
  t.walk p.start p.parts

/-- The place of the directory that holds what a path names. -/
def locateParent (t : FileTree) (p : Path) : Except FileError Place := do
  let place ← t.locate p.parent
  t.checkDir place
  return place

end FileTree

end Lexicon
