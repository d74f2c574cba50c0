import Lexicon.FileTree.Locate

/-!
# Where stores are

The path of a store is spelled out before it is followed: a double dot takes
back the component before it, whether or not a directory is there. What is
spelled on the way must be somewhere that the system can look, though nothing
has to be there, and neither it nor the whole path may be too long: the names
of the files that accompany a store need room behind its own.
-/

namespace Lexicon.Store

/-- The greatest length of a path on the way to a store, in bytes. -/
def maxWayBytes : Nat := 511

/-- The greatest length of the path of a store, in bytes. -/
def maxPathBytes : Nat := 504

/-- The length of the path from the root that has the given components, in
bytes. -/
def wayBytes (way : List Text) : Nat :=
  (way.map fun name => (Utf8.encodeName name).length + 1).sum

/-- Whether a way can be spelled out as far as this: it is not too long, and it
leads to something or to nothing, but not below a plain file. -/
def isPassable (t : FileTree) (start : Place) (way : List Text) : Bool :=
  wayBytes way ≤ maxWayBytes &&
    match t.walk start way with
    | .ok _ => true
    | .error e => e == .notFound

/-- **A way with components spelled out behind it**, if all of that is
passable. -/
def spell? (t : FileTree) (start : Place) (way : List Text) :
    List Text → Option (List Text)
  | [] => some way
  | name :: rest =>
    if name = Path.dotDot then spell? t start way.dropLast rest
    else if isPassable t start (way ++ [name]) then
      spell? t start (way ++ [name]) rest
    else none

/-- **The place of the store that a path names**, if there can be one. -/
def locate? (t : FileTree) (p : Path) : Option Place := do
  let way ← spell? t p.start [] p.parts
  if way = [] || maxPathBytes < wayBytes way then none
  else (t.walk p.start way).toOption

end Lexicon.Store
