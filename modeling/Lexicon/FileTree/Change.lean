import Lexicon.FileTree.Locate

/-!
# Changing a tree by paths

Each change gives the new tree or says why the system would refuse it, and a
refusal changes nothing.
-/

namespace Lexicon.FileTree

/-- The tree with an empty directory added. -/
def makeDir (t : FileTree) (p : Path) : Except FileError FileTree := do
  p.check
  let _ ← t.locateParent p
  if p.endsNameless then throw .alreadyExists
  let place ← t.locate p
  match t.lookup place with
  | some _ => throw .alreadyExists
  | none => return t.put place (.dir [])

/-- The tree with a plain file written, in place of an older one if there is
one. -/
def write (t : FileTree) (p : Path) (f : File) : Except FileError FileTree := do
  p.check
  let place ← t.locate p
  match t.lookup place with
  | some (.dir _) => throw .isDirectory
  | _ => return t.put place (.file f)

/-- The tree with a plain file at a path: the one that is there, or an empty
one. -/
def touch (t : FileTree) (p : Path) : Except FileError FileTree := do
  p.check
  let place ← t.locate p
  match t.lookup place with
  | some (.dir _) => throw .isDirectory
  | some (.file _) => return t
  | none => return t.put place (.file ⟨.bytes [], 0⟩)

/-- The tree with an empty plain file added. -/
def create (t : FileTree) (p : Path) : Except FileError FileTree := do
  p.check
  let place ← t.locate p
  match t.lookup place with
  | some _ => throw .alreadyExists
  | none => return t.put place (.file ⟨.bytes [], 0⟩)

/-- **The tree after a rename.** A plain file replaces a plain file, a
directory an empty directory; neither replaces the other, and nothing is moved
below itself or over a directory it is in. -/
def rename (t : FileTree) (source target : Path) : Except FileError FileTree := do
  source.checkText
  target.checkText
  source.checkLength
  target.checkLength
  let _ ← t.locateParent source
  let _ ← t.locateParent target
  if source.endsNameless || target.endsNameless then throw .busy
  let old ← t.locate source
  match t.lookup old with
  | none => throw .notFound
  | some moved =>
    let new ← t.locate target
    if old = new then return t
    if old.isPrefixOf new then throw .invalid
    if new.isPrefixOf old then throw .notEmpty
    match moved, t.lookup new with
    | .file _, some (.dir _) => throw .isDirectory
    | .dir _, some (.file _) => throw .notDirectory
    | .dir _, some (.dir (_ :: _)) => throw .notEmpty
    | _, _ => return (t.remove old).put new moved

end Lexicon.FileTree
