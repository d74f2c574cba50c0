import Lexicon.FileTree.Change

/-!
# Volumes

A volume is a tree of files together with the paths on which something is
denied: asking what is there, listing it, or removing it. Denials go by the
path as it is written, not by the place it leads to, and touch exactly that
path.

Reading operations answer or say why not. Changing operations give the new
tree, since a volume's denials do not change; `makeDirs` gives one even when
it fails, because the directories it made on the way remain.
-/

namespace Lexicon

/-- **What is denied on which paths.** -/
structure Denials where
  /-- Whether asking what is at a path is denied. -/
  inspect : Path → Bool := fun _ => false
  /-- Whether listing a directory is denied. -/
  list : Path → Bool := fun _ => false
  /-- Whether removing a file is denied. -/
  remove : Path → Bool := fun _ => false

/-- **A tree of files and what is denied on it.** -/
structure Volume where
  /-- The tree. -/
  tree : FileTree
  /-- The denials. -/
  denied : Denials := {}

namespace Volume

/-! ## Reading -/

/-- What stands at a path. -/
def node (v : Volume) (p : Path) : Except FileError FileTree := do
  if v.denied.inspect p then throw .denied
  p.check
  let place ← v.tree.locate p
  match v.tree.lookup place with
  | none => throw .notFound
  | some t => return t

/-- Whether a path leads to a tree of a kind. A path that leads nowhere does
not. -/
def isKind (v : Volume) (kind : FileTree → Bool) (p : Path) :
    Except FileError Bool :=
  match v.node p with
  | .ok t => .ok (kind t)
  | .error e => if e.meansAbsent then .ok false else .error e

/-- **Whether a directory stands at a path.** -/
def isDir (v : Volume) (p : Path) : Except FileError Bool :=
  v.isKind FileTree.isDir p

/-- **Whether a plain file stands at a path.** -/
def isFile (v : Volume) (p : Path) : Except FileError Bool :=
  v.isKind FileTree.isFile p

/-- Whether anything stands at a path. -/
def isThere (v : Volume) (p : Path) : Except FileError Bool :=
  v.isKind (fun _ => true) p

/-- **The paths of a directory's entries**, by name. -/
def list (v : Volume) (p : Path) : Except FileError (List Path) := do
  if v.denied.list p then throw .denied
  p.check
  let place ← v.tree.locate p
  v.tree.checkDir place
  return (((v.tree.lookup place).map FileTree.names).getD []).map p.child

/-- The plain file at a path, opened for reading. Reading is never denied. -/
def open? (v : Volume) (p : Path) : Except FileError File := do
  p.check
  let place ← v.tree.locate p
  match v.tree.lookup place with
  | none => throw .notFound
  | some (.dir _) => throw .isDirectory
  | some (.file f) => return f

/-! ## Changing -/

/-- The same denials on another tree. -/
def withTree (v : Volume) (t : FileTree) : Volume :=
  { v with tree := t }

/-- **The tree without the plain file at a path.** -/
def unlink (v : Volume) (p : Path) : Except FileError FileTree := do
  if v.denied.remove p then throw .denied
  p.check
  let _ ← v.tree.locateParent p
  if p.endsNameless then throw .isDirectory
  let place ← v.tree.locate p
  match v.tree.lookup place with
  | none => throw .notFound
  | some (.dir _) => throw .isDirectory
  | some (.file _) => return v.tree.remove place

/-- A directory that could not be made is fine if it is there. -/
def excuse (v : Volume) (p : Path) (e : FileError) : Except FileError Unit :=
  if e.isSystem then
    match v.isDir p with
    | .ok true => .ok ()
    | .ok false => .error e
    | .error e => .error e
  else .error e

/-- The greatest number of missing directories, one in the other, that are
made at once. -/
def maxMissing : Nat := 985

/-- Makes the directory whose components are given innermost first, and those
above it that are missing, unless more than `left` are. -/
def makeDirsBelow (v : Volume) (anchor : Anchor) :
    (left : Nat) → List Text → FileTree × Except FileError Unit
  | 0, _ => (v.tree, .error .tooManyMissing)
  | _ + 1, [] => (v.tree, v.excuse ⟨anchor, []⟩ .alreadyExists)
  | left + 1, name :: outer =>
    let p : Path := ⟨anchor, (name :: outer).reverse⟩
    match v.tree.makeDir p with
    | .ok t => (t, .ok ())
    | .error .notFound =>
      match v.makeDirsBelow anchor left outer with
      | (t, .error e) => (t, .error e)
      | (t, .ok ()) =>
        match t.makeDir p with
        | .ok t => (t, .ok ())
        | .error .notFound => (t, .error .notFound)
        | .error e => (t, (v.withTree t).excuse p e)
    | .error e => (v.tree, v.excuse p e)

/-- **The tree with a directory at a path**, and with those above it, and
whether it came to be. What was made on the way stays in either case. -/
def makeDirs (v : Volume) (p : Path) : FileTree × Except FileError Unit :=
  v.makeDirsBelow p.anchor maxMissing p.parts.reverse

end Volume

end Lexicon
