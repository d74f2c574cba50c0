import Lexicon.Content
import Lexicon.Text.Order

/-!
# File trees

A tree is a plain file or a directory of named trees, and a place in it is
the list of names that leads there from the top. Three operations suffice:
`lookup` says what stands at a place, `put` sets it and `remove` takes it
away. Each goes down its place one name at a time, so each is pinned down by
what it does to one directory, and `names` lists a directory in order.

The same name may stand twice in the list behind a directory; the first one
counts, and writing or removing deals with all of them.
-/

namespace Lexicon

/-- **A plain file**: what it holds and when it was written, in nanoseconds. -/
structure File where
  /-- What it holds. -/
  content : Content
  /-- When it was written, in nanoseconds since the epoch. -/
  modified : Int := 0
  deriving DecidableEq

/-- **A tree of files.** -/
inductive FileTree where
  /-- A plain file. -/
  | file (file : File)
  /-- A directory and what it holds. -/
  | dir (entries : List (Text × FileTree))

/-- **A place in a tree**: the names that lead to it from the top. -/
abbrev Place := List Text

namespace FileTree

/-- The tree that a directory's entries give a name. -/
def child? (entries : List (Text × FileTree)) (name : Text) : Option FileTree :=
  entries.lookup name

/-- The entries without those of a name. -/
def without (entries : List (Text × FileTree)) (name : Text) :
    List (Text × FileTree) :=
  entries.filter (·.1 != name)

/-- **What stands at a place.** -/
def lookup : FileTree → Place → Option FileTree
  | t, [] => some t
  | .file _, _ :: _ => none
  | .dir entries, name :: place =>
    match child? entries name with
    | none => none
    | some t => t.lookup place

/-- **The tree with another one put at a place**, and with the directories on
the way there made where they are missing. Below a plain file nothing can be
put. -/
def put : FileTree → Place → FileTree → FileTree
  | _, [], new => new
  | .file f, _ :: _, _ => .file f
  | .dir entries, name :: place, new =>
    let old := (child? entries name).getD (.dir [])
    .dir ((name, old.put place new) :: without entries name)

/-- **The tree with what stands at a place taken away.** -/
def remove : FileTree → Place → FileTree
  | t, [] => t
  | .file f, _ :: _ => .file f
  | .dir entries, [name] => .dir (without entries name)
  | .dir entries, name :: next :: place =>
    match child? entries name with
    | none => .dir entries
    | some t => .dir ((name, t.remove (next :: place)) :: without entries name)

/-- **The names in a directory**, in order; a plain file has none. -/
def names : FileTree → List Text
  | .file _ => []
  | .dir entries => Text.sortNames (entries.map (·.1))

/-- **Everything below a directory**, each tree with its place. -/
def descendants : FileTree → List (Place × FileTree)
  | .file _ => []
  | .dir entries =>
    entries.attach.flatMap fun ⟨(name, t), _⟩ =>
      ([name], t) :: t.descendants.map fun (place, s) => (name :: place, s)
decreasing_by
  have h := List.sizeOf_lt_of_mem ‹_›
  simp only [FileTree.dir.sizeOf_spec, Prod.mk.sizeOf_spec] at *
  omega

/-- Whether a tree is a directory. -/
def isDir : FileTree → Bool
  | .dir _ => true
  | .file _ => false

/-- Whether a tree is a plain file. -/
def isFile (t : FileTree) : Bool :=
  !t.isDir

end FileTree

end Lexicon
