import Lexicon.FileTree.Basic
import Lexicon.Log

/-!
# Effects

An operation that changes files leaves a tree, a value and what it reported,
whether it went well or not: a value that is an error stands beside the tree
that the operation left behind.
-/

namespace Lexicon

/-- **What an operation on files leaves behind.** -/
structure Effect (α : Type) where
  /-- The tree afterwards. -/
  tree : FileTree
  /-- The value. -/
  value : α
  /-- What was reported, oldest first. -/
  log : Log := []

namespace Effect

/-- The same effect with another value. -/
def map {α β : Type} (f : α → β) (e : Effect α) : Effect β :=
  ⟨e.tree, f e.value, e.log⟩

/-- **One operation after another**: what the first leaves behind is where the
second starts, unless the first failed. -/
def andThen {ε α β : Type} (e : Effect (Except ε α))
    (next : FileTree → α → Effect (Except ε β)) : Effect (Except ε β) :=
  match e.value with
  | .error error => ⟨e.tree, .error error, e.log⟩
  | .ok a =>
    let rest := next e.tree a
    ⟨rest.tree, rest.value, e.log ++ rest.log⟩

/-- The effect that only gives a value. -/
def pure {ε α : Type} (t : FileTree) (a : α) : Effect (Except ε α) :=
  ⟨t, .ok a, []⟩

/-- The effect that only reports. -/
def report {ε : Type} (t : FileTree) (level : Level) (message : Text) :
    Effect (Except ε Unit) :=
  ⟨t, .ok (), [⟨level, message⟩]⟩

end Effect

end Lexicon
