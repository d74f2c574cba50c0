import Lexicon.Proofs.FileTree.Changes
import Lexicon.Proofs.Volume.Node

/-!
# Answers and refusals

Who works with files is ready for refusals of the system. The other errors tell
that the question never reached it: a path with a zero in it, say, or a position
that no offset can hold. `IsAnswered` says that an operation has no such error.

Asking for a kind never has one, because a path that does not reach the system
leads nowhere, and that is an answer (`Volume.isAnswered_isKind`). Nor has
listing a directory that was shown, or deleting at a path that was.
-/

namespace Lexicon

/-- **An operation is answered**: by a value or by a refusal of the system. -/
def IsAnswered {α : Type} (answer : Except FileError α) : Prop :=
  ∀ e, answer = .error e → e.isSystem = true

namespace IsAnswered

variable {α β : Type} {answer : Except FileError α}

@[simp] theorem ok (a : α) : IsAnswered (.ok a : Except FileError α) :=
  fun _ h => absurd h (by simp)

@[simp] theorem error {e : FileError} (h : e.isSystem = true) :
    IsAnswered (.error e : Except FileError α) :=
  fun _ he => Except.error.inj he ▸ h

theorem map (f : α → β) (h : IsAnswered answer) : IsAnswered (answer.map f) := by
  cases answer with
  | ok a => exact ok (f a)
  | error e => exact error (h e rfl)

/-- **One operation after another** is answered if both are. -/
theorem bind {next : α → Except FileError β} (h : IsAnswered answer)
    (hnext : ∀ a, answer = .ok a → IsAnswered (next a)) :
    IsAnswered (answer >>= next) := by
  intro e he
  obtain he | ⟨a, ha, he⟩ := bind_eq_error.1 he
  · exact h e he
  · exact hnext a ha e he

end IsAnswered

namespace Volume

variable {v : Volume} {p : Path}

/-- **Asking for a kind is answered**, whatever the path. -/
theorem isAnswered_isKind (v : Volume) (kind : FileTree → Bool) (p : Path) :
    IsAnswered (v.isKind kind p) := by
  intro e h
  obtain ⟨hn, hpresent⟩ := isKind_eq_error_iff.1 h
  obtain ⟨-, rfl⟩ | ⟨-, hc | ⟨-, hl | ⟨rfl, -⟩⟩⟩ := node_eq_error_iff.1 hn
  · rfl
  · obtain ht | ⟨-, -, hlength⟩ := bind_eq_error.1 hc
    · -- such a path leads nowhere, so the question has an answer
      obtain rfl | ⟨run, rfl⟩ := Path.checkText_eq_error ht
      · exact absurd hpresent (by decide)
      · exact absurd hpresent (by simp [FileError.meansAbsent])
    · exact FileTree.isSystem_of_checkLength hlength
  · exact FileTree.isSystem_of_walk hl
  · rfl

/-- **Listing a directory is answered** where one is shown. -/
theorem isAnswered_list (h : v.isDir p = .ok true) : IsAnswered (v.list p) := by
  obtain ⟨t, hn, ht⟩ := shows_eq_true_iff.1 (isKind_eq_ok_true_iff.1 h)
  rw [list_of_node hn ht]
  split
  · exact .error rfl
  · exact .ok _

/-- **Deleting is answered** at a path that reaches the system. -/
theorem isAnswered_unlink (hc : p.check = .ok ()) : IsAnswered (v.unlink p) := by
  intro e h
  unfold unlink at h
  by_cases hr : v.denied.remove p = true
  · rw [if_pos hr] at h
    rw [← throw_bind_eq_error.1 h]
    rfl
  rw [if_neg hr, hc] at h
  obtain h | ⟨-, -, h⟩ := bind_eq_error.1 h
  · exact absurd h (by simp)
  obtain h | ⟨-, -, h⟩ := bind_eq_error.1 h
  · exact FileTree.isSystem_of_locateParent h
  by_cases hn : p.endsNameless = true
  · rw [if_pos hn] at h
    rw [← throw_bind_eq_error.1 h]
    rfl
  rw [if_neg hn] at h
  obtain h | ⟨place, -, h⟩ := bind_eq_error.1 h
  · exact FileTree.isSystem_of_walk h
  rcases hk : v.tree.lookup place with - | (f | es) <;> rw [hk] at h
  · rw [← throw_eq_error.1 h]
    rfl
  · exact absurd h pure_ne_error
  · rw [← throw_eq_error.1 h]
    rfl

end Volume

end Lexicon
