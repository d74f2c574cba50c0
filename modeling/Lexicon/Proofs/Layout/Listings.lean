import Mathlib.Data.List.Basic
import Lexicon.Layout
import Lexicon.Proofs.FileTree.Directories
import Lexicon.Proofs.Volume.Node

/-!
# What the listings list

A listing asks for the directory, lists it and asks for each entry, and a
refusal anywhere costs only what was asked for. `value_listKind` says what is
left: the entries, by name, at which the volume shows a tree of the kind that
was wanted. Whatever a refusal does besides is a line of the log.
-/

namespace Lexicon.Layout

variable (v : Volume) (kind : FileTree → Bool) (p : Path)

/-- An entry is kept exactly where a tree of the kind is shown. -/
@[simp] theorem value_keepKind :
    (keepKind v kind p).value = if v.shows kind p then some p else none := by
  unfold keepKind
  rcases hk : v.isKind kind p with e | (_ | _)
  · rw [Volume.shows_eq_false (by rw [hk]; simp)]
    rfl
  · rw [Volume.shows_eq_false (by rw [hk]; simp)]
    rfl
  · rw [Volume.isKind_eq_ok_true_iff.1 hk]
    rfl

/-- Without a directory there are no names. -/
theorem namesIn_of_not_isDir {v : Volume} {p : Path}
    (h : v.shows FileTree.isDir p = false) : v.namesIn p = [] := by
  unfold Volume.namesIn
  split
  · rfl
  · unfold Volume.shows at h
    rcases hn : v.node p with e | (f | es)
    · rfl
    · rfl
    · rw [hn] at h
      exact absurd h (by simp [FileTree.isDir])

/-- **A listing lists the entries of the kind**, by name, and nothing where no
directory can be listed. -/
theorem value_listKind :
    (listKind v kind p).value
      = ((v.namesIn p).filter fun name => v.shows kind (p.child name)).map
        p.child := by
  unfold listKind
  rcases hd : v.isDir p with e | (_ | _)
  · rw [namesIn_of_not_isDir
      (Volume.shows_eq_false (by rw [← Volume.isDir, hd]; simp))]
    rfl
  · rw [namesIn_of_not_isDir
      (Volume.shows_eq_false (by rw [← Volume.isDir, hd]; simp))]
    rfl
  · obtain ⟨t, hn, ht⟩ := Volume.shows_eq_true_iff.1
      (Volume.isKind_eq_ok_true_iff.1 hd)
    dsimp only
    rw [Volume.list_of_node hn ht]
    by_cases hl : v.denied.list p = true
    · rw [if_pos hl, Volume.namesIn, if_pos hl]
      rfl
    · rw [if_neg hl]
      show List.filterMap _ _ = _
      rw [List.map_map, List.filterMap_map, ← List.filterMap_eq_filter,
        List.map_filterMap]
      refine List.filterMap_congr fun name _ => ?_
      rw [Function.comp_apply, Function.comp_apply, value_keepKind,
        Option.guard]
      cases v.shows kind (p.child name) <;> rfl

@[simp] theorem value_listDirs :
    (listDirs v p).value = (v.dirsIn p).map p.child :=
  value_listKind v FileTree.isDir p

/-- **The plain files that are listed are those that are shown.** -/
@[simp] theorem value_listFiles :
    (listFiles v p).value = (v.filesIn p).map fun e => p.child e.1 := by
  unfold listFiles Volume.filesIn
  rw [value_listKind, ← List.filterMap_eq_filter, List.map_filterMap,
    List.map_filterMap]
  refine List.filterMap_congr fun name _ => ?_
  rw [Option.guard, Volume.shows_isFile]
  cases v.file? (p.child name) <;> rfl

end Lexicon.Layout
