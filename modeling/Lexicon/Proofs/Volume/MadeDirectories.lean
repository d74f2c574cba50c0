import Lexicon.Proofs.FileTree.Changes
import Lexicon.Proofs.Volume.Node

/-!
# What making directories leaves behind

However many directories are made at once, and whether all of them can be:
where something stood it still stands, and nothing but directories is new
(`gains_makeDirs`). If it goes well, a directory stands at the path, be it a
new one or one that was there (`hasDirAt_of_makeDirs`).
-/

namespace Lexicon.Volume

variable {v : Volume} {p : Path} {t : FileTree} {e : FileError}

/-- What passes for a directory that is there is one. -/
theorem hasDirAt_of_excuse (h : v.excuse p e = .ok ()) : v.tree.HasDirAt p := by
  have hdir : v.isDir p = .ok true := by
    unfold excuse at h
    split at h
    · split at h
      · assumption
      · exact absurd h (by simp)
      · exact absurd h (by simp)
    · exact absurd h (by simp)
  obtain ⟨s, hs, hk⟩ := shows_eq_true_iff.1 (isKind_eq_ok_true_iff.1 hdir)
  obtain ⟨-, hc, place, hl, hp⟩ := node_eq_ok_iff.1 hs
  cases s with
  | file f => exact absurd hk Bool.false_ne_true
  | dir es => exact ⟨hc, place, hl, FileTree.kind?_eq_dir_iff.2 ⟨es, hp⟩⟩

/-- **Only directories are new** where directories are made, and if it goes
well, the innermost one is there. -/
theorem makeDirsBelow_spec (v : Volume) (anchor : Anchor) (left : Nat)
    (names : List Text) :
    v.tree.Gains (v.makeDirsBelow anchor left names).1 (fun _ => True)
      ∧ ((v.makeDirsBelow anchor left names).2 = .ok () →
        (v.makeDirsBelow anchor left names).1.HasDirAt
          ⟨anchor, names.reverse⟩) := by
  induction left generalizing names with
  | zero =>
    unfold makeDirsBelow
    exact ⟨FileTree.Gains.refl _ _, fun h => absurd h (by simp)⟩
  | succ left ih =>
    cases names with
    | nil =>
      unfold makeDirsBelow
      refine ⟨FileTree.Gains.refl _ _, fun h => ?_⟩
      dsimp only at h ⊢
      exact hasDirAt_of_excuse h
    | cons name outer =>
      unfold makeDirsBelow
      dsimp only
      split
      · rename_i t hmake
        obtain ⟨hgains, hdir⟩ := FileTree.hasDirAt_of_makeDir hmake
        exact ⟨hgains, fun _ => hdir⟩
      · -- the directories above it first, and then once more
        obtain ⟨habove, -⟩ := ih outer
        split
        · rename_i t e' hrest
          rw [hrest] at habove
          exact ⟨habove, fun h => absurd h (by simp)⟩
        · rename_i t hrest
          rw [hrest] at habove
          split
          · rename_i t' hmake
            obtain ⟨hgains, hdir⟩ := FileTree.hasDirAt_of_makeDir hmake
            exact ⟨habove.trans hgains, fun _ => hdir⟩
          · exact ⟨habove, fun h => absurd h (by simp)⟩
          · exact ⟨habove, hasDirAt_of_excuse⟩
      · exact ⟨FileTree.Gains.refl _ _, hasDirAt_of_excuse⟩

/-- **Making directories adds directories** and nothing else, also where it
fails on the way. -/
theorem gains_makeDirs (v : Volume) (p : Path) :
    v.tree.Gains (v.makeDirs p).1 (fun _ => True) :=
  (makeDirsBelow_spec v p.anchor maxMissing p.parts.reverse).1

/-- **Directories that were made are there.** -/
theorem hasDirAt_of_makeDirs (h : (v.makeDirs p).2 = .ok ()) :
    (v.makeDirs p).1.HasDirAt p := by
  have hspec := (makeDirsBelow_spec v p.anchor maxMissing p.parts.reverse).2 h
  rw [List.reverse_reverse] at hspec
  exact hspec

end Lexicon.Volume
