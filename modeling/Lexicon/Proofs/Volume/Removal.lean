import Lexicon.Proofs.FileTree.Changes
import Lexicon.Proofs.Volume.Node

/-!
# Removing plain files

What a volume shows after a plain file was removed from it. The file is gone
and everything else is as it was (`unlink_eq_ok`), so all directories are
kept, and whether a path can be asked about at all does not change
(`isKind_eq_ok_of_keepsDirs`).
-/

namespace Lexicon.Volume

variable {v : Volume} {p : Path} {t : FileTree} {f : File}

/-- **What was removed** is the plain file at the path, and nothing else. -/
theorem unlink_eq_ok (h : v.unlink p = .ok t) :
    ∃ place f, v.tree.locate p = .ok place
      ∧ v.tree.kind? place = some (.file f)
      ∧ ∀ q, t.kind? q = if q = place then none else v.tree.kind? q := by
  unfold unlink at h
  by_cases hr : v.denied.remove p = true
  · rw [if_pos hr] at h
    exact absurd h throw_bind_ne_ok
  rw [if_neg hr] at h
  obtain ⟨⟨⟩, -, h⟩ := bind_eq_ok.1 h
  obtain ⟨-, -, h⟩ := bind_eq_ok.1 h
  by_cases hn : p.endsNameless = true
  · rw [if_pos hn] at h
    exact absurd h throw_bind_ne_ok
  rw [if_neg hn] at h
  obtain ⟨place, hl, h⟩ := bind_eq_ok.1 h
  obtain ⟨name, hdd, hp⟩ :=
    FileTree.exists_child_of_not_endsNameless (Bool.eq_false_iff.2 hn)
  have hne : place ≠ [] := by
    rw [hp] at hl
    exact FileTree.locate_child_ne_nil hdd hl
  rcases hk : v.tree.lookup place with - | (f | es)
  · rw [hk] at h
    exact absurd h throw_ne_ok
  · rw [hk] at h
    obtain rfl := Except.ok.inj h
    have hf := FileTree.kind?_eq_file_iff.2 hk
    exact ⟨place, f, hl, hf, FileTree.kind?_remove_file hf hne⟩
  · rw [hk] at h
    exact absurd h throw_ne_ok

/-- A plain file that is shown under a name can be removed, unless that is
denied. -/
theorem unlink_of_file? {name : Text} (hn : name ≠ Path.dotDot)
    (hr : v.denied.remove (p.child name) = false)
    (h : v.file? (p.child name) = some f) :
    ∃ t, v.unlink (p.child name) = .ok t := by
  obtain ⟨-, hc, place, hl, hk⟩ := node_eq_ok_iff.1 (file?_eq_some_iff.1 h)
  obtain ⟨above, ha, hd, -, -⟩ := (FileTree.locate_child_eq_ok_iff hn).1 hl
  have hparent : v.tree.locateParent (p.child name) = .ok above := by
    rw [FileTree.locateParent_eq_ok_iff, Path.parent_child]
    exact ⟨ha, hd⟩
  refine ⟨v.tree.remove place, ?_⟩
  unfold unlink
  rw [hr, hc, hparent, Path.endsNameless_child hn, hl]
  dsimp only [Bind.bind, Except.bind]
  rw [hk]
  rfl

theorem unlink_of_denied (h : v.denied.remove p = true) :
    v.unlink p = .error .denied := by
  unfold unlink
  rw [if_pos h]
  rfl

/-- Removing a plain file keeps every directory, and adds none. -/
theorem keepsDirs_of_unlink (h : v.unlink p = .ok t) :
    v.tree.KeepsDirs t ∧ t.KeepsDirs v.tree := by
  obtain ⟨place, f, -, hf, hview⟩ := unlink_eq_ok h
  constructor
  · intro q hq
    rw [hview, if_neg, hq]
    rintro rfl
    rw [hf] at hq
    exact absurd hq (by simp)
  · intro q hq
    rw [hview] at hq
    split at hq
    · exact absurd hq (by simp)
    · exact hq

/-- **A path that can be asked about** still can after directories were lost
and none was added. -/
theorem isKind_eq_ok_of_keepsDirs {kind : FileTree → Bool}
    (h : t.KeepsDirs v.tree) (hp : ∃ answer, v.isKind kind p = .ok answer) :
    ∃ answer, (v.withTree t).isKind kind p = .ok answer := by
  cases hd : (v.withTree t).isKind kind p with
  | ok answer => exact ⟨answer, rfl⟩
  | error e =>
    obtain ⟨hn, hpresent⟩ := isKind_eq_error_iff.1 hd
    have hnode : v.node p = .error e := by
      rw [node_eq_error_iff] at hn ⊢
      refine hn.imp_right fun ⟨hi, hn⟩ => ⟨hi, hn.imp_right fun ⟨hc, hn⟩ => ?_⟩
      refine ⟨hc, hn.imp (fun hl => ?_) ?_⟩
      · refine FileTree.walk_mono h (fun e' he => ?_) hl
        rw [← Except.error.inj he]
        exact hpresent
      · rintro ⟨rfl, -⟩
        exact absurd hpresent (by decide)
    obtain ⟨answer, ha⟩ := hp
    have herr : v.isKind kind p = .error e :=
      isKind_eq_error_iff.2 ⟨hnode, hpresent⟩
    rw [ha] at herr
    exact absurd herr (by simp)

end Lexicon.Volume
