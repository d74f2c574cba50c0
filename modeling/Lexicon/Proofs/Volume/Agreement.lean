import Mathlib.Data.List.Induction
import Lexicon.Proofs.Volume.Entries

/-!
# Volumes that agree

Two volumes that differ at some places alone show the same wherever none of
these places comes in (`Volume.AgreesOff`). A directory that is found at the same
place on both, with none of its entries among the places in question, is the same
directory on both (`AgreesOff.sameDirectory`), and so is all that is listed in
it.
-/

namespace Lexicon

namespace FileTree

variable {t t' : FileTree} {here place : Place} {name : Text}

theorem checkDir_congr (h : t'.kind? here = t.kind? here) :
    t'.checkDir here = t.checkDir here := by
  unfold kind? at h
  unfold checkDir
  revert h
  rcases t.lookup here with - | (f | es) <;>
    rcases t'.lookup here with - | (f' | es') <;> simp [topKind]

/-- **An entry is found alike** in two trees that show the same directory at the
same place. -/
theorem locate_child_congr {p : Path} (hl : t'.locate p = t.locate p)
    (hk : ∀ above, t.locate p = .ok above → t'.kind? above = t.kind? above) :
    t'.locate (p.child name) = t.locate (p.child name) := by
  rw [locate_child, locate_child, hl]
  cases ha : t.locate p with
  | error e => rfl
  | ok above =>
    show t'.walk above [name] = t.walk above [name]
    unfold walk
    rw [checkDir_congr (hk above ha)]
    rfl

/-- A step leads to an entry of the directory that it starts from, or out of
it. -/
theorem eq_of_locate_child {p : Path} (h : t.locate (p.child name) = .ok place) :
    ∃ above', t.locate p = .ok above' ∧ (place = above above'
      ∨ place = above' ++ [Utf8.respell name]) := by
  by_cases hn : name = Path.dotDot
  · rw [locate_child] at h
    obtain ⟨above', ha, h⟩ := bind_eq_ok.1
      (show (t.locate p >>= fun above => t.walk above [name]) = _ from h)
    refine ⟨above', ha, Or.inl ?_⟩
    unfold walk at h
    split at h
    · exact absurd h (by simp)
    · rw [if_pos hn] at h
      exact (Except.ok.inj h).symm
  · obtain ⟨above', ha, -, -, rfl⟩ := (locate_child_eq_ok_iff hn).1 h
    exact ⟨above', ha, Or.inr rfl⟩

theorem above_prefix (place : Place) : above place <+: place := by
  unfold above
  split
  · exact List.prefix_refl _
  · exact List.dropLast_prefix _

end FileTree

namespace Volume

variable {v w : Volume} {p : Path} {name : Text} {off : Place → Prop}

/-! ## What a path shows -/

/-- **What kind of thing a volume shows at a path**, or why it shows none. -/
def shownKind (v : Volume) (p : Path) : Except FileError Kind :=
  (v.node p).map FileTree.topKind

theorem isDir_congr (h : w.shownKind p = v.shownKind p) :
    w.isDir p = v.isDir p := by
  unfold shownKind at h
  unfold isDir isKind
  revert h
  rcases v.node p with e | (f | es) <;> rcases w.node p with e' | (f' | es') <;>
    simp +contextual [Except.map, FileTree.topKind, FileTree.isDir]

theorem isFile_congr (h : w.shownKind p = v.shownKind p) :
    w.isFile p = v.isFile p := by
  unfold shownKind at h
  unfold isFile isKind
  revert h
  rcases v.node p with e | (f | es) <;> rcases w.node p with e' | (f' | es') <;>
    simp +contextual [Except.map, FileTree.topKind, FileTree.isFile,
      FileTree.isDir]

theorem file?_congr (h : w.shownKind p = v.shownKind p) :
    w.file? p = v.file? p := by
  unfold shownKind at h
  unfold file?
  revert h
  rcases v.node p with e | (f | es) <;> rcases w.node p with e' | (f' | es') <;>
    simp +contextual [Except.map, FileTree.topKind]

/-- **The kind that is shown** is that of the place that the path leads to, if it
may be asked about and reaches the system. -/
theorem shownKind_eq (v : Volume) (p : Path) :
    v.shownKind p
      = if v.denied.inspect p then .error .denied
        else p.check.bind fun _ => (v.tree.locate p).bind fun place =>
          (v.tree.kind? place).elim (.error .notFound) .ok := by
  unfold shownKind node FileTree.kind?
  by_cases hi : v.denied.inspect p = true
  · rw [if_pos hi, if_pos hi]
    rfl
  · rw [if_neg hi, if_neg hi]
    cases p.check with
    | error e => rfl
    | ok u =>
      cases v.tree.locate p with
      | error e => rfl
      | ok place =>
        dsimp only [bind, Except.bind, pure, Except.pure]
        cases v.tree.lookup place <;> rfl

/-! ## Agreement -/

/-- **Two volumes agree off some places**, and all that is below these: the same
is denied on both, and everywhere else the same stands. -/
structure AgreesOff (v w : Volume) (off : Place → Prop) : Prop where
  /-- The same is denied. -/
  denied_eq : w.denied = v.denied
  /-- What is below the places in question is in question. -/
  below : ∀ q name, off q → off (q ++ [name])
  /-- Everywhere else the same stands. -/
  kind?_eq : ∀ q, ¬ off q → w.tree.kind? q = v.tree.kind? q

/-- **The same directory on two volumes**: it shows the same itself, the same
names, and the same at each of them. -/
structure SameDirectory (v w : Volume) (p : Path) : Prop where
  /-- The same may be listed. -/
  denied_eq : w.denied = v.denied
  /-- It shows the same. -/
  self : w.shownKind p = v.shownKind p
  /-- It lists the same names. -/
  names : w.namesIn p = v.namesIn p
  /-- It shows the same at every name. -/
  entries : ∀ name, w.shownKind (p.child name) = v.shownKind (p.child name)

namespace SameDirectory

theorem filesIn_eq (h : v.SameDirectory w p) : w.filesIn p = v.filesIn p := by
  unfold filesIn
  rw [h.names]
  exact List.filterMap_congr fun name _ => by rw [file?_congr (h.entries name)]

end SameDirectory

namespace AgreesOff

/-- What is in question is so with all that is below it. -/
theorem of_prefix (h : v.AgreesOff w off) {q q' : Place} (hq : off q)
    (hpre : q <+: q') : off q' := by
  obtain ⟨more, rfl⟩ := hpre
  induction more using List.reverseRecOn with
  | nil => rwa [List.append_nil]
  | append_singleton more name ih =>
    rw [← List.append_assoc]
    exact h.below _ name ih

/-- A path that leads to the same place, and to none in question, shows the
same. -/
theorem shownKind_eq_of_locate (h : v.AgreesOff w off)
    (hl : w.tree.locate p = v.tree.locate p)
    (hoff : ∀ place, v.tree.locate p = .ok place → ¬ off place) :
    w.shownKind p = v.shownKind p := by
  rw [shownKind_eq, shownKind_eq, h.denied_eq, hl]
  cases hp : v.tree.locate p with
  | error e => rfl
  | ok place =>
    dsimp only [Except.bind]
    rw [h.kind?_eq place (hoff place hp)]

/-- **A directory that is found at the same place**, with none of its entries in
question, is the same. -/
theorem sameDirectory (h : v.AgreesOff w off)
    (hl : w.tree.locate p = v.tree.locate p)
    (hoff : ∀ place name, v.tree.locate p = .ok place → ¬ off (place ++ [name])) :
    v.SameDirectory w p := by
  have hself : ∀ place, v.tree.locate p = .ok place → ¬ off place :=
    fun place hp hq => hoff place [] hp (h.below place [] hq)
  refine ⟨h.denied_eq, h.shownKind_eq_of_locate hl hself, ?_, fun name => ?_⟩
  · refine (pairwise_namesIn w p).eq_of_mem_iff (pairwise_namesIn v p)
      fun name => ?_
    rw [mem_namesIn_iff, mem_namesIn_iff, h.denied_eq, hl]
    refine and_congr_right fun _ => and_congr_right fun _ =>
      and_congr_right fun _ => exists_congr fun place =>
        and_congr_right fun hp => ?_
    rw [h.kind?_eq _ (hoff place name hp)]
  · refine h.shownKind_eq_of_locate (FileTree.locate_child_congr hl
      fun above ha => h.kind?_eq _ (hself above ha)) fun place hp hq => ?_
    obtain ⟨above', ha, rfl | rfl⟩ := FileTree.eq_of_locate_child hp
    · exact hself above' ha (h.of_prefix hq (FileTree.above_prefix above'))
    · exact hoff above' _ ha hq

end AgreesOff

end Volume

end Lexicon
