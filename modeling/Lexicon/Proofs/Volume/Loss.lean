import Lexicon.Proofs.Text.Utf8.Respelling
import Lexicon.Proofs.Volume.Entries

/-!
# Volumes that lost plain files

What a volume shows after plain files were lost from it, in the terms of what
it showed before. `Volume.Lost` says that nothing else changed. Every path leads
where it led, so a directory is shown exactly where it was, and a plain file
unless it is one of the lost ones; the listings of a directory are what they
were without those (`Lost.filterMap_filesIn`, `Lost.dirsIn_eq`).
-/

namespace Lexicon.Volume

/-- **A volume lost plain files of a kind**: the same is denied, and where a
place does not have what it had there was such a file, under a name as
directories show them. -/
structure Lost (v u : Volume) (gone : File → Prop) : Prop where
  /-- The same is denied. -/
  denied_eq : u.denied = v.denied
  /-- Every place has what it had, or had a file that is lost. -/
  kind? : ∀ q, u.tree.kind? q = v.tree.kind? q
    ∨ (u.tree.kind? q = none ∧ (∃ f, gone f ∧ v.tree.kind? q = some (.file f))
      ∧ ∃ above name, q = above ++ [name] ∧ Utf8.respell name = name
        ∧ name ≠ Path.dotDot)

namespace Lost

variable {v u : Volume} {gone : File → Prop} {p : Path} {name : Text} {f : File}
  {place : Place}

theorem keepsDirs (h : v.Lost u gone) : v.tree.KeepsDirs u.tree := by
  intro q hq
  obtain he | ⟨-, ⟨f, -, hf⟩, -⟩ := h.kind? q
  · rw [he, hq]
  · rw [hf] at hq
    exact absurd hq (by simp)

/-- No directory is new. -/
theorem keepsDirs' (h : v.Lost u gone) : u.tree.KeepsDirs v.tree := by
  intro q hq
  obtain he | ⟨hn, -, -⟩ := h.kind? q
  · rw [← he, hq]
  · rw [hn] at hq
    exact absurd hq (by simp)

theorem locate_eq_ok_iff (h : v.Lost u gone) :
    u.tree.locate p = .ok place ↔ v.tree.locate p = .ok place :=
  ⟨FileTree.locate_mono h.keepsDirs', FileTree.locate_mono h.keepsDirs⟩

/-- A plain file that is shown was shown before. -/
theorem file?_of_file? (h : v.Lost u gone) (hf : u.file? p = some f) :
    v.file? p = some f := by
  obtain ⟨hi, hc, place, hl, hk⟩ := file?_eq_some_iff_kind?.1 hf
  rw [h.denied_eq] at hi
  refine file?_eq_some_iff_kind?.2
    ⟨hi, hc, place, h.locate_eq_ok_iff.1 hl, ?_⟩
  obtain he | ⟨hn, -, -⟩ := h.kind? place
  · rw [← he, hk]
  · rw [hn] at hk
    exact absurd hk (by simp)

/-- **A plain file is shown as before**, or it is lost. -/
theorem file?_eq_some_or_gone (h : v.Lost u gone) (hf : v.file? p = some f) :
    u.file? p = some f ∨ gone f := by
  obtain ⟨hi, hc, place, hl, hk⟩ := file?_eq_some_iff_kind?.1 hf
  obtain he | ⟨-, ⟨g, hg, hgone⟩, -⟩ := h.kind? place
  · left
    refine file?_eq_some_iff_kind?.2 ⟨by rw [h.denied_eq]; exact hi, hc, place,
      h.locate_eq_ok_iff.2 hl, ?_⟩
    rw [he, hk]
  · right
    rw [hk] at hgone
    obtain rfl : f = g := by simpa using hgone
    exact hg

/-- **A directory is shown exactly where one was.** -/
theorem shows_isDir (h : v.Lost u gone) (p : Path) :
    u.shows FileTree.isDir p = v.shows FileTree.isDir p := by
  rw [Bool.eq_iff_iff, shows_isDir_iff_kind?, shows_isDir_iff_kind?,
    h.denied_eq]
  refine and_congr_right fun _ => and_congr_right fun _ =>
    exists_congr fun place => and_congr h.locate_eq_ok_iff ?_
  exact ⟨h.keepsDirs' place, h.keepsDirs place⟩

/-- What is listed was listed before. -/
theorem namesIn_subset (h : v.Lost u gone) (p : Path) :
    u.namesIn p ⊆ v.namesIn p := by
  intro name hname
  obtain ⟨hlist, hi, hc, place, hl, hthere⟩ := mem_namesIn_iff.1 hname
  rw [h.denied_eq] at hlist hi
  refine mem_namesIn_iff.2 ⟨hlist, hi, hc, place, h.locate_eq_ok_iff.1 hl, ?_⟩
  obtain he | ⟨hn, -, -⟩ := h.kind? (place ++ [name])
  · rw [← he]
    exact hthere
  · exact absurd hn hthere

/-- **What is listed no more** is a file that is lost, and no directory. -/
theorem of_not_mem_namesIn (h : v.Lost u gone) (hname : name ∈ v.namesIn p)
    (hlost : name ∉ u.namesIn p) :
    (∀ f, v.file? (p.child name) = some f → gone f)
      ∧ v.shows FileTree.isDir (p.child name) = false := by
  obtain ⟨hlist, hi, hc, place, hl, hthere⟩ := mem_namesIn_iff.1 hname
  obtain he | ⟨-, ⟨g, hg, hk⟩, above, name', heq, hspelled, hne⟩ :=
    h.kind? (place ++ [name])
  · -- what stands there still does, so it is listed
    refine absurd (mem_namesIn_iff.2 ?_) hlost
    rw [h.denied_eq]
    exact ⟨hlist, hi, hc, place, h.locate_eq_ok_iff.2 hl, by rwa [he]⟩
  obtain ⟨rfl, hlast⟩ := List.append_inj' heq rfl
  obtain rfl : name = name' := List.singleton_inj.1 hlast
  -- the entry of that name is the file that is lost
  have hentry : ∀ q, v.tree.locate (p.child name) = .ok q →
      q = place ++ [name] := by
    intro q hq
    obtain ⟨above, ha, -, -, rfl⟩ := (FileTree.locate_child_eq_ok_iff hne).1 hq
    rw [hspelled, Except.ok.inj (ha.symm.trans hl)]
  constructor
  · intro f hf
    obtain ⟨-, -, q, hq, hkq⟩ := file?_eq_some_iff_kind?.1 hf
    rw [hentry q hq, hk] at hkq
    obtain rfl : g = f := by simpa using hkq
    exact hg
  · rw [Bool.eq_false_iff]
    intro hshows
    obtain ⟨-, -, q, hq, hkq⟩ := shows_isDir_iff_kind?.1 hshows
    rw [hentry q hq, hk] at hkq
    exact absurd hkq (by simp)

/-- **What the plain files of a directory give** does not change, if the lost
ones gave nothing. -/
theorem filterMap_filesIn {α : Type} (h : v.Lost u gone) (p : Path)
    {g : Text × File → Option α} (hg : ∀ name f, gone f → g (name, f) = none) :
    (u.filesIn p).filterMap g = (v.filesIn p).filterMap g := by
  unfold filesIn
  rw [List.filterMap_filterMap, List.filterMap_filterMap]
  refine filterMap_namesIn_of_subset (h.namesIn_subset p) (fun name _ => ?_)
    fun name hname hlost => ?_
  · cases hf : v.file? (p.child name) with
    | none =>
      cases hu : u.file? (p.child name) with
      | none => rfl
      | some f =>
        rw [h.file?_of_file? hu] at hf
        exact absurd hf (by simp)
    | some f =>
      obtain hu | hgone := h.file?_eq_some_or_gone hf
      · rw [hu]
      · cases hu : u.file? (p.child name) with
        | none => exact (hg name f hgone).symm
        | some f' =>
          rw [h.file?_of_file? hu] at hf
          rw [Option.some.inj hf]
  · cases hf : v.file? (p.child name) with
    | none => rfl
    | some f =>
      exact hg name f ((h.of_not_mem_namesIn hname hlost).1 f hf)

/-- **The directories in a directory** are what they were. -/
theorem dirsIn_eq (h : v.Lost u gone) (p : Path) : u.dirsIn p = v.dirsIn p := by
  unfold dirsIn
  rw [← List.filterMap_eq_filter, ← List.filterMap_eq_filter]
  refine filterMap_namesIn_of_subset (h.namesIn_subset p) (fun name _ => ?_)
    fun name hname hlost => ?_
  · rw [Option.guard, Option.guard, h.shows_isDir]
  · rw [Option.guard, (h.of_not_mem_namesIn hname hlost).2,
      if_neg Bool.false_ne_true]

end Lost

end Lexicon.Volume
