import Lexicon.Proofs.Staging.Run

/-!
# Staged files with a free destination

What has to hold for a staged file to be moved at all: the system takes the
path of its destination, and neither a plain file where a directory is needed
nor a directory where the file is needed stands in the way (`Layout.IsFree`).
Where the directory of the locale may be inspected this is enough
(`promote_of_isFree`), and a file that waits alone is then all that a run of
promotions moves (`promoteAll_of_isFree`).
-/

namespace Lexicon.Layout

variable {l : Layout} {t : FileTree} {top : Place} {e : Text × File}
  {s : StagingName}

/-- **Nothing is in the way of a destination.** -/
structure IsFree (l : Layout) (t : FileTree) (top : Place)
    (s : StagingName) : Prop where
  /-- The identifier names an entry of the directory of the locale. -/
  name : Path.IsEntryName s.escapedId
  /-- It is not too long. -/
  short : Path.isTooLong s.escapedId = false
  /-- The directory of the locale has a name that is not too long. -/
  dirShort : Path.isTooLong (FileName.escape s.localeKey) = false
  /-- The path of the destination can be passed on and is not too long. -/
  check : (l.destination s).check = .ok ()
  /-- No plain file stands where the cache is to be. -/
  cache : ∀ f, t.kind? (cachePlace top) ≠ some (.file f)
  /-- No plain file stands where the directory of the locale is to be. -/
  dir : ∀ f, t.kind? (inCache top s.localeKey) ≠ some (.file f)
  /-- No directory stands where the file is to be. -/
  place : t.kind? (inCache top s.localeKey ++ [s.escapedId]) ≠ some .dir

theorem IsFree.destination_eq (h : l.IsFree t top s) :
    l.destination s = (l.cachePath s.localeKey).child s.escapedId :=
  h.name.appendText_eq _

/-- **A staged file whose destination is free** is promoted. -/
theorem promote_of_isFree {denied : Denials} (hat : l.IsAt t top)
    (he : l.IsStaged t top e) (hs : StagingName.ofText e.1 = .ok s)
    (hi : denied.inspect (l.cachePath s.localeKey) = false)
    (hfree : l.IsFree t top s) :
    ∃ t' log, l.promote ⟨t, denied⟩ (l.stagingRoot.child e.1)
        = ⟨t', .ok (l.destination s), log⟩
      ∧ Turn l top e t t' [l.destination s] := by
  have hkey := StagingName.localeKey_ne_nil hs
  have hcheck := hfree.check
  rw [hfree.destination_eq] at hcheck
  have ho : (l.cachePath s.localeKey).isOverlong = false :=
    Path.isOverlong_of_child (Path.check_eq_ok_iff.1 hcheck).2
  have ha := (exists_isDir_cachePath_iff (v := ⟨t, denied⟩) hat.root
    hat.kind?_top hkey he.checkText_root).2 ⟨hi, ho, fun _ => hfree.dirShort⟩
  obtain ⟨t₁, log, hgains, -, hthere, hpromote⟩ := promote_eq hat he hs ha
  have hdir := hthere hfree.dirShort hfree.cache hfree.dir
  have hat₁ := hat.mono hgains.keepsDirs
  have he₁ := he.gains hgains
  have hcache : t₁.kind? (cachePlace top) = some .dir :=
    FileTree.kind?_above (List.cons_ne_nil _ _) hdir
  have hfree₁ : t₁.kind? (inCache top s.localeKey ++ [s.escapedId])
      ≠ some .dir := by
    obtain hsame | ⟨-, -, hnew⟩ := hgains (inCache top s.localeKey ++ [s.escapedId])
    · rw [hsame]
      exact hfree.place
    · -- the directories that were added lie above
      exact absurd hnew (by simp [IsCacheDir, inCache, cachePlace])
  -- so the move goes well in the tree with the directories
  obtain ⟨t', hmove⟩ := FileTree.rename_of_free he₁.check hcheck
    he.name.ne_dotDot hfree.name.ne_dotDot (he₁.locate hat₁) he₁.there
    (hat₁.locate_cachePath hkey hfree.dirShort hcache) hdir hfree.short
    (by rw [hfree.name.respell_eq]; exact hfree₁)
  rw [← hfree.destination_eq] at hmove
  rw [hmove] at hpromote
  obtain ⟨t'', log', -, -, hdone | ⟨⟨error, hrefused⟩, -⟩⟩ :=
    promote_of_ofText hat he hs ha
  · exact ⟨t'', log', hdone⟩
  · rw [hpromote] at hrefused
    exact absurd (congrArg Effect.value hrefused) (by simp)

/-- **A staged file that waits alone** and has a free destination is what a run
of promotions moves. -/
theorem promoteAll_of_isFree {v : Volume} (hd : v.denied = {})
    (hstaged : l.staged v = [e]) (hat : l.IsAt v.tree top)
    (he : l.IsStaged v.tree top e) (hs : StagingName.ofText e.1 = .ok s)
    (hfree : l.IsFree v.tree top s) :
    (l.promoteAll v).value = .ok [l.destination s]
      ∧ Turn l top e v.tree (l.promoteAll v).tree [l.destination s] := by
  have hfiles : (l.stagedFiles v).value = [l.stagingRoot.child e.1] := by
    unfold stagedFiles
    rw [value_listFiles, ← staged, hstaged]
    rfl
  have hi : ({} : Denials).inspect (l.cachePath s.localeKey) = false := rfl
  obtain ⟨t', log, hpromote, hturn⟩ := promote_of_isFree hat he hs hi hfree
  unfold promoteAll
  dsimp only
  rw [hfiles, hd, List.foldl_cons, List.foldl_nil,
    Promotion.step_of_promote rfl hpromote]
  exact ⟨rfl, hturn⟩

end Lexicon.Layout
