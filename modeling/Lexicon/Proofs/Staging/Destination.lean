import Lexicon.Proofs.Layout.CacheDirectory
import Lexicon.Proofs.Text.Utf8.Respelling
import Lexicon.Staging.Name

/-!
# Where staged files go

The name of a staged file tells a locale key and an identifier, and with them
the file in the cache that it is to become. An identifier that is a single dot
names no file in the directory of its locale but that directory itself.
`Layout.destinationPlace` is the place of the destination, by the place of the
storage root, and different destinations have different places
(`destination_inj`).
-/

namespace Lexicon

namespace StagingName

variable {name : Text} {s : StagingName}

/-- **What a well-formed name says**: it is cut at its only separator into two
parts that are not empty, and the first one can be read. -/
theorem ofText_eq_ok_iff :
    ofText name = .ok s
      ↔ ∃ front, Text.cut? Layout.separator name = some (front, s.escapedId)
        ∧ front ≠ [] ∧ s.escapedId ≠ []
        ∧ s.escapedId.includes Layout.separator = false
        ∧ FileName.unescape front = .ok s.localeKey := by
  unfold ofText
  rcases Text.cut? Layout.separator name with - | ⟨front, id⟩
  · simp
  dsimp only
  by_cases hbad : front = [] ∨ id = [] ∨ id.includes Layout.separator = true
  · rw [if_pos hbad]
    refine iff_of_false (by simp) ?_
    rintro ⟨front', hcut, hfront, hid, hsep, -⟩
    obtain ⟨rfl, rfl⟩ := Prod.mk.inj (Option.some.inj hcut)
    obtain h | h | h := hbad
    · exact hfront h
    · exact hid h
    · rw [hsep] at h
      exact absurd h (by simp)
  · rw [if_neg hbad]
    simp only [not_or, Bool.not_eq_true] at hbad
    obtain ⟨hfront, hid, hsep⟩ := hbad
    constructor
    · intro h
      cases hkey : FileName.unescape front with
      | error e =>
        rw [hkey] at h
        exact absurd h (by simp)
      | ok key =>
        rw [hkey] at h
        rw [← Except.ok.inj h]
        exact ⟨front, rfl, hfront, hid, hsep, hkey⟩
    · rintro ⟨front', hcut, -, -, -, hkey⟩
      obtain ⟨rfl, rfl⟩ := Prod.mk.inj (Option.some.inj hcut)
      rw [hkey]

/-- **A malformed name is one that has the separator**, unless nothing is
told about it but that. -/
theorem missingSeparator_of_ofText {e : StagingNameError}
    (h : ofText name = .error e) :
    e.missingSeparator = !name.includes Layout.separator := by
  unfold ofText at h
  unfold Text.includes
  rcases hcut : Text.cut? Layout.separator name with - | ⟨front, id⟩
  · rw [hcut] at h
    rw [← Except.error.inj h]
    rfl
  · rw [hcut] at h
    dsimp only at h
    split at h
    · rw [← Except.error.inj h]
      rfl
    · split at h
      · rw [← Except.error.inj h]
        rfl
      · exact absurd h (by simp)

/-- A malformed name is the one that is reported. -/
theorem name_of_ofText {e : StagingNameError} (h : ofText name = .error e) :
    e.name = name := by
  unfold ofText at h
  split at h
  · rw [← Except.error.inj h]
  · split at h
    · rw [← Except.error.inj h]
    · split at h
      · rw [← Except.error.inj h]
      · exact absurd h (by simp)

theorem includes_of_ofText (h : ofText name = .ok s) :
    name.includes Layout.separator = true := by
  obtain ⟨front, hcut, -⟩ := ofText_eq_ok_iff.1 h
  unfold Text.includes
  rw [hcut]
  rfl

theorem localeKey_ne_nil (h : ofText name = .ok s) : s.localeKey ≠ [] := by
  obtain ⟨front, -, hfront, -, -, hkey⟩ := ofText_eq_ok_iff.1 h
  exact FileName.ne_nil_of_unescape hfront hkey

theorem exists_eq_append (h : ofText name = .ok s) :
    ∃ front, name = front ++ s.escapedId := by
  obtain ⟨front, hcut, -⟩ := ofText_eq_ok_iff.1 h
  exact ⟨_, Text.eq_of_cut? hcut⟩

theorem slash_not_mem_escapedId (h : ofText name = .ok s)
    (hn : Path.slash ∉ name) : Path.slash ∉ s.escapedId := by
  obtain ⟨front, rfl⟩ := exists_eq_append h
  exact fun hmem => hn (List.mem_append_right _ hmem)

/-- The names below the directory of the locale that lead to the
destination. -/
def tail (s : StagingName) : List Text :=
  if s.escapedId = Path.dot then [] else [s.escapedId]

end StagingName

namespace Layout

variable {l : Layout} {t : FileTree} {top place : Place} {name : Text}
  {s s' : StagingName}

/-- **The file in the cache** that a staged file is to become. -/
def destination (l : Layout) (s : StagingName) : Path :=
  (l.cachePath s.localeKey).appendText s.escapedId

/-- The destination that a name tells, if it is well-formed. -/
def destination? (l : Layout) (name : Text) : Option Path :=
  (StagingName.ofText name).toOption.map l.destination

/-- The place of a destination, by the place of the storage root. -/
def destinationPlace (top : Place) (s : StagingName) : Place :=
  inCache top s.localeKey ++ s.tail

/-- **A destination by its components**, if the identifier is a single one. -/
theorem destination_eq (l : Layout) (h : StagingName.ofText name = .ok s)
    (hn : Path.IsEntryName name) :
    l.destination s
      = ⟨l.root.anchor,
        l.root.parts ++ cacheName :: FileName.escape s.localeKey :: s.tail⟩ := by
  obtain ⟨-, -, -, hid, -⟩ := StagingName.ofText_eq_ok_iff.1 h
  have hslash := StagingName.slash_not_mem_escapedId h hn.slash_not_mem
  unfold destination StagingName.tail
  rw [Path.appendText_of_slash_not_mem _ hslash,
    cachePath_eq l (StagingName.localeKey_ne_nil h)]
  by_cases hdot : s.escapedId = Path.dot
  · rw [if_pos (Or.inr hdot), if_pos hdot]
    simp [Path.child]
  · rw [if_neg (not_or.2 ⟨hid, hdot⟩), if_neg hdot]
    simp [Path.child]

/-- **Different destinations have different places.** -/
theorem destination_inj {name' : Text} (h : StagingName.ofText name = .ok s)
    (h' : StagingName.ofText name' = .ok s') (hn : Path.IsEntryName name)
    (hn' : Path.IsEntryName name') :
    destinationPlace top s = destinationPlace top s'
      ↔ l.destination s = l.destination s' := by
  rw [destination_eq l h hn, destination_eq l h' hn']
  unfold destinationPlace inCache cachePlace
  simp

/-- **A destination can be passed on** if the path that waits for it can. -/
theorem checkText_destination (h : StagingName.ofText name = .ok s)
    (hn : Path.IsEntryName name)
    (ht : (l.stagingRoot.child name).checkText = .ok ()) :
    (l.destination s).checkText = .ok () := by
  obtain ⟨front, hname⟩ := StagingName.exists_eq_append h
  obtain ⟨hstaging, hpassable⟩ := Path.checkText_child.1 ht
  have hid : ∀ c ∈ s.escapedId, c.isPassable = true := fun c hc =>
    hpassable c (hname ▸ List.mem_append_right _ hc)
  have hdir := checkText_cachePath (StagingName.localeKey_ne_nil h)
    (Path.checkText_child.1 hstaging).1
  unfold destination
  rw [Path.appendText_of_slash_not_mem _
    (StagingName.slash_not_mem_escapedId h hn.slash_not_mem)]
  split
  · exact hdir
  · exact Path.checkText_child.2 ⟨hdir, hid⟩

/-- **A destination that is the directory of a locale** is that of its own, and
its path is that of the directory. -/
theorem destination_of_inCache {key : Text}
    (h : StagingName.ofText name = .ok s) (hn : Path.IsEntryName name)
    (hp : inCache top key = destinationPlace top s) :
    destinationPlace top s = inCache top s.localeKey
      ∧ l.destination s = l.cachePath s.localeKey := by
  have hdot : s.escapedId = Path.dot := by
    by_contra hdot
    unfold destinationPlace StagingName.tail inCache at hp
    rw [if_neg hdot] at hp
    have hlength := congrArg List.length hp
    simp at hlength
  have hslash := StagingName.slash_not_mem_escapedId h hn.slash_not_mem
  unfold destinationPlace StagingName.tail destination
  rw [if_pos hdot, List.append_nil, Path.appendText_of_slash_not_mem _ hslash,
    if_pos (Or.inr hdot)]
  exact ⟨rfl, rfl⟩

/-- **A destination is found where it is to be**, unless it leads upward. -/
theorem eq_destinationPlace_of_locate (h : StagingName.ofText name = .ok s)
    (hn : Path.IsEntryName name) (hl : t.locate l.root = .ok top)
    (hnamed : (l.destination s).endsNameless = false)
    (hp : t.locate (l.destination s) = .ok place) :
    place = destinationPlace top s := by
  obtain ⟨front, hname⟩ := StagingName.exists_eq_append h
  obtain ⟨-, -, -, hid, -⟩ := StagingName.ofText_eq_ok_iff.1 h
  have hk := StagingName.localeKey_ne_nil h
  have hslash := StagingName.slash_not_mem_escapedId h hn.slash_not_mem
  have hspelled : Utf8.respell s.escapedId = s.escapedId :=
    Utf8.respell_of_append (hname ▸ hn.respell_eq)
  unfold destination at hnamed hp
  unfold destinationPlace StagingName.tail
  rw [Path.appendText_of_slash_not_mem _ hslash] at hnamed hp
  by_cases hdot : s.escapedId = Path.dot
  · -- the destination is the directory of the locale itself
    rw [if_pos (Or.inr hdot)] at hp
    rw [if_pos hdot, List.append_nil]
    exact (of_locate_cachePath hk hl hp).2.2
  · rw [if_neg (not_or.2 ⟨hid, hdot⟩)] at hnamed hp
    have hdd : s.escapedId ≠ Path.dotDot := by
      intro hdd
      rw [hdd] at hnamed
      unfold Path.endsNameless Path.child at hnamed
      simp at hnamed
    rw [FileTree.locate_child_eq_ok_iff hdd] at hp
    obtain ⟨above, ha, -, -, rfl⟩ := hp
    rw [if_neg hdot, hspelled, (of_locate_cachePath hk hl ha).2.2]

end Layout

end Lexicon
