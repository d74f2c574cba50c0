import Lexicon.Proofs.Reconciliation.BundleGrowth
import Lexicon.Proofs.Volume.Loss

/-!
# What a reconciliation deletes

A reconciliation deletes the leftover downloads of no use and touches nothing
else (`Sources.isWithout_clearedTree`). What it deleted tells no version, so it
was no candidate, and what it would delete when it is run again could not be
deleted the first time. So another run finds the same candidates and leaves
everything as it is (`Sources.reconcile_clears`).

Nothing is asked of the tree. Two names that are listed may lead to the same
entry, and then the second one leads nowhere when its turn comes.
-/

namespace Lexicon

namespace Volume

variable {v : Volume} {p : Path} {files : List (Text × File)} {t : FileTree}

/-! ## Removing several files -/

/-- **The places of plain files that can be removed**, by the paths of the files
in a directory. -/
def IsRemovable (v : Volume) (p : Path) (files : List (Text × File))
    (place : Place) : Prop :=
  ∃ e ∈ files, v.denied.remove (p.child e.1) = false
    ∧ v.tree.locate (p.child e.1) = .ok place

/-- **A tree without some plain files**: nothing stands where one could be
removed, and everything else is as it was. -/
structure IsWithout (v : Volume) (p : Path) (files : List (Text × File))
    (t : FileTree) : Prop where
  /-- What could be removed is gone. -/
  gone : ∀ place, v.IsRemovable p files place → t.kind? place = none
  /-- Everything else is there. -/
  kept : ∀ place, ¬ v.IsRemovable p files place →
    t.kind? place = v.tree.kind? place

/-- **What is shown as plain files** at entries that lead downward. -/
def AreFiles (v : Volume) (p : Path) (files : List (Text × File)) : Prop :=
  ∀ e ∈ files, e.1 ≠ Path.dotDot ∧ v.file? (p.child e.1) = some e.2

theorem IsRemovable.exists_file {place : Place} (hfiles : v.AreFiles p files)
    (h : v.IsRemovable p files place) :
    ∃ e ∈ files, v.tree.kind? place = some (.file e.2) := by
  obtain ⟨e, he, -, hl⟩ := h
  obtain ⟨-, -, place', hl', hk⟩ := file?_eq_some_iff_kind?.1 (hfiles e he).2
  obtain rfl := Except.ok.inj (hl.symm.trans hl')
  exact ⟨e, he, hk⟩

/-- **Without some plain files** a volume is as one that lost them. -/
theorem IsWithout.lost {gone : File → Prop} (hfiles : v.AreFiles p files)
    (hgone : ∀ e ∈ files, gone e.2) (h : v.IsWithout p files t) :
    v.Lost (v.withTree t) gone := by
  refine ⟨rfl, fun q => ?_⟩
  by_cases hq : v.IsRemovable p files q
  · obtain ⟨g, hg, hk⟩ := hq.exists_file hfiles
    obtain ⟨e, he, -, hl⟩ := id hq
    obtain ⟨above, -, -, -, hplace⟩ :=
      (FileTree.locate_child_eq_ok_iff (hfiles e he).1).1 hl
    exact Or.inr ⟨h.gone q hq, ⟨g.2, hgone g hg, hk⟩, above, _, hplace,
      Utf8.respell_respell e.1, Utf8.respell_ne_dotDot (hfiles e he).1⟩
  · exact Or.inl (h.kept q hq)

theorem isWithout_nil (v : Volume) (p : Path) : v.IsWithout p [] v.tree :=
  ⟨fun _ ⟨_, he, _⟩ => absurd he List.not_mem_nil, fun _ _ => rfl⟩

/-- **With one more file** its place is one where a file can be removed, if that
is not denied. -/
theorem isRemovable_concat_iff {e : Text × File} {place : Place}
    (hl : v.tree.locate (p.child e.1) = .ok place) (q : Place) :
    v.IsRemovable p (files ++ [e]) q
      ↔ v.IsRemovable p files q
        ∨ (v.denied.remove (p.child e.1) = false ∧ q = place) := by
  constructor
  · rintro ⟨e', he', hdenied, hl'⟩
    obtain he' | he' := List.mem_append.1 he'
    · exact Or.inl ⟨e', he', hdenied, hl'⟩
    · obtain rfl := List.mem_singleton.1 he'
      exact Or.inr ⟨hdenied, Except.ok.inj (hl'.symm.trans hl)⟩
  · rintro (⟨e', he', h'⟩ | ⟨hdenied, rfl⟩)
    · exact ⟨e', List.mem_append_left _ he', h'⟩
    · exact ⟨e, List.mem_append_right _ List.mem_cons_self, hdenied, hl⟩

section

variable {e : Text × File} {place : Place} (h : v.IsWithout p files t)
  (hl : v.tree.locate (p.child e.1) = .ok place)
  (hl' : t.locate (p.child e.1) = .ok place)
include h hl hl'

/-- **A file that is removed** is gone, and everything else is as before. -/
theorem IsWithout.concat_of_unlink {t' : FileTree}
    (hunlink : (v.withTree t).unlink (p.child e.1) = .ok t') :
    v.IsWithout p (files ++ [e]) t' := by
  have hdenied : v.denied.remove (p.child e.1) = false := by
    rw [Bool.eq_false_iff]
    intro hdenied
    rw [unlink_of_denied (v := v.withTree t) hdenied] at hunlink
    exact absurd hunlink (by simp)
  obtain ⟨place', -, hplace, -, hview⟩ :=
    unlink_eq_ok (v := v.withTree t) hunlink
  obtain rfl : place' = place := Except.ok.inj (hplace.symm.trans hl')
  constructor
  · intro q hq
    rw [hview]
    obtain hq | ⟨-, rfl⟩ := (isRemovable_concat_iff hl q).1 hq
    · split
      · rfl
      · exact h.gone q hq
    · exact if_pos rfl
  · intro q hq
    rw [isRemovable_concat_iff hl, not_or] at hq
    rw [hview, if_neg fun heq => hq.2 ⟨hdenied, heq⟩]
    exact h.kept q hq.1

/-- **A file that is not removed** is one that must not be, or another name took
it along. -/
theorem IsWithout.concat_of_refused
    (hsame : v.denied.remove (p.child e.1) = false →
      v.IsRemovable p files place) :
    v.IsWithout p (files ++ [e]) t
      ∧ ((v.withTree t).unlink (p.child e.1)).toOption = none := by
  have hiff : ∀ q, v.IsRemovable p (files ++ [e]) q
      ↔ v.IsRemovable p files q := by
    intro q
    rw [isRemovable_concat_iff hl, or_iff_left_iff_imp]
    rintro ⟨hdenied, rfl⟩
    exact hsame hdenied
  refine ⟨⟨fun q hq => h.gone q ((hiff q).1 hq),
    fun q hq => h.kept q fun hq' => hq ((hiff q).2 hq')⟩, ?_⟩
  cases hunlink : (v.withTree t).unlink (p.child e.1) with
  | error _ => rfl
  | ok t' =>
    exfalso
    cases hdenied : v.denied.remove (p.child e.1) with
    | true =>
      rw [unlink_of_denied (v := v.withTree t) hdenied] at hunlink
      exact absurd hunlink (by simp)
    | false =>
      obtain ⟨place', g, hplace, hg, -⟩ :=
        unlink_eq_ok (v := v.withTree t) hunlink
      obtain rfl : place' = place := Except.ok.inj (hplace.symm.trans hl')
      exact absurd ((h.gone place' (hsame hdenied)).symm.trans hg) (by simp)

end

/-- **One more file is removed**, if it is still there and that is not
denied. -/
theorem IsWithout.unlink {e : Text × File} (hfiles : v.AreFiles p (files ++ [e]))
    (h : v.IsWithout p files t) :
    v.IsWithout p (files ++ [e])
      (((v.withTree t).unlink (p.child e.1)).toOption.getD t) := by
  obtain ⟨hne, hfile⟩ := hfiles e (List.mem_append_right _ List.mem_cons_self)
  obtain ⟨hi, hc, place, hl, hk⟩ := file?_eq_some_iff_kind?.1 hfile
  have hlost : v.Lost (v.withTree t) fun _ => True :=
    h.lost (fun e' he' => hfiles e' (List.mem_append_left _ he'))
      fun _ _ => trivial
  have hl' : t.locate (p.child e.1) = .ok place := hlost.locate_eq_ok_iff.2 hl
  by_cases hsame : v.denied.remove (p.child e.1) = false →
      v.IsRemovable p files place
  · obtain ⟨hwithout, hrefused⟩ := h.concat_of_refused hl hl' hsame
    rw [hrefused]
    exact hwithout
  · obtain ⟨hdenied, hthere⟩ := Classical.not_imp.1 hsame
    have hshown : (v.withTree t).file? (p.child e.1) = some e.2 :=
      file?_eq_some_iff_kind?.2
        ⟨hi, hc, place, hl', (h.kept place hthere).trans hk⟩
    obtain ⟨t', hunlink⟩ :=
      unlink_of_file? (v := v.withTree t) hne hdenied hshown
    rw [hunlink]
    exact h.concat_of_unlink hl hl' hunlink

/-- **Removing plain files one after the other** takes away those that can be
removed, and nothing else. -/
theorem isWithout_foldl_unlink (hfiles : v.AreFiles p files) :
    v.IsWithout p files (files.foldl (fun t e =>
      ((v.withTree t).unlink (p.child e.1)).toOption.getD t) v.tree) := by
  induction files using List.reverseRecOn with
  | nil => exact isWithout_nil v p
  | append_singleton files e ih =>
    rw [List.foldl_append]
    exact (ih fun e' he' => hfiles e' (List.mem_append_left _ he')).unlink hfiles

end Volume

namespace Sources

variable {s : Sources} {v : Volume}

/-! ## The files that are deleted -/

/-- **A leftover download that is deleted**, by its name at the root and the
plain file there. -/
structure IsDeletable (s : Sources) (v : Volume) (name : Text) (f : File) :
    Prop where
  /-- The root lists its name. -/
  listed : name ∈ v.namesIn s.layout.root
  /-- It is a plain file that may be asked about. -/
  shown : v.file? (s.layout.root.child name) = some f
  /-- Its name ends as that of a dictionary. -/
  ending : Layout.extension <:+ name
  /-- What is in front of the first separator of its name can be read. -/
  separated : ∃ front rest key,
    Text.cut? Layout.separator name = some (front, rest)
      ∧ FileName.unescape front = .ok key
  /-- It has no header that can be read and tells a version. -/
  unversioned : ∀ h,
    Header.ofBytes f.content.toBytes (some f.content.toBytes.length) = .ok h →
      h.version = Header.noVersion
  /-- It can be deleted. -/
  removable : ∃ t, v.unlink (s.layout.root.child name) = .ok t

/-- **A place whose file is deleted.** -/
def IsCleared (s : Sources) (v : Volume) (place : Place) : Prop :=
  ∃ name f, s.IsDeletable v name f
    ∧ v.tree.locate (s.layout.root.child name) = .ok place

/-- A plain file tells no version if every header that can be read from it
tells none. -/
theorem versioned?_eq_none_iff {f : File} :
    f.versioned? = none ↔ ∀ h,
      Header.ofBytes f.content.toBytes (some f.content.toBytes.length) = .ok h →
        h.version = Header.noVersion := by
  unfold File.versioned?
  dsimp only
  cases Header.ofBytes f.content.toBytes _ with
  | error e => exact iff_of_true rfl fun _ h => absurd h (by simp)
  | ok h =>
    rw [Except.toOption, Option.filter_eq_none_iff]
    simp only [Option.some.injEq, Except.ok.injEq, forall_eq',
      decide_eq_true_eq, Header.version_eq_noVersion_iff]

/-- A leftover download of no use is told by its name and its file. -/
theorem mem_uselessLeftovers_iff {name : Text} {f : File} :
    (name, f) ∈ s.uselessLeftovers v
      ↔ name ∈ v.namesIn s.layout.root
        ∧ v.file? (s.layout.root.child name) = some f
        ∧ Layout.extension <:+ name
        ∧ (∃ front rest key,
          Text.cut? Layout.separator name = some (front, rest)
            ∧ FileName.unescape front = .ok key)
        ∧ f.versioned? = none := by
  have hkey : (leftoverKey? name).isSome = true ↔ ∃ front rest key,
      Text.cut? Layout.separator name = some (front, rest)
        ∧ FileName.unescape front = .ok key := by
    have hmark : Layout.separator = lit "___" := rfl
    unfold leftoverKey?
    rw [hmark]
    rcases Text.cut? (lit "___") name with - | ⟨front, rest⟩
    · simp
    · cases hk : FileName.unescape front <;> simp [hk, Except.toOption]
  unfold uselessLeftovers leftoverFiles
  rw [List.mem_filter, List.mem_filter, Volume.mem_filesIn_iff]
  dsimp only
  rw [isUseless, decide_eq_true_eq, Bool.and_eq_true, hkey,
    Option.isNone_iff_eq_none]
  constructor
  · rintro ⟨⟨⟨hlisted, hshown⟩, hending, -⟩, hsep, hnone⟩
    exact ⟨hlisted, hshown, hending, hsep, hnone⟩
  · rintro ⟨hlisted, hshown, hending, hsep, hnone⟩
    obtain ⟨front, rest, key, hcut, -⟩ := id hsep
    exact ⟨⟨⟨hlisted, hshown⟩, hending, front, rest,
      (Text.eq_of_cut? hcut).symm⟩, hsep, hnone⟩

theorem ne_dotDot_of_ending {name : Text} (h : Layout.extension <:+ name) :
    name ≠ Path.dotDot := by
  rintro rfl
  exact absurd h (by decide)

theorem areFiles_uselessLeftovers (s : Sources) (v : Volume) :
    v.AreFiles s.layout.root (s.uselessLeftovers v) := by
  rintro ⟨name, f⟩ he
  obtain ⟨-, hshown, hending, -, -⟩ := mem_uselessLeftovers_iff.1 he
  exact ⟨ne_dotDot_of_ending hending, hshown⟩

/-- **The leftover downloads of no use that can be removed** are those that
are deleted. -/
theorem isRemovable_uselessLeftovers_iff {place : Place} :
    v.IsRemovable s.layout.root (s.uselessLeftovers v) place
      ↔ s.IsCleared v place := by
  constructor
  · rintro ⟨⟨name, f⟩, he, hdenied, hl⟩
    obtain ⟨hlisted, hshown, hending, hsep, hnone⟩ :=
      mem_uselessLeftovers_iff.1 he
    exact ⟨name, f, ⟨hlisted, hshown, hending, hsep,
      versioned?_eq_none_iff.1 hnone, Volume.unlink_of_file?
        (ne_dotDot_of_ending hending) hdenied hshown⟩, hl⟩
  · rintro ⟨name, f, h, hl⟩
    refine ⟨(name, f), mem_uselessLeftovers_iff.2 ⟨h.listed, h.shown, h.ending,
      h.separated, versioned?_eq_none_iff.2 h.unversioned⟩, ?_, hl⟩
    obtain ⟨t, ht⟩ := h.removable
    rw [Bool.eq_false_iff]
    intro hdenied
    rw [Volume.unlink_of_denied hdenied] at ht
    exact absurd ht (by simp)

/-- **The cleared tree** is the tree without the files that are deleted. -/
theorem isWithout_clearedTree (s : Sources) (v : Volume) :
    v.IsWithout s.layout.root (s.uselessLeftovers v) (s.clearedTree v) :=
  Volume.isWithout_foldl_unlink (areFiles_uselessLeftovers s v)

/-- The cleared tree lost plain files that tell no version. -/
theorem lost_clearedTree (s : Sources) (v : Volume) :
    v.Lost (v.withTree (s.clearedTree v)) (·.versioned? = none) :=
  (isWithout_clearedTree s v).lost (areFiles_uselessLeftovers s v)
    fun _ he => (mem_uselessLeftovers_iff.1 he).2.2.2.2

/-! ## Clearing again -/

/-- **A leftover download that is still there** must not be removed. -/
theorem denied_of_mem_uselessLeftovers {e : Text × File}
    (he : e ∈ s.uselessLeftovers (v.withTree (s.clearedTree v))) :
    v.denied.remove (s.layout.root.child e.1) = true := by
  obtain ⟨hlisted, hshown, hending, hsep, hnone⟩ :=
    mem_uselessLeftovers_iff.1 he
  have hlost := lost_clearedTree s v
  obtain ⟨-, -, place, hl, hk⟩ := Volume.file?_eq_some_iff_kind?.1 hshown
  rw [← Bool.not_eq_false]
  intro hdenied
  have hgone := (isWithout_clearedTree s v).gone place
    ⟨e, mem_uselessLeftovers_iff.2 ⟨hlost.namesIn_subset _ hlisted,
      hlost.file?_of_file? hshown, hending, hsep, hnone⟩, hdenied,
      hlost.locate_eq_ok_iff.1 hl⟩
  exact absurd (hgone.symm.trans hk) (by simp)

/-- **Clearing again** changes nothing. -/
@[simp] theorem clearedTree_clearedTree (s : Sources) (v : Volume) :
    s.clearedTree (v.withTree (s.clearedTree v)) = s.clearedTree v := by
  rw [clearedTree]
  refine List.foldlRecOn (motive := (· = s.clearedTree v)) _ _ rfl ?_
  intro t ht e he
  have hrefused : ((v.withTree (s.clearedTree v)).withTree t).unlink
      (s.layout.root.child e.1) = .error .denied :=
    Volume.unlink_of_denied (denied_of_mem_uselessLeftovers (v := v) he)
  dsimp only
  rw [hrefused]
  exact ht

/-! ## The candidates of a cleared volume -/

theorem filedRecord?_of_not_versioned {f : File} (h : f.versioned? = none)
    (id : Text) (named filed : Locale) :
    s.filedRecord? f id named filed = none := by
  unfold filedRecord?
  rw [h]
  rfl

theorem cachedCandidate?_of_not_versioned {f : File} (h : f.versioned? = none)
    (dir name : Text) : s.cachedCandidate? dir name f = none := by
  unfold cachedCandidate?
  simp only [filedRecord?_of_not_versioned h, Option.bind_eq_bind,
    Option.bind_fun_none]

theorem leftoverCandidate?_of_not_versioned {f : File}
    (h : f.versioned? = none) (name : Text) :
    s.leftoverCandidate? name f = none := by
  unfold leftoverCandidate?
  rw [h]
  simp only [Option.bind_eq_bind, Option.bind_none, Option.bind_fun_none]

/-- **A volume that lost files without a version** has the same candidates in
its cache. -/
theorem cached_of_lost {u : Volume} (h : v.Lost u (·.versioned? = none)) :
    s.cached u = s.cached v := by
  unfold cached
  dsimp only
  rw [h.dirsIn_eq]
  refine congrArg (List.flatMap · _) (funext fun dir => ?_)
  exact h.filterMap_filesIn _ fun name f hf =>
    cachedCandidate?_of_not_versioned hf dir name

theorem leftovers_of_lost {u : Volume} (h : v.Lost u (·.versioned? = none)) :
    s.leftovers u = s.leftovers v := by
  unfold leftovers leftoverFiles
  rw [List.filterMap_filter, List.filterMap_filter]
  refine h.filterMap_filesIn _ fun name f hf => ?_
  dsimp only
  rw [leftoverCandidate?_of_not_versioned hf, ite_self]

/-- **The cleared volume has the same candidates.** -/
@[simp] theorem candidates_clearedTree (s : Sources) (v : Volume) :
    s.candidates (v.withTree (s.clearedTree v)) = s.candidates v := by
  have hlost := lost_clearedTree s v
  unfold candidates
  rw [clearedTree_clearedTree, cached_of_lost hlost, leftovers_of_lost hlost]
  rfl

/-! ## Reconciling again -/

/-- **A reconciliation leaves the cleared tree.** -/
theorem tree_reconcile (hr : s.readHeader = FileAddress.header?) :
    (s.reconcile v).tree = s.clearedTree v := by
  have hsweep : (s.reconcile v).tree = (s.sweep v).2 := by
    unfold reconcile
    dsimp only
    split <;> rfl
  rw [hsweep]
  unfold sweep
  dsimp only
  rw [(yields_sweepLeftovers hr).discarded_eq, afterDiscards_uselessLeftovers]

/-- **Two volumes with the same candidates of some locales** list these alike, if
the bundle tells its locales on both or on none. -/
theorem filter_value_reconcile_congr {u : Volume} {keep : Record → Bool}
    (hk : Listing.IsByLocale keep) (hr : s.readHeader = FileAddress.header?)
    (htold : ∀ b, s.bundle? = some b → (b.IsTold u ↔ b.IsTold v))
    (hcandidates :
      (s.candidates u).filter keep = (s.candidates v).filter keep) :
    (s.reconcile u).value.filter keep = (s.reconcile v).value.filter keep := by
  by_cases henabled : ∃ e, s.enabled? = some (.error e)
  · obtain ⟨e, he⟩ := henabled
    rw [reconcile_of_enabled_error hr he, reconcile_of_enabled_error hr he]
  have he : ∀ e, s.enabled? ≠ some (.error e) :=
    fun e he => henabled ⟨e, he⟩
  by_cases hb : ∀ b, s.bundle? = some b → b.IsTold v
  · rw [value_reconcile_of_isTold hr hb he, value_reconcile_of_isTold hr
      (fun b hs => (htold b hs).2 (hb b hs)) he,
      Listing.filter_ofCandidates hk, Listing.filter_ofCandidates hk,
      hcandidates]
  · obtain ⟨b, hb⟩ := not_forall.1 hb
    obtain ⟨hs, hb⟩ := Classical.not_imp.1 hb
    rw [reconcile_of_not_isTold hr hs hb,
      reconcile_of_not_isTold hr hs (mt (htold b hs).1 hb)]

/-- **Two volumes with the same candidates** give the same listing, if the
bundle tells its locales on both or on none. -/
theorem value_reconcile_congr {u : Volume}
    (hr : s.readHeader = FileAddress.header?)
    (htold : ∀ b, s.bundle? = some b → (b.IsTold u ↔ b.IsTold v))
    (hcandidates : s.candidates u = s.candidates v) :
    (s.reconcile u).value = (s.reconcile v).value := by
  have hk : Listing.IsByLocale fun _ => true := fun _ _ _ => rfl
  have h := filter_value_reconcile_congr hk hr htold (by rw [hcandidates])
  rwa [List.filter_true, List.filter_true] at h

/-- **A reconciliation deletes the leftover downloads of no use**, and nothing
else: a plain file at the root that is listed and may be asked about, named as a
dictionary with a locale in front of the separator, which tells no version and
can be deleted. Everything else is as it was, and a second reconciliation lists
the same and deletes nothing further, whatever is denied. -/
theorem reconcile_clears (s : Sources) (v : Volume)
    (hr : s.readHeader = FileAddress.header?) :
    (∀ place, s.IsCleared v place →
        (∃ f, v.tree.kind? place = some (.file f))
          ∧ (s.reconcile v).tree.kind? place = none)
      ∧ (∀ place, ¬ s.IsCleared v place →
        (s.reconcile v).tree.kind? place = v.tree.kind? place)
      ∧ (s.reconcile (v.withTree (s.reconcile v).tree)).value
        = (s.reconcile v).value
      ∧ (s.reconcile (v.withTree (s.reconcile v).tree)).tree
        = (s.reconcile v).tree := by
  have hwithout := isWithout_clearedTree s v
  rw [tree_reconcile hr]
  refine ⟨fun place hplace => ?_, fun place hplace => ?_, ?_, ?_⟩
  · have hremovable := isRemovable_uselessLeftovers_iff.2 hplace
    obtain ⟨e, -, hk⟩ :=
      hremovable.exists_file (areFiles_uselessLeftovers s v)
    exact ⟨⟨e.2, hk⟩, hwithout.gone place hremovable⟩
  · exact hwithout.kept place
      fun hremovable => hplace (isRemovable_uselessLeftovers_iff.1 hremovable)
  · exact value_reconcile_congr hr (fun b _ => isTold_clearedTree)
      (candidates_clearedTree s v)
  · rw [tree_reconcile hr, clearedTree_clearedTree]

/-- The empty leftover download of the sample is deleted and its bundled
dictionary is kept. The second reconciliation lists the same. -/
theorem reconcile_clears_sample :
    (sample.reconcile sampleVolume).tree.kind? [lit "root", lit "en___x.dict"]
        = none
      ∧ (sample.reconcile sampleVolume).tree.kind? [lit "assets", lit "main_en"]
        = some (.file ⟨.bytes [], 0⟩)
      ∧ (sample.reconcile (sampleVolume.withTree
          (sample.reconcile sampleVolume).tree)).value
        = (sample.reconcile sampleVolume).value := by
  obtain ⟨hgone, hkept, hagain, -⟩ := reconcile_clears sample sampleVolume rfl
  have hcut : Text.cut? Layout.separator (lit "en___x.dict")
      = some (lit "en", lit "x.dict") := by decide
  have hcleared :
      sample.IsCleared sampleVolume [lit "root", lit "en___x.dict"] := by
    refine ⟨lit "en___x.dict", ⟨.bytes [], 0⟩, ⟨?_, ?_, ?_, ?_, ?_, ?_⟩, ?_⟩
    · decide +kernel
    · decide +kernel
    · decide +kernel
    · exact ⟨_, _, lit "en", hcut, by decide +kernel⟩
    · exact versioned?_eq_none_iff.1 (by decide +kernel)
    · exact ⟨_, rfl⟩
    · rfl
  refine ⟨(hgone _ hcleared).2, ?_, hagain⟩
  rw [hkept]
  · rfl
  rintro ⟨name, f, h, hl⟩
  obtain ⟨above, hroot, -, -, hplace⟩ := (FileTree.locate_child_eq_ok_iff
    (ne_dotDot_of_ending h.ending)).1 hl
  have hl' : sampleVolume.tree.locate sample.layout.root = .ok [lit "root"] :=
    rfl
  obtain rfl := Except.ok.inj (hroot.symm.trans hl')
  have hne : lit "assets" ≠ lit "root" := by decide
  exact hne (List.cons_eq_cons.1 hplace).1

end Sources

end Lexicon
