import Lexicon.Proofs.Bundle.Agreement
import Lexicon.Proofs.Layout.CacheDirectory
import Lexicon.Proofs.Reconciliation.Clearing
import Lexicon.Proofs.Reconciliation.Visibility
import Lexicon.Proofs.Volume.Spelled

/-!
# Directories of the cache do not interfere

What is in a directory of the cache is listed for the locale that its name tells,
or not at all. So whatever is put there, the records of all other locales stay as
they are, and in the same order (`Sources.reconcile_independent`): merging does
not mix locales, and everything else that is looked at is the same.

The paths of the storage and of the bundle must not lead through the directory.
They lead nowhere where it is missing, even if they come out of it again
(`Sources.reconcile_detour`).
-/

namespace Lexicon

/-- Elements that give nothing can be left out. -/
theorem flatMap_filter_of_eq_nil {α β : Type} (keep : α → Bool)
    (xs : List α) {f : α → List β} (h : ∀ x, keep x = false → f x = []) :
    (xs.filter keep).flatMap f = xs.flatMap f := by
  induction xs with
  | nil => rfl
  | cons x rest ih =>
    rw [List.flatMap_cons, ← ih]
    by_cases hx : keep x = true
    · rw [List.filter_cons_of_pos hx, List.flatMap_cons]
    · rw [List.filter_cons_of_neg hx, h x (Bool.eq_false_iff.2 hx),
        List.nil_append]

namespace FileTree

variable {entries : List (Text × FileTree)} {name : Text} {t t' : FileTree}
  {place : Place}

/-- **Off one entry** a directory shows what it shows without it. -/
theorem kind?_dir_cons_of_ne (h : ∀ rest, place ≠ name :: rest) :
    (FileTree.dir ((name, t) :: entries)).kind? place
      = (FileTree.dir entries).kind? place := by
  cases place with
  | nil => rfl
  | cons other rest =>
    have hne : other ≠ name := fun he => h rest (by rw [he])
    unfold kind?
    rw [lookup_dir_cons, lookup_dir_cons, child?_cons_of_ne hne]

/-- **Two directories that differ in one entry** show the same where these entries
do. -/
theorem kind?_dir_cons_congr
    (h : ∀ rest, place = name :: rest → t'.kind? rest = t.kind? rest) :
    (FileTree.dir ((name, t') :: entries)).kind? place
      = (FileTree.dir ((name, t) :: entries)).kind? place := by
  by_cases hthere : ∃ rest, place = name :: rest
  · obtain ⟨rest, rfl⟩ := hthere
    have hrest := h rest rfl
    unfold kind? at hrest ⊢
    rw [lookup_dir_cons, lookup_dir_cons, child?_cons_self, child?_cons_self]
    exact hrest
  · have hne : ∀ rest, place ≠ name :: rest := fun rest he => hthere ⟨rest, he⟩
    rw [kind?_dir_cons_of_ne hne, kind?_dir_cons_of_ne hne]

end FileTree

namespace Layout

variable {l : Layout} {t : FileTree} {v w : Volume} {top place : Place}
  {dir name : Text}

/-- **A directory of the cache**, by its name, **and what is below it**. There is
none where the root is not found. -/
def InCacheDir (l : Layout) (t : FileTree) (dir : Text) (place : Place) : Prop :=
  ∃ top, t.locate l.root = .ok top ∧ cachePlace top ++ [dir] <+: place

/-- **Two volumes that differ in a directory of the cache alone**, or in whether
it is there. -/
structure DiffersIn (l : Layout) (v w : Volume) (dir : Text) : Prop where
  /-- The same is denied. -/
  denied_eq : w.denied = v.denied
  /-- The path of the storage leads to the same place. -/
  root : w.tree.locate l.root = v.tree.locate l.root
  /-- The same stands everywhere else. -/
  kind?_eq : ∀ place, ¬ l.InCacheDir v.tree dir place →
    w.tree.kind? place = v.tree.kind? place

/-! ## Places -/

theorem not_inCacheDir_of_length (hl : t.locate l.root = .ok top)
    (h : place.length ≤ (cachePlace top).length) :
    ¬ l.InCacheDir t dir place := by
  rintro ⟨top', hl', hpre⟩
  obtain rfl := Except.ok.inj (hl.symm.trans hl')
  have hle := hpre.length_le
  rw [List.length_append, List.length_singleton] at hle
  omega

/-- **Another directory of the cache** is apart. -/
theorem not_inCacheDir_of_ne (hl : t.locate l.root = .ok top)
    (hne : name ≠ dir) (more : Place) :
    ¬ l.InCacheDir t dir (cachePlace top ++ name :: more) := by
  rintro ⟨top', hl', hpre⟩
  obtain rfl := Except.ok.inj (hl.symm.trans hl')
  rw [List.prefix_append_right_inj, List.cons_prefix_cons] at hpre
  exact hne hpre.1.symm

theorem eq_of_locate_cacheRoot (h : t.locate l.cacheRoot = .ok place) :
    ∃ top, t.locate l.root = .ok top ∧ place = cachePlace top := by
  obtain ⟨top, hl, -, -, rfl⟩ :=
    (FileTree.locate_child_eq_ok_iff cacheName_ne_dotDot).1 h
  rw [respell_cacheName]
  exact ⟨top, hl, rfl⟩

namespace DiffersIn

/-- Two such volumes agree off the directory. -/
theorem agreesOff (h : l.DiffersIn v w dir) :
    v.AgreesOff w (l.InCacheDir v.tree dir) where
  denied_eq := h.denied_eq
  below := fun _ _ ⟨top, hl, hpre⟩ =>
    ⟨top, hl, hpre.trans (List.prefix_append _ _)⟩
  kind?_eq := h.kind?_eq

/-- **The root is the same directory.** -/
theorem sameDirectory_root (h : l.DiffersIn v w dir) :
    v.SameDirectory w l.root :=
  h.agreesOff.sameDirectory h.root fun top name hl =>
    not_inCacheDir_of_length hl (by simp [cachePlace])

theorem locate_cacheRoot (h : l.DiffersIn v w dir) :
    w.tree.locate l.cacheRoot = v.tree.locate l.cacheRoot :=
  FileTree.locate_child_congr h.root fun top hl =>
    h.kind?_eq top (not_inCacheDir_of_length hl (by simp [cachePlace]))

/-- **The cache lists the same names but for that of the directory.** -/
theorem mem_namesIn_cacheRoot (h : l.DiffersIn v w dir) (hne : name ≠ dir) :
    name ∈ w.namesIn l.cacheRoot ↔ name ∈ v.namesIn l.cacheRoot := by
  rw [Volume.mem_namesIn_iff, Volume.mem_namesIn_iff, h.denied_eq,
    h.locate_cacheRoot]
  refine and_congr_right fun _ => and_congr_right fun _ =>
    and_congr_right fun _ => exists_congr fun place =>
      and_congr_right fun hp => ?_
  obtain ⟨top, hl, rfl⟩ := eq_of_locate_cacheRoot hp
  rw [h.kind?_eq _ (not_inCacheDir_of_ne hl hne [])]

/-- **Every other directory of the cache is the same.** -/
theorem sameDirectory_of_mem (h : l.DiffersIn v w dir)
    (hv : v.tree.IsSpelled) (hne : name ≠ dir)
    (hname : name ∈ v.namesIn l.cacheRoot) :
    v.SameDirectory w (l.cacheRoot.child name) := by
  refine h.agreesOff.sameDirectory ?_ fun place n hp => ?_
  · refine FileTree.locate_child_congr h.locate_cacheRoot fun above ha => ?_
    obtain ⟨top, hl, rfl⟩ := eq_of_locate_cacheRoot ha
    exact h.kind?_eq _ (not_inCacheDir_of_length hl (Nat.le_refl _))
  · -- the name is spelled as it is shown, so it leads to its own entry
    obtain ⟨-, -, -, above, ha, hthere⟩ := Volume.mem_namesIn_iff.1 hname
    obtain ⟨hdd, hspelled⟩ := hv above name hthere
    obtain ⟨above', ha', -, -, rfl⟩ :=
      (FileTree.locate_child_eq_ok_iff hdd).1 hp
    obtain ⟨top, hl, rfl⟩ := eq_of_locate_cacheRoot ha'
    rw [hspelled, List.append_assoc]
    exact not_inCacheDir_of_ne hl hne [n]

/-- **The cache has the same directories but for that one.** -/
theorem filter_dirsIn (h : l.DiffersIn v w dir) (hv : v.tree.IsSpelled) :
    (w.dirsIn l.cacheRoot).filter (· ≠ dir)
      = (v.dirsIn l.cacheRoot).filter (· ≠ dir) := by
  refine ((Volume.pairwise_dirsIn w _).filter _).eq_of_mem_iff
    ((Volume.pairwise_dirsIn v _).filter _) fun name => ?_
  rw [List.mem_filter, List.mem_filter, decide_eq_true_eq]
  refine and_congr_left fun hne => ?_
  unfold Volume.dirsIn
  rw [List.mem_filter, List.mem_filter, h.mem_namesIn_cacheRoot hne]
  refine and_congr_right fun hname => ?_
  rw [← Volume.isKind_eq_ok_true_iff, ← Volume.isKind_eq_ok_true_iff,
    ← Volume.isDir, ← Volume.isDir,
    Volume.isDir_congr (h.sameDirectory_of_mem hv hne hname).self]

end DiffersIn

end Layout

/-- **A bundle apart from the cache**: its path leads to the same place on both
volumes, and that is neither the cache nor below it. -/
structure Bundle.IsApart (b : Bundle) (l : Layout) (v w : Volume) : Prop where
  /-- The path of the bundle leads to the same place. -/
  located : w.tree.locate b.directory = v.tree.locate b.directory
  /-- The place is not in the cache. -/
  apart : ∀ top place, v.tree.locate l.root = .ok top →
    v.tree.locate b.directory = .ok place →
      ¬ Layout.cachePlace top <+: place

/-- Nothing in such a bundle is in a directory of the cache. -/
theorem Bundle.IsApart.not_inCacheDir {b : Bundle} {l : Layout} {v w : Volume}
    {dir : Text} (h : b.IsApart l v w) {place : Place}
    (hp : v.tree.locate b.directory = .ok place) (name : Text) :
    ¬ l.InCacheDir v.tree dir (place ++ [name]) := by
  rintro ⟨top, hl, hpre⟩
  obtain heq | hpre := List.prefix_concat_iff.1 hpre
  · obtain ⟨rfl, -⟩ := List.append_inj' heq rfl
    exact h.apart top _ hl hp (List.prefix_refl _)
  · exact h.apart top place hl hp ((List.prefix_append _ _).trans hpre)

/-- **The directory of such a bundle is the same.** -/
theorem Bundle.IsApart.sameDirectory {b : Bundle} {l : Layout} {v w : Volume}
    {dir : Text} (hb : b.IsApart l v w) (h : l.DiffersIn v w dir) :
    v.SameDirectory w b.directory :=
  h.agreesOff.sameDirectory hb.located fun _ name hp => hb.not_inCacheDir hp name

namespace Sources

open Layout

variable {s : Sources} {v w : Volume} {dir : Text}

/-- **Whether a record is for another locale** than the one that a directory of
the cache is named for. -/
def isElsewhere (dir : Text) (r : Record) : Bool :=
  (FileName.unescape dir).toOption.map Locale.ofText ≠ some r.locale

/-- This is told by the locale of the record. -/
theorem isByLocale_isElsewhere (dir : Text) :
    Listing.IsByLocale (isElsewhere dir) := by
  intro r r' h
  unfold isElsewhere
  rw [h]

/-! ## The cache -/

/-- **What is in a directory of the cache is for the locale of its name.** -/
theorem isElsewhere_of_cachedCandidate? {name : Text} {f : File} {r : Record}
    (h : s.cachedCandidate? dir name f = some r) :
    isElsewhere dir r = false := by
  obtain ⟨key, hkey, h⟩ := Option.bind_eq_some_iff.1 h
  obtain ⟨id, -, h⟩ := Option.bind_eq_some_iff.1 h
  obtain ⟨main, -, h⟩ := Option.bind_eq_some_iff.1 h
  rw [filedRecord?_eq] at h
  have hlocale := of_decide_eq_true (Option.filter_eq_some_iff.1 h).2
  unfold isElsewhere
  rw [hkey, hlocale]
  simp

/-- So it gives no candidate for another one. -/
theorem filter_filterMap_cachedCandidate? {name : Text}
    (files : List (Text × File)) (hname : decide (name ≠ dir) = false) :
    (files.filterMap fun e => s.cachedCandidate? name e.1 e.2).filter
      (isElsewhere dir) = [] := by
  obtain rfl : name = dir := by simpa using hname
  rw [List.filter_eq_nil_iff]
  intro r hr
  obtain ⟨e, -, hc⟩ := List.mem_filterMap.1 hr
  rw [isElsewhere_of_cachedCandidate? hc]
  exact Bool.false_ne_true

/-- **The cache has the same candidates for other locales.** -/
theorem filter_cached (h : s.layout.DiffersIn v w dir)
    (hv : v.tree.IsSpelled) :
    (s.cached w).filter (isElsewhere dir)
      = (s.cached v).filter (isElsewhere dir) := by
  rw [cached_eq, cached_eq, List.filter_flatMap, List.filter_flatMap]
  -- the directory itself gives no such candidate, so it can be left out
  rw [← flatMap_filter_of_eq_nil (· ≠ dir) (w.dirsIn s.layout.cacheRoot)
      fun name => filter_filterMap_cachedCandidate? _,
    ← flatMap_filter_of_eq_nil (· ≠ dir) (v.dirsIn s.layout.cacheRoot)
      fun name => filter_filterMap_cachedCandidate? _,
    h.filter_dirsIn hv]
  refine List.flatMap_congr fun name hname => ?_
  obtain ⟨hname, hne⟩ := List.mem_filter.1 hname
  rw [(h.sameDirectory_of_mem hv (of_decide_eq_true hne)
    (List.mem_filter.1 hname).1).filesIn_eq]

/-! ## The leftover downloads -/

/-- **The root has the same leftover downloads.** -/
theorem leftoverFiles_eq (h : s.layout.DiffersIn v w dir) :
    s.leftoverFiles w = s.leftoverFiles v := by
  unfold leftoverFiles
  rw [h.sameDirectory_root.filesIn_eq]

theorem isRemovable_iff (h : s.layout.DiffersIn v w dir)
    {files : List (Text × File)} {place : Place} :
    w.IsRemovable s.layout.root files place
      ↔ v.IsRemovable s.layout.root files place := by
  refine exists_congr fun e => and_congr_right fun _ => ?_
  rw [h.denied_eq, FileTree.locate_child_congr h.root fun top hl =>
    h.kind?_eq top (not_inCacheDir_of_length hl (by simp [cachePlace]))]

/-- **The cleared volumes agree** where the volumes do. -/
theorem agreesOff_clearedTree (h : s.layout.DiffersIn v w dir) :
    (v.withTree (s.clearedTree v)).AgreesOff (w.withTree (s.clearedTree w))
      (s.layout.InCacheDir v.tree dir) where
  denied_eq := h.denied_eq
  below := h.agreesOff.below
  kind?_eq place hplace := by
    have huseless : s.uselessLeftovers w = s.uselessLeftovers v := by
      unfold uselessLeftovers
      rw [leftoverFiles_eq h]
    have hv := isWithout_clearedTree s v
    have hw := isWithout_clearedTree s w
    rw [huseless] at hw
    show (s.clearedTree w).kind? place = (s.clearedTree v).kind? place
    by_cases hgone : v.IsRemovable s.layout.root (s.uselessLeftovers v) place
    · rw [hv.gone place hgone, hw.gone place ((isRemovable_iff h).2 hgone)]
    · rw [hv.kept place hgone, hw.kept place (mt (isRemovable_iff h).1 hgone),
        h.kind?_eq place hplace]

/-! ## The bundle -/

/-- **A flat bundle is flat after the clearing.** -/
theorem isFlat_clearedTree {b : Bundle} (h : b.IsFlat v) :
    b.IsFlat (v.withTree (s.clearedTree v)) where
  ending := h.ending
  declared := h.declared
  named name hname :=
    h.named name ((lost_clearedTree s v).namesIn_subset _ hname)

/-- **The same directory gives the same candidate** for a locale. -/
theorem bundledCandidate?_congr {b : Bundle} {key : Text}
    (h : v.SameDirectory w b.directory) (hb : Path.slash ∉ b.ending)
    (hkey : Path.slash ∉ key) :
    s.bundledCandidate? w b key = s.bundledCandidate? v b key := by
  rw [bundledCandidate?_eq, bundledCandidate?_eq, Bundle.find?_congr h hb hkey]
  rcases hp : b.find? v (Locale.ofText key) with e | (- | p)
  · rfl
  · rfl
  · show (w.file? p).bind _ = (v.file? p).bind _
    rw [Volume.file?_congr (Bundle.shownKind_of_find? h hb hkey hp)]

/-- **A bundle without a directory has no candidates**, if it is flat. -/
theorem filterMap_bundledCandidate?_of_not_located {b : Bundle}
    {e : FileError} (hflat : b.IsFlat v)
    (hl : v.tree.locate b.directory = .error e) :
    ((b.locales v).value.toOption.getD []).filterMap (s.bundledCandidate? v b)
      = [] := by
  rw [List.filterMap_eq_nil_iff]
  intro key hkey
  rw [bundledCandidate?_eq]
  rcases hp : b.find? v (Locale.ofText key) with e | (- | p)
  · rfl
  · rfl
  · exact absurd hp (Bundle.find?_ne_of_not_located hl hflat.ending
      (hflat.slash_not_mem hkey))

/-- **A bundle apart from the cache has the same candidates.** -/
theorem bundled_eq (h : s.layout.DiffersIn v w dir)
    (hb : ∀ b, s.bundle? = some b → b.IsFlat v ∧ b.IsApart s.layout v w) :
    s.bundled (w.withTree (s.clearedTree w))
      = s.bundled (v.withTree (s.clearedTree v)) := by
  rw [bundled_eq_locales, bundled_eq_locales]
  cases hs : s.bundle? with
  | none => rfl
  | some b =>
    obtain ⟨hflat, hapart⟩ := hb b hs
    have hv := isFlat_clearedTree (s := s) hflat
    have hw := isFlat_clearedTree (s := s)
      (hflat.of_sameDirectory (hapart.sameDirectory h))
    have hlost := lost_clearedTree s v
    have hlost' := lost_clearedTree s w
    rw [Option.toList_some, List.flatMap_singleton, List.flatMap_singleton]
    cases hl : (v.withTree (s.clearedTree v)).tree.locate b.directory with
    | error e =>
      -- then it is not found in the other tree either
      cases hl' : (w.withTree (s.clearedTree w)).tree.locate b.directory with
      | error e' =>
        rw [filterMap_bundledCandidate?_of_not_located hv hl,
          filterMap_bundledCandidate?_of_not_located hw hl']
      | ok place =>
        have hp := hlost'.locate_eq_ok_iff.1 hl'
        rw [hapart.located, ← hlost.locate_eq_ok_iff, hl] at hp
        exact absurd hp (by simp)
    | ok place =>
      have hp := hlost.locate_eq_ok_iff.1 hl
      have hl' := hlost'.locate_eq_ok_iff.2 (hapart.located.trans hp)
      have hsame := (agreesOff_clearedTree h).sameDirectory (hl'.trans hl.symm)
        fun place' name hplace => by
          obtain rfl := Except.ok.inj (hl.symm.trans hplace)
          exact hapart.not_inCacheDir hp name
      rw [Bundle.getD_locales_congr hsame]
      refine List.filterMap_congr fun key hkey => ?_
      exact bundledCandidate?_congr hsame hflat.ending (hv.slash_not_mem hkey)

/-! ## Listings -/

/-- **Directories of the cache do not interfere**: whatever is in one of them, or
if it is missing, the records of all locales but the one that it is named for are
the same, in the same order. The path of the storage and that of the bundle lead
to the same places, and the bundle is not in the cache. -/
theorem reconcile_independent (s : Sources) (v w : Volume) (dir : Text)
    (hr : s.readHeader = FileAddress.header?) (hv : v.tree.IsSpelled)
    (h : s.layout.DiffersIn v w dir)
    (hb : ∀ b, s.bundle? = some b → b.IsFlat v ∧ b.IsApart s.layout v w) :
    (s.reconcile w).value.filter (isElsewhere dir)
      = (s.reconcile v).value.filter (isElsewhere dir) := by
  refine filter_value_reconcile_congr (isByLocale_isElsewhere dir) hr
    (fun b hs => ?_) ?_
  · unfold Bundle.IsTold
    rw [Volume.isDir_congr ((hb b hs).2.sameDirectory h).self]
  · unfold candidates leftovers
    rw [List.filter_append, List.filter_append, List.filter_append,
      filter_cached h hv, leftoverFiles_eq h, bundled_eq h hb,
      List.filter_append, List.filter_append, List.filter_append]

/-- An Italian dictionary in a bundle, and a storage with some directories in its
cache. -/
def cacheSample (directories : List (Text × FileTree)) : Volume where
  tree := .dir [
    (lit "root", .dir [(lit "dicts", .dir directories)]),
    (lit "assets", .dir [(lit "main_it", .file versionedFile)])]

/-- The storage of the sample. -/
def cacheSampleSources : Sources :=
  emptySources.withBundle (some sampleBundle)

/-- **One directory more in the cache of the sample** is a difference in that
directory alone. -/
theorem differsIn_cacheSample (dir : Text) (t : FileTree)
    (directories : List (Text × FileTree)) :
    emptySources.layout.DiffersIn (cacheSample ((dir, t) :: directories))
      (cacheSample directories) dir where
  denied_eq := rfl
  root := rfl
  kind?_eq place hplace := by
    refine FileTree.kind?_dir_cons_congr fun inRoot hroot => ?_
    refine FileTree.kind?_dir_cons_congr fun inCache hcache => ?_
    refine (FileTree.kind?_dir_cons_of_ne fun rest hrest => ?_).symm
    refine hplace ⟨[lit "root"], rfl, rest, ?_⟩
    rw [hroot, hcache, hrest]
    rfl

/-- A German directory, with a German dictionary and one that claims to be
French. -/
def germanDirectory : FileTree :=
  .dir [(lit "main%00003ade", .file versionedFile),
    (lit "main%00003afr", .file versionedFile)]

/-- A French one. -/
def frenchDirectory : FileTree :=
  .dir [(lit "main%00003afr", .file versionedFile)]

/-- The German directory lists a German dictionary and leaves the French and the
Italian one alone. -/
theorem reconcile_independent_sample :
    (cacheSampleSources.reconcile
        (cacheSample [(lit "fr", frenchDirectory)])).value.filter
          (isElsewhere (lit "de"))
      = (cacheSampleSources.reconcile (cacheSample
        [(lit "de", germanDirectory),
          (lit "fr", frenchDirectory)])).value.filter (isElsewhere (lit "de"))
    ∧ (cacheSampleSources.reconcile (cacheSample [(lit "de", germanDirectory),
        (lit "fr", frenchDirectory)])).value.locales
      = [Locale.ofText (lit "de"), Locale.ofText (lit "fr"),
        Locale.ofText (lit "it")] := by
  refine ⟨reconcile_independent cacheSampleSources _ _ _ rfl
    (FileTree.isSpelled_of_hasSpelledNames (by decide +kernel))
    (differsIn_cacheSample _ _ _) fun b hs => ?_,
    by decide +kernel⟩
  obtain rfl := Option.some.inj hs
  have hl : ∀ directories, (cacheSample directories).tree.locate
      sampleBundle.directory = .ok [lit "assets"] := fun _ => rfl
  refine ⟨⟨by decide, fun _ hd => absurd hd (by simp [sampleBundle]), ?_⟩,
    (hl _).trans (hl _).symm, fun top place htop hp => ?_⟩
  · have hnames : (cacheSample [(lit "de", germanDirectory),
        (lit "fr", frenchDirectory)]).namesIn sampleBundle.directory
          = [lit "main_it"] := by
      decide +kernel
    rw [hnames]
    intro name hname key hkey
    obtain rfl := List.mem_singleton.1 hname
    have hread : sampleBundle.keyOf? (lit "main_it") = some (lit "it") := by
      decide +kernel
    obtain rfl := Option.some.inj (hread.symm.trans hkey)
    decide
  · obtain rfl := Except.ok.inj ((hl _).symm.trans hp)
    obtain rfl : [lit "root"] = top := Except.ok.inj htop
    decide

/-- The sources of the sample with a bundle whose path leads through the German
directory of the cache and back to the same bundle. -/
def detourCacheSources : Sources :=
  emptySources.withBundle (some
    ⟨⟨.relative, [lit "root", lit "dicts", lit "de", Path.dotDot, Path.dotDot,
      Path.dotDot, lit "assets"]⟩, none, []⟩)

/-- **A bundle that is lost with a directory of the cache**: its path leads through
the German directory, so it is found where that is there, and not where it is
missing. What is lost is the Italian dictionary. -/
theorem reconcile_detour :
    detourCacheSources.readHeader = FileAddress.header?
      ∧ (cacheSample [(lit "de", .dir [])]).denied = {}
      ∧ (cacheSample [(lit "de", .dir [])]).tree.IsSpelled
      ∧ emptySources.layout.DiffersIn (cacheSample [(lit "de", .dir [])])
        (cacheSample []) (lit "de")
      ∧ (∀ b, detourCacheSources.bundle? = some b → b.declared? = none
        ∧ b.ending = [] ∧ b.directory.spelledOut = sampleBundle.directory
        ∧ (cacheSample [(lit "de", .dir [])]).tree.locate b.directory
          = .ok [lit "assets"])
      ∧ ((detourCacheSources.reconcile (cacheSample
          [(lit "de", .dir [])])).value.filter
            (isElsewhere (lit "de"))).map (·.locale) = [Locale.ofText (lit "it")]
      ∧ (detourCacheSources.reconcile (cacheSample [])).value = [] := by
  refine ⟨rfl, rfl, FileTree.isSpelled_of_hasSpelledNames (by decide +kernel),
    differsIn_cacheSample _ _ _, fun b hs => ?_, by decide +kernel,
    by decide +kernel⟩
  obtain rfl := Option.some.inj hs
  exact ⟨rfl, rfl, by decide +kernel, by decide +kernel⟩

end Sources

end Lexicon
