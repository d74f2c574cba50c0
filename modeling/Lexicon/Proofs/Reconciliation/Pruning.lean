import Lexicon.Proofs.FileTree.Restriction
import Lexicon.Proofs.Reconciliation.Clearing
import Lexicon.Proofs.Volume.Spelled
import Lexicon.Proofs.Layout.CacheDirectory
import Lexicon.Proofs.Reconciliation.Visibility

/-!
# What a denial costs

An entry of the storage that may not be asked about is passed over, and a
directory that may not be listed counts as empty. So a listing is the one that
the same storage gives without any denial once such entries are dropped, each
with all that is below it, and such directories are emptied
(`Sources.reconcile_pruned`). Nothing else is lost, whatever is denied.

The storage root itself may be asked about and listed. It also has to be found
when the tree is pruned: a path of the root that leads through the storage and up
again is lost with the directory that it leads through, while the denial alone
does not keep anybody from walking through it (`Sources.reconcile_lostRoot`).
-/

namespace Lexicon

/-- The path of what is below a directory. -/
def Path.descend (p : Path) (names : List Text) : Path :=
  { p with parts := p.parts ++ names }

@[simp] theorem Path.descend_nil (p : Path) : p.descend [] = p := by
  unfold descend
  rw [List.append_nil]

@[simp] theorem Path.descend_concat (p : Path) (names : List Text) (name : Text) :
    p.descend (names ++ [name]) = (p.descend names).child name := by
  unfold descend child
  rw [List.append_assoc]

namespace Layout

/-- **Whether nothing is denied that an entry of the storage is found by**: it
may be asked about, and the directory it is in may be listed. What is not in the
storage is spared. -/
def isSpared (l : Layout) (denied : Denials) (top place : Place) : Bool :=
  if top.isPrefixOf place && place != top then
    let names := place.drop top.length
    !denied.inspect (l.root.descend names)
      && !denied.list (l.root.descend names.dropLast)
  else true

/-- **The pruned storage**: without the entries that may not be asked about, with
all that is below them, and without what is in a directory that may not be
listed. Nothing is denied on it. -/
def pruned (l : Layout) (v : Volume) : Volume where
  tree :=
    match v.tree.locate l.root with
    | .ok top => v.tree.restrict (l.isSpared v.denied top)
    | .error _ => v.tree

variable {l : Layout} {v : Volume} {top place : Place} {names : List Text}
  {name : Text} {k : Kind}

theorem tree_pruned (hl : v.tree.locate l.root = .ok top) :
    (l.pruned v).tree = v.tree.restrict (l.isSpared v.denied top) := by
  unfold pruned
  rw [hl]

/-- **What is left after pruning** stood there before. -/
theorem kind?_of_kind?_pruned (h : (l.pruned v).tree.kind? place = some k) :
    v.tree.kind? place = some k := by
  cases hl : v.tree.locate l.root with
  | error e =>
    unfold pruned at h
    rwa [hl] at h
  | ok top =>
    rw [tree_pruned hl] at h
    exact (FileTree.kind?_restrict_eq_some_iff.1 h).2

theorem isSpelled_pruned (hv : v.tree.IsSpelled) :
    (l.pruned v).tree.IsSpelled := by
  intro place name h
  obtain ⟨k, hk⟩ := Option.ne_none_iff_exists'.1 h
  refine hv place name ?_
  rw [kind?_of_kind?_pruned hk]
  exact Option.some_ne_none k

/-! ## Open directories -/

/-- **Entries that nothing is denied about**, from the root down to a place in
the storage. -/
def IsOpen (l : Layout) (v : Volume) (names : List Text) : Prop :=
  ∀ outer name, outer ++ [name] <+: names →
    v.denied.inspect (l.root.descend (outer ++ [name])) = false
      ∧ v.denied.list (l.root.descend outer) = false

@[simp] theorem isOpen_nil (l : Layout) (v : Volume) : l.IsOpen v [] := by
  intro outer name h
  exact absurd (List.prefix_nil.1 h) (by simp)

/-- An entry is open exactly if the directory it is in is, and nothing is denied
about it. -/
theorem isOpen_concat_iff :
    l.IsOpen v (names ++ [name])
      ↔ l.IsOpen v names
        ∧ v.denied.inspect (l.root.descend (names ++ [name])) = false
        ∧ v.denied.list (l.root.descend names) = false := by
  constructor
  · intro h
    refine ⟨fun outer n hn => h outer n (hn.trans (List.prefix_append _ _)), ?_⟩
    exact h names name (List.prefix_refl _)
  · rintro ⟨h, hself⟩ outer n hn
    obtain heq | hn := List.prefix_concat_iff.1 hn
    · obtain ⟨rfl, hlast⟩ := List.append_inj' heq rfl
      obtain rfl := List.singleton_inj.1 hlast
      exact hself
    · exact h outer n hn

/-- An entry of the storage is spared exactly if nothing is denied about it. -/
theorem isSpared_concat_iff {denied : Denials} :
    l.isSpared denied top (top ++ (names ++ [name])) = true
      ↔ denied.inspect (l.root.descend (names ++ [name])) = false
        ∧ denied.list (l.root.descend names) = false := by
  have hbelow : (top.isPrefixOf (top ++ (names ++ [name]))
      && (top ++ (names ++ [name])) != top) = true := by
    rw [Bool.and_eq_true, List.isPrefixOf_iff_prefix, bne_iff_ne]
    exact ⟨List.prefix_append _ _, by simp⟩
  unfold isSpared
  rw [if_pos hbelow, List.drop_left]
  dsimp only
  rw [List.dropLast_concat, Bool.and_eq_true, Bool.not_eq_true',
    Bool.not_eq_true']

/-- **A place in the storage is kept exactly if it is open.** -/
theorem isKept_isSpared_iff :
    FileTree.IsKept (l.isSpared v.denied top) (top ++ names)
      ↔ l.IsOpen v names := by
  constructor
  · intro h outer name hn
    refine isSpared_concat_iff.1 (h _ (by simp) ?_)
    exact (List.prefix_append_right_inj top).2 hn
  · intro h q hne hq
    by_cases hbelow : (top.isPrefixOf q && q != top) = true
    · rw [Bool.and_eq_true, List.isPrefixOf_iff_prefix, bne_iff_ne] at hbelow
      obtain ⟨⟨more, rfl⟩, hself⟩ := hbelow
      have hmore : more ≠ [] := by
        rintro rfl
        exact hself (List.append_nil _)
      obtain ⟨outer, name, rfl⟩ := (List.eq_nil_or_concat' more).resolve_left hmore
      exact isSpared_concat_iff.2
        (h outer name ((List.prefix_append_right_inj top).1 hq))
    · unfold isSpared
      rw [if_neg hbelow]

theorem kind?_pruned_of_isOpen (hl : v.tree.locate l.root = .ok top)
    (h : l.IsOpen v names) :
    (l.pruned v).tree.kind? (top ++ names) = v.tree.kind? (top ++ names) := by
  rw [tree_pruned hl]
  exact FileTree.kind?_restrict_of_isKept (isKept_isSpared_iff.2 h)

theorem kind?_pruned_of_not_isOpen (hl : v.tree.locate l.root = .ok top)
    (h : ¬ l.IsOpen v names) :
    (l.pruned v).tree.kind? (top ++ names) = none := by
  rw [tree_pruned hl]
  exact FileTree.kind?_restrict_of_not_isKept (mt isKept_isSpared_iff.1 h)

/-! ## Finding the entries of the storage -/

/-- **Names that lead from the storage root downward**, each to the entry that
it is listed for. -/
def AreSpelled (names : List Text) : Prop :=
  ∀ name ∈ names, name ≠ Path.dotDot ∧ Utf8.respell name = name

/-- Spelled names are found where they lead to. -/
theorem locate_descend {t : FileTree} (hl : t.locate l.root = .ok top)
    (hs : AreSpelled names) (h : t.locate (l.root.descend names) = .ok place) :
    place = top ++ names := by
  induction names using List.reverseRecOn generalizing place with
  | nil =>
    rw [Path.descend_nil, hl] at h
    rw [List.append_nil, Except.ok.inj h]
  | append_singleton names name ih =>
    obtain ⟨hne, hspelled⟩ := hs name (by simp)
    rw [Path.descend_concat, FileTree.locate_child_eq_ok_iff hne, hspelled] at h
    obtain ⟨above, ha, -, -, rfl⟩ := h
    rw [ih (fun n hn => hs n (List.mem_append_left _ hn)) ha, List.append_assoc]

/-- **An open directory is found after pruning** exactly if it was before. -/
theorem locate_descend_pruned_iff (hl : v.tree.locate l.root = .ok top)
    (hl' : (l.pruned v).tree.locate l.root = .ok top) (hs : AreSpelled names)
    (h : l.IsOpen v names) :
    (l.pruned v).tree.locate (l.root.descend names) = .ok place
      ↔ v.tree.locate (l.root.descend names) = .ok place := by
  induction names using List.reverseRecOn generalizing place with
  | nil => rw [Path.descend_nil, hl, hl']
  | append_singleton names name ih =>
    obtain ⟨hne, -⟩ := hs name (by simp)
    have hs' : AreSpelled names := fun n hn => hs n (List.mem_append_left _ hn)
    have hopen := (isOpen_concat_iff.1 h).1
    rw [Path.descend_concat, FileTree.locate_child_eq_ok_iff hne,
      FileTree.locate_child_eq_ok_iff hne]
    refine exists_congr fun above => ?_
    rw [ih hs' hopen]
    refine and_congr_right fun ha => ?_
    rw [locate_descend hl hs' ha, kind?_pruned_of_isOpen hl hopen]

/-- **The root is still found after pruning**, where it was before. -/
def KeepsRoot (l : Layout) (v : Volume) : Prop :=
  ∀ top, v.tree.locate l.root = .ok top →
    (l.pruned v).tree.locate l.root = .ok top

/-- What is below the root is found only where the root is. -/
theorem exists_locate_root {t : FileTree}
    (h : t.locate (l.root.descend names) = .ok place) :
    ∃ top, t.locate l.root = .ok top := by
  have hwalk : t.locate (l.root.descend names)
      = t.locate l.root >>= fun top => t.walk top names :=
    FileTree.walk_append t _ _ _
  rw [hwalk, bind_eq_ok] at h
  exact h.imp fun _ => And.left

/-- **An open directory shows after pruning what it showed before.** -/
theorem hasEntry_pruned_iff (hroot : l.KeepsRoot v) (hs : AreSpelled names)
    (h : l.IsOpen v names)
    (hself : v.denied.inspect (l.root.descend names) = false) :
    (l.pruned v).HasEntry (l.root.descend names) name k
      ↔ v.HasEntry (l.root.descend names) name k := by
  rcases hl : v.tree.locate l.root with e | top
  · -- without a root nothing is pruned, and nothing is found on either side
    have hnone : ∀ u : Volume, u.tree = v.tree →
        ¬ u.HasEntry (l.root.descend names) name k := by
      rintro u hu ⟨-, -, -, -, -, -, place, hp, -⟩
      obtain ⟨top, htop⟩ := exists_locate_root hp
      rw [hu, hl] at htop
      exact absurd htop (by simp)
    refine iff_of_false (hnone _ ?_) (hnone _ rfl)
    unfold pruned
    rw [hl]
  have hl' := hroot top hl
  constructor
  · rintro ⟨-, -, -, hc, hc', hshort, place, hp, hk⟩
    obtain rfl := locate_descend hl' hs hp
    rw [List.append_assoc] at hk
    have hopen : l.IsOpen v (names ++ [name]) := by
      by_contra hn
      rw [kind?_pruned_of_not_isOpen hl hn] at hk
      exact absurd hk (by simp)
    obtain ⟨-, hi', hlist⟩ := isOpen_concat_iff.1 hopen
    rw [Path.descend_concat] at hi'
    exact ⟨hlist, hself, hi', hc, hc', hshort, top ++ names,
      (locate_descend_pruned_iff hl hl' hs h).1 hp, by
        rw [List.append_assoc]
        exact kind?_of_kind?_pruned hk⟩
  · rintro ⟨hlist, -, hi', hc, hc', hshort, place, hp, hk⟩
    obtain rfl := locate_descend hl hs hp
    have hopen : l.IsOpen v (names ++ [name]) :=
      isOpen_concat_iff.2 ⟨h, by rw [Path.descend_concat]; exact hi', hlist⟩
    refine ⟨rfl, rfl, rfl, hc, hc', hshort, top ++ names,
      (locate_descend_pruned_iff hl hl' hs h).2 hp, ?_⟩
    rw [List.append_assoc] at hk ⊢
    rw [kind?_pruned_of_isOpen hl hopen, hk]

/-- **Where something is denied** nothing is shown after pruning. -/
theorem not_hasEntry_pruned (hroot : l.KeepsRoot v) (hs : AreSpelled names)
    (h : ¬ l.IsOpen v names) :
    ¬ (l.pruned v).HasEntry (l.root.descend names) name k := by
  rintro ⟨-, -, -, -, -, -, place, hp, hk⟩
  obtain ⟨top, hl'⟩ := exists_locate_root hp
  obtain rfl := locate_descend hl' hs hp
  have hdir := FileTree.kind?_above (List.cons_ne_nil _ _) hk
  rcases hl : v.tree.locate l.root with e | top'
  · unfold pruned at hl'
    rw [hl] at hl'
    dsimp only at hl'
    rw [hl] at hl'
    exact absurd hl' (by simp)
  · obtain rfl := Except.ok.inj (hl'.symm.trans (hroot top' hl))
    rw [kind?_pruned_of_not_isOpen hl h] at hdir
    exact absurd hdir (by simp)

/-- The cache is open exactly if it may be asked about and the root may be
listed. -/
theorem isOpen_cacheName_iff :
    l.IsOpen v [cacheName]
      ↔ v.denied.inspect l.cacheRoot = false ∧ v.denied.list l.root = false := by
  have h : l.IsOpen v ([] ++ [cacheName]) ↔ _ := isOpen_concat_iff
  rw [Path.descend_nil] at h
  exact h.trans (and_iff_right (isOpen_nil l v))

theorem areSpelled_cacheName : AreSpelled [cacheName] :=
  List.forall_mem_singleton.2 ⟨cacheName_ne_dotDot, respell_cacheName⟩

end Layout

namespace Sources

variable {s : Sources} {v : Volume}

open Layout

/-! ## The candidates of a pruned storage -/

/-- **The cache has the same directories after pruning.** -/
theorem dirsIn_pruned (hv : v.tree.IsSpelled) (hroot : s.layout.KeepsRoot v)
    (hlist : v.denied.list s.layout.root = false) :
    (s.layout.pruned v).dirsIn s.layout.cacheRoot
      = v.dirsIn s.layout.cacheRoot := by
  refine Volume.dirsIn_congr hv (isSpelled_pruned hv) fun dir => ?_
  by_cases hself : v.denied.inspect s.layout.cacheRoot = false
  · exact hasEntry_pruned_iff hroot areSpelled_cacheName
      (isOpen_cacheName_iff.2 ⟨hself, hlist⟩) hself
  · exact iff_of_false (not_hasEntry_pruned hroot areSpelled_cacheName
      fun h => hself (isOpen_cacheName_iff.1 h).1) fun h => hself h.inspectable

/-- **The candidates of the cache are the same after pruning.** -/
theorem cached_pruned (hv : v.tree.IsSpelled) (hroot : s.layout.KeepsRoot v)
    (hlist : v.denied.list s.layout.root = false) :
    s.cached (s.layout.pruned v) = s.cached v := by
  rw [cached_eq, cached_eq, dirsIn_pruned hv hroot hlist]
  refine List.flatMap_congr fun dir hdir => ?_
  obtain ⟨hlistable, hcache, hdir, -, -, -, place, -, hk⟩ :=
    (Volume.mem_dirsIn_iff_hasEntry hv).1 hdir
  have hspelled := hv place dir (by rw [hk]; exact Option.some_ne_none _)
  have hfiles : (s.layout.pruned v).filesIn
      (s.layout.root.descend ([cacheName] ++ [dir]))
        = v.filesIn (s.layout.root.descend ([cacheName] ++ [dir])) := by
    refine Volume.filesIn_congr hv (isSpelled_pruned hv) fun name f => ?_
    refine hasEntry_pruned_iff hroot ?_ ?_ ?_
    · exact List.forall_mem_append.2
        ⟨areSpelled_cacheName, List.forall_mem_singleton.2 hspelled⟩
    · rw [isOpen_concat_iff, Path.descend_concat]
      exact ⟨isOpen_cacheName_iff.2 ⟨hcache, hlist⟩, hdir, hlistable⟩
    · rw [Path.descend_concat]
      exact hdir
  rw [Path.descend_concat] at hfiles
  exact congrArg _ hfiles

/-- **The leftover downloads are the same after pruning.** -/
theorem leftovers_pruned (hv : v.tree.IsSpelled)
    (hroot : s.layout.KeepsRoot v)
    (hself : v.denied.inspect s.layout.root = false) :
    s.leftovers (s.layout.pruned v) = s.leftovers v := by
  have hfiles : (s.layout.pruned v).filesIn (s.layout.root.descend [])
      = v.filesIn (s.layout.root.descend []) :=
    Volume.filesIn_congr hv (isSpelled_pruned hv) fun name f =>
      hasEntry_pruned_iff hroot (fun _ hn => absurd hn List.not_mem_nil)
        (isOpen_nil _ _) (by rwa [Path.descend_nil])
  rw [Path.descend_nil] at hfiles
  unfold leftovers leftoverFiles
  rw [hfiles]

/-- **What cannot be asked about or listed costs only itself**, if there is no
bundle: what is listed under any denials is what is listed, without any, of the
storage without the entries that may not be asked about and without what is in
directories that may not be listed. The storage root may be asked about and
listed, and is still found in what is left. -/
theorem reconcile_pruned (s : Sources) (v : Volume)
    (hr : s.readHeader = FileAddress.header?) (hb : s.bundle? = none)
    (hv : v.tree.IsSpelled)
    (hself : v.denied.inspect s.layout.root = false)
    (hlist : v.denied.list s.layout.root = false)
    (hroot : s.layout.KeepsRoot v) :
    (s.reconcile v).value = (s.reconcile (s.layout.pruned v)).value := by
  have hnone : ∀ u, s.bundled u = [] := by
    intro u
    unfold bundled
    rw [hb]
    rfl
  refine (value_reconcile_congr hr (fun b hs => ?_) ?_).symm
  · rw [hb] at hs
    exact absurd hs (by simp)
  · unfold candidates
    rw [cached_pruned hv hroot hlist, leftovers_pruned hv hroot hself, hnone,
      hnone]

/-- A storage with dictionaries for three languages and a leftover download. -/
def prunedSampleTree : FileTree :=
  .dir [(lit "root", .dir [
    (lit "dicts", .dir [
      (lit "de", .dir [(lit "main%00003ade", .file versionedFile)]),
      (lit "en", .dir [(lit "main%00003aen", .file versionedFile)]),
      (lit "fr", .dir [(lit "main%00003afr", .file versionedFile)])]),
    (lit "it___x.dict", .file versionedFile)])]

/-- Its German directory may not be asked about, its English one not listed, and
nobody may ask about the leftover download. -/
def prunedSample : Volume where
  tree := prunedSampleTree
  denied := {
    inspect := fun p =>
      p = emptySources.layout.root.descend [lit "dicts", lit "de"]
        || p = emptySources.layout.root.descend [lit "it___x.dict"]
    list := fun p =>
      p = emptySources.layout.root.descend [lit "dicts", lit "en"] }

theorem isSpelled_prunedSample : prunedSample.tree.IsSpelled :=
  FileTree.isSpelled_of_hasSpelledNames (by decide +kernel)

/-- Of the sample the French dictionary alone is listed, as in the pruned
storage. -/
theorem reconcile_pruned_sample :
    (emptySources.reconcile prunedSample).value
        = (emptySources.reconcile
          (emptySources.layout.pruned prunedSample)).value
      ∧ (emptySources.reconcile prunedSample).value.locales
        = [Locale.ofText (lit "fr")] :=
  ⟨reconcile_pruned emptySources prunedSample rfl rfl isSpelled_prunedSample
    (by decide +kernel) (by decide +kernel) (fun top htop => by
      have hl : prunedSample.tree.locate emptySources.layout.root
          = .ok [lit "root"] := by
        decide +kernel
      obtain rfl := Except.ok.inj (hl.symm.trans htop)
      decide +kernel), by decide +kernel⟩

/-- The sources of the sample with a storage root whose path leads through the
German directory and up again. -/
def detourSources : Sources where
  layout := ⟨emptySources.layout.root.descend
    [lit "dicts", lit "de", Path.dotDot, Path.dotDot]⟩

/-- The sample where nobody may ask about the German directory, as it is reached
from such a root. -/
def detourSample : Volume where
  tree := prunedSampleTree
  denied := { inspect := fun p =>
    p = detourSources.layout.root.descend [lit "dicts", lit "de"] }

/-- **A root that is lost with what is pruned**: one may walk through a directory
that may not be asked about, so the storage is listed but for that directory, but
where the directory is taken away the root is not found and nothing is listed. -/
theorem reconcile_lostRoot :
    detourSources.readHeader = FileAddress.header?
      ∧ detourSources.bundle? = none
      ∧ detourSample.tree.IsSpelled
      ∧ detourSample.denied.inspect detourSources.layout.root = false
      ∧ detourSample.denied.list = (fun _ => false)
      ∧ (detourSources.reconcile detourSample).value.locales
        = [Locale.ofText (lit "en"), Locale.ofText (lit "fr"),
          Locale.ofText (lit "it")]
      ∧ (detourSources.reconcile
          (detourSources.layout.pruned detourSample)).value = [] :=
  ⟨rfl, rfl, isSpelled_prunedSample, by decide +kernel, rfl, by decide +kernel,
    by decide +kernel⟩

end Sources

end Lexicon
