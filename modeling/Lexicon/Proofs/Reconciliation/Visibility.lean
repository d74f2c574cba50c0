import Lexicon.Proofs.Reconciliation.Specification
import Lexicon.Proofs.Staging.Installation

/-!
# What an installed dictionary is listed under

A storage that holds an installed main dictionary has one candidate of the
cache at most. Its directory tells the locale it was installed for, and its
identifier the same locale with the variant in lower case, so the two agree,
and the dictionary is listed, exactly if the variant has no capitals
(`reconcile_promoted_iff`).
-/

namespace Lexicon.Sources

open Layout

variable {s : Sources} {v : Volume} {top : Place} {locale : Locale} {f : File}
  {h : Header} {t : FileTree}

/-- **What the cache has to say about an installed main dictionary.** -/
theorem cachedCandidate?_installed (s : Sources) (hl : locale.IsLegible)
    (hf : f.versioned? = some h)
    (hn : h.attributes.get? Header.localeKey = none) :
    s.cachedCandidate? (FileName.escape locale.toText)
        (FileName.escape (WordListId.ofMain locale)) f
      = (some (s.recordOf f h (WordListId.ofMain locale)
        (Locale.ofText locale.toText.lower) none)).filter
          (·.locale = Locale.ofText locale.toText) := by
  unfold cachedCandidate?
  rw [FileName.unescape_escape, FileName.unescape_escape]
  show (WordListId.mainKey? (WordListId.ofMain locale)).bind _ = _
  rw [hl.mainKey?_ofMain]
  exact s.filedRecord?_of_unnamed hf hn _ _ _

theorem version_nonneg (hf : f.versioned? = some h) : 0 ≤ h.version := by
  unfold File.versioned? at hf
  exact of_decide_eq_true (Option.filter_eq_some_iff.1 hf).2

theorem version_of_mem_enabled {c : Record} (hc : c ∈ s.enabled) :
    c.version = Header.noVersion := by
  obtain ⟨key, -, rfl⟩ := List.mem_map.1 hc
  rfl

/-! ## The candidates of a storage that holds an installed dictionary -/

section

variable (hd : v.denied = {}) (hfree : s.layout.IsFree t top (mainName locale))
  (hholds : s.layout.Holds v.tree top (installed locale f))
include hd hfree hholds

/-- **The cache holds nothing but the dictionary.** -/
theorem mem_cached_iff (hl : locale.IsLegible) {r : Record} :
    r ∈ s.cached v
      ↔ s.cachedCandidate? (FileName.escape locale.toText)
        (FileName.escape (WordListId.ofMain locale)) f = some r := by
  have hkey := FileName.isEntryName_escape hl.toText_ne_nil
  have hid := FileName.isEntryName_escape (ofMain_ne_nil locale)
  have hat := hholds.isAt List.mem_cons_self
  have hcache : v.tree.kind? (cachePlace top) = some .dir :=
    (hholds.shows _ _ (List.cons_ne_nil _ _)).2 (by simp [installed])
  have hlc := hat.locate_cacheRoot
  have hld := hat.locate_cachePath hl.toText_ne_nil hfree.dirShort hcache
  rw [cachePath_eq _ hl.toText_ne_nil] at hld
  have hne : cacheName ≠ stagingName := by decide
  unfold cached
  rw [List.mem_flatMap]
  constructor
  · -- the listing of the storage leaves one directory, and one file in it
    rintro ⟨dir, hdir, hr⟩
    obtain ⟨⟨name, g⟩, hfile, hr⟩ := List.mem_filterMap.1 hr
    obtain ⟨k, hk⟩ := Volume.exists_kind?_of_mem_namesIn hlc
      (List.mem_filter.1 hdir).1
    have hdirs := (hholds.shows [cacheName, dir] k (List.cons_ne_nil _ _)).1
      (by rw [← hk, cachePlace, List.append_assoc]; rfl)
    obtain ⟨rfl, -⟩ : dir = FileName.escape locale.toText ∧ k = .dir := by
      simpa [installed, hne] using hdirs
    obtain ⟨hn, hg⟩ := Volume.mem_filesIn_iff.1 hfile
    obtain ⟨k', hk'⟩ := Volume.exists_kind?_of_mem_namesIn hld hn
    have hfiles := (hholds.shows
      [cacheName, FileName.escape locale.toText, name] k'
      (List.cons_ne_nil _ _)).1
      (by rw [← hk', inCache, cachePlace, List.append_assoc, List.append_assoc]
          rfl)
    obtain ⟨rfl, rfl⟩ : name = FileName.escape (WordListId.ofMain locale)
        ∧ k' = .file f := by
      simpa [installed, hne] using hfiles
    have hshown := Volume.kind?_of_file? hld hid.ne_dotDot hg
    rw [hid.respell_eq, hk'] at hshown
    obtain rfl : f = g := by simpa using hshown
    exact hr
  · intro hr
    have hcheck := hfree.check
    rw [destination_mainName _ hl] at hcheck
    have hcd := Path.check_of_check_child hcheck
    have hcc := Path.check_of_check_child hcd
    have hfile : v.tree.kind? (inCache top locale.toText
        ++ [FileName.escape (WordListId.ofMain locale)]) = some (.file f) := by
      rw [inCache, cachePlace, List.append_assoc, List.append_assoc]
      exact (hholds.shows _ _ (List.cons_ne_nil _ _)).2 (by simp [installed])
    have hdir := FileTree.kind?_above (List.cons_ne_nil _ _) hfile
    refine ⟨FileName.escape locale.toText, ?_, List.mem_filterMap.2
      ⟨(FileName.escape (WordListId.ofMain locale), f), ?_, hr⟩⟩
    · exact Volume.mem_dirsIn hd hlc hcd hkey hfree.dirShort hcc hdir
    · exact Volume.mem_filesIn hd hld hcheck hid hfree.short hcd hfile

omit hd hfree in
/-- No plain file lies at the root. -/
theorem leftoverFiles_eq_nil : s.leftoverFiles v = [] := by
  have hfiles : v.filesIn s.layout.root = [] := by
    rw [List.eq_nil_iff_forall_not_mem]
    rintro ⟨name, g⟩ hmem
    obtain ⟨hn, hg⟩ := Volume.mem_filesIn_iff.1 hmem
    obtain ⟨k, hk⟩ := Volume.exists_kind?_of_mem_namesIn hholds.root hn
    have hname : name = stagingName ∨ name = cacheName := by
      have hshown := (hholds.shows _ k (List.cons_ne_nil _ _)).1 hk
      simp only [installed, List.mem_cons, List.not_mem_nil, or_false,
        Prod.mk.injEq, List.cons.injEq, and_true, reduceCtorEq, and_false,
        false_and] at hshown
      exact hshown.imp And.left And.left
    have hplain : name ≠ Path.dotDot ∧ Utf8.respell name = name := by
      obtain rfl | rfl := hname
      · exact ⟨stagingName_ne_dotDot, respell_stagingName⟩
      · exact ⟨cacheName_ne_dotDot, respell_cacheName⟩
    have hfile := Volume.kind?_of_file? hholds.root hplain.1 hg
    rw [hplain.2, hholds.shows _ _ (List.cons_ne_nil _ _)] at hfile
    simp [installed] at hfile
  unfold leftoverFiles
  rw [hfiles]
  rfl

omit hd hfree in
/-- **The candidates are those of the cache, the bundle and the enabled
locales.** -/
theorem candidates_installed :
    s.candidates v = s.cached v ++ s.bundled v ++ s.enabled := by
  have hnil := leftoverFiles_eq_nil hholds
  have hcleared : s.clearedTree v = v.tree := by
    unfold clearedTree uselessLeftovers
    rw [hnil]
    rfl
  unfold candidates leftovers
  rw [hnil, hcleared]
  show s.cached v ++ [] ++ s.bundled v ++ s.enabled = _
  rw [List.append_nil]

end

/-! ## What is listed -/

/-- **A bundle has only older dictionaries** of a locale: it can be asked
about, and what it has for the locale is below a version. -/
structure BundleIsOlder (s : Sources) (v : Volume) (locale : Locale)
    (version : Int) : Prop where
  /-- The directory of the bundle can be asked about. -/
  answers : ∀ b, s.bundle? = some b → ∃ answer, v.isDir b.directory = .ok answer
  /-- What the bundle has for the locale is below the version. -/
  older : ∀ c ∈ s.bundled v, c.locale = locale → c.version < version

/-- **An installed dictionary is listed** under its locale exactly if it is a
candidate of the cache for it, for all other candidates are older. -/
theorem exists_listed_iff (hholds : s.layout.Holds v.tree top (installed locale f))
    (hf : f.versioned? = some h) (hr : s.readHeader = FileAddress.header?)
    (hb : s.BundleIsOlder v locale h.version)
    (he : ∀ e, s.enabled? ≠ some (.error e))
    (hcached : ∀ c ∈ s.cached v, c.version = h.version) :
    (∃ r ∈ (s.reconcile v).value, r.locale = locale ∧ r.version = h.version)
      ↔ ∃ c ∈ s.cached v, c.locale = locale := by
  have hsummary := Listing.summarizes_ofCandidates (s.candidates v)
  rw [← value_reconcile hr hb.answers he] at hsummary
  have hcases : ∀ c ∈ s.candidates v, c.locale = locale →
      c ∈ s.cached v ∨ c.version < h.version := by
    intro c hc hlocale
    rw [candidates_installed hholds, List.mem_append, List.mem_append] at hc
    obtain (hc | hc) | hc := hc
    · exact Or.inl hc
    · exact Or.inr (hb.older c hc hlocale)
    · rw [version_of_mem_enabled hc]
      exact Or.inr (Int.lt_of_lt_of_le (by decide) (version_nonneg hf))
  constructor
  · rintro ⟨r, hr, hlocale, hversion⟩
    obtain hc | hlt := hcases r (hsummary.best r hr).mem hlocale
    · exact ⟨r, hc, hlocale⟩
    · rw [hversion] at hlt
      exact absurd hlt (Int.lt_irrefl _)
  · rintro ⟨c, hc, hlocale⟩
    have hmem : c ∈ s.candidates v := by
      rw [candidates_installed hholds, List.append_assoc]
      exact List.mem_append_left _ hc
    obtain ⟨r, hr, hrl⟩ := List.mem_map.1
      (hsummary.mem_locales.2 ⟨c, hmem, hlocale⟩)
    have hbest := hsummary.best r hr
    refine ⟨r, hr, hrl, ?_⟩
    obtain hrc | hlt := hcases r hbest.mem hrl
    · exact hcached r hrc
    · have hle := hbest.version_le hmem (hlocale.trans hrl.symm)
      rw [hcached c hc] at hle
      exact absurd hlt (Int.not_lt.2 hle)

/-- **A main dictionary that was staged and promoted is listed** under its own
locale with its own version exactly if the variant of the locale is written
without capitals. The identifier carries the variant in lower case, and reading
settles the case of every field but that one. -/
theorem reconcile_promoted_iff (s : Sources) (v : Volume) (text : Text)
    (f : File) (h : Header) (t : FileTree)
    (hwords : text.AreWords Locale.isSeparator) (hd : v.denied = {})
    (hstages : s.layout.StagesMain v (Locale.ofText text) f t)
    (hf : f.versioned? = some h)
    (hn : h.attributes.get? Header.localeKey = none)
    (hr : s.readHeader = FileAddress.header?)
    (hb : s.BundleIsOlder
      (v.withTree (s.layout.promoteAll (v.withTree t)).tree)
      (Locale.ofText text) h.version)
    (he : ∀ e, s.enabled? ≠ some (.error e)) :
    (s.layout.promoteAll (v.withTree t)).value
        = .ok [s.layout.destination (mainName (Locale.ofText text))]
      ∧ ((∃ r ∈ (s.reconcile
          (v.withTree (s.layout.promoteAll (v.withTree t)).tree)).value,
          r.locale = Locale.ofText text ∧ r.version = h.version)
        ↔ (Locale.ofText text).variant.lower
          = (Locale.ofText text).variant) := by
  obtain ⟨hl, -⟩ := Locale.isLegible_ofText hwords
  obtain ⟨hvalue, top, hfree, hholds⟩ := hstages.promoted hd hl
  refine ⟨hvalue, ?_⟩
  have hcached := fun c => mem_cached_iff (r := c)
    (v := v.withTree (s.layout.promoteAll (v.withTree t)).tree) hd hfree hholds
    hl
  rw [cachedCandidate?_installed s hl hf hn, Locale.ofText_toText_ofText hwords,
    Locale.ofText_lower_toText_ofText hwords] at hcached
  simp only [Option.filter_eq_some_iff, Option.some.injEq,
    decide_eq_true_eq] at hcached
  rw [exists_listed_iff hholds hf hr hb he fun c hc => by
    obtain ⟨rfl, -⟩ := (hcached c).1 hc
    rfl]
  constructor
  · rintro ⟨c, hc, -⟩
    obtain ⟨rfl, hlocale⟩ := (hcached c).1 hc
    exact congrArg Locale.variant hlocale
  · intro hvariant
    have hsame : { Locale.ofText text with
        variant := (Locale.ofText text).variant.lower }
        = Locale.ofText text := by
      rw [hvariant]
    exact ⟨_, (hcached _).2 ⟨rfl, hsame⟩, hsame⟩

/-- What is written where it is to wait was staged. -/
theorem exists_stagesMain (l : Layout) (v : Volume) (locale : Locale) (f : File)
    (hempty : v.node l.root = .ok (.dir []))
    (hp : (l.stagingFile v (WordListId.ofMain locale) locale.toText).value
      = .ok (l.stagingRoot.child (mainFileName locale)))
    (hw : ((l.stagingFile v (WordListId.ofMain locale) locale.toText).tree.write
      (l.stagingRoot.child (mainFileName locale)) f).toOption.isSome = true) :
    ∃ t, l.StagesMain v locale f t := by
  cases hr : (l.stagingFile v (WordListId.ofMain locale)
      locale.toText).tree.write (l.stagingRoot.child (mainFileName locale))
      f with
  | error e =>
    rw [hr] at hw
    exact absurd hw Bool.false_ne_true
  | ok t => exact ⟨t, hempty, _, hp, hr⟩

/-- An empty storage. -/
def emptyVolume : Volume where
  tree := .dir [(lit "root", .dir [])]

/-- Its sources: there is nothing but the storage. -/
def emptySources : Sources where
  layout := ⟨⟨.relative, [lit "root"]⟩⟩

/-- A dictionary of version 7 that names no locale. -/
def versionedFile : File where
  content := .bytes [0x9B, 0xC1, 0x3A, 0xFE, 0, 202, 0, 0, 0, 0, 0, 22,
    0x76, 0x65, 0x72, 0x73, 0x69, 0x6F, 0x6E, 0, 0x37, 0]

/-- Staged and promoted for `en_US`, the dictionary is listed; for
`en_US_POSIX` it is not. -/
theorem reconcile_promoted_iff_sample :
    (∃ t, emptySources.layout.StagesMain emptyVolume
        (Locale.ofText (lit "en_US")) versionedFile t
      ∧ ∃ r ∈ (emptySources.reconcile (emptyVolume.withTree
          (emptySources.layout.promoteAll (emptyVolume.withTree t)).tree)).value,
        r.locale = Locale.ofText (lit "en_US") ∧ r.version = 7)
    ∧ ∃ t, emptySources.layout.StagesMain emptyVolume
        (Locale.ofText (lit "en_US_POSIX")) versionedFile t
      ∧ ¬ ∃ r ∈ (emptySources.reconcile (emptyVolume.withTree
          (emptySources.layout.promoteAll (emptyVolume.withTree t)).tree)).value,
        r.locale = Locale.ofText (lit "en_US_POSIX") ∧ r.version = 7 := by
  have hsome : versionedFile.versioned?.any (fun h =>
      h.attributes.get? Header.localeKey = none ∧ h.version = 7) = true := by
    decide +kernel
  obtain ⟨h, hf, hh⟩ := (Option.any_eq_true _ _).1 hsome
  obtain ⟨hn, hversion⟩ := of_decide_eq_true hh
  have hlisted : ∀ (text : Text) (t : FileTree),
      text.AreWords Locale.isSeparator →
      emptySources.layout.StagesMain emptyVolume (Locale.ofText text)
        versionedFile t →
      ((∃ r ∈ (emptySources.reconcile (emptyVolume.withTree
          (emptySources.layout.promoteAll (emptyVolume.withTree t)).tree)).value,
          r.locale = Locale.ofText text ∧ r.version = 7)
        ↔ (Locale.ofText text).variant.lower
          = (Locale.ofText text).variant) := by
    intro text t hwords ht
    rw [← hversion]
    exact (reconcile_promoted_iff emptySources emptyVolume text versionedFile h t
      hwords rfl ht hf hn rfl
      ⟨fun b hb => absurd hb (by simp [emptySources]),
        fun c hc => absurd hc List.not_mem_nil⟩
      (fun e he => absurd he (by simp [emptySources]))).2
  obtain ⟨t, ht⟩ := exists_stagesMain emptySources.layout emptyVolume
    (Locale.ofText (lit "en_US")) versionedFile rfl (by decide +kernel)
    (by decide +kernel)
  obtain ⟨t', ht'⟩ := exists_stagesMain emptySources.layout emptyVolume
    (Locale.ofText (lit "en_US_POSIX")) versionedFile rfl (by decide +kernel)
    (by decide +kernel)
  refine ⟨⟨t, ht, (hlisted _ t (by decide +kernel) ht).2 (by decide +kernel)⟩,
    t', ht', ?_⟩
  rw [hlisted _ t' (by decide +kernel) ht']
  decide +kernel

end Lexicon.Sources
