import Lexicon.Proofs.Bundle.Isolation
import Lexicon.Proofs.Reconciliation.Clearing
import Lexicon.Proofs.Reconciliation.Visibility

/-!
# Dictionaries that a bundle declares itself

A bundle without a declaration declares the keys of its files, and a dictionary
of its own is to be listed: the key is declared, the locale of the key is looked
up under that very key, and the name of the file that is found tells the locale
again, so it belongs where it is filed. What is deleted before the bundle is
looked at tells no version, so the dictionary is not.

Two things can come in between. A locale with a script and no region is not
looked up under its full text (`Sources.reconcile_scriptOnly`), and an entry of
the directory that cannot be asked about ends the search for keys, so the key
has to be reached before one (`Bundle.Reaches`).
-/

namespace Lexicon

/-- **A bundle keeps a plain file under a key** that is spelled as the
lower-case text of its locale, and has to find that out for itself. -/
structure Bundle.Keeps (b : Bundle) (v : Volume) (key : Text) (f : File) :
    Prop where
  /-- The bundle declares no locales. -/
  undeclared : b.declared? = none
  /-- The key consists of words. -/
  words : key.AreWords (· == '_')
  /-- It is spelled as the text of its locale is in lower case. -/
  spelled : (Locale.ofText key).toText.lower = key
  /-- The name of the file is one that a directory can show. -/
  entry : Path.IsEntryName (b.nameOf key)
  /-- The file is there. -/
  shown : (b.nameOf key, f) ∈ v.filesIn b.directory

theorem Bundle.Keeps.key_ne_nil {b : Bundle} {v : Volume} {key : Text}
    {f : File} (h : b.Keeps v key f) : key ≠ [] := by
  rintro rfl
  exact (h.words [] List.mem_cons_self).ne_nil rfl

namespace Volume.Lost

variable {v u : Volume} {gone : File → Prop} {p : Path} {name : Text} {f : File}

/-- **A plain file that is not lost** is listed as before. -/
theorem mem_filesIn (h : v.Lost u gone) (hf : (name, f) ∈ v.filesIn p)
    (hkept : ¬ gone f) : (name, f) ∈ u.filesIn p := by
  obtain ⟨hname, hshown⟩ := mem_filesIn_iff.1 hf
  refine mem_filesIn_iff.2 ⟨?_, ?_⟩
  · by_contra hlost
    exact hkept ((h.of_not_mem_namesIn hname hlost).1 f hshown)
  · exact (h.file?_eq_some_or_gone hshown).resolve_right hkept

end Volume.Lost

namespace Sources

variable {s : Sources} {v : Volume} {b : Bundle} {key : Text} {f : File}
  {h : Header}

/-- **A bundle that keeps a dictionary still does after the clearing.** -/
theorem keeps_clearedTree (hkeeps : b.Keeps v key f)
    (hf : f.versioned? = some h) :
    b.Keeps (v.withTree (s.clearedTree v)) key f where
  undeclared := hkeeps.undeclared
  words := hkeeps.words
  spelled := hkeeps.spelled
  entry := hkeeps.entry
  shown := (lost_clearedTree s v).mem_filesIn hkeeps.shown (by simp [hf])

theorem reaches_clearedTree (h : b.Reaches v key) :
    b.Reaches (v.withTree (s.clearedTree v)) key :=
  fun name hname hbefore =>
    Volume.isKind_eq_ok_of_keepsDirs (keepsDirs_clearedTree s v).2
      (h name ((lost_clearedTree s v).namesIn_subset _ hname) hbefore)

/-- **A dictionary that a bundle keeps is one of its candidates** for the locale
of the key. -/
theorem bundledCandidate?_of_keeps (s : Sources) (hkeeps : b.Keeps v key f)
    (hf : f.versioned? = some h)
    (hn : h.attributes.get? Header.localeKey = none)
    (hregion : (Locale.ofText key).region ≠ []
      ∨ (Locale.ofText key).script = []) :
    s.bundledCandidate? v b key
      = some (s.recordOf f h (WordListId.ofMain (Locale.ofText key))
        (Locale.ofText key) none) := by
  have hshown := (Volume.mem_filesIn_iff.1 hkeeps.shown).2
  have hisFile : v.shows FileTree.isFile (b.directory.child (b.nameOf key))
      = true := by
    rw [Volume.shows_isFile, hshown]
    rfl
  rw [bundledCandidate?_eq, Bundle.find?_nameOf hkeeps.words hkeeps.spelled
    hregion hkeeps.entry hisFile]
  show (v.file? (b.directory.child (b.nameOf key))).bind _ = _
  rw [hshown]
  rw [Option.bind_some, s.filedRecord?_of_unnamed hf hn, Path.name_child,
    Bundle.localeOf_nameOf]
  exact Option.filter_some_pos (decide_eq_true rfl)

/-- **A dictionary that a bundle declares itself is listed**, or a newer one of
its locale is: a plain file of the bundle under a key that is spelled as the
text of its locale, with a readable header that tells a version and no locale.
The locale has a region or no script, and the entries of the directory whose
names come before that of the file can be asked about. -/
theorem reconcile_bundled (s : Sources) (v : Volume) (b : Bundle) (key : Text)
    (f : File) (h : Header) (hr : s.readHeader = FileAddress.header?)
    (hs : s.bundle? = some b) (he : ∀ e, s.enabled? ≠ some (.error e))
    (hkeeps : b.Keeps v key f) (hf : f.versioned? = some h)
    (hn : h.attributes.get? Header.localeKey = none)
    (hregion : (Locale.ofText key).region ≠ []
      ∨ (Locale.ofText key).script = [])
    (hreached : b.Reaches v key) :
    ∃ r ∈ (s.reconcile v).value,
      r.locale = Locale.ofText key ∧ h.version ≤ r.version := by
  have hkeeps' := keeps_clearedTree (s := s) hkeeps hf
  obtain ⟨hname, hshown⟩ := Volume.mem_filesIn_iff.1 hkeeps'.shown
  have hdeclared : key ∈ (b.locales
      (v.withTree (s.clearedTree v))).value.toOption.getD [] := by
    rw [Bundle.getD_locales hkeeps.undeclared, Bundle.mem_keysOf_iff]
    exact ⟨⟨hkeeps.key_ne_nil, hname, by rw [Volume.shows_isFile, hshown]; rfl⟩,
      reaches_clearedTree hreached⟩
  have htold : b.IsTold v := Or.inr ⟨true, Volume.isDir_of_mem_namesIn
    (Volume.mem_filesIn_iff.1 hkeeps.shown).1⟩
  have hmem : s.recordOf f h (WordListId.ofMain (Locale.ofText key))
      (Locale.ofText key) none ∈ s.candidates v := by
    refine List.mem_append_left _ (List.mem_append_right _ ?_)
    rw [bundled_eq_locales, hs, Option.toList_some, List.flatMap_singleton]
    exact List.mem_filterMap.2
      ⟨key, hdeclared, s.bundledCandidate?_of_keeps hkeeps' hf hn hregion⟩
  rw [value_reconcile_of_isTold hr (fun b' hb' => by
    rw [hs] at hb'
    exact Option.some.inj hb' ▸ htold) he]
  exact (Listing.summarizes_ofCandidates _).exists_ge hmem

/-- The storage of the empty sources with a bundle of two dictionaries, one for a
script and a region, the other for the script alone. -/
def scriptVolume : Volume where
  tree := .dir [
    (lit "assets", .dir [(lit "main_zh_hant", .file versionedFile),
      (lit "main_zh_hant_tw", .file versionedFile)]),
    (lit "root", .dir [])]

/-- Its sources. -/
def scriptSources : Sources :=
  emptySources.withBundle (some sampleBundle)

/-- Its files with another dictionary behind them, which nobody may ask
about. -/
def hiddenVolume : Volume where
  tree := .dir [
    (lit "assets", .dir [(lit "main_zh_hant", .file versionedFile),
      (lit "main_zh_hant_tw", .file versionedFile),
      (lit "main_zu", .file versionedFile)]),
    (lit "root", .dir [])]
  denied := { inspect := fun p => p = sampleBundle.directory.child (lit "main_zu") }

/-- The bundle comes to the dictionary for the script and the region before it
comes to the one that nobody may ask about. -/
theorem reaches_hiddenVolume :
    sampleBundle.Reaches hiddenVolume (lit "zh_hant_tw") := by
  have hnames : hiddenVolume.namesIn sampleBundle.directory
      = [lit "main_zh_hant", lit "main_zh_hant_tw", lit "main_zu"] := by
    decide +kernel
  intro name hname hbefore
  rw [hnames] at hname
  obtain rfl | rfl | rfl : name = lit "main_zh_hant"
      ∨ name = lit "main_zh_hant_tw" ∨ name = lit "main_zu" := by
    simpa using hname
  · exact ⟨true, by decide +kernel⟩
  · exact ⟨true, by decide +kernel⟩
  · exact absurd hbefore (by decide +kernel)

/-- The dictionary for the script and the region is listed. -/
theorem reconcile_bundled_sample :
    sampleBundle.Keeps hiddenVolume (lit "zh_hant_tw") versionedFile
      ∧ hiddenVolume.isFile (sampleBundle.directory.child (lit "main_zu"))
        = .error .denied
      ∧ ∃ r ∈ (scriptSources.reconcile hiddenVolume).value,
        r.locale = Locale.ofText (lit "zh_hant_tw") ∧ 7 ≤ r.version := by
  have hsome : versionedFile.versioned?.any (fun h =>
      h.attributes.get? Header.localeKey = none ∧ h.version = 7) = true := by
    decide +kernel
  obtain ⟨h, hf, hh⟩ := (Option.any_eq_true _ _).1 hsome
  obtain ⟨hn, hversion⟩ := of_decide_eq_true hh
  have hkeeps : sampleBundle.Keeps hiddenVolume (lit "zh_hant_tw")
      versionedFile :=
    ⟨rfl, by decide +kernel, by decide +kernel, by decide +kernel,
      by decide +kernel⟩
  refine ⟨hkeeps, by decide +kernel, ?_⟩
  rw [← hversion]
  exact reconcile_bundled scriptSources hiddenVolume sampleBundle _ _ h rfl rfl
    (fun e he => absurd he (by simp [scriptSources, withBundle, emptySources]))
    hkeeps hf hn (Or.inl (by decide +kernel)) reaches_hiddenVolume

/-- **A locale with a script and no region is not listed**, although the bundle
keeps its dictionary and tells a version and no locale in it: it is looked up
under its language alone. -/
theorem reconcile_scriptOnly :
    scriptVolume.denied = {}
      ∧ sampleBundle.Keeps scriptVolume (lit "zh_hant") versionedFile
      ∧ versionedFile.versioned?.any (fun h =>
        h.attributes.get? Header.localeKey = none ∧ h.version = 7) = true
      ∧ ¬ ∃ r ∈ (scriptSources.reconcile scriptVolume).value,
        r.locale = Locale.ofText (lit "zh_hant") ∧ 7 ≤ r.version :=
  ⟨rfl, ⟨rfl, by decide +kernel, by decide +kernel, by decide +kernel,
    by decide +kernel⟩, by decide +kernel, by decide +kernel⟩

end Sources

end Lexicon
