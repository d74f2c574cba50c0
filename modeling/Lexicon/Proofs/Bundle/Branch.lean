import Lexicon.Proofs.Bundle.Agreement

/-!
# The locale of what a bundle finds

A bundle makes a name of a locale and looks for it; whoever is given the file
reads the locale off that name again. The full name of a locale without a
variant reads as the locale, and the name of its language as the language alone
(`Locale.languageOnly`). So a dictionary that is found is for the locale or for
a less specific one, and never for another branch (`Bundle.find?_branch`).
-/

namespace Lexicon

namespace Locale

variable {l : Locale} {s : Text}

/-- A locale without script, region and variant. -/
def languageOnly (l : Locale) : Locale :=
  ⟨l.language, [], [], []⟩

@[simp] theorem languageOnly_eq_iff :
    l.languageOnly = l ↔ l.script = [] ∧ l.region = [] ∧ l.variant = [] := by
  obtain ⟨language, script, region, variant⟩ := l
  simp [languageOnly, eq_comm]

/-- **A language is less specific than its locales**, except for the one that
says nothing more. -/
theorem languageOnly_eq_or_isLessSpecificThan (l : Locale) :
    l.languageOnly = l ∨ l.languageOnly.isLessSpecificThan l = true := by
  by_cases h : l.languageOnly = l
  · exact Or.inl h
  · refine Or.inr ?_
    unfold isLessSpecificThan
    rw [bne_iff_ne.2 h]
    simp [languageOnly, agrees]

/-- **The language of a locale that was read from words** reads as that language
alone. -/
theorem ofText_language_ofText (h : s.AreWords isSeparator) :
    ofText (ofText s).language = (ofText s).languageOnly := by
  obtain ⟨hl, hs⟩ := isLegible_ofText h
  have hlegible : (ofText s).languageOnly.IsLegible :=
    ⟨hl.language, Or.inl rfl, Or.inl rfl, Or.inl rfl⟩
  have hsettled : (ofText s).languageOnly.settled = (ofText s).languageOnly :=
    congrArg languageOnly hs
  have htext : (ofText s).languageOnly.toText = (ofText s).language := by
    rw [toText_eq_join (ofText s).languageOnly hl.language.ne_nil]
    exact Text.join_singleton _ _
  rw [← htext, hlegible.ofText_toText, hsettled]

theorem slash_not_mem_of_areWords (h : s.AreWords isSeparator) :
    Path.slash ∉ s := by
  intro hslash
  obtain hsep | ⟨part, hpart, hmem⟩ := Text.exists_mem_split isSeparator hslash
  · exact absurd hsep (by decide)
  · exact absurd ((h part hpart).alphanumeric _ hmem) (by decide)

end Locale

namespace Bundle

variable {b : Bundle} {v : Volume} {key s : Text} {p : Path}

theorem appendText_nameOf (h : Path.slash ∉ b.nameOf key) :
    b.directory.appendText (b.nameOf key) = b.directory.child (b.nameOf key) := by
  rw [Path.appendText_of_slash_not_mem _ h, if_neg]
  simp [nameOf, mainMark, Path.dot]

theorem name_of_file? (h : Path.slash ∉ b.nameOf key)
    (hfile : b.file? v (b.nameOf key) = .ok (some p)) : p.name = b.nameOf key := by
  rw [(file?_eq_some_iff.1 hfile).1, appendText_nameOf h, Path.name_child]

/-- A file is found under a name of the bundle exactly if a plain file is shown
there, unless that cannot be told. -/
theorem shows_eq_isSome_of_file? {found? : Option Path}
    (h : Path.slash ∉ b.nameOf key)
    (hfile : b.file? v (b.nameOf key) = .ok found?) :
    v.shows FileTree.isFile (b.directory.child (b.nameOf key)) = found?.isSome := by
  unfold file? at hfile
  rw [appendText_nameOf h] at hfile
  obtain ⟨answer, hanswer, rfl⟩ := map_eq_ok.1 hfile
  cases answer with
  | true => exact Volume.isKind_eq_ok_true_iff.1 hanswer
  | false => exact Volume.shows_eq_false (by rw [← Volume.isFile, hanswer]; simp)

/-- **The full name of a locale without a variant** tells the locale. -/
theorem localeOf_fullName (hwords : s.AreWords Locale.isSeparator)
    (hvariant : (Locale.ofText s).variant = []) :
    b.localeOf (b.fullName (Locale.ofText s)) = Locale.ofText s := by
  rw [fullName, ← nameOf, localeOf_nameOf, Locale.ofText_lower_toText_ofText hwords,
    hvariant]
  exact congrArg (fun variant => { Locale.ofText s with variant }) hvariant.symm

/-- **A bundle never finds the dictionary of another branch.** What it finds for
a locale without a variant is named for that locale or for a less specific one;
and for the locale itself exactly if that has a region and a plain file is shown
under its full name, or if it is a language alone. -/
theorem find?_branch (b : Bundle) (v : Volume) (s : Text) (p : Path)
    (hending : Path.slash ∉ b.ending) (hwords : s.AreWords Locale.isSeparator)
    (hvariant : (Locale.ofText s).variant = [])
    (hfind : b.find? v (Locale.ofText s) = .ok (some p)) :
    (b.localeOf p.name = Locale.ofText s
        ∨ (b.localeOf p.name).isLessSpecificThan (Locale.ofText s) = true)
      ∧ (b.localeOf p.name = Locale.ofText s
        ↔ ((Locale.ofText s).region ≠ []
            ∧ v.shows FileTree.isFile (b.directory.child
              (b.nameOf (Locale.ofText s).toText.lower)) = true)
          ∨ ((Locale.ofText s).region = [] ∧ (Locale.ofText s).script = [])) := by
  obtain ⟨hfull, hlanguage⟩ :=
    slash_not_mem_names hending (Locale.slash_not_mem_of_areWords hwords)
  obtain ⟨hregion, hfile⟩ | ⟨hnone, hfile⟩ := find?_eq_some hfind
  · -- the full name was found, and it tells the locale
    have hlocale : b.localeOf p.name = Locale.ofText s := by
      rw [name_of_file? hfull hfile]
      exact localeOf_fullName hwords hvariant
    exact ⟨Or.inl hlocale, iff_of_true hlocale
      (Or.inl ⟨hregion, shows_eq_isSome_of_file? hfull hfile⟩)⟩
  · -- the language was found, since there was no region or no such file
    have hlocale : b.localeOf p.name = (Locale.ofText s).languageOnly := by
      rw [name_of_file? hlanguage hfile]
      exact (b.localeOf_nameOf _).trans (Locale.ofText_language_ofText hwords)
    rw [hlocale]
    refine ⟨Locale.languageOnly_eq_or_isLessSpecificThan _, ?_⟩
    rw [Locale.languageOnly_eq_iff]
    constructor
    · rintro ⟨hscript, hregion, -⟩
      exact Or.inr ⟨hregion, hscript⟩
    · rintro (⟨hregion, hshows⟩ | ⟨hregion, hscript⟩)
      · have hno := shows_eq_isSome_of_file? hfull (hnone hregion)
        exact absurd (hshows.symm.trans hno) (by simp)
      · exact ⟨hscript, hregion, hvariant⟩

/-- A bundle whose names close with a tag. -/
def taggedBundle : Bundle where
  directory := ⟨.relative, [lit "assets"]⟩
  ending := lit "_v2"

/-- The volume with its directory: a dictionary for a script and a region, and
one for their language. -/
def taggedVolume : Volume where
  tree := .dir [(lit "assets", .dir [(lit "main_zh_hant_tw_v2", .file ⟨.bytes [], 0⟩),
    (lit "main_zh_v2", .file ⟨.bytes [], 0⟩)])]

/-- In the sample a locale has a dictionary of its own, and another one is served
by that of the language. -/
theorem find?_branch_sample :
    taggedBundle.find? taggedVolume (Locale.ofText (lit "zh-Hant-TW"))
        = .ok (some ⟨.relative, [lit "assets", lit "main_zh_hant_tw_v2"]⟩)
      ∧ taggedBundle.localeOf (lit "main_zh_hant_tw_v2")
        = Locale.ofText (lit "zh-Hant-TW")
      ∧ taggedBundle.find? taggedVolume (Locale.ofText (lit "zh_HK"))
        = .ok (some ⟨.relative, [lit "assets", lit "main_zh_v2"]⟩)
      ∧ taggedBundle.localeOf (lit "main_zh_v2") ≠ Locale.ofText (lit "zh_HK")
      ∧ (taggedBundle.localeOf (lit "main_zh_v2")).isLessSpecificThan
        (Locale.ofText (lit "zh_HK")) = true := by
  have hown : taggedBundle.find? taggedVolume (Locale.ofText (lit "zh-Hant-TW"))
      = .ok (some ⟨.relative, [lit "assets", lit "main_zh_hant_tw_v2"]⟩) := by
    decide +kernel
  have hshared : taggedBundle.find? taggedVolume (Locale.ofText (lit "zh_HK"))
      = .ok (some ⟨.relative, [lit "assets", lit "main_zh_v2"]⟩) := by
    decide +kernel
  have h := find?_branch taggedBundle taggedVolume _ _ (by decide)
    (by decide +kernel) (by decide +kernel) hown
  have h' := find?_branch taggedBundle taggedVolume _ _ (by decide)
    (by decide +kernel) (by decide +kernel) hshared
  have hne : taggedBundle.localeOf (lit "main_zh_v2")
      ≠ Locale.ofText (lit "zh_HK") :=
    mt h'.2.1 (by decide +kernel)
  exact ⟨hown, h.2.2 (Or.inl (by decide +kernel)), hshared, hne,
    h'.1.resolve_left hne⟩

end Bundle

end Lexicon
